import Ecosystem.Teams.Admission

/-!
# The operations of the team coordinator

A public operation of `TeamCoordinator` reads the clock, checks its arguments and runs one
transaction.  `complete_effect` runs two, with nothing between them to keep other workers
out: the second is `settleEffect`.
-/

namespace Ecosystem.Teams

open Ecosystem.Lib

/-! ## Updates of a row -/

namespace TaskRow

def lease (row : TaskRow) (workerDigest leaseHash : String) (expiresUs : ℤ) :
    TaskRow :=
  { row with
    status := .leased
    attempt := row.attempt + 1
    workerDigest := some workerDigest
    leaseHash := some leaseHash
    leaseExpiresUs := some expiresUs
    reservedTokens := row.document.budget.maxTokens
    reservedCost := row.document.budget.maxCostMicrousd }

def start (row : TaskRow) : TaskRow := { row with status := .started }

def chargeReserved (row : TaskRow) (status : TaskStatus) : TaskRow :=
  { row with
    status := status
    chargedTokens := row.reservedTokens
    chargedCost := row.reservedCost
    reservedTokens := 0
    reservedCost := 0 }

/-- A lease that never crossed the effect boundary is safe to reissue. -/
def release (row : TaskRow) : TaskRow :=
  { row with
    status := .pending
    workerDigest := none
    leaseHash := none
    leaseExpiresUs := none
    reservedTokens := 0
    reservedCost := 0 }

def complete (row : TaskRow) (result : TaskEffectResult) : TaskRow :=
  { row with
    status := result.status
    outcomeDigest := some result.outcomeDigest
    chargedTokens := result.usedTokens
    chargedCost := result.usedCostMicrousd
    reservedTokens := 0
    reservedCost := 0 }

def cancel (row : TaskRow) : TaskRow :=
  { row with
    status := .cancelled
    reservedTokens := 0
    reservedCost := 0
    cancellationRequested := true }

def leaseOver (row : TaskRow) (us : ℤ) : Bool :=
  row.leaseExpiresUs.any (· ≤ us)

/-- The two updates of `_expire_locked`. -/
def expire (row : TaskRow) (us : ℤ) : TaskRow :=
  if row.status = .started ∧ row.leaseOver us then row.chargeReserved .ambiguous
  else if row.status = .leased ∧ row.leaseOver us then row.release
  else row

/-- The two updates of `cancel_run`. -/
def requestCancel (row : TaskRow) : TaskRow :=
  if row.status = .pending ∨ row.status = .leased then row.cancel
  else if row.status = .started then { row with cancellationRequested := true }
  else row

end TaskRow

def TeamTables.updateRun (t : TeamTables) (runId : String) (f : TaskRow → TaskRow) :
    TeamTables :=
  { t with tasks := t.tasks.update fun k row => if k.1 = runId then f row else row }

def TeamTables.updateTask (t : TeamTables) (k : String × String)
    (f : TaskRow → TaskRow) : TeamTables :=
  { t with tasks := t.tasks.modify k f }

/-! ## Reading the tables -/

/-- `_context_locked`. -/
def context (t : TeamTables) (runId : String) :
    Except TeamError (RunRow × AgentTeamManifest) :=
  match t.runs.get? runId with
  | none => raised "ECO_TEAM_RUN_UNKNOWN"
  | some run =>
    match t.manifests.get? run.manifestId with
    | none => raised "ECO_TEAM_RUN_UNKNOWN"
    | some manifest => .ok (run, manifest.document)

/-- `_usage_locked`, one column at a time. -/
def usage (t : TeamTables) (runId : String) (w : TaskRow → ℕ) : ℕ :=
  t.tasks.sumBy fun k row => if k.1 = runId then w row else 0

def TaskRow.tokens (row : TaskRow) : ℕ := row.reservedTokens + row.chargedTokens

def TaskRow.cost (row : TaskRow) : ℕ := row.reservedCost + row.chargedCost

def handoffBetween (t : TeamTables) (runId fromTaskId toTaskId : String) :
    Option HandoffRow :=
  ((t.handoffs.select fun k row => k.1 = runId && row.fromTaskId = fromTaskId &&
    row.toTaskId = toTaskId).head?).map Prod.snd

/-- `_dependencies_ready_locked`. -/
def dependenciesReady (t : TeamTables) (task : TeamTask) : Bool :=
  task.dependencies.all fun dependency =>
    (t.tasks.get? (task.runId, dependency)).any (·.status = .succeeded) &&
      (handoffBetween t task.runId dependency task.id).any
        (·.artifactDigest = task.input.digest)

/-- `_expire_locked`. -/
def expireRows (t : TeamTables) (runId : String) (us : ℤ) : TeamTables :=
  t.updateRun runId (·.expire us)

section Operations

variable {W E : Type} (prim : Primitives W E)

/-! ## Claims -/

/-- The checks of `_assert_claim_locked`. -/
def assertClaim (t : TeamTables) (claim : LeaseClaim) (allowStarted : Bool) :
    Except TeamError TaskRow :=
  match t.tasks.get? (claim.runId, claim.taskId) with
  | none => raised "ECO_TEAM_CLAIM_INVALID"
  | some row =>
    if row.digest ≠ claim.taskDigest ∨
        row.workerDigest ≠ some claim.workerDigest ∨
        row.leaseHash ≠ some (prim.claimHash claim.leaseToken) ∨
        row.leaseExpiresUs ≠ some (prim.epoch claim.leaseExpiresAt) ∨
        row.attempt ≠ claim.attempt ∨
        ¬ (row.status = .leased ∨ (allowStarted ∧ row.status = .started)) then
      raised "ECO_TEAM_CLAIM_INVALID"
    else .ok row

def claimDigest (claim : LeaseClaim) : String :=
  prim.claimDigest claim (prim.claimHash claim.leaseToken)
    (prim.timeText claim.leaseExpiresAt)

/-! ## `create_run` -/

/-- `INSERT OR IGNORE INTO manifests`. -/
def insertOrIgnore (manifests : Table String ManifestRow)
    (manifest : AgentTeamManifest) : Table String ManifestRow :=
  if manifests.entries.any fun e => e.2.digest = manifest.recordDigest then
    manifests
  else
    (manifests.insert? manifest.id
      ⟨manifest.projectId, manifest.authority.teamId, manifest.recordDigest,
        manifest⟩).getD manifests

def insertManifest (t : TeamTables) (manifest : AgentTeamManifest) :
    Except TeamError TeamTables :=
  let manifests := insertOrIgnore t.manifests manifest
  if (manifests.get? manifest.id).map (·.digest) ≠ some manifest.recordDigest then
    raised "ECO_TEAM_MANIFEST_CONFLICT"
  else .ok { t with manifests := manifests }

def freshRow (task : TeamTask) : TaskRow :=
  { digest := task.recordDigest, document := task, status := .pending }

/-- `INSERT INTO tasks`, refused for a known key or digest. -/
def insertTask (runId : String) (t : TeamTables) (task : TeamTask) :
    Except TeamError TeamTables :=
  if t.tasks.entries.any fun e => e.2.digest = task.recordDigest then
    raised "ECO_TEAM_RUN_CONFLICT"
  else
    match t.tasks.insert? (runId, task.id) (freshRow task) with
    | none => raised "ECO_TEAM_RUN_CONFLICT"
    | some tasks => .ok { t with tasks := tasks }

def newRun (manifest : AgentTeamManifest) : RunRow where
  manifestId := manifest.id
  teamId := manifest.authority.teamId
  projectId := manifest.projectId
  status := .active
  maxTokens := manifest.maxTotalTokens
  maxCost := manifest.maxCostMicrousd

def createBody (manifest : AgentTeamManifest) (runId : String)
    (tasks : List TeamTask) (t : TeamTables) :
    Except TeamError (String × Option TeamTables) :=
  match insertManifest t manifest with
  | .error err => .error err
  | .ok t =>
    match t.runs.insert? runId (newRun manifest) with
    | none => raised "ECO_TEAM_RUN_CONFLICT"
    | some runs =>
      match (tasks.insertionSort fun a b => a.id ≤ b.id).foldlM
          (insertTask runId) { t with runs := runs } with
      | .error err => .error err
      | .ok t =>
        .ok (prim.runDigest manifest.recordDigest runId
          ((tasks.map (·.recordDigest)).insertionSort (· ≤ ·)), some t)

def createRun (gates : Gates W E) (ses : Session) (db : TeamDb)
    (manifest : TeamRecord) (runId : String) (tasks : List TeamRecord)
    (now clock : ℤ) : Outcome String :=
  timed ses db now clock fun ses observed =>
    match admitManifest prim gates manifest runId tasks.length observed with
    | .error err => ⟨.error err, ses, db⟩
    | .ok manifest =>
      match admitTasks prim manifest runId observed tasks with
      | .error err => ⟨.error err, ses, db⟩
      | .ok tasks => transaction prim ses db (createBody prim manifest runId tasks)

/-! ## `claim_task` and `claim_next` -/

def claimBody (gates : Gates W E) (runId taskId : String) (worker : W)
    (observed leaseSeconds : ℤ) (token : String) (t : TeamTables) :
    Except TeamError (LeaseClaim × Option TeamTables) :=
  match context t runId with
  | .error err => .error err
  | .ok (run, manifest) =>
    let t := expireRows t runId (prim.epoch observed)
    if run.status ≠ .active ∨ run.cancellationRequested then
      raised "ECO_TEAM_RUN_NOT_ACTIVE"
    else
      match t.tasks.get? (runId, taskId) with
      | none => raised "ECO_TEAM_TASK_UNKNOWN"
      | some row =>
        let task := row.document
        if row.status ≠ .pending then raised "ECO_TEAM_TASK_NOT_CLAIMABLE"
        else if observed ≥ task.notAfter.instant then
          raised "ECO_TEAM_TASK_EXPIRED"
        else if !dependenciesReady t task then
          raised "ECO_TEAM_DEPENDENCIES_INCOMPLETE"
        else
          match gates.claimCurrent manifest task worker observed with
          | .error err => .error err
          | .ok _ =>
            if usage t runId TaskRow.tokens + task.budget.maxTokens >
                  run.maxTokens ∨
                usage t runId TaskRow.cost + task.budget.maxCostMicrousd >
                  run.maxCost then
              raised "ECO_TEAM_AGGREGATE_BUDGET_EXCEEDED"
            else
              let claim : LeaseClaim :=
                { runId := runId
                  taskId := taskId
                  taskDigest := task.recordDigest
                  workerDigest := prim.bindingDigest worker
                  leaseToken := token
                  leaseExpiresAt := min (min
                    (observed + leaseSeconds * 1000000)
                    task.notAfter.instant) manifest.deadline.instant
                  attempt := row.attempt + 1 }
              .ok (claim, some (t.updateTask (runId, taskId)
                (·.lease claim.workerDigest (prim.claimHash token)
                  (prim.epoch claim.leaseExpiresAt))))

/-- `claim_task`; `token` is what `secrets` draws. -/
def claimTask (gates : Gates W E) (ses : Session) (db : TeamDb)
    (runId taskId : String) (worker : W) (now clock leaseSeconds : ℤ)
    (token : String) : Outcome LeaseClaim :=
  timed ses db now clock fun ses observed =>
    if ¬ (1 ≤ leaseSeconds ∧ leaseSeconds ≤ 3600) then
      ⟨raised "ECO_TEAM_LEASE_INVALID", ses, db⟩
    else
      transaction prim ses db
        (claimBody prim gates runId taskId worker observed leaseSeconds token)

/-- The errors of one task that let `claim_next` try the next one. -/
def TeamError.skips : TeamError → Bool
  | .runtime code => code ∈ ["ECO_TEAM_WORKER_UNBOUND",
      "ECO_TEAM_DEPENDENCIES_INCOMPLETE", "ECO_TEAM_TASK_NOT_CLAIMABLE"]
  | _ => false

/-- The loop of `claim_next`; `clock` answers the reading of each try. -/
def claimFirst (gates : Gates W E) (ses : Session) (db : TeamDb) (runId : String)
    (worker : W) (now : ℤ) (clock : ℕ → ℤ) (leaseSeconds : ℤ) (token : String)
    (last : TeamError) : List String → Outcome LeaseClaim
  | [] => ⟨.error last, ses, db⟩
  | taskId :: rest =>
    let out := claimTask prim gates ses db runId taskId worker now (clock 0)
      leaseSeconds token
    match out.answer with
    | .ok _ => out
    | .error err =>
      if err.skips then
        claimFirst gates out.session out.db runId worker now
          (fun n => clock (n + 1)) leaseSeconds token err rest
      else out

def claimNext (gates : Gates W E) (ses : Session) (db : TeamDb) (runId : String)
    (worker : W) (now : ℤ) (clock : ℕ → ℤ) (leaseSeconds : ℤ) (token : String) :
    Outcome LeaseClaim :=
  match verifyState prim ses db with
  | .error err => ⟨.error err, ses, db⟩
  | .ok () =>
    claimFirst prim gates ses db runId worker now clock leaseSeconds token
      (.runtime "ECO_TEAM_NO_CLAIMABLE_TASK")
      (((db.tables.tasks.select fun k row =>
        k.1 = runId && row.status = .pending).map (·.1.2)).insertionSort (· ≤ ·))

/-! ## Routes -/

/-- The comparisons of `_validate_route_locked`. -/
def routeBound (ses : Session) (task : TeamTask) (binding : Binding)
    (ev : RouteEvidence) (selected : SelectedRoute) (now : ℤ) : Bool :=
  binding = ⟨"ModelRouteDecision", ev.decisionId, ev.decisionDigest⟩ &&
    ev.allowed &&
    ev.decisionDigest ∈ ses.trustedRouteDecisionDigests &&
    ev.requestDigest = ev.requestRecordDigest &&
    ev.policyDigest = ev.requestPolicyDigest &&
    ev.policyDigest ∈ ses.trustedRoutePolicyDigests &&
    ev.priceCatalogDigest ∈ ses.trustedPriceCatalogDigests &&
    now < ev.validUntil && now < ev.deadlineAt.instant &&
    ev.deadlineAt.text = task.notAfter.text &&
    some ev.actionClass = (actionProfile task.action).map Prod.fst &&
    ev.dataClass = task.dataClass &&
    task.zone ∈ ev.allowedZones &&
    ev.maximumCostMicrousd = task.budget.maxCostMicrousd &&
    selected.reservedCostMicrousd ≤ ev.maximumCostMicrousd &&
    selected.deploymentId = task.resource.id &&
    selected.deploymentIdentityDigest = task.resource.digest &&
    ev.subjectRunId = task.runId &&
    ev.subjectDeploymentId = selected.deploymentId &&
    ev.subjectDeploymentIdentityDigest = selected.deploymentIdentityDigest &&
    ev.subjectDataClass = task.dataClass &&
    ev.subjectArtifactDigest = task.input.digest &&
    ev.subjectMaxOutputTokens ≤ ev.outputTokenCeiling

/-- `_validate_route_locked`. -/
def validateRoute (ses : Session) (t : TeamTables) (task : TeamTask)
    (evidence : E) (now : ℤ) : Except TeamError (Option RouteEvidence) :=
  match task.routeDecision with
  | none =>
    if task.action = "model.invoke" then raised "ECO_TEAM_ROUTE_REQUIRED"
    else .ok none
  | some binding =>
    if task.action ≠ "model.invoke" then raised "ECO_TEAM_ROUTE_INVALID"
    else
      match prim.routeEvidence evidence with
      | none => raised "ECO_TEAM_ROUTE_INVALID"
      | some ev =>
        match ev.selected with
        | none => raised "ECO_TEAM_ROUTE_BINDING_MISMATCH"
        | some selected =>
          if !routeBound ses task binding ev selected now then
            raised "ECO_TEAM_ROUTE_BINDING_MISMATCH"
          else if ev.routeAttempt = 2 ∧
              (t.consumedRoutes.get? ev.fallbackFromDigest).isNone then
            raised "ECO_TEAM_FALLBACK_PREDECESSOR_MISSING"
          else .ok (some ev)

/-! ## `authorize_effect` and `start_effect` -/

def authorizeBody (gates : Gates W E) (ses : Session) (claim : LeaseClaim)
    (worker : W) (evidence : E) (observed : ℤ) (t : TeamTables) :
    Except TeamError (ExecutionAuthorization E × Option TeamTables) :=
  match assertClaim prim t claim false with
  | .error err => .error err
  | .ok row =>
    match context t claim.runId with
    | .error err => .error err
    | .ok (_, manifest) =>
      match validateRoute prim ses t row.document evidence observed with
      | .error err => .error err
      | .ok _ =>
        match gates.claimCurrent manifest row.document worker observed with
        | .error err => .error err
        | .ok _ =>
          match gates.authorize manifest row.document worker evidence
              observed with
          | .error err => .error err
          | .ok authorization =>
            if authorization.effect ≠ "allow" ∨
                authorization.taskDigest ≠ claim.taskDigest then
              raised "ECO_TEAM_EXECUTION_AUTHORITY_INVALID"
            else
              .ok (
                { runId := claim.runId
                  taskId := claim.taskId
                  taskDigest := claim.taskDigest
                  claimDigest := claimDigest prim claim
                  authorization := authorization
                  evidence := evidence
                  expiresAt := claim.leaseExpiresAt
                  sealId := ses.sealId }, some t)

def authorizeEffect (gates : Gates W E) (ses : Session) (db : TeamDb)
    (claim : LeaseClaim) (worker : W) (evidence : E) (now clock : ℤ) :
    Outcome (ExecutionAuthorization E) :=
  timed ses db now clock fun ses observed =>
    if prim.bindingDigest worker ≠ claim.workerDigest ∨
        observed ≥ claim.leaseExpiresAt then
      ⟨raised "ECO_TEAM_CLAIM_INVALID", ses, db⟩
    else
      transaction prim ses db
        (authorizeBody prim gates ses claim worker evidence observed)

/-- `INSERT INTO consumed_routes`, refused for a known route or task. -/
def consumeRoute (t : TeamTables) (task : TeamTask) (us : ℤ) :
    Except TeamError TeamTables :=
  match task.routeDecision with
  | none => .ok t
  | some route =>
    if t.consumedRoutes.entries.any fun e => e.2.taskDigest = task.recordDigest then
      raised "ECO_TEAM_ROUTE_ALREADY_CONSUMED"
    else
      match t.consumedRoutes.insert? route.digest ⟨task.recordDigest, us⟩ with
      | none => raised "ECO_TEAM_ROUTE_ALREADY_CONSUMED"
      | some routes => .ok { t with consumedRoutes := routes }

def startBody (gates : Gates W E) (ses : Session) (claim : LeaseClaim)
    (authorization : ExecutionAuthorization E) (worker : W) (observed : ℤ)
    (t : TeamTables) : Except TeamError (Unit × Option TeamTables) :=
  match assertClaim prim t claim false with
  | .error err => .error err
  | .ok row =>
    match context t claim.runId with
    | .error err => .error err
    | .ok (run, manifest) =>
      if run.cancellationRequested ∨ row.cancellationRequested then
        raised "ECO_TEAM_CANCELLED"
      else
        match gates.claimCurrent manifest row.document worker observed with
        | .error err => .error err
        | .ok _ =>
          match gates.assertCurrent manifest row.document worker
              authorization.evidence authorization.authorization
              observed with
          | .error err => .error err
          | .ok () =>
            match validateRoute prim ses t row.document
                authorization.evidence observed with
            | .error err => .error err
            | .ok _ =>
              match consumeRoute t row.document (prim.epoch observed) with
              | .error err => .error err
              | .ok t =>
                .ok ((), some
                  (t.updateTask (claim.runId, claim.taskId)
                    TaskRow.start))

def startEffect (gates : Gates W E) (ses : Session) (db : TeamDb)
    (claim : LeaseClaim) (authorization : ExecutionAuthorization E) (worker : W)
    (now clock : ℤ) : Outcome Unit :=
  timed ses db now clock fun ses observed =>
    if authorization.sealId ≠ ses.sealId ∨ authorization.runId ≠ claim.runId ∨
        authorization.taskId ≠ claim.taskId ∨
        authorization.taskDigest ≠ claim.taskDigest ∨
        authorization.claimDigest ≠ claimDigest prim claim ∨
        authorization.expiresAt ≠ claim.leaseExpiresAt ∨
        prim.bindingDigest worker ≠ claim.workerDigest ∨
        observed ≥ claim.leaseExpiresAt then
      ⟨raised "ECO_TEAM_EXECUTION_AUTHORITY_INVALID", ses, db⟩
    else
      transaction prim ses db
        (startBody prim gates ses claim authorization worker observed)

/-! ## Settlement -/

/-- `expire_leases`. -/
def expireBody (runId : String) (observed : ℤ) (t : TeamTables) :
    Except TeamError (ℕ × Option TeamTables) :=
  match context t runId with
  | .error err => .error err
  | .ok _ =>
    let us := prim.epoch observed
    .ok ((t.tasks.select fun k row => k.1 = runId && row.status = .started &&
      row.leaseOver us).length, some (expireRows t runId us))

def expireLeases (ses : Session) (db : TeamDb) (runId : String) (now clock : ℤ) :
    Outcome ℕ :=
  timed ses db now clock fun ses observed =>
    transaction prim ses db (expireBody prim runId observed)

/-- The row is read back after a settlement. -/
def taskState (ses : Session) (db : TeamDb) (runId taskId : String) :
    Except TeamError TaskRow :=
  match verifyState prim ses db with
  | .error err => .error err
  | .ok () =>
    match db.tables.tasks.get? (runId, taskId) with
    | none => raised "ECO_TEAM_TASK_UNKNOWN"
    | some row => .ok row

def withTaskState (claim : LeaseClaim) (out : Outcome Unit) : Outcome TaskRow :=
  match out.answer with
  | .error err => ⟨.error err, out.session, out.db⟩
  | .ok () =>
    ⟨taskState prim out.session out.db claim.runId claim.taskId, out.session, out.db⟩

def settleBody (claim : LeaseClaim) (result : TaskEffectResult) (t : TeamTables) :
    Except TeamError (Unit × Option TeamTables) :=
  match t.tasks.get? (claim.runId, claim.taskId) with
  | none => raised "ECO_TEAM_CLAIM_INVALID"
  | some row =>
    if row.digest ≠ claim.taskDigest then raised "ECO_TEAM_CLAIM_INVALID"
    else if row.status = .succeeded ∨ row.status = .failed then
      if row.status = result.status ∧
          row.outcomeDigest = some result.outcomeDigest ∧
          row.chargedTokens = result.usedTokens ∧
          row.chargedCost = result.usedCostMicrousd then
        .ok ((), none)
      else raised "ECO_TEAM_TERMINAL_CONFLICT"
    else
      match assertClaim prim t claim true with
      | .error err => .error err
      | .ok row =>
        if row.status ≠ .started then raised "ECO_TEAM_EFFECT_NOT_STARTED"
        else if result.usedTokens > row.reservedTokens ∨
            result.usedCostMicrousd > row.reservedCost then
          raised "ECO_TEAM_TASK_BUDGET_EXCEEDED"
        else
          .ok ((), some (t.updateTask (claim.runId, claim.taskId)
            (·.complete result)))

/-- The second transaction of `complete_effect`, and the read behind it. -/
def settleEffect (ses : Session) (db : TeamDb) (claim : LeaseClaim)
    (result : TaskEffectResult) : Outcome TaskRow :=
  withTaskState prim claim (transaction prim ses db (settleBody prim claim result))

/-- `complete_effect`; the clock is read a second time when the lease is over. -/
def completeEffect (ses : Session) (db : TeamDb) (claim : LeaseClaim)
    (result : TaskEffectResult) (now clock clock' : ℤ) : Outcome TaskRow :=
  timed ses db now clock fun ses observed =>
    if observed ≥ claim.leaseExpiresAt then
      let out := expireLeases prim ses db claim.runId observed clock'
      match out.answer with
      | .error err => ⟨.error err, out.session, out.db⟩
      | .ok _ => settleEffect prim out.session out.db claim result
    else settleEffect prim ses db claim result

/-- The transactions that end a started task and charge what it reserved. -/
def chargeBody (claim : LeaseClaim) (refused : TaskRow → Option String)
    (status : TaskStatus) (t : TeamTables) :
    Except TeamError (Unit × Option TeamTables) :=
  match assertClaim prim t claim true with
  | .error err => .error err
  | .ok row =>
    match refused row with
    | some code => raised code
    | none =>
      .ok ((), some (t.updateTask (claim.runId, claim.taskId)
        (·.chargeReserved status)))

def notStarted (row : TaskRow) : Option String :=
  if row.status ≠ .started then some "ECO_TEAM_EFFECT_NOT_STARTED" else none

def notCancelling (row : TaskRow) : Option String :=
  if row.status ≠ .started ∨ !row.cancellationRequested then
    some "ECO_TEAM_CANCELLATION_NOT_PENDING"
  else none

def markAmbiguous (ses : Session) (db : TeamDb) (claim : LeaseClaim)
    (now clock : ℤ) : Outcome TaskRow :=
  timed ses db now clock fun ses _ =>
    withTaskState prim claim
      (transaction prim ses db (chargeBody prim claim notStarted .ambiguous))

def acknowledgeCancellation (ses : Session) (db : TeamDb) (claim : LeaseClaim)
    (now clock : ℤ) : Outcome Unit :=
  timed ses db now clock fun ses _ =>
    transaction prim ses db (chargeBody prim claim notCancelling .cancelled)

/-! ## `cancel_run` -/

def cancelBody (runId : String) (t : TeamTables) :
    Except TeamError (Unit × Option TeamTables) :=
  match context t runId with
  | .error err => .error err
  | .ok (run, _) =>
    if run.status ≠ .active then raised "ECO_TEAM_RUN_NOT_ACTIVE"
    else
      let runs := t.runs.modify runId fun run =>
        { run with cancellationRequested := true, status := .cancelling }
      .ok ((), some ({ t with runs := runs }.updateRun runId
        TaskRow.requestCancel))

def cancelRun (ses : Session) (db : TeamDb) (runId : String) (now clock : ℤ) :
    Outcome Unit :=
  timed ses db now clock fun ses _ => transaction prim ses db (cancelBody runId)

/-! ## `record_handoff` -/

def handoffBody (handoff : TeamHandoff) (t : TeamTables) :
    Except TeamError (String × Option TeamTables) :=
  match context t handoff.runId with
  | .error err => .error err
  | .ok (run, _) =>
    if handoff.teamId ≠ run.teamId ∨ handoff.projectId ≠ run.projectId then
      raised "ECO_TEAM_HANDOFF_BINDING_MISMATCH"
    else
      match t.tasks.get? (handoff.runId, handoff.fromTaskId),
          t.tasks.get? (handoff.runId, handoff.toTaskId) with
      | some source, some target =>
        if source.status ≠ .succeeded ∨ target.status ≠ .pending ∨
            handoff.fromRoleId ≠ source.document.roleId ∨
            handoff.toRoleId ≠ target.document.roleId ∨
            handoff.fromTaskId ∉ target.document.dependencies ∨
            handoff.artifact ≠ target.document.input then
          raised "ECO_TEAM_HANDOFF_SUBSTITUTION"
        else
          match handoffBetween t handoff.runId handoff.fromTaskId
              handoff.toTaskId with
          | some duplicate =>
            if duplicate.digest = handoff.recordDigest then
              .ok (handoff.recordDigest, none)
            else raised "ECO_TEAM_HANDOFF_CONFLICT"
          | none =>
            if t.handoffs.entries.any fun e =>
                e.2.digest = handoff.recordDigest then
              raised "ECO_TEAM_HANDOFF_CONFLICT"
            else
              match t.handoffs.insert? (handoff.runId, handoff.id)
                  ⟨handoff.fromTaskId, handoff.toTaskId,
                    handoff.artifact.digest, handoff.recordDigest,
                    handoff⟩ with
              | none => raised "ECO_TEAM_HANDOFF_CONFLICT"
              | some handoffs =>
                .ok (handoff.recordDigest, some { t with handoffs := handoffs })
      | _, _ => raised "ECO_TEAM_HANDOFF_TASK_UNKNOWN"

/-- `record_handoff`; it does not read the clock. -/
def recordHandoff (ses : Session) (db : TeamDb) (record : TeamRecord) :
    Outcome String :=
  match record.validate prim.semanticDigest with
  | .error err => ⟨.error err, ses, db⟩
  | .ok () =>
    match record with
    | .handoff handoff => transaction prim ses db (handoffBody handoff)
    | _ => ⟨raised "ECO_TEAM_HANDOFF_INVALID", ses, db⟩

/-! ## `finalize_run` -/

def runRows (t : TeamTables) (runId : String) : List (String × TaskRow) :=
  ((t.tasks.select fun k _ => k.1 = runId).map fun e => (e.1.2, e.2)).insertionSort
    fun a b => a.1 ≤ b.1

def taskResult (e : String × TaskRow) : TaskResult :=
  ⟨e.1, e.2.status, e.2.outcomeDigest, e.2.chargedTokens, e.2.chargedCost⟩

/-- The record that `finalize_run` seals, before its digest. -/
def runResult (run : RunRow) (runId resultId createdAt : String)
    (rows : List (String × TaskRow)) : TeamRunResult where
  id := resultId
  teamId := run.teamId
  projectId := run.projectId
  runId := runId
  createdAt := createdAt
  recordDigest := ""
  status := summaryStatus (rows.map (·.2.status))
  cancellationRequested := run.cancellationRequested
  tasks := rows.map taskResult
  usageTokens := (rows.map (·.2.chargedTokens)).sum
  usageCostMicrousd := (rows.map (·.2.chargedCost)).sum

/-- `seal_record` of a result. -/
def sealResult (result : TeamRunResult) : TeamRunResult :=
  { result with recordDigest := prim.semanticDigest (.result result) }

def finalizeBody (runId resultId : String) (observed : ℤ) (t : TeamTables) :
    Except TeamError (TeamRunResult × Option TeamTables) :=
  match context t runId with
  | .error err => .error err
  | .ok (run, _) =>
    match run.resultDocument with
    | some result =>
      if result.id ≠ resultId then raised "ECO_TEAM_RESULT_CONFLICT"
      else .ok (result, none)
    | none =>
      let rows := runRows t runId
      if rows = [] ∨ rows.any fun e => !e.2.status.isTerminal then
        raised "ECO_TEAM_RUN_INCOMPLETE"
      else
        let result := sealResult prim
          (runResult run runId resultId (prim.timeText observed) rows)
        match (TeamRecord.result result).validate prim.semanticDigest with
        | .error err => .error err
        | .ok () =>
          .ok (result, some { t with
            runs := t.runs.modify runId fun run =>
              { run with
                status := result.status
                resultDocument := some result } })

def finalizeRun (ses : Session) (db : TeamDb) (runId resultId : String)
    (now clock : ℤ) : Outcome TeamRunResult :=
  timed ses db now clock fun ses observed =>
    transaction prim ses db (finalizeBody prim runId resultId observed)

end Operations

end Ecosystem.Teams
