import Ecosystem.Lib.Fold
import Ecosystem.Teams.Coordinator

/-!
# Coordinators over one database

Any number of coordinators share a database, and workers call them in any order, with any
claim in hand.  The system records the claims that `claim_task` has returned and the
effects that `start_effect` has let begin.  `Move` says what a transaction can do to the
tables; every step is a chain of moves (`step_moves`).
-/

namespace Ecosystem.Teams

open Ecosystem.Lib Relation

/-! ## Actions -/

/-- An effect that was let begin, at the time the coordinator observed, with the
route that it consumed. -/
structure StartRecord where
  claim : LeaseClaim
  observed : ℤ
  route : Option String

structure TeamSystem (ι : Type) where
  db : TeamDb
  sessions : ι → Session
  issued : List LeaseClaim := []
  started : List StartRecord := []

/-- One call of an operation on one coordinator, with what the clock and the
gates answer in it and the token that a claim draws.  A call of `execute_claimed` is
several of them (`TeamSystem.executeClaimed`). -/
inductive TeamAction (ι W E : Type)
  | createRun (i : ι) (gates : Gates W E) (manifest : TeamRecord) (runId : String)
      (tasks : List TeamRecord) (now clock : ℤ)
  | claimTask (i : ι) (gates : Gates W E) (runId taskId : String) (worker : W)
      (now clock leaseSeconds : ℤ) (token : String)
  | claimNext (i : ι) (gates : Gates W E) (runId : String) (worker : W) (now : ℤ)
      (clock : ℕ → ℤ) (leaseSeconds : ℤ) (token : String)
  | authorizeEffect (i : ι) (gates : Gates W E) (claim : LeaseClaim) (worker : W)
      (evidence : E) (now clock : ℤ)
  | startEffect (i : ι) (gates : Gates W E) (claim : LeaseClaim)
      (authorization : ExecutionAuthorization E) (worker : W) (now clock : ℤ)
  | completeEffect (i : ι) (claim : LeaseClaim) (result : TaskEffectResult)
      (now clock clock' : ℤ)
  /-- the rest of a `complete_effect` that others have interrupted -/
  | settleEffect (i : ι) (claim : LeaseClaim) (result : TaskEffectResult)
  | markAmbiguous (i : ι) (claim : LeaseClaim) (now clock : ℤ)
  | expireLeases (i : ι) (runId : String) (now clock : ℤ)
  | cancelRun (i : ι) (runId : String) (now clock : ℤ)
  | acknowledgeCancellation (i : ι) (claim : LeaseClaim) (now clock : ℤ)
  | recordHandoff (i : ι) (handoff : TeamRecord)
  | finalizeRun (i : ι) (runId resultId : String) (now clock : ℤ)
  | observe (i : ι) (now clock : ℤ)
  | reopen (i : ι) (sealId : ℕ) (clock : ℤ)

def TeamAction.token? {ι W E : Type} : TeamAction ι W E → Option String
  | .claimTask _ _ _ _ _ _ _ _ token => some token
  | .claimNext _ _ _ _ _ _ _ token => some token
  | _ => none

def Outcome.claims (out : Outcome LeaseClaim) : List LeaseClaim :=
  match out.answer with
  | .ok claim => [claim]
  | .error _ => []

section Steps

variable {ι W E : Type} [DecidableEq ι] (prim : Primitives W E)

def TeamSystem.leave {α : Type} (s : TeamSystem ι) (i : ι) (out : Outcome α) :
    TeamSystem ι :=
  { s with db := out.db, sessions := Function.update s.sessions i out.session }

def TeamSystem.leaveIssued (s : TeamSystem ι) (i : ι) (out : Outcome LeaseClaim) :
    TeamSystem ι :=
  { s.leave i out with issued := s.issued ++ out.claims }

def boundRoute (t : TeamTables) (claim : LeaseClaim) : Option String :=
  (t.tasks.get? (claim.runId, claim.taskId)).bind fun row =>
    row.document.routeDecision.map (·.digest)

def TeamSystem.leaveStarted (s : TeamSystem ι) (i : ι) (claim : LeaseClaim)
    (clock : ℤ) (out : Outcome Unit) : TeamSystem ι :=
  match out.answer with
  | .ok () =>
    { s.leave i out with
      started := s.started ++ [⟨claim, clock, boundRoute s.db.tables claim⟩] }
  | .error _ => s.leave i out

def TeamSystem.step (s : TeamSystem ι) : TeamAction ι W E → TeamSystem ι
  | .createRun i gates manifest runId tasks now clock =>
    s.leave i (createRun prim gates (s.sessions i) s.db manifest runId tasks
      now clock)
  | .claimTask i gates runId taskId worker now clock leaseSeconds token =>
    s.leaveIssued i (claimTask prim gates (s.sessions i) s.db runId taskId
      worker now clock leaseSeconds token)
  | .claimNext i gates runId worker now clock leaseSeconds token =>
    s.leaveIssued i (claimNext prim gates (s.sessions i) s.db runId worker now
      clock leaseSeconds token)
  | .authorizeEffect i gates claim worker evidence now clock =>
    s.leave i (authorizeEffect prim gates (s.sessions i) s.db claim worker
      evidence now clock)
  | .startEffect i gates claim authorization worker now clock =>
    s.leaveStarted i claim clock (startEffect prim gates (s.sessions i) s.db
      claim authorization worker now clock)
  | .completeEffect i claim result now clock clock' =>
    s.leave i (completeEffect prim (s.sessions i) s.db claim result now clock
      clock')
  | .settleEffect i claim result =>
    s.leave i (settleEffect prim (s.sessions i) s.db claim result)
  | .markAmbiguous i claim now clock =>
    s.leave i (markAmbiguous prim (s.sessions i) s.db claim now clock)
  | .expireLeases i runId now clock =>
    s.leave i (expireLeases prim (s.sessions i) s.db runId now clock)
  | .cancelRun i runId now clock =>
    s.leave i (cancelRun prim (s.sessions i) s.db runId now clock)
  | .acknowledgeCancellation i claim now clock =>
    s.leave i (acknowledgeCancellation prim (s.sessions i) s.db claim now clock)
  | .recordHandoff i handoff =>
    s.leave i (recordHandoff prim (s.sessions i) s.db handoff)
  | .finalizeRun i runId resultId now clock =>
    s.leave i (finalizeRun prim (s.sessions i) s.db runId resultId now clock)
  | .observe i now clock => s.leave i (observe (s.sessions i) s.db now clock)
  | .reopen i sealId clock =>
    s.leave i (reopen prim (s.sessions i) s.db sealId clock)

def TeamSystem.after (s : TeamSystem ι) (actions : List (TeamAction ι W E)) :
    TeamSystem ι :=
  actions.foldl (TeamSystem.step prim) s

/-- A database that a coordinator has just made, under any coordinators. -/
def initialSystem (maker : Session) (storeId : String) (sessions : ι → Session) :
    TeamSystem ι :=
  { db := newStore prim maker storeId, sessions := sessions }

/-! ## Moves -/

structure World where
  tables : TeamTables
  issued : List LeaseClaim
  started : List StartRecord

def TeamSystem.world (s : TeamSystem ι) : World := ⟨s.db.tables, s.issued, s.started⟩

/-- What `create_run` knows of its manifest and its tasks when it stores them. -/
structure Admitted (manifest : AgentTeamManifest) (runId : String)
    (tasks : List TeamTask) : Prop where
  team : matchesId manifest.authority.teamId = true
  project : matchesId manifest.projectId = true
  some : tasks ≠ []
  bound : ∀ task ∈ tasks, task.runId = runId
  runIds : ∀ task ∈ tasks, matchesId task.runId = true
  ids : ∀ task ∈ tasks, matchesId task.id = true

/-- What one transaction can do.  A claim that also expires leases is two moves. -/
inductive Move : World → World → Prop
  | create {w : World} {t₁ t' : TeamTables} {manifest : AgentTeamManifest}
      {runId : String} {runs : Table String RunRow} {tasks : List TeamTask}
      (hmanifest : insertManifest w.tables manifest = .ok t₁)
      (hrun : t₁.runs.insert? runId (newRun manifest) = some runs)
      (htasks : tasks.foldlM (insertTask runId) { t₁ with runs := runs } = .ok t')
      (hadmitted : Admitted manifest runId tasks) :
      Move w { w with tables := t' }
  | expire {w : World} (runId : String) (us : ℤ) :
      Move w { w with tables := expireRows w.tables runId us }
  | claim {w : World} {run : RunRow} {manifest : AgentTeamManifest} {row : TaskRow}
      {claim : LeaseClaim}
      (hcontext : context w.tables claim.runId = .ok (run, manifest))
      (hactive : run.status = .active)
      (hrow : w.tables.tasks.get? (claim.runId, claim.taskId) = some row)
      (hpending : row.status = .pending)
      (hready : dependenciesReady w.tables row.document = true)
      (htokens : usage w.tables claim.runId TaskRow.tokens +
        row.document.budget.maxTokens ≤ run.maxTokens)
      (hcost : usage w.tables claim.runId TaskRow.cost +
        row.document.budget.maxCostMicrousd ≤ run.maxCost)
      (hdigest : claim.taskDigest = row.document.recordDigest)
      (hattempt : claim.attempt = row.attempt + 1)
      (hnotAfter : claim.leaseExpiresAt ≤ row.document.notAfter.instant)
      (hdeadline : claim.leaseExpiresAt ≤ manifest.deadline.instant) :
      Move w
        { w with
          tables := w.tables.updateTask (claim.runId, claim.taskId)
            (·.lease claim.workerDigest (prim.claimHash claim.leaseToken)
              (prim.epoch claim.leaseExpiresAt))
          issued := w.issued ++ [claim] }
  | start {w : World} {claim : LeaseClaim} {row : TaskRow} {t₁ : TeamTables}
      {observed us : ℤ} (hrow : assertClaim prim w.tables claim false = .ok row)
      (huncancelled : row.cancellationRequested = false)
      (hroute : consumeRoute w.tables row.document us = .ok t₁)
      (hbefore : observed < claim.leaseExpiresAt) :
      Move w
        { w with
          tables := t₁.updateTask (claim.runId, claim.taskId) TaskRow.start
          started := w.started ++
            [⟨claim, observed, row.document.routeDecision.map (·.digest)⟩] }
  | complete {w : World} {claim : LeaseClaim} {row : TaskRow}
      {result : TaskEffectResult}
      (hrow : assertClaim prim w.tables claim true = .ok row)
      (hstarted : row.status = .started)
      (htokens : result.usedTokens ≤ row.reservedTokens)
      (hcost : result.usedCostMicrousd ≤ row.reservedCost) :
      Move w { w with
        tables := w.tables.updateTask (claim.runId, claim.taskId)
          (·.complete result) }
  | charge {w : World} {claim : LeaseClaim} {row : TaskRow} {status : TaskStatus}
      (hrow : assertClaim prim w.tables claim true = .ok row)
      (hstarted : row.status = .started)
      (hstatus : status = .ambiguous ∨ status = .cancelled) :
      Move w { w with
        tables := w.tables.updateTask (claim.runId, claim.taskId)
          (·.chargeReserved status) }
  | cancel {w : World} {runId : String} {run : RunRow} {runs : Table String RunRow}
      (hrun : w.tables.runs.get? runId = some run) (hactive : run.status = .active)
      (hruns : runs = w.tables.runs.modify runId fun run =>
        { run with cancellationRequested := true, status := .cancelling }) :
      Move w { w with
        tables := { w.tables with runs := runs }.updateRun runId
          TaskRow.requestCancel }
  | handoff {w : World} {handoff : TeamHandoff} {source target : TaskRow}
      {handoffs : Table (String × String) HandoffRow}
      (hsource : w.tables.tasks.get? (handoff.runId, handoff.fromTaskId) = some source)
      (htarget : w.tables.tasks.get? (handoff.runId, handoff.toTaskId) = some target)
      (hsucceeded : source.status = .succeeded) (hpending : target.status = .pending)
      (hdependency : handoff.fromTaskId ∈ target.document.dependencies)
      (hartifact : handoff.artifact = target.document.input)
      (hnew : handoffBetween w.tables handoff.runId handoff.fromTaskId
        handoff.toTaskId = none)
      (hinsert : w.tables.handoffs.insert? (handoff.runId, handoff.id)
        ⟨handoff.fromTaskId, handoff.toTaskId, handoff.artifact.digest,
          handoff.recordDigest, handoff⟩ = some handoffs) :
      Move w { w with tables := { w.tables with handoffs := handoffs } }
  | finalize {w : World} {runId : String} {run : RunRow} {result : TeamRunResult}
      {resultId createdAt : String}
      (hrun : w.tables.runs.get? runId = some run)
      (hopen : run.resultDocument = none)
      (hrows : runRows w.tables runId ≠ [])
      (hterminal : ∀ e ∈ runRows w.tables runId, e.2.status.isTerminal = true)
      (hresult : result = sealResult prim
        (runResult run runId resultId createdAt (runRows w.tables runId))) :
      Move w { w with tables := { w.tables with
        runs := w.tables.runs.modify runId fun run =>
          { run with status := result.status, resultDocument := some result } } }

/-! ## What a transaction leaves -/

variable {prim}

theorem transaction_cases {α : Type} {ses : Session} {db : TeamDb}
    {body : TeamTables → Except TeamError (α × Option TeamTables)}
    {out : Outcome α} (h : transaction prim ses db body = out) :
    (out.db = db ∧ ∀ a, out.answer = .ok a → body db.tables = .ok (a, none)) ∨
      ∃ a t', body db.tables = .ok (a, some t') ∧ out.answer = .ok a ∧
        out.db.tables = t' := by
  subst h
  unfold transaction
  split
  · exact .inl ⟨rfl, fun _ h => by cases h⟩
  split
  · exact .inl ⟨rfl, fun _ h => by cases h⟩
  · next a hbody =>
      refine .inl ⟨rfl, fun a' ha => ?_⟩
      cases ha
      exact hbody
  · next a t' hbody => exact .inr ⟨a, t', hbody, rfl, rfl⟩

theorem observedTime_eq {ses : Session} {now clock observed : ℤ}
    (h : observedTime ses now clock = .ok observed) : observed = clock := by
  unfold observedTime at h
  split at h
  · cases h
  split at h
  · cases h
  cases h; rfl

theorem timed_cases {α : Type} {ses : Session} {db : TeamDb} {now clock : ℤ}
    {operation : Session → ℤ → Outcome α} {out : Outcome α}
    (h : timed ses db now clock operation = out) :
    (out.db = db ∧ ∃ err, out.answer = .error err) ∨
      out = operation { ses with lastObserved := clock } clock := by
  subst h
  unfold timed
  split
  · next err _ => exact .inl ⟨rfl, err, rfl⟩
  · next observed hobserved =>
      rw [observedTime_eq hobserved]
      exact .inr rfl

variable (prim) in
def Reaches (w : World) (t' : TeamTables) : Prop :=
  ReflTransGen (Move prim) w { w with tables := t' }

theorem Reaches.refl {w : World} : Reaches prim w w.tables := ReflTransGen.refl

theorem reaches_transaction {α : Type} {ses : Session} {db : TeamDb}
    {body : TeamTables → Except TeamError (α × Option TeamTables)} {w : World}
    (hw : db.tables = w.tables)
    (hbody : ∀ a t', body w.tables = .ok (a, some t') → Reaches prim w t') :
    Reaches prim w (transaction prim ses db body).db.tables := by
  rcases transaction_cases rfl with
    ⟨hdb, -⟩ | ⟨a, t', ht', -, htables⟩
  · rw [hdb, hw]
    exact .refl
  · rw [htables]
    exact hbody a t' (by rw [← hw]; exact ht')

theorem reaches_timed {α : Type} {ses : Session} {db : TeamDb} {now clock : ℤ}
    {operation : Session → ℤ → Outcome α} {w : World} (hw : db.tables = w.tables)
    (hop : ∀ ses', Reaches prim w (operation ses' clock).db.tables) :
    Reaches prim w (timed ses db now clock operation).db.tables := by
  rcases timed_cases
    rfl with ⟨hdb, -⟩ | hout
  · rw [hdb, hw]
    exact .refl
  · rw [hout]
    exact hop _

/-! ## The operations move -/

section Moves

variable {w : World} {ses : Session} {db : TeamDb}

variable {runId : String} {manifest : AgentTeamManifest} {record : TeamRecord}
  {gates : Gates W E} {observed : ℤ} {worker : W} {token : String} {claim : LeaseClaim}

theorem context_eq_ok {t : TeamTables} {run : RunRow}
    (h : context t runId = .ok (run, manifest)) :
    t.runs.get? runId = some run ∧ ∃ row, t.manifests.get? run.manifestId = some row ∧
        row.document = manifest := by
  unfold context at h
  split at h
  · cases h
  next run' hrun =>
  split at h
  · cases h
  · next row hrow => cases h; exact ⟨hrun, row, hrow, rfl⟩

theorem validate_eq_ok {digest : TeamRecord → String}
    (h : record.validate digest = .ok ()) : record.schemaOk = true := by
  unfold TeamRecord.validate at h
  split at h
  · cases h
  · next hschema => simpa using hschema

theorem admitManifest_eq_ok {count : ℕ}
    (h : admitManifest prim gates record runId count observed = .ok manifest) :
    manifest.schemaOk = true ∧ 1 ≤ count := by
  unfold admitManifest at h
  split at h
  · cases h
  next hvalid =>
  split at h
  · next manifest' =>
      split at h
      · cases h
      split at h
      · cases h
      next hcount =>
      split at h
      · cases h
      split at h
      · cases h
      cases h
      rw [not_or, not_lt] at hcount
      exact ⟨validate_eq_ok hvalid, hcount.2⟩
  · cases h

theorem checkTask_eq_ok {checked checked' : List TeamTask}
    (h : checkTask prim manifest runId observed checked record = .ok checked') :
    ∃ task, checked' = checked ++ [task] ∧ task.runId = runId ∧ task.schemaOk = true := by
  unfold checkTask at h
  split at h
  · cases h
  next hvalid =>
  split at h
  · next task =>
      split at h
      · cases h
      next hbound =>
      push Not at hbound
      split at h
      · cases h
      split at h
      · cases h
      cases h
      exact ⟨task, rfl, hbound.1, validate_eq_ok hvalid⟩
  · cases h

theorem admitTasks_eq_ok {records : List TeamRecord} {tasks : List TeamTask}
    (h : admitTasks prim manifest runId observed records = .ok tasks) :
    tasks.length = records.length ∧
      ∀ task ∈ tasks, task.runId = runId ∧ task.schemaOk = true := by
  have hloop := foldlM_history_induction
    (f := checkTask prim manifest runId observed) (s := [])
    (fun records checked => checked.length = records.length ∧
      ∀ task ∈ checked, task.runId = runId ∧ task.schemaOk = true)
    ⟨rfl, by simp⟩
    (by
      rintro records checked record checked' - ⟨hlength, hall⟩ hone
      obtain ⟨task, rfl, hrun, hschema⟩ := checkTask_eq_ok hone
      refine ⟨by simp [hlength], fun other hother => ?_⟩
      rcases List.mem_append.mp hother with hother | hother
      · exact hall other hother
      · rw [List.mem_singleton.mp hother]
        exact ⟨hrun, hschema⟩)
  unfold admitTasks at h
  split at h
  · cases h
  next tasks' hfold =>
  split at h
  · cases h
  split at h
  · cases h
  cases h
  exact hloop records tasks hfold

theorem admitted_of_checks {records : List TeamRecord} {tasks : List TeamTask}
    (hmanifest : admitManifest prim gates record runId records.length observed =
      .ok manifest) (htasks : admitTasks prim manifest runId observed records = .ok tasks) :
    Admitted manifest runId (tasks.insertionSort fun a b => a.id ≤ b.id) := by
  obtain ⟨hschema, hcount⟩ := admitManifest_eq_ok hmanifest
  obtain ⟨hlength, hall⟩ := admitTasks_eq_ok htasks
  simp only [AgentTeamManifest.schemaOk, Bool.and_eq_true] at hschema
  have htask : ∀ task ∈ tasks.insertionSort fun a b => a.id ≤ b.id,
      task.runId = runId ∧ matchesId task.runId = true ∧
        matchesId task.id = true := by
    intro task hmem
    obtain ⟨hrun, htask⟩ := hall task ((List.mem_insertionSort _).mp hmem)
    simp only [TeamTask.schemaOk, Bool.and_eq_true] at htask
    exact ⟨hrun, by simp [htask], by simp [htask]⟩
  refine ⟨by simp [hschema], by simp [hschema], ?_, fun t ht => (htask t ht).1,
    fun t ht => (htask t ht).2.1, fun t ht => (htask t ht).2.2⟩
  intro hnil
  have hzero := congrArg List.length hnil
  rw [List.length_insertionSort, hlength, List.length_nil] at hzero
  omega

theorem createRun_moves {manifest : TeamRecord} {tasks : List TeamRecord} {now clock : ℤ}
    (hw : db.tables = w.tables) :
    Reaches prim w
      (createRun prim gates ses db manifest runId tasks now clock).db.tables := by
  refine reaches_timed hw fun ses' => ?_
  split
  · rw [hw]; exact .refl
  next hadmit =>
  split
  · rw [hw]; exact .refl
  next hadmitted =>
  refine reaches_transaction hw fun a t' h => ?_
  unfold createBody at h
  split at h
  · cases h
  next t₁ hmanifest =>
  split at h
  · cases h
  next runs hrun =>
  split at h
  · cases h
  next t₂ htasks =>
  cases h
  exact .single (.create hmanifest hrun htasks
    (admitted_of_checks hadmit hadmitted))

theorem claimBody_moves {runId taskId : String} {observed leaseSeconds : ℤ}
    {written : Option TeamTables}
    (h : claimBody prim gates runId taskId worker observed leaseSeconds token
      w.tables = .ok (claim, written)) :
    claim.leaseToken = token ∧ ∃ t', written = some t' ∧ ReflTransGen (Move prim) w
        { w with tables := t', issued := w.issued ++ [claim] } := by
  unfold claimBody at h
  split at h
  · cases h
  next run manifest hcontext =>
  dsimp only at h
  split at h
  · cases h
  next hactive =>
  split at h
  · cases h
  next row hrow =>
  split at h
  · cases h
  next hpending =>
  split at h
  · cases h
  split at h
  · cases h
  next hready =>
  split at h
  · cases h
  split at h
  · cases h
  next hbudget =>
  cases h
  push Not at hactive hbudget
  refine ⟨rfl, _, rfl, .head (.expire runId
    (prim.epoch observed)) (.single ?_)⟩
  exact @Move.claim _ _ _ { w with tables := _ } _ _ _
    ⟨runId, taskId, _, _, token, _, _⟩ hcontext hactive.1 hrow
    (not_not.mp hpending) (by simpa using hready) hbudget.1
    hbudget.2 rfl rfl
    ((min_le_left _ _).trans (min_le_right _ _))
    (min_le_right _ _)

theorem claimTask_moves {runId taskId : String}
    {now clock leaseSeconds : ℤ} {out : Outcome LeaseClaim} (hw : db.tables = w.tables)
    (h : claimTask prim gates ses db runId taskId worker now clock leaseSeconds
      token = out) :
    (∀ claim ∈ out.claims, claim.leaseToken = token) ∧
    ((∃ err, out.answer = .error err) → out.db.tables = w.tables) ∧
    ReflTransGen (Move prim) w
      { w with tables := out.db.tables, issued := w.issued ++ out.claims } := by
  have hfail : ∀ err, out.db = db → out.answer = .error err →
      (∀ claim ∈ out.claims, claim.leaseToken = token) ∧
      ((∃ err, out.answer = .error err) → out.db.tables = w.tables) ∧
      ReflTransGen (Move prim) w
        { w with tables := out.db.tables, issued := w.issued ++ out.claims } := by
    intro err hdb hanswer
    have hclaims : out.claims = [] := by simp [Outcome.claims, hanswer]
    rw [hclaims, hdb, hw, List.append_nil]
    exact ⟨by simp, fun _ => rfl, .refl⟩
  rcases timed_cases h with ⟨hdb, err, herr⟩ | hout
  · exact hfail err hdb herr
  · split at hout
    · rw [hout] at hfail
      rw [hout]
      exact hfail _ rfl rfl
    · rcases transaction_cases hout.symm with
        ⟨hdb, hanswer⟩ | ⟨claim, t', hbody, hok, ht⟩
      · match hans : out.answer with
        | .error err => exact hans ▸ hfail err hdb hans
        | .ok claim =>
          have hbody := hanswer claim hans
          rw [hw] at hbody
          obtain ⟨-, t', ht', -⟩ := claimBody_moves hbody
          cases ht'
      · rw [hw] at hbody
        obtain ⟨htoken, t'', ht'', hmoves⟩ := claimBody_moves hbody
        obtain rfl := Option.some.inj ht''
        have hclaims : out.claims = [claim] := by simp [Outcome.claims, hok]
        rw [hclaims, ht]
        refine ⟨by simpa using htoken, ?_, hmoves⟩
        rintro ⟨err, herr⟩
        rw [hok] at herr
        cases herr

/-- A failed try of `claim_next` leaves the tables to the next one. -/
theorem claimFirst_moves {now leaseSeconds : ℤ} (taskIds : List String) :
    ∀ {ses : Session} {db : TeamDb} {clock : ℕ → ℤ} {last : TeamError}
      {out : Outcome LeaseClaim}, db.tables = w.tables →
      claimFirst prim gates ses db runId worker now clock leaseSeconds token last
        taskIds = out → (∀ claim ∈ out.claims, claim.leaseToken = token) ∧
      ReflTransGen (Move prim) w
        { w with tables := out.db.tables, issued := w.issued ++ out.claims } := by
  induction taskIds with
  | nil =>
    rintro ses db clock last out hw rfl
    simp only [claimFirst, Outcome.claims, List.append_nil, hw]
    exact ⟨by simp, .refl⟩
  | cons taskId taskIds ih =>
    rintro ses db clock last out hw h
    obtain ⟨htoken, hsame, hmoves⟩ := claimTask_moves hw rfl
    simp only [claimFirst] at h
    split at h
    · rw [← h]
      exact ⟨htoken, hmoves⟩
    · next err herr =>
        split at h
        · exact ih (hsame ⟨err, herr⟩) h
        · rw [← h]
          exact ⟨htoken, hmoves⟩

theorem claimNext_moves {now leaseSeconds : ℤ} {clock : ℕ → ℤ}
    {out : Outcome LeaseClaim} (hw : db.tables = w.tables)
    (h : claimNext prim gates ses db runId worker now clock leaseSeconds token = out) :
    (∀ claim ∈ out.claims, claim.leaseToken = token) ∧ ReflTransGen (Move prim) w
      { w with tables := out.db.tables, issued := w.issued ++ out.claims } := by
  unfold claimNext at h
  split at h
  · rw [← h]
    simp only [Outcome.claims, List.append_nil, hw]
    exact ⟨by simp, .refl⟩
  · exact claimFirst_moves _ hw h

theorem authorizeEffect_moves {evidence : E} {now clock : ℤ} (hw : db.tables = w.tables) :
    Reaches prim w (authorizeEffect prim gates ses db claim worker evidence now
        clock).db.tables := by
  refine reaches_timed hw fun ses' => ?_
  split
  · rw [hw]; exact .refl
  · refine reaches_transaction hw fun a t' h => ?_
    unfold authorizeBody at h
    repeat' split at h
    all_goals first | cases h; done | skip
    cases h
    exact .refl

theorem startBody_moves {authorization : ExecutionAuthorization E}
    {written : Option TeamTables} (hbefore : observed < claim.leaseExpiresAt)
    (h : startBody prim gates ses claim authorization worker observed w.tables =
      .ok ((), written)) :
    ∃ t' row, written = some t' ∧ assertClaim prim w.tables claim false = .ok row ∧
      Move prim w
        { w with
          tables := t'
          started := w.started ++
            [⟨claim, observed, row.document.routeDecision.map (·.digest)⟩] } := by
  unfold startBody at h
  split at h
  · cases h
  next row hrow =>
  split at h
  · cases h
  split at h
  · cases h
  next hcancelled =>
  push Not at hcancelled
  split at h
  · cases h
  split at h
  · cases h
  split at h
  · cases h
  split at h
  · cases h
  next t₁ hroute =>
  cases h
  exact ⟨_, row, rfl, hrow, .start hrow
    (by simpa using hcancelled.2) hroute hbefore⟩

theorem assertClaim_eq_ok {t : TeamTables} {allowStarted : Bool} {row : TaskRow}
    (h : assertClaim prim t claim allowStarted = .ok row) :
    t.tasks.get? (claim.runId, claim.taskId) = some row ∧ row.digest = claim.taskDigest ∧
      row.workerDigest = some claim.workerDigest ∧
      row.leaseHash = some (prim.claimHash claim.leaseToken) ∧
      row.leaseExpiresUs = some (prim.epoch claim.leaseExpiresAt) ∧
      row.attempt = claim.attempt ∧
      (row.status = .leased ∨ allowStarted = true ∧ row.status = .started) := by
  unfold assertClaim at h
  split at h
  · cases h
  next row' hrow =>
  split at h
  · cases h
  next hall =>
  cases h
  push Not at hall
  obtain ⟨hdigest, hworker, hhash, hexpires, hattempt, hstatus⟩ := hall
  exact ⟨hrow, hdigest, hworker, hhash, hexpires, hattempt, by simpa using hstatus⟩

theorem startEffect_moves {authorization : ExecutionAuthorization E} {now clock : ℤ}
    {out : Outcome Unit} (hw : db.tables = w.tables)
    (h : startEffect prim gates ses db claim authorization worker now clock = out) :
    ((∃ err, out.answer = .error err) ∧ out.db.tables = w.tables) ∨
    out.answer = .ok () ∧ clock < claim.leaseExpiresAt ∧
    ∃ row, assertClaim prim w.tables claim false = .ok row ∧
    Move prim w
      { w with
        tables := out.db.tables
        started := w.started ++ [⟨claim, clock, boundRoute w.tables claim⟩] } := by
  rcases timed_cases h with ⟨hdb, herr⟩ | hout
  · exact .inl ⟨herr, by rw [hdb, hw]⟩
  · split at hout
    · rw [hout]
      exact .inl ⟨⟨_, rfl⟩, hw⟩
    · next hchecked =>
        push Not at hchecked
        have hbefore := hchecked.2.2.2.2.2.2.2
        have hstart : ∀ written, startBody prim gates
            { ses with lastObserved := clock } claim authorization worker clock
            w.tables = .ok ((), written) → ∃ t' row, written = some t' ∧
              assertClaim prim w.tables claim false = .ok row ∧
              Move prim w
                { w with
                  tables := t'
                  started := w.started ++
                    [⟨claim, clock, boundRoute w.tables claim⟩] } := by
          intro written hbody
          obtain ⟨t', row, hwritten, hrow, hmove⟩ := startBody_moves hbefore hbody
          refine ⟨t', row, hwritten, hrow, ?_⟩
          have hroute : boundRoute w.tables claim =
              row.document.routeDecision.map (·.digest) := by
            rw [boundRoute, (assertClaim_eq_ok hrow).1]
            rfl
          rw [hroute]
          exact hmove
        rcases transaction_cases hout.symm with
          ⟨hdb, hanswer⟩ | ⟨⟨⟩, t', hbody, hok, ht⟩
        · match hans : out.answer with
          | .error err => exact .inl ⟨⟨err, rfl⟩, by rw [hdb, hw]⟩
          | .ok () =>
            have hbody := hanswer () hans
            rw [hw] at hbody
            obtain ⟨t', row, ht', -⟩ := hstart _ hbody
            cases ht'
        · rw [hw] at hbody
          obtain ⟨t'', row, ht'', hrow, hmove⟩ := hstart _ hbody
          obtain rfl := Option.some.inj ht''
          rw [ht]
          exact .inr ⟨hok, hbefore, row, hrow, hmove⟩

theorem expireLeases_moves {runId : String} {now clock : ℤ} (hw : db.tables = w.tables) :
    Reaches prim w (expireLeases prim ses db runId now clock).db.tables := by
  refine reaches_timed hw fun ses' => reaches_transaction hw fun a t' h => ?_
  unfold expireBody at h
  split at h
  · cases h
  cases h
  exact .single (.expire runId _)

theorem withTaskState_db {out : Outcome Unit} :
    (withTaskState prim claim out).db = out.db := by
  unfold withTaskState
  split <;> rfl

theorem settleEffect_moves {result : TaskEffectResult} (hw : db.tables = w.tables) :
    Reaches prim w (settleEffect prim ses db claim result).db.tables := by
  rw [settleEffect, withTaskState_db]
  refine reaches_transaction hw fun a t' h => ?_
  unfold settleBody at h
  split at h
  · cases h
  split at h
  · cases h
  split at h
  · split at h <;> cases h
  split at h
  · cases h
  next row hrow =>
  split at h
  · cases h
  next hstarted =>
  split at h
  · cases h
  next hused =>
  cases h
  push Not at hused
  exact .single (.complete hrow (not_not.mp hstarted) hused.1
    hused.2)

theorem completeEffect_moves {result : TaskEffectResult}
    {now clock clock' : ℤ} (hw : db.tables = w.tables) :
    Reaches prim w
      (completeEffect prim ses db claim result now clock clock').db.tables := by
  refine reaches_timed hw fun ses' => ?_
  split
  · have hexpire := @expireLeases_moves _ _ prim _ ses' _ claim.runId clock clock' hw
    dsimp only
    split
    · exact hexpire
    · exact hexpire.trans (settleEffect_moves (w := { w with tables := _ }) rfl)
  · exact settleEffect_moves hw

theorem chargeBody_moves {refused : TaskRow → Option String}
    {status : TaskStatus} {t' : TeamTables}
    (hrefused : ∀ row, refused row = none → row.status = .started)
    (hstatus : status = .ambiguous ∨ status = .cancelled)
    (h : chargeBody prim claim refused status w.tables = .ok ((), some t')) :
    Reaches prim w t' := by
  unfold chargeBody at h
  split at h
  · cases h
  next row hrow =>
  split at h
  · cases h
  next hnone =>
  cases h
  exact .single (.charge hrow (hrefused row hnone) hstatus)

theorem markAmbiguous_moves {now clock : ℤ} (hw : db.tables = w.tables) :
    Reaches prim w (markAmbiguous prim ses db claim now clock).db.tables := by
  refine reaches_timed hw fun ses' => ?_
  rw [withTaskState_db]
  refine reaches_transaction hw fun a t' h => chargeBody_moves ?_ (.inl rfl) h
  intro row hrow
  unfold notStarted at hrow
  split at hrow
  · cases hrow
  · next hstarted => exact not_not.mp hstarted

theorem acknowledgeCancellation_moves {now clock : ℤ} (hw : db.tables = w.tables) :
    Reaches prim w (acknowledgeCancellation prim ses db claim now clock).db.tables := by
  refine reaches_timed hw fun ses' => reaches_transaction hw fun a t' h =>
    chargeBody_moves ?_ (.inr rfl) h
  intro row hrow
  unfold notCancelling at hrow
  split at hrow
  · cases hrow
  next hstarted =>
  push Not at hstarted
  exact hstarted.1

theorem cancelRun_moves {now clock : ℤ} (hw : db.tables = w.tables) :
    Reaches prim w (cancelRun prim ses db runId now clock).db.tables := by
  refine reaches_timed hw fun ses' => reaches_transaction hw fun a t' h => ?_
  unfold cancelBody at h
  split at h
  · cases h
  next run manifest hcontext =>
  split at h
  · cases h
  next hactive =>
  cases h
  exact .single (.cancel (context_eq_ok hcontext).1
    (not_not.mp hactive) rfl)

theorem recordHandoff_moves (hw : db.tables = w.tables) :
    Reaches prim w (recordHandoff prim ses db record).db.tables := by
  unfold recordHandoff
  split
  · rw [hw]; exact .refl
  split
  · next handoff =>
      refine reaches_transaction hw fun a t' h => ?_
      unfold handoffBody at h
      split at h
      · cases h
      split at h
      · cases h
      split at h
      · next source target hsource htarget =>
          split at h
          · cases h
          next hbound =>
          push Not at hbound
          obtain ⟨hsucceeded, hpending, -, -, hdependency, hartifact⟩ :=
            hbound
          split at h
          · split at h <;> cases h
          next hnew =>
          split at h
          · cases h
          split at h
          · cases h
          next handoffs hinsert =>
          cases h
          exact .single (.handoff hsource htarget hsucceeded
            hpending hdependency hartifact hnew hinsert)
      · cases h
  · rw [hw]; exact .refl

theorem finalizeBody_moves {runId resultId : String}
    {result : TeamRunResult} {t' : TeamTables}
    (h : finalizeBody prim runId resultId observed w.tables = .ok (result, some t')) :
    ∃ run, w.tables.runs.get? runId = some run ∧ run.resultDocument = none ∧
      result = sealResult prim (runResult run runId resultId
        (prim.timeText observed) (runRows w.tables runId)) ∧ Reaches prim w t' := by
  unfold finalizeBody at h
  split at h
  · cases h
  next run manifest hcontext =>
  have hrun := (context_eq_ok hcontext).1
  split at h
  · split at h <;> cases h
  next hopen =>
  dsimp only at h
  split at h
  · cases h
  next hrows =>
  rw [not_or] at hrows
  split at h
  · cases h
  cases h
  refine ⟨run, hrun, hopen, rfl, .single (.finalize hrun hopen
    hrows.1 ?_ rfl)⟩
  intro e he
  by_contra hopen
  exact hrows.2 (List.any_eq_true.mpr ⟨e, he, by simpa using hopen⟩)

theorem finalizeRun_moves {runId resultId : String} {now clock : ℤ}
    (hw : db.tables = w.tables) :
    Reaches prim w (finalizeRun prim ses db runId resultId now clock).db.tables := by
  refine reaches_timed hw fun ses' => reaches_transaction hw fun a t' h => ?_
  obtain ⟨-, -, -, -, hmoves⟩ := finalizeBody_moves h
  exact hmoves

theorem reopen_db {sealId : ℕ} {clock : ℤ} : (reopen prim ses db sealId clock).db = db := by
  simp only [reopen]
  split
  · rfl
  split <;> rfl

end Moves

/-- **Every step is a chain of moves.** -/
theorem step_moves (s : TeamSystem ι) (action : TeamAction ι W E) :
    ReflTransGen (Move prim) s.world (s.step prim action).world := by
  cases action with
  | createRun i gates manifest runId tasks now clock => exact createRun_moves rfl
  | claimTask i gates runId taskId worker now clock leaseSeconds token =>
    exact (claimTask_moves (w := s.world) rfl rfl).2.2
  | claimNext i gates runId worker now clock leaseSeconds token =>
    exact (claimNext_moves (w := s.world) rfl rfl).2
  | authorizeEffect i gates claim worker evidence now clock =>
    exact authorizeEffect_moves rfl
  | startEffect i gates claim authorization worker now clock =>
    dsimp only [TeamSystem.step]
    rcases startEffect_moves (w := s.world)
      rfl rfl with
      ⟨⟨err, herr⟩, hsame⟩ | ⟨hok, -, row, -, hmove⟩
    · rw [TeamSystem.leaveStarted, herr]
      have hworld : (s.leave i (startEffect prim gates (s.sessions i) s.db claim
          authorization worker now clock)).world = s.world := by
        rw [TeamSystem.world, TeamSystem.leave, hsame]
        rfl
      rw [hworld]
    · rw [TeamSystem.leaveStarted, hok]
      exact .single hmove
  | completeEffect i claim result now clock clock' => exact completeEffect_moves rfl
  | settleEffect i claim result => exact settleEffect_moves rfl
  | markAmbiguous i claim now clock => exact markAmbiguous_moves rfl
  | expireLeases i runId now clock => exact expireLeases_moves rfl
  | cancelRun i runId now clock => exact cancelRun_moves rfl
  | acknowledgeCancellation i claim now clock =>
    exact acknowledgeCancellation_moves rfl
  | recordHandoff i handoff => exact recordHandoff_moves rfl
  | finalizeRun i runId resultId now clock => exact finalizeRun_moves rfl
  | observe i now clock => exact reaches_timed rfl fun _ => .refl
  | reopen i sealId clock =>
    have hworld : (s.step prim (.reopen i sealId clock)).world = s.world := by
      rw [TeamSystem.step, TeamSystem.leave, TeamSystem.world, reopen_db]
      rfl
    rw [hworld]

omit [DecidableEq ι] in
theorem moves_induction {P : World → Prop}
    (hmove : ∀ w w', P w → Move prim w w' → P w') {w w' : World} (hw : P w)
    (hmoves : ReflTransGen (Move prim) w w') : P w' := by
  induction hmoves with
  | refl => exact hw
  | tail _ hlast ih => exact hmove _ _ ih hlast

theorem after_induction {P : World → Prop}
    (hmove : ∀ w w', P w → Move prim w w' → P w') {s : TeamSystem ι}
    (hs : P s.world) (actions : List (TeamAction ι W E)) :
    P (s.after prim actions).world := by
  induction actions generalizing s with
  | nil => exact hs
  | cons action actions ih =>
    exact ih (moves_induction hmove hs (step_moves s action))

end Steps

end Ecosystem.Teams
