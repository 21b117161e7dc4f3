import Ecosystem.Store.Database

/-!
# Runs, plans and decisions

The operations of `SQLiteRuntimeStore` on runs, plans, decisions and the audit key: a
function of the database, the arguments and the random identifiers, with the checks in the
order of the source.
-/

namespace Ecosystem.Store

open Ecosystem.Lib Ecosystem.Runtime

/-- What an operation returns, beside the database. -/
inductive Answer
  | nothing
  | digest (digest : String)
  | run (row : RunRow)
  | budget (row : BudgetRow)
  | checkpoint (record : Record)
  | operation (row : OperationRow)
  | lease (operationId leaseToken : String) (leaseUntil : ℤ) (intentDigest : String)
  | prepared (requestId requestDigest : String)
  | modelOperation (row : ModelOperationRow) (replayed : Bool)

abbrev Result := Except StoreError (Db × Answer)

section Runs

variable (cfg : StoreConfig)

def unknownRun : StoreError := .store "ECO_RUN_UNKNOWN" "Run does not exist"

def invalidRecord (message : String) : StoreError :=
  .store "ECO_STORE_RECORD_INVALID" message

/-- `validate_record` of the arguments of a call. -/
def requireValid (records : List Record) (err : StoreError) :
    Except StoreError Unit :=
  require [(records.all (Record.valid cfg.schema), err)]

/-! ## Single records -/

def Db.putRecord (db : Db) (record : Record) (transactionId : String) : Result := do
  requireValid cfg [record] (invalidRecord "Runtime record is invalid")
  require [(!record.kind.isAuthorityManaged, .store "ECO_STORE_AUTHORITY_REQUIRED"
      "Record kind must be written through its authority transaction")]
  let db ← db.recordIfNew cfg transactionId record
  return (db, .digest (cfg.recordDigest record))

/-! ## The life of a run -/

/-- The rows of a new run and its event baseline. -/
def Db.withRun (db : Db) (runId requestDigest : String) (state : RunState)
    (occurredAt : Stamp) (historyComplete : Bool) (source : String) : Db :=
  let payload := ProjectionPayload.ofProjection { state := state }
  { db with tables := { db.tables with
      runs := db.tables.runs.insert runId
        { requestDigest := requestDigest
          state := state
          startedAt := occurredAt
          updatedAt := occurredAt }
      baselines := db.tables.baselines.insert runId
        { projection := payload
          projectionDigest := cfg.semanticDigest (.projection payload)
          lastOccurredAt := occurredAt
          historyComplete := historyComplete
          source := source } } }

/-- `re.fullmatch` of the identifier pattern. -/
def isBoundedId (s : String) : Bool :=
  matchesId s && s.toList.getLast? ≠ some '\n'

def Db.startRun (db : Db) (runId : String) (request : RunRequest)
    (capability : Capability) (transactionId : String) : Result := do
  requireCapability .runtime capability
  require [(isBoundedId runId, .value "run_id must be a bounded identifier")]
  requireValid cfg [.runRequest request] (invalidRecord "Run request is invalid")
  let now ← parse request.createdAt
  let requestDigest := cfg.recordDigest (.runRequest request)
  require [((db.tables.runs.get? runId).isNone,
    .store "ECO_RUN_CONFLICT" "Run identifier already exists")]
  let db ← db.recordNew cfg transactionId (.runRequest request)
    (.store "ECO_RUN_REQUEST_REUSED" "Run request is already bound elsewhere")
  require [((db.tables.baselines.get? runId).isNone, .integrity)]
  let db := db.withRun cfg runId requestDigest .new request.createdAt true "native-v1"
  let db ← db.recordAuthorityRevision cfg .eventBaseline runId transactionId
    request.createdAt
  let db ← db.appendGeneratedEvent cfg runId
    { type := .runReceived
      producer := .runtime
      subjectId := some request.id
      subjectDigest := some requestDigest }
    capability now transactionId
  return (db, .digest requestDigest)

/-- `validate_run` of a received run. -/
def Db.validateReceivedRun (db : Db) (runId : String) (run : RunRow) (now : Instant)
    (capability : Capability) (transactionId : String) : Result := do
  require [(run.state = .received, .store "ECO_RUN_STATE" "Run is not awaiting validation")]
  let request ← expect (.store "ECO_JOURNAL_CORRUPT" "Run request is missing")
    ((db.recordByDigest? run.requestDigest).filter (·.kind = .runRequest))
  let db ← db.appendGeneratedEvent cfg runId
    { type := .runValidated
      producer := .runtime
      subjectId := some request.record.id
      subjectDigest := some run.requestDigest }
    capability now transactionId
  let run ← expect unknownRun (db.tables.runs.get? runId)
  return (db, .run run)

def Db.validateRun (db : Db) (runId : String) (now : Instant)
    (capability : Capability) (transactionId : String) : Result := do
  requireCapability .runtime capability
  let run ← expect unknownRun (db.tables.runs.get? runId)
  if run.state = .validated then return (db, .run run)
  else db.validateReceivedRun cfg runId run now capability transactionId

/-! ## Plans -/

/-- The plan row of `issue_plan`: inserted, or already there. -/
def Db.ensurePlan (db : Db) (plan : RunPlan) : Except StoreError (Db × Bool) :=
  match db.tables.plans.get? plan.metadata.id with
  | some row => do
    require [(row.runId = plan.metadata.runId &&
        row.planDigest = cfg.recordDigest (.runPlan plan),
      .store "ECO_STORE_ID_CONFLICT" "Plan id has another binding")]
    return (db, false)
  | none =>
    return ({ db with tables := { db.tables with
      plans := db.tables.plans.insert plan.metadata.id
        { runId := plan.metadata.runId
          planDigest := cfg.recordDigest (.runPlan plan) } } }, true)

/-- `issue_plan` for a run that the store does not know: the run begins as
planned, with an incomplete history. -/
def Db.issueFirstPlan (db : Db) (plan : RunPlan) (decision : PolicyDecision)
    (transactionId : String) : Result := do
  let runId := plan.metadata.runId
  require [((db.tables.baselines.get? runId).isNone, .integrity)]
  let db := db.withRun cfg runId plan.requestDigest .planned
    plan.metadata.createdAt false "issue-plan-bootstrap-v1"
  let (db, planInserted) ← db.ensurePlan cfg plan
  let db ← db.issueDecision cfg decision transactionId
  let db ← db.recordAuthorityRevisions cfg
    ([(.run, runId), (.eventBaseline, runId)] ++
      if planInserted then [(.plan, plan.metadata.id)] else [])
    transactionId plan.metadata.createdAt
  return (db, .digest (cfg.recordDigest (.runPlan plan)))

def requireAwaitingPlan (run : RunRow) (baseline : Option BaselineRow)
    (capability : Option Capability) : Except StoreError Unit :=
  if run.state = .validated then
    requireCapability .runtime (capability.getD (.foreign 0))
  else
    require [(run.state = .planned || baseline.any (!·.historyComplete),
      .store "ECO_RUN_STATE" "Run is not awaiting a plan")]

def Db.appendPlanCreated (db : Db) (plan : RunPlan) (run : RunRow)
    (capability : Option Capability) (transactionId : String) :
    Except StoreError Db :=
  if run.state = .validated then do
    let now ← parse plan.metadata.createdAt
    db.appendGeneratedEvent cfg plan.metadata.runId
      { type := .planCreated
        producer := .runtime
        subjectId := some plan.metadata.id
        subjectDigest := some (cfg.recordDigest (.runPlan plan)) }
      (capability.getD (.foreign 0)) now transactionId
  else .ok db

/-- `issue_plan` for a run of the store. -/
def Db.issueFurtherPlan (db : Db) (plan : RunPlan) (decision : PolicyDecision)
    (run : RunRow) (capability : Option Capability) (transactionId : String) :
    Result := do
  require [(run.requestDigest = plan.requestDigest,
    .store "ECO_RUN_CONFLICT" "Run is bound to another request")]
  requireAwaitingPlan run (db.tables.baselines.get? plan.metadata.runId) capability
  let (db, planInserted) ← db.ensurePlan cfg plan
  let db ← db.issueDecision cfg decision transactionId
  let db ← db.appendPlanCreated cfg plan run capability transactionId
  let db ← db.recordAuthorityRevisions cfg
    (if planInserted then [(.plan, plan.metadata.id)] else [])
    transactionId plan.metadata.createdAt
  return (db, .digest (cfg.recordDigest (.runPlan plan)))

def planSubject (plan : RunPlan) : DecisionSubject where
  kind := .runPlan
  id := plan.metadata.id
  digest := cfg.recordDigest (.runPlan plan)

def Db.issuePlan (db : Db) (plan : RunPlan) (decision : PolicyDecision)
    (policyCapability : Capability) (runtimeCapability : Option Capability)
    (transactionId : String) : Result := do
  requireCapability .policy policyCapability
  requireValid cfg [.runPlan plan, .policyDecision decision]
    (invalidRecord "Plan or decision is invalid")
  requirePlanProfile cfg plan
  requireDecisionProfile cfg decision plan.project.semanticConfigDigest
  require [(decision.metadata.runId = plan.metadata.runId &&
      decision.subject = planSubject cfg plan,
    .store "ECO_DECISION_MISMATCH" "Plan decision binding is invalid")]
  let db ← db.recordIfNew cfg transactionId (.runPlan plan)
  match db.tables.runs.get? plan.metadata.runId with
  | none => db.issueFirstPlan cfg plan decision transactionId
  | some run =>
    db.issueFurtherPlan cfg plan decision run runtimeCapability transactionId

/-- `_budget_status_tx`. -/
def Db.budgetStatus (db : Db) (runId : String) : Result := do
  let row ← expect (.store "ECO_BUDGET_UNINITIALIZED" "Run budget is unavailable")
    (db.tables.budgets.get? runId)
  return (db, .budget row)

def Db.withActivation (db : Db) (plan : RunPlan) (now deadline : Instant) : Db :=
  let runId := plan.metadata.runId
  let planDigest := cfg.recordDigest (.runPlan plan)
  let deadlineEpochUs := cfg.instantEpochUs deadline
  { db with tables := { db.tables with
      runs := db.tables.runs.modify runId fun run =>
        { run with
          activePlanId := some plan.metadata.id
          activePlanDigest := some planDigest
          deadlineAt := some (utc deadline)
          deadlineEpochUs := some deadlineEpochUs
          updatedAt := utc now }
      plans := db.tables.plans.modify plan.metadata.id fun row =>
        { row with status := .active, activatedAt := some (utc now) }
      budgets := db.tables.budgets.insert runId
        { planDigest := planDigest
          limits := plan.budget
          deadlineAt := utc deadline
          deadlineEpochUs := deadlineEpochUs
          inputBytes := plan.initialInputBytes
          updatedAt := utc now } } }

/-- `activate_plan` for a run without an active plan. -/
def Db.activateFirst (db : Db) (plan : RunPlan) (decision : PolicyDecision)
    (nonce : String) (now deadline : Instant) (capability : Capability)
    (transactionId : String) : Result := do
  let runId := plan.metadata.runId
  let planDigest := cfg.recordDigest (.runPlan plan)
  let db ← db.consumeDecision cfg decision planDigest nonce transactionId now
  require [((db.tables.budgets.get? runId).isNone, .integrity)]
  let db := db.withActivation cfg plan now deadline
  let db ← db.appendGeneratedEvent cfg runId
    { type := .policyAllowed
      producer := .policy
      subjectId := some plan.metadata.id
      subjectDigest := some planDigest
      resultDigest := some (cfg.recordDigest (.policyDecision decision)) }
    capability now transactionId
  let db ← db.recordAuthorityRevisions cfg
    [(.plan, plan.metadata.id), (.budget, runId)] transactionId (utc now)
  db.budgetStatus runId

/-- `activate_plan` for a run whose plan is active: the decision is consumed. -/
def Db.activateAgain (db : Db) (plan : RunPlan) (decision : PolicyDecision)
    (run : RunRow) (nonce : String) (now : Instant) (transactionId : String) :
    Result := do
  let planDigest := cfg.recordDigest (.runPlan plan)
  require [(run.activePlanId = some plan.metadata.id &&
      run.activePlanDigest = some planDigest,
    .store "ECO_PLAN_CONFLICT" "Another plan is already active")]
  let db ← db.consumeDecision cfg decision planDigest nonce transactionId now
  db.budgetStatus plan.metadata.runId

def untrustedPlan : StoreError :=
  .store "ECO_PLAN_UNTRUSTED" "Plan was not durably issued"

def Db.activatePlan (db : Db) (plan : RunPlan) (decision : PolicyDecision)
    (nonce : String) (now : Instant) (capability : Capability)
    (transactionId : String) : Result := do
  requireCapability .policy capability
  require [(nonce ≠ "", .value "nonce must be a non-empty string")]
  requireValid cfg [.runPlan plan, .policyDecision decision]
    (invalidRecord "Plan or decision is invalid")
  requirePlanProfile cfg plan
  requireDecisionProfile cfg decision plan.project.semanticConfigDigest
  require
    [(decision.metadata.runId = plan.metadata.runId && decision.effect = .allow &&
        decision.subject = planSubject cfg plan,
        .store "ECO_DECISION_MISMATCH" "Plan decision binding is invalid"),
      (plan.initialInputBytes ≤ plan.budget.maxInputBytes,
        .store "ECO_BUDGET_EXHAUSTED" "Initial inputs exceed input budget")]
  let createdAt ← parse plan.metadata.createdAt
  let deadline ← createdAt.addSeconds plan.budget.maxDurationSeconds
  require [(now.us < deadline.us,
    .store "ECO_DEADLINE_EXCEEDED" "Plan deadline has elapsed")]
  let planRow ← expect untrustedPlan (db.tables.plans.get? plan.metadata.id)
  let run ← expect untrustedPlan (db.tables.runs.get? plan.metadata.runId)
  require [(planRow.planDigest = cfg.recordDigest (.runPlan plan) &&
    planRow.runId = plan.metadata.runId, untrustedPlan)]
  if run.activePlanId.isSome then
    db.activateAgain cfg plan decision run nonce now transactionId
  else
    db.activateFirst cfg plan decision nonce now deadline capability transactionId

def Db.denyPlan (db : Db) (plan : RunPlan) (decision : PolicyDecision)
    (nonce : String) (now : Instant) (capability : Capability)
    (transactionId : String) : Result := do
  requireCapability .policy capability
  requireValid cfg [.runPlan plan, .policyDecision decision] .contract
  requirePlanProfile cfg plan
  requireDecisionProfile cfg decision plan.project.semanticConfigDigest
  let planDigest := cfg.recordDigest (.runPlan plan)
  require [(decision.effect = .deny && decision.subject = planSubject cfg plan,
    .store "ECO_DECISION_MISMATCH" "Plan denial binding is invalid")]
  let notAwaiting : StoreError :=
    .store "ECO_PLAN_UNTRUSTED" "Plan is not awaiting policy"
  let planRow ← expect notAwaiting (db.tables.plans.get? plan.metadata.id)
  let run ← expect notAwaiting (db.tables.runs.get? plan.metadata.runId)
  require [(planRow.planDigest = planDigest && run.state = .planned, notAwaiting)]
  let db ← db.issueDecision cfg decision transactionId
  let db ← db.consumeDecision cfg decision planDigest nonce transactionId now
  let db : Db := { db with tables := { db.tables with
    plans := db.tables.plans.modify plan.metadata.id fun row =>
      { row with status := .terminal } } }
  let db ← db.appendGeneratedEvent cfg plan.metadata.runId
    { type := .policyDenied
      producer := .policy
      subjectId := some plan.metadata.id
      subjectDigest := some planDigest
      resultDigest := some (cfg.recordDigest (.policyDecision decision)) }
    capability now transactionId
  let db ← db.recordAuthorityRevision cfg .plan plan.metadata.id transactionId
    (utc now)
  let run ← expect unknownRun (db.tables.runs.get? plan.metadata.runId)
  return (db, .run run)

/-! ## Adapter and terminal events -/

inductive AdapterEvent
  | started | completed | failed

def AdapterEvent.type : AdapterEvent → EventType
  | .started => .adapterStarted
  | .completed => .adapterCompleted
  | .failed => .adapterFailed

/-- `start_adapter`, `complete_adapter` and `fail_adapter`. -/
def Db.adapterEvent (db : Db) (event : AdapterEvent) (runId : String)
    (now : Instant) (capability : Capability) (transactionId : String) : Result := do
  requireCapability .adapter capability
  let db ← db.appendGeneratedEvent cfg runId
    { type := event.type, producer := .adapter } capability now transactionId
  return (db, .nothing)

inductive RunOutcome
  | succeeded | failed | cancelled | exhausted

def RunOutcome.type : RunOutcome → EventType
  | .succeeded => .runSucceeded
  | .failed => .runFailed
  | .cancelled => .runCancelled
  | .exhausted => .runExhausted

def ModelState.isOpen : ModelState → Bool
  | .prepared | .started => true
  | _ => false

def Tables.hasOpenModel (t : Tables) (runId : String) : Bool :=
  t.modelOperations.entries.any fun e => e.2.runId = runId && e.2.state.isOpen

def Db.finishRun (db : Db) (runId : String) (outcome : RunOutcome) (now : Instant)
    (capability : Capability) (transactionId : String) : Result := do
  requireCapability .runtime capability
  require [(!db.tables.hasOpenModel runId, .store "ECO_MODEL_OPERATION_OPEN"
      "Run cannot terminate while a model operation is open")]
  let db ← db.appendGeneratedEvent cfg runId
    { type := outcome.type, producer := .runtime } capability now transactionId
  return (db, .nothing)

/-! ## Checkpoints -/

def checkpointSpec (replay : Replay) (run : RunRow) (budget : BudgetRow)
    (plan : RunPlan) (baseline : BaselineRow) : CheckpointSpec where
  state := replay.projection.state
  projection := .ofProjection replay.projection
  historyComplete := baseline.historyComplete
  historySource := baseline.source
  eventSequence := replay.sequence - 1
  eventHeadDigest := replay.head
  activePlanDigest := run.activePlanDigest
  budget :=
    { limitsDigest := cfg.semanticDigest (.budgetLimits plan.budget)
      toolRequests := budget.toolRequests
      inputBytes := budget.inputBytes
      reservedInputBytes := budget.reservedInputBytes
      outputBytes := budget.outputBytes
      modelRequests := budget.modelRequests
      totalTokens := budget.totalTokens
      costMicrousd := budget.costMicrousd }
  openOperationIds := []
  startedAt := run.startedAt
  deadlineAt := run.deadlineAt

/-- The plan in a record, `record["spec"]["budget"]` of anything else being a
missing key. -/
def Record.asPlan : Record → Except StoreError RunPlan
  | .runPlan plan => .ok plan
  | _ => .error .missingKey

def Tables.hasOpenRead (t : Tables) (runId : String) : Bool :=
  t.operations.entries.any fun e => e.2.runId = runId && e.2.state = .prepared

/-- `create_terminal_checkpoint` of a run without a checkpoint. -/
def Db.createCheckpoint (db : Db) (runId : String) (now : Instant)
    (transactionId : String) : Result := do
  let run ← expect unknownRun (db.tables.runs.get? runId)
  let replay ← db.replay cfg runId
  require
    [(replay.projection.state.isTerminal,
        .store "ECO_CHECKPOINT_NOT_TERMINAL" "Only terminal runs may be checkpointed"),
      (replay.occurredAt ≤ now.us,
        .store "ECO_CLOCK_ROLLBACK" "Runtime clock moved backwards")]
  let unavailable : StoreError :=
    .store "ECO_CHECKPOINT_UNAVAILABLE" "Terminal run has no active budget"
  let budget ← expect unavailable (db.tables.budgets.get? runId)
  let planId ← expect unavailable run.activePlanId
  let plan ← db.loadRecord planId
  let plan ← plan.asPlan
  let baseline ← expect .missingKey (db.tables.baselines.get? runId)
  require [(!db.tables.hasOpenRead runId,
    .store "ECO_CHECKPOINT_OPEN_OPERATIONS" "Terminal checkpoint has open operations")]
  let checkpoint : RunCheckpoint :=
    { metadata :=
        { id := checkpointId cfg runId run.version
          runId := runId
          createdAt := utc now }
      revision := run.version
      spec := checkpointSpec cfg replay run budget plan baseline }
  requireValid cfg [.runCheckpoint checkpoint] .contract
  let db ← db.recordNew cfg transactionId (.runCheckpoint checkpoint)
    (.store "ECO_CHECKPOINT_CONFLICT" "Checkpoint id already exists")
  let db : Db := { db with tables := { db.tables with
    checkpoints := db.tables.checkpoints.insert runId
      { checkpointId := checkpoint.metadata.id
        checkpointDigest := cfg.recordDigest (.runCheckpoint checkpoint)
        runVersion := run.version } } }
  let db ← db.recordAuthorityRevision cfg .checkpoint runId transactionId (utc now)
  return (db, .checkpoint (.runCheckpoint checkpoint))

def Db.createTerminalCheckpoint (db : Db) (runId : String) (now : Instant)
    (capability : Capability) (transactionId : String) : Result := do
  requireCapability .runtime capability
  match db.tables.checkpoints.get? runId with
  | some row => do
    let checkpoint ← db.loadRecord row.checkpointId
    return (db, .checkpoint checkpoint)
  | none => db.createCheckpoint cfg runId now transactionId

/-! ## Decisions and keys -/

/-- `issue_decision`. -/
def Db.issueDecisionCall (db : Db) (decision : PolicyDecision)
    (semanticConfigDigest : String) (capability : Capability)
    (transactionId : String) : Result := do
  requireCapability .policy capability
  requireValid cfg [.policyDecision decision]
    (invalidRecord "Decision record is invalid")
  requireDecisionProfile cfg decision semanticConfigDigest
  let db ← db.issueDecision cfg decision transactionId
  return (db, .digest (cfg.recordDigest (.policyDecision decision)))

/-- `consume_decision`. -/
def Db.consumeDecisionCall (db : Db) (decision : PolicyDecision) (subject : Record)
    (nonce : String) (now : Instant) (semanticConfigDigest : String)
    (capability : Capability) (transactionId : String) : Result := do
  requireCapability .policy capability
  require [(nonce ≠ "", .value "nonce must be a non-empty string")]
  requireValid cfg [.policyDecision decision, subject]
    (invalidRecord "Decision or subject is invalid")
  require [(decision.effect = .allow,
    .store "ECO_DECISION_DENIED" "Decision cannot authorize execution")]
  requireDecisionProfile cfg decision semanticConfigDigest
  require [(some decision.metadata.runId = subject.runId &&
      decision.subject.kind = subject.kind && decision.subject.id = subject.id &&
      decision.subject.digest = cfg.recordDigest subject,
    .store "ECO_DECISION_MISMATCH" "Decision subject does not match")]
  let expiry ← parse decision.expiresAt
  require [(now.us < expiry.us, .store "ECO_DECISION_EXPIRED" "Decision is expired")]
  let db ← db.consumeDecision cfg decision (cfg.recordDigest subject) nonce
    transactionId now
  return (db, .nothing)

/-- `HEX_DIGEST_RE.fullmatch`. -/
def isHexDigest (s : String) : Bool :=
  matchesSha256 s && s.toList.getLast? ≠ some '\n'

/-- `rotate_audit_key`, with the checks of `apply_rotation_transition`. -/
def Db.rotateAuditKey (db : Db) (transition : RotationTransition) (now : Instant)
    (transactionId : String) : Result := do
  require [(transition.storeId = cfg.storeId &&
      transition.fromKeyId = db.book.keyId &&
      transition.toKeyId ∈ cfg.keyIds && isHexDigest transition.nonce,
    .store "ECO_ROTATION_INVALID" "Rotation transition shape is invalid")]
  let issued ← parse transition.issuedAt
  let expiry ← parse transition.expiresAt
  require
    [(issued.us < expiry.us && expiry.us - issued.us ≤ 24 * 60 * 60 * 1000000 &&
        issued.us ≤ now.us && now.us < expiry.us,
        .store "ECO_ROTATION_EXPIRED"
          "Rotation transition is outside its validity window"),
      (cfg.verifyRotation transition,
        .store "ECO_AUTHENTICATION_FAILED" "Authentication tag does not match"),
      ((db.book.rotations.get? transition.nonce).isNone,
        .store "ECO_ROTATION_REPLAYED" "Rotation nonce was already used")]
  let transitionDigest := cfg.semanticDigest (.rotation transition)
  let db : Db := { db with book := { db.book with
    rotations := db.book.rotations.insert transition.nonce
      { transitionDigest := transitionDigest
        fromKeyId := db.book.keyId
        toKeyId := transition.toKeyId
        appliedAt := utc now } } }
  let db := db.appendAudit cfg transactionId .hmacKeyRotation transition.nonce
    .keyRotation transitionDigest (utc now)
  return ({ db with book := { db.book with keyId := transition.toKeyId } },
    .digest transitionDigest)

end Runs

end Ecosystem.Store
