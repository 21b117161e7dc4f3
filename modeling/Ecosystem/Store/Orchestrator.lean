import Ecosystem.Store.Inversions

/-!
# The model orchestrator

`GovernedModelOrchestrator.execute`: between two steps any other party may call the store,
and the process may die; so an execution is a program counter (`Control`), and a step runs
up to the next transaction or call of the adapter.

`EgressSystem` puts any number of executions on one store.  Its log keeps who moved an
operation to `started` and who called the transport.
-/

namespace Ecosystem.Store

open Ecosystem.Lib Ecosystem.Runtime

/-! ## Executions -/

/-- The arguments of `execute`. -/
structure Execution where
  invocation : InvocationRequest
  inputText : String
  idempotencyKey : String
  cost : ℕ
  now : Instant

structure ModelInvocationExecution where
  requestId : String
  state : ModelState
  modelResultDigest : Option String
  outputArtifactRecordDigest : Option String
  errorRecordDigest : Option String
  untrustedOutput : Option String
  replayed : Bool

/-- What `execute` raises: an error of the store, of its clock, of the policy
engine or of the artifact store. -/
inductive ExecutionError
  | store (error : StoreError)
  | policy (code : String)
  | artifacts (code : String)

/-- What `adapter.invoke` does.  It raises a `RuntimeAdapterError` with a code or
another exception, before or behind its one call of the transport, or it returns a
record and an output, which need not be what they should be. -/
inductive AdapterAnswer
  | unsent (code : Option String)
  | raised (code : Option String)
  | returned (record : Option ModelResult) (output : Option String)

def AdapterAnswer.isSent : AdapterAnswer → Bool
  | .unsent _ => false
  | _ => true

structure Surroundings where
  clock : Instant
  /-- `assert_decision_current`. -/
  current : Except String Unit
  /-- `authorize_model`: a decision and its first reason code. -/
  authorized : Except String (PolicyDecision × String)
  /-- `proof_for_record` of the input and `put` of the output. -/
  inputProof : Except String ArtifactAvailabilityProof
  outputProof : Except String ArtifactAvailabilityProof
  adapter : AdapterAnswer
  transactionId : String

inductive Ending
  | returned (execution : ModelInvocationExecution)
  | raised (error : ExecutionError)
  | crashed

inductive Control
  | begun
  /-- The replay check has passed; `existing` if it found a prepared operation. -/
  | inspected (existing : Bool)
  | prepared (now : Instant)
  | resuming (decision : PolicyDecision) (now : Instant)
  /-- The operation is started by this execution. -/
  | fenced (now : Instant)
  | answered (answer : AdapterAnswer) (now : Instant)
  | denied (decision : PolicyDecision) (rule : String) (now : Instant)
  | failing (code : String) (rule : Option String) (now : Instant)
  | completing (result : ModelResult) (output : String) (decision : PolicyDecision)
      (now : Instant)
  | ended (ending : Ending)

section Execute

variable (cfg : StoreConfig)

def Db.exactModelReplayStatus (db : Db) (r : InvocationRequest)
    (idempotencyKey : String) (cost : ℕ) :
    Except StoreError (Option ModelOperationRow) := do
  require [(1 ≤ idempotencyKey.length && idempotencyKey.length ≤ 512,
    .value "idempotency_key must be a bounded non-empty string")]
  requireValid cfg
    [.modelRequest r.request, .endpointBinding r.endpointBinding,
      .artifactRecord r.inputArtifact, .policyDecision r.decision]
    (invalidRecord "Model replay input is invalid")
  match db.tables.modelOperations.get? r.requestId with
  | none => return none
  | some operation => do
    let conflict : StoreError := .store "ECO_IDEMPOTENCY_CONFLICT"
      "Model replay differs from its durable invocation"
    let reservation ← expect conflict
      (db.tables.modelReservations.get? r.requestId)
    require [(operation.runId = r.request.metadata.runId &&
      operation.idempotencyKeyDigest =
        cfg.semanticDigest (.modelIdempotency idempotencyKey) &&
      operation.requestDigest = r.requestDigest cfg &&
      operation.planDigest = r.request.planDigest &&
      operation.endpointBindingDigest = r.endpointDigest cfg &&
      operation.inputArtifactRecordDigest = r.inputArtifactDigest cfg &&
      operation.allowDecisionDigest = r.decisionDigest cfg &&
      reservation.reservedOutputBytes = r.reservedOutputBytes &&
      reservation.reservedTotalTokens = r.reservedTotalTokens &&
      reservation.reservedCostMicrousd = cost, conflict)]
    return some operation

namespace Execution

def requestId (x : Execution) : String := x.invocation.requestId

def request (x : Execution) : ModelRequest := x.invocation.request

def raise (error : StoreError) : Control := .ended (.raised (.store error))

def replay (x : Execution) (operation : ModelOperationRow) : Control :=
  match operation.state with
  | .started => raise startedTwice
  | .prepared => raise (.store "ECO_MODEL_OPERATION_IN_PROGRESS"
      "Prepared model invocation has not reached its egress fence")
  | state => .ended (.returned
      { requestId := x.requestId
        state := state
        modelResultDigest := operation.modelResultDigest
        outputArtifactRecordDigest := operation.outputArtifactRecordDigest
        errorRecordDigest := operation.errorRecordDigest
        untrustedOutput := none
        replayed := true })

variable (sha256 : String → String)

def inputMatches (x : Execution) : Bool :=
  let artifact := x.invocation.inputArtifact.spec
  x.inputText.utf8ByteSize = artifact.byteLength.value &&
    sha256 x.inputText = artifact.sha256 &&
    x.request.input.contentDigest = artifact.sha256

def checkInput (x : Execution) (existing : Bool) : Control :=
  if x.inputMatches sha256 then .inspected existing
  else raise (.store "ECO_MODEL_INPUT_MISMATCH"
    "Model input does not match its artifact")

/-- Up to the replay check and the check of the input. -/
def inspect (x : Execution) (db : Db) : Control :=
  if !x.invocation.records.all (Record.valid cfg.schema) then
    raise (invalidRecord "Model invocation input is invalid")
  else if x.cost ≠ 0 then
    raise (.store "ECO_PRICING_AUTHORITY_REQUIRED"
      "M6.1 accepts only an exact zero-cost local model profile")
  else
    match db.exactModelReplayStatus cfg x.invocation x.idempotencyKey x.cost with
    | .error error => raise error
    | .ok none => x.checkInput sha256 false
    | .ok (some operation) =>
      if operation.state ≠ .prepared then x.replay operation
      else x.checkInput sha256 true

def completionTime (startedAt clock : Instant) : Except ExecutionError Instant :=
  if clock.us < startedAt.us then
    .error (.store (.store "ECO_CLOCK_ROLLBACK" "Completion clock moved backwards"))
  else .ok clock

/-- The policy gates in front of the preparation; a resumption yields its fresh
decision. -/
def gate (existing : Bool) (env : Surroundings) :
    Except ExecutionError (Option PolicyDecision) :=
  if existing then do
    let (decision, reason) ← env.authorized.mapError .policy
    if decision.effect = .allow then return some decision
    else .error (.store (.store reason
      "Policy denied resuming the prepared model invocation"))
  else do
    env.current.mapError .policy
    let (decision, reason) ← env.authorized.mapError .policy
    if decision.effect = .allow then return none
    else .error (.store (.store reason "Policy denied the exact model invocation"))

/-- Everything that `prepare_model_invocation` is called with. -/
def authorize (x : Execution) (existing : Bool) (env : Surroundings) :
    Except ExecutionError (Instant × Option PolicyDecision ×
      ArtifactAvailabilityProof) := do
  let now ← completionTime x.now env.clock
  let resume ← gate existing env
  let proof ← env.inputProof.mapError .artifacts
  return (now, resume, proof)

def afterPrepare (x : Execution) (now : Instant) (resume : Option PolicyDecision) :
    Answer → Control
  | .modelOperation operation _ =>
    if operation.state ≠ .prepared then x.replay operation
    else
      match resume with
      | some decision => .resuming decision now
      | none => raise (.store "ECO_MODEL_RESUME_AUTHORITY_REQUIRED"
          "Prepared model invocation requires fresh authority")
  | .prepared _ _ => .prepared now
  | _ => raise .missingKey

def afterStart (x : Execution) (now : Instant) : Answer → Control
  | .modelOperation operation replayed =>
    if replayed || operation.state ≠ .started then x.replay operation
    else .fenced now
  | _ => raise .missingKey

def transact (db : Db) (result : Result) (next : Answer → Control) : Db × Control :=
  match result with
  | .ok (db', answer) => (db', next answer)
  | .error error => (db, raise error)

/-- The code that `_fail` is called with when the adapter raises. -/
def failureCode (code : Option String) : String :=
  match code with
  | some code =>
    if (safeModelErrorMessages.lookup code).isSome then code
    else "ECO_ADAPTER_TRANSPORT"
  | none => "ECO_ADAPTER_TRANSPORT"

/-- Behind a usable answer: the deadline of the run and the final policy gate. -/
def finalize (x : Execution) (db : Db) (env : Surroundings) (result : ModelResult)
    (output : String) (now : Instant) : Except ExecutionError Control := do
  let budget ← (expect (.store "ECO_BUDGET_UNINITIALIZED" "Run budget is unavailable")
    (db.tables.budgets.get? x.request.metadata.runId)).mapError .store
  let deadline ← (parse budget.deadlineAt).mapError .store
  if deadline.us ≤ now.us then return .failing "ECO_DEADLINE_EXCEEDED" none now
  let (decision, reason) ← env.authorized.mapError .policy
  if decision.effect = .allow then return .completing result output decision now
  else return .denied decision reason now

def settle (x : Execution) (db : Db) (env : Surroundings) (answer : AdapterAnswer)
    (startedAt : Instant) : Except ExecutionError Control := do
  let now ← completionTime startedAt env.clock
  match answer with
  | .unsent code | .raised code => return .failing (failureCode code) none now
  | .returned (some record) (some output) =>
    let result := { record with
      metadata := { record.metadata with createdAt := utc now } }
    if Record.valid cfg.schema (.modelResult result) then
      x.finalize db env result output now
    else return .failing "ECO_ADAPTER_RESPONSE_INVALID" none now
  | .returned _ _ => return .failing "ECO_ADAPTER_RESPONSE_INVALID" none now

/-- The error record of `_fail`. -/
def failure (x : Execution) (code : String) (rule : Option String) (now : Instant) :
    ErrorRecord :=
  modelError cfg x.requestId x.request.metadata.runId
    { code := code
      category :=
        if code = "ECO_MODEL_FINALIZATION_DENIED" then .policy
        else if code = "ECO_DEADLINE_EXCEEDED" then .budget else .adapter
      stage := .model
      retryable := false
      safeMessage := (safeModelErrorMessages.lookup code).getD ""
      details := some
        (if code = "ECO_MODEL_FINALIZATION_DENIED" then { policyRule := rule }
          else { deploymentId := some x.request.deploymentId }) } now

/-- What `_fail` returns. -/
def afterFail (x : Execution) : Answer → Control
  | .modelOperation operation _ => .ended (.returned
      { requestId := x.requestId
        state := operation.state
        modelResultDigest := none
        outputArtifactRecordDigest := none
        errorRecordDigest := operation.errorRecordDigest
        untrustedOutput := none
        replayed := false })
  | _ => raise .missingKey

def fail (x : Execution) (db : Db) (code : String) (rule : Option String)
    (now : Instant) (transactionId : String) : Db × Control :=
  let error := x.failure cfg code rule now
  if Record.valid cfg.schema (.errorRecord error) then
    transact db
      (db.failModelInvocation cfg x.requestId error now (.trusted .adapter)
        transactionId)
      x.afterFail
  else (db, raise .contract)

/-- The artifact record of `_complete`. -/
def outputArtifact (x : Execution) (result : ModelResult) (now : Instant) :
    ArtifactRecord :=
  let runId := x.request.metadata.runId
  let id := modelOutputId cfg x.requestId
  { metadata := { id := id, runId := runId, createdAt := utc now }
    spec :=
      { role := .output
        mediaType := "text/plain"
        byteLength := { value := result.output.byteLength }
        sha256 := result.output.contentDigest
        dataClass := result.output.dataClass
        trust := .p0
        producer := ⟨.model, x.request.deploymentId⟩
        storageRef := "artifact://runs/" ++ runId ++ "/" ++ id
        parentRefs := some [x.invocation.inputArtifact.spec.storageRef]
        retention := .run } }

/-- What `_complete` returns. -/
def afterComplete (x : Execution) (output : String) : Answer → Control
  | .modelOperation operation _ => .ended (.returned
      { requestId := x.requestId
        state := operation.state
        modelResultDigest := operation.modelResultDigest
        outputArtifactRecordDigest := operation.outputArtifactRecordDigest
        errorRecordDigest := none
        untrustedOutput := some output
        replayed := false })
  | _ => raise .missingKey

def complete (x : Execution) (db : Db) (result : ModelResult) (output : String)
    (decision : PolicyDecision) (now : Instant) (env : Surroundings) : Db × Control :=
  let artifact := x.outputArtifact cfg result now
  match env.outputProof with
  | .error code => (db, .ended (.raised (.artifacts code)))
  | .ok proof =>
    if Record.valid cfg.schema (.artifactRecord artifact) then
      transact db
        (db.completeModelInvocation cfg x.requestId ⟨result, artifact, decision⟩
          proof now (.trusted .adapter) env.transactionId)
        (x.afterComplete output)
    else (db, raise .contract)

def orRaise (next : Except ExecutionError Control) : Control :=
  match next with
  | .ok control => control
  | .error error => .ended (.raised error)

def prepare (x : Execution) (db : Db) (existing : Bool) (env : Surroundings) :
    Db × Control :=
  match x.authorize existing env with
  | .error error => (db, .ended (.raised error))
  | .ok (now, resume, proof) =>
    transact db
      (db.prepareModelInvocation cfg x.invocation proof x.idempotencyKey x.cost now
        (.trusted .policy) (.trusted .runtime) (.trusted .adapter)
        env.transactionId)
      (x.afterPrepare now resume)

/-- One step of `execute`. -/
def step (x : Execution) (db : Db) (env : Surroundings) : Control → Db × Control
  | .begun => (db, x.inspect cfg sha256 db)
  | .inspected existing => x.prepare cfg db existing env
  | .prepared now =>
    transact db
      (db.startModelInvocation cfg x.requestId now (.trusted .adapter)
        env.transactionId)
      (x.afterStart now)
  | .resuming decision now =>
    transact db
      (db.resumePreparedModelInvocation cfg x.request decision now
        (.trusted .policy) (.trusted .adapter) env.transactionId)
      (x.afterStart now)
  | .fenced now => (db, .answered env.adapter now)
  | .answered answer now => (db, orRaise (x.settle cfg db env answer now))
  | .denied decision rule now =>
    transact db
      (db.issueDecisionCall cfg decision
        x.invocation.plan.project.semanticConfigDigest (.trusted .policy)
        env.transactionId)
      fun _ => .failing "ECO_MODEL_FINALIZATION_DENIED" (some rule) now
  | .failing code rule now => x.fail cfg db code rule now env.transactionId
  | .completing result output decision now =>
    x.complete cfg db result output decision now env
  | .ended ending => (db, .ended ending)

end Execution

end Execute

/-! ## Executions on one store -/

structure Worker where
  execution : Execution
  control : Control := .begun

inductive Egress
  /-- A transaction moved the operation to `started`: of a worker, or of another
  caller. -/
  | entered (worker : Option ℕ) (requestId : String)
  | sent (worker : ℕ) (requestId : String)

structure EgressSystem where
  db : Db
  workers : ℕ → Option Worker
  log : List Egress

def Tables.startedSince (t t' : Tables) : List String :=
  (t'.modelOperations.entries.filter fun e => e.2.state = .started &&
    (t.modelOperations.get? e.1).all (·.state ≠ .started)).map Prod.fst

inductive EgressAction
  /-- A new execution, under a number that is not taken. -/
  | spawn (worker : ℕ) (execution : Execution)
  | run (worker : ℕ) (env : Surroundings)
  | crash (worker : ℕ)
  /-- A call of anyone else: an operator, a recovery job, another client. -/
  | call (call : Call)

section System

variable (cfg : StoreConfig) (sha256 : String → String)

namespace EgressSystem

def setControl (s : EgressSystem) (worker : ℕ) (control : Control) :
    ℕ → Option Worker :=
  Function.update s.workers worker
    ((s.workers worker).map fun w => { w with control := control })

def runWorker (s : EgressSystem) (worker : ℕ) (w : Worker) (env : Surroundings) :
    EgressSystem :=
  let (db, control) := w.execution.step cfg sha256 s.db env w.control
  let sent := match w.control with
    | .fenced _ => env.adapter.isSent
    | _ => false
  { db := db
    workers := s.setControl worker control
    log := s.log ++ (s.db.tables.startedSince db.tables).map (.entered (some worker)) ++
      if sent then [.sent worker w.execution.requestId] else [] }

def step (s : EgressSystem) : EgressAction → EgressSystem
  | .spawn worker execution =>
    if (s.workers worker).isSome then s
    else { s with workers :=
      Function.update s.workers worker (some { execution := execution }) }
  | .run worker env =>
    match s.workers worker with
    | some w => s.runWorker cfg sha256 worker w env
    | none => s
  | .crash worker => { s with workers := s.setControl worker (.ended .crashed) }
  | .call call =>
    let db := Db.call cfg s.db call
    { s with
      db := db
      log := s.log ++ (s.db.tables.startedSince db.tables).map (.entered none) }

end EgressSystem

def EgressSystem.new (keyId : String) : EgressSystem where
  db := Db.new keyId
  workers _ := none
  log := []

def egressAfter (keyId : String) (actions : List EgressAction) : EgressSystem :=
  actions.foldl (EgressSystem.step cfg sha256) (.new keyId)

end System

end Ecosystem.Store
