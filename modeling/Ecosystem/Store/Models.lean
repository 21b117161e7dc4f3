import Ecosystem.Store.Reads

/-!
# Model invocations

A model invocation is prepared with its output bytes, tokens and cost reserved, started
before the adapter sends anything, and then completed, failed or resolved as ambiguous.
Success charges the bytes that came back and the reserved tokens; failure and ambiguity
charge the reserved tokens.
-/

namespace Ecosystem.Store

open Ecosystem.Lib Ecosystem.Runtime

section Models

variable (cfg : StoreConfig)

/-! ## Preparation -/

structure InvocationRequest where
  plan : RunPlan
  request : ModelRequest
  endpointBinding : EndpointBinding
  inputArtifact : ArtifactRecord
  decision : PolicyDecision

namespace InvocationRequest

def records (r : InvocationRequest) : List Record :=
  [.runPlan r.plan, .modelRequest r.request, .endpointBinding r.endpointBinding,
    .artifactRecord r.inputArtifact, .policyDecision r.decision]

def runId (r : InvocationRequest) : String := r.plan.metadata.runId

def requestId (r : InvocationRequest) : String := r.request.metadata.id

def planDigest (r : InvocationRequest) : String :=
  cfg.recordDigest (.runPlan r.plan)

def requestDigest (r : InvocationRequest) : String :=
  cfg.recordDigest (.modelRequest r.request)

def endpointDigest (r : InvocationRequest) : String :=
  cfg.recordDigest (.endpointBinding r.endpointBinding)

def inputArtifactDigest (r : InvocationRequest) : String :=
  cfg.recordDigest (.artifactRecord r.inputArtifact)

def decisionDigest (r : InvocationRequest) : String :=
  cfg.recordDigest (.policyDecision r.decision)

def reservedOutputBytes (r : InvocationRequest) : ℕ := r.request.maxOutputBytes

def reservedTotalTokens (r : InvocationRequest) : ℕ :=
  r.request.input.byteLength + r.request.maxOutputTokens

def isLocal (r : InvocationRequest) (cost : ℕ) : Bool :=
  cost = 0 && r.plan.budget.maxCostMicrousd = 0 &&
    r.plan.route.provider = "local" &&
    r.endpointBinding.transportProfile = .localLoopbackHttp &&
    r.endpointBinding.credentialMode = .none

/-- Do the plan, the request, the endpoint, the input and the decision name each
other? -/
def bound (r : InvocationRequest) : Bool :=
  let route := r.plan.route
  let request := r.request
  let endpoint := r.endpointBinding
  let artifact := r.inputArtifact.spec
  request.metadata.runId = r.runId &&
    r.inputArtifact.metadata.runId = r.runId &&
    request.planDigest = r.planDigest cfg &&
    r.decision.metadata.runId = r.runId &&
    r.decision.effect = .allow &&
    r.decision.subject = ⟨.modelRequest, r.requestId, r.requestDigest cfg⟩ &&
    request.deploymentId = route.deploymentId &&
    request.deploymentIdentityDigest = route.deploymentIdentityDigest &&
    request.endpointBindingDigest = r.endpointDigest cfg &&
    endpoint.deploymentId = route.deploymentId &&
    endpoint.deploymentIdentityDigest = route.deploymentIdentityDigest &&
    endpoint.endpointReferenceDigest = route.endpointReferenceDigest &&
    endpoint.adapter = route.adapter &&
    endpoint.adapterVersion = route.adapterVersion &&
    endpoint.model = route.model &&
    route.egressAllowed &&
    artifact.role = .input &&
    r.plan.inputs.find? (·.artifactRecordDigest = r.inputArtifactDigest cfg) = some
        { ref := artifact.storageRef
          artifactRecordDigest := r.inputArtifactDigest cfg
          contentDigest := artifact.sha256
          dataClass := artifact.dataClass
          byteLength := artifact.byteLength.value } &&
    request.input =
      { artifactRecordDigest := r.inputArtifactDigest cfg
        contentDigest := artifact.sha256
        byteLength := artifact.byteLength.value
        dataClass := artifact.dataClass
        trust := artifact.trust }

/-- The checks before the transaction; they yield the validity of the endpoint
binding. -/
def check (r : InvocationRequest) (proof : ArtifactAvailabilityProof) (cost : ℕ) :
    Except StoreError (Instant × Instant) := do
  requireValid cfg r.records (invalidRecord "Model invocation input is invalid")
  requireAvailable cfg r.inputArtifact (some proof)
    (.store "ECO_ARTIFACT_PROOF_REQUIRED"
      "Model input requires durable artifact availability proof")
    (.store "ECO_ARTIFACT_PROOF_INVALID" "Model input proof binding differs")
  requirePlanProfile cfg r.plan
  requireDecisionProfile cfg r.decision r.plan.project.semanticConfigDigest
  require [(r.isLocal cost, .store "ECO_PRICING_AUTHORITY_REQUIRED"
    "M6.1 model execution is limited to an exact zero-cost local profile")]
  let resolvedAt ← parse r.endpointBinding.resolvedAt
  let validUntil ← parse r.endpointBinding.validUntil
  require [(r.bound cfg,
    .store "ECO_MODEL_BINDING_INVALID" "Model invocation binding is invalid")]
  return (resolvedAt, validUntil)

end InvocationRequest

/-- `run_id = ? AND idempotency_key_digest = ?`. -/
def Tables.modelByKey? (t : Tables) (runId key : String) :
    Option (String × ModelOperationRow) :=
  t.modelOperations.entries.find? fun e =>
    e.2.runId = runId && e.2.idempotencyKeyDigest = key

def Tables.hasModelRequest (t : Tables) (digest : String) : Bool :=
  t.modelOperations.entries.any fun e => e.2.requestDigest = digest

/-- `SUM(…) … WHERE run_id = ? AND state = 'reserved'`. -/
def Tables.outstanding (t : Tables) (runId : String)
    (amount : ModelReservationRow → ℕ) : ℕ :=
  t.modelReservations.sumBy fun _ row =>
    if row.runId = runId ∧ row.state = .reserved then amount row else 0

/-- Does the budget have room for the reservation beside the outstanding ones? -/
def Tables.modelRoom (t : Tables) (r : InvocationRequest) (cost : ℕ)
    (b : BudgetRow) : Bool :=
  b.planDigest = r.planDigest cfg &&
    b.modelRequests + 1 ≤ b.limits.maxModelRequests &&
    b.outputBytes + t.outstanding r.runId (·.reservedOutputBytes) +
      r.reservedOutputBytes ≤ b.limits.maxOutputBytes &&
    b.totalTokens + t.outstanding r.runId (·.reservedTotalTokens) +
      r.reservedTotalTokens ≤ b.limits.maxTotalTokens &&
    b.costMicrousd + t.outstanding r.runId (·.reservedCostMicrousd) + cost ≤
      b.limits.maxCostMicrousd

def Db.withModelOperation (db : Db) (r : InvocationRequest)
    (idempotencyDigest : String) (cost : ℕ) (now : Instant) : Db :=
  { db with tables := { db.tables with
      modelOperations := db.tables.modelOperations.insert r.requestId
        { runId := r.runId
          idempotencyKeyDigest := idempotencyDigest
          requestDigest := r.requestDigest cfg
          planDigest := r.planDigest cfg
          endpointBindingDigest := r.endpointDigest cfg
          inputArtifactRecordDigest := r.inputArtifactDigest cfg
          allowDecisionDigest := r.decisionDigest cfg
          createdAt := utc now
          updatedAt := utc now }
      modelReservations := db.tables.modelReservations.insert r.requestId
        { runId := r.runId
          planDigest := r.planDigest cfg
          reservedOutputBytes := r.reservedOutputBytes
          reservedTotalTokens := r.reservedTotalTokens
          reservedCostMicrousd := cost
          createdAt := utc now
          updatedAt := utc now } } }

def exhaustedModelBudget : StoreError :=
  .store "ECO_BUDGET_EXHAUSTED" "Model invocation budget is exhausted"

def Db.countModelRequest (db : Db) (r : InvocationRequest) (now : Instant) :
    Except StoreError Db :=
  db.updateBudget r.runId
    (fun b => b.planDigest = r.planDigest cfg &&
      cfg.instantEpochUs now < b.deadlineEpochUs &&
      b.modelRequests + 1 ≤ b.limits.maxModelRequests)
    (fun b => { b with
      modelRequests := b.modelRequests + 1
      updatedAt := utc now })
    (.store "ECO_BUDGET_EXHAUSTED" "Model request budget is exhausted")

def modelEntities (requestId : String) : List (EntityType × String) :=
  [(.modelOperation, requestId), (.modelReservation, requestId)]

/-- `prepare_model_invocation` of an invocation that is not there yet. -/
def Db.openModel (db : Db) (r : InvocationRequest) (validity : Instant × Instant)
    (idempotencyDigest : String) (cost : ℕ) (now : Instant)
    (transactionId : String) : Result := do
  require
    [(validity.1.us ≤ now.us && now.us < validity.2.us,
        .store "ECO_ENDPOINT_BINDING_EXPIRED"
          "Endpoint binding is not currently valid"),
      (!db.tables.hasModelRequest (r.requestDigest cfg),
        .store "ECO_OPERATION_SUBJECT_CONFLICT"
          "Model request already has an invocation")]
  let notActive : StoreError :=
    .store "ECO_PLAN_UNTRUSTED" "Plan is not the active model authority"
  let run ← expect notActive (db.tables.runs.get? r.runId)
  let planRow ← expect notActive (db.tables.plans.get? r.plan.metadata.id)
  require [(run.state = .running &&
    run.activePlanDigest = some (r.planDigest cfg) &&
    planRow.planDigest = r.planDigest cfg, notActive)]
  requireClock run now
  require [(run.isLive (cfg.instantEpochUs now), deadlineElapsed)]
  let budget ← expect exhaustedModelBudget (db.tables.budgets.get? r.runId)
  require [(db.tables.modelRoom cfg r cost budget, exhaustedModelBudget)]
  let db ← db.issueDecision cfg r.decision transactionId
  let db ← db.consumeDecision cfg r.decision (r.requestDigest cfg) r.requestId
    transactionId now
  let db ← db.recordIfNew cfg transactionId (.endpointBinding r.endpointBinding)
  let db ← db.recordIfNew cfg transactionId (.artifactRecord r.inputArtifact)
  let db ← db.recordIfNew cfg transactionId (.modelRequest r.request)
  let db ← db.countModelRequest cfg r now
  require [((db.tables.modelOperations.get? r.requestId).isNone &&
    (db.tables.modelReservations.get? r.requestId).isNone, .integrity)]
  let db := db.withModelOperation cfg r idempotencyDigest cost now
  let db ← db.recordAuthorityRevisions cfg
    ((.budget, r.runId) :: modelEntities r.requestId) transactionId (utc now)
  return (db, .prepared r.requestId (r.requestDigest cfg))

/-- `prepare_model_invocation` of an invocation that is there. -/
def Db.reopenModel (db : Db) (r : InvocationRequest) (requestId : String)
    (existing : ModelOperationRow) (cost : ℕ) : Result := do
  let conflict : StoreError := .store "ECO_IDEMPOTENCY_CONFLICT"
    "Model idempotency key is bound to another invocation"
  let reservation ← expect conflict (db.tables.modelReservations.get? requestId)
  require [(existing.requestDigest = r.requestDigest cfg &&
    existing.planDigest = r.planDigest cfg &&
    existing.endpointBindingDigest = r.endpointDigest cfg &&
    existing.inputArtifactRecordDigest = r.inputArtifactDigest cfg &&
    existing.allowDecisionDigest = r.decisionDigest cfg &&
    reservation.planDigest = r.planDigest cfg &&
    reservation.reservedOutputBytes = r.reservedOutputBytes &&
    reservation.reservedTotalTokens = r.reservedTotalTokens &&
    reservation.reservedCostMicrousd = cost, conflict)]
  return (db, .modelOperation existing true)

def Db.prepareModelInvocation (db : Db) (r : InvocationRequest)
    (proof : ArtifactAvailabilityProof) (idempotencyKey : String) (cost : ℕ)
    (now : Instant)
    (policyCapability runtimeCapability adapterCapability : Capability)
    (transactionId : String) : Result := do
  requireCapability .policy policyCapability
  requireCapability .runtime runtimeCapability
  requireCapability .adapter adapterCapability
  require [(1 ≤ idempotencyKey.length && idempotencyKey.length ≤ 512,
    .value "idempotency_key must be a bounded non-empty string")]
  let idempotencyDigest := cfg.semanticDigest (.modelIdempotency idempotencyKey)
  let validity ← r.check cfg proof cost
  match db.tables.modelByKey? r.runId idempotencyDigest with
  | some (requestId, existing) => db.reopenModel cfg r requestId existing cost
  | none => db.openModel cfg r validity idempotencyDigest cost now transactionId

/-! ## The start fence -/

def unknownModel : StoreError :=
  .store "ECO_MODEL_OPERATION_UNKNOWN" "Model operation does not exist"

def startedTwice : StoreError := .store "ECO_MODEL_INVOCATION_AMBIGUOUS"
  "Started model invocation cannot be retried automatically"

def Db.withStartedModel (db : Db) (requestId : String)
    (resumeDecisionDigest : Option String) (now : Instant) : Db :=
  { db with tables := { db.tables with
      modelOperations := db.tables.modelOperations.modify requestId fun row =>
        { row with
          state := .started
          startedAt := some (utc now)
          resumeDecisionDigest := resumeDecisionDigest
          updatedAt := utc now } } }

/-- The revisions of a settled or started invocation, and the row that the call
returns. -/
def Db.closeModel (db : Db) (entities : List (EntityType × String))
    (requestId : String) (now : Instant) (transactionId : String) : Result := do
  let db ← db.recordAuthorityRevisions cfg entities transactionId (utc now)
  let row ← expect unknownModel (db.tables.modelOperations.get? requestId)
  return (db, .modelOperation row false)

def Db.startPreparedModel (db : Db) (requestId : String)
    (operation : ModelOperationRow) (now : Instant) (transactionId : String) :
    Result := do
  db.requireLiveRunTime cfg operation.runId now
  let db := db.withStartedModel requestId operation.resumeDecisionDigest now
  db.closeModel cfg [(.modelOperation, requestId)] requestId now transactionId

def Db.startModelInvocation (db : Db) (requestId : String) (now : Instant)
    (capability : Capability) (transactionId : String) : Result := do
  requireCapability .adapter capability
  let operation ← expect unknownModel (db.tables.modelOperations.get? requestId)
  match operation.state with
  | .started => .error startedTwice
  | .prepared => db.startPreparedModel cfg requestId operation now transactionId
  | _ => return (db, .modelOperation operation true)

/-- `SELECT plan_id FROM plans WHERE plan_digest = ?`. -/
def Tables.planByDigest? (t : Tables) (digest : String) : Option String :=
  (t.plans.entries.find? fun e => e.2.planDigest = digest).map Prod.fst

def Db.loadModelPlan (db : Db) (operation : ModelOperationRow) :
    Except StoreError RunPlan := do
  let planId ← expect (.store "ECO_PLAN_UNTRUSTED" "Model plan is unavailable")
    (db.tables.planByDigest? operation.planDigest)
  let plan ← db.loadRecord planId
  plan.asPlan

def Db.resumePreparedModel (db : Db) (request : ModelRequest)
    (decision : PolicyDecision) (operation : ModelOperationRow) (now : Instant)
    (transactionId : String) : Result := do
  let requestId := request.metadata.id
  let requestDigest := cfg.recordDigest (.modelRequest request)
  let decisionDigest := cfg.recordDigest (.policyDecision decision)
  let plan ← db.loadModelPlan operation
  requireDecisionProfile cfg decision plan.project.semanticConfigDigest
  require [(requestDigest = operation.requestDigest &&
      decision.metadata.runId = operation.runId && decision.effect = .allow &&
      decision.subject = ⟨.modelRequest, requestId, requestDigest⟩,
    .store "ECO_MODEL_BINDING_INVALID" "Model resume binding is invalid")]
  db.requireLiveRunTime cfg operation.runId now
  let db ← db.issueDecision cfg decision transactionId
  let db ← db.consumeDecision cfg decision requestDigest
    ("resume-" ++ cfg.semanticDigest (.requestDecision requestId decisionDigest))
    transactionId now
  let db := db.withStartedModel requestId (some decisionDigest) now
  db.closeModel cfg [(.modelOperation, requestId)] requestId now transactionId

def Db.resumePreparedModelInvocation (db : Db) (request : ModelRequest)
    (decision : PolicyDecision) (now : Instant)
    (policyCapability adapterCapability : Capability) (transactionId : String) :
    Result := do
  requireCapability .policy policyCapability
  requireCapability .adapter adapterCapability
  requireValid cfg [.modelRequest request, .policyDecision decision]
    (invalidRecord "Model resume authority is invalid")
  let operation ← expect unknownModel
    (db.tables.modelOperations.get? request.metadata.id)
  match operation.state with
  | .started => .error startedTwice
  | .prepared => db.resumePreparedModel cfg request decision operation now transactionId
  | _ => return (db, .modelOperation operation true)

/-! ## Abort before egress -/

inductive AbortReason
  | cancelled | deadlineExpired | endpointExpired

def Record.asEndpoint : Record → Except StoreError EndpointBinding
  | .endpointBinding endpoint => .ok endpoint
  | _ => .error .missingKey

def requireAbortObserved (reason : AbortReason) (run : RunRow)
    (endpoint : Record) (now : Instant) : Except StoreError Unit :=
  match reason with
  | .cancelled => .ok ()
  | .deadlineExpired => do
    let deadline ← expect (.value "'>' not supported") run.deadlineEpochUs
    require [(deadline ≤ cfg.instantEpochUs now,
      .store "ECO_MODEL_ABORT_NOT_OBSERVED" "Run deadline has not elapsed")]
  | .endpointExpired => do
    let endpoint ← endpoint.asEndpoint
    let validUntil ← parse endpoint.validUntil
    require [(validUntil.us ≤ now.us,
      .store "ECO_MODEL_ABORT_NOT_OBSERVED" "Endpoint binding has not expired")]

def modelError (requestId runId : String) (spec : ErrorSpec) (now : Instant) :
    ErrorRecord where
  metadata :=
    { id := modelErrorId cfg requestId
      runId := runId
      requestId := some requestId
      createdAt := utc now }
  spec := spec

def preparedAbortSpec : ErrorSpec where
  code := "ECO_MODEL_PREPARED_ABORTED"
  category := .internal
  stage := .model
  retryable := false
  safeMessage := "Prepared model invocation was aborted before egress"

/-- The row of a model operation that ends with an error record. -/
def Db.withFailedModel (db : Db) (requestId : String) (state : ModelState)
    (errorDigest : String) (now : Instant) : Db :=
  { db with tables := { db.tables with
      modelOperations := db.tables.modelOperations.modify requestId fun row =>
        { row with
          state := state
          errorRecordDigest := some errorDigest
          updatedAt := utc now } } }

def incompleteAuthority : StoreError :=
  .store "ECO_JOURNAL_CORRUPT" "Prepared model authority is incomplete"

/-- `abort_prepared_model_invocation` of a prepared operation. -/
def Db.abortPreparedModel (db : Db) (requestId : String)
    (operation : ModelOperationRow) (reason : AbortReason) (now : Instant)
    (transactionId : String) : Result := do
  let run ← expect incompleteAuthority (db.tables.runs.get? operation.runId)
  let endpointRow ← expect incompleteAuthority
    (db.recordByDigest? operation.endpointBindingDigest)
  let reservation ← expect incompleteAuthority
    (db.tables.modelReservations.get? requestId)
  requireClock run now
  requireAbortObserved cfg reason run endpointRow.record now
  require [(reservation.state = .reserved,
    .store "ECO_RESERVATION_INVALID" "Prepared reservation is not releasable")]
  let error := modelError cfg requestId operation.runId preparedAbortSpec now
  requireValid cfg [.errorRecord error] .contract
  let errorDigest := cfg.recordDigest (.errorRecord error)
  let db ← db.recordIfNew cfg transactionId (.errorRecord error)
  let db : Db := { db with tables := { db.tables with
    modelReservations := db.tables.modelReservations.modify requestId fun row =>
      { row with
        actualOutputBytes := none
        actualTotalTokens := none
        chargedTotalTokens := some 0
        chargedCostMicrousd := some 0
        state := .committed
        updatedAt := utc now } } }
  let db := db.withFailedModel requestId .failed errorDigest now
  let db := db.withNonceResult requestId errorDigest
  db.closeModel cfg (modelEntities requestId) requestId now transactionId

def Db.errorCode? (db : Db) (digest : Option String) : Option String := do
  let digest ← digest
  let row ← db.recordByDigest? digest
  match row.record with
  | .errorRecord error => some error.spec.code
  | _ => none

def Db.abortPreparedModelInvocation (db : Db) (request : ModelRequest)
    (reason : AbortReason) (now : Instant) (capability : Capability)
    (transactionId : String) : Result := do
  requireCapability .runtime capability
  requireValid cfg [.modelRequest request]
    (invalidRecord "Model abort request is invalid")
  let requestId := request.metadata.id
  let operation ← expect unknownModel (db.tables.modelOperations.get? requestId)
  require [(operation.requestDigest = cfg.recordDigest (.modelRequest request),
    .store "ECO_MODEL_BINDING_INVALID" "Model abort request binding is invalid")]
  match operation.state with
  | .failed => do
    require [(db.errorCode? operation.errorRecordDigest = some "ECO_MODEL_PREPARED_ABORTED",
      .store "ECO_OPERATION_CONFLICT" "Model operation has another failure")]
    return (db, .modelOperation operation true)
  | .started | .ambiguous => .error (.store "ECO_MODEL_INVOCATION_AMBIGUOUS"
      "Model operation crossed or may have crossed its egress fence")
  | .succeeded => .error (.store "ECO_OPERATION_CONFLICT"
      "Terminal model operation cannot be aborted")
  | .prepared => db.abortPreparedModel cfg requestId operation reason now transactionId

/-! ## Completion -/

/-- The run of a started operation: running under the plan of the operation,
with a clock that did not go back. -/
def Db.requireActiveModelRun (db : Db) (operation : ModelOperationRow)
    (now : Instant) (err : StoreError) : Except StoreError Unit := do
  let run ← expect err (db.tables.runs.get? operation.runId)
  require [(run.state = .running &&
    run.activePlanDigest = some operation.planDigest, err)]
  let updatedAt ← parse run.updatedAt
  require [(updatedAt.us ≤ now.us, err)]

def Record.asModelRequest : Record → Except StoreError ModelRequest
  | .modelRequest request => .ok request
  | _ => .error .missingKey

def Record.asArtifact : Record → Except StoreError ArtifactRecord
  | .artifactRecord artifact => .ok artifact
  | _ => .error .missingKey

structure InvocationResult where
  result : ModelResult
  outputArtifact : ArtifactRecord
  finalizationDecision : PolicyDecision

namespace InvocationResult

def resultDigest (r : InvocationResult) : String :=
  cfg.recordDigest (.modelResult r.result)

def artifactDigest (r : InvocationResult) : String :=
  cfg.recordDigest (.artifactRecord r.outputArtifact)

def decisionDigest (r : InvocationResult) : String :=
  cfg.recordDigest (.policyDecision r.finalizationDecision)

/-- Is the finalization decision about this operation? -/
def authorized (r : InvocationResult) (requestId : String)
    (operation : ModelOperationRow) : Bool :=
  r.finalizationDecision.metadata.runId = operation.runId &&
    r.finalizationDecision.effect = .allow &&
    r.finalizationDecision.subject = ⟨.modelRequest, requestId, operation.requestDigest⟩

def bound (r : InvocationResult) (requestId : String)
    (operation : ModelOperationRow) (request : ModelRequest)
    (input : ArtifactRecord) (endpoint : EndpointBinding) (now : Instant) : Bool :=
  let result := r.result
  let artifact := r.outputArtifact
  result.metadata.runId = operation.runId &&
    result.metadata.requestId = requestId &&
    result.metadata.createdAt = utc now &&
    result.modelRequestDigest = operation.requestDigest &&
    result.deploymentId = request.deploymentId &&
    result.deploymentIdentityDigest = request.deploymentIdentityDigest &&
    result.endpointBindingDigest = operation.endpointBindingDigest &&
    result.adapterVersion = endpoint.adapterVersion &&
    artifact.metadata.id = modelOutputId cfg requestId &&
    artifact.metadata.runId = operation.runId &&
    artifact.metadata.createdAt = utc now &&
    artifact.spec.role = .output &&
    artifact.spec.mediaType = "text/plain" &&
    artifact.spec.byteLength.value = result.output.byteLength &&
    artifact.spec.sha256 = result.output.contentDigest &&
    artifact.spec.dataClass = result.output.dataClass &&
    artifact.spec.trust = .p0 &&
    artifact.spec.producer = ⟨.model, request.deploymentId⟩ &&
    artifact.spec.parentRefs = some [input.spec.storageRef] &&
    artifact.spec.storageRef =
      "artifact://runs/" ++ operation.runId ++ "/" ++ modelOutputId cfg requestId &&
    artifact.spec.retention = .run

end InvocationResult

def cannotSettle : StoreError :=
  .store "ECO_RESERVATION_INVALID" "Model budget cannot settle"

/-- The charge of a settled invocation: bytes that came back, reserved tokens and
reserved cost. -/
def Db.chargeModel (db : Db) (runId : String) (output tokens cost : ℕ)
    (now : Instant) (err : StoreError) : Except StoreError Db :=
  db.updateBudget runId
    (fun b => b.outputBytes + output ≤ b.limits.maxOutputBytes &&
      b.totalTokens + tokens ≤ b.limits.maxTotalTokens &&
      b.costMicrousd + cost ≤ b.limits.maxCostMicrousd)
    (fun b => { b with
      outputBytes := b.outputBytes + output
      totalTokens := b.totalTokens + tokens
      costMicrousd := b.costMicrousd + cost
      updatedAt := utc now })
    err

/-- The writes of `complete_model_invocation`. -/
def Db.commitModel (db : Db) (requestId : String) (operation : ModelOperationRow)
    (reservation : ModelReservationRow) (r : InvocationResult) (now : Instant)
    (capability : Capability) (transactionId : String) : Result := do
  let runId := operation.runId
  let db ← db.recordIfNew cfg transactionId (.modelResult r.result)
  let db ← db.recordIfNew cfg transactionId (.artifactRecord r.outputArtifact)
  let db ← db.issueDecision cfg r.finalizationDecision transactionId
  let db ← db.consumeDecision cfg r.finalizationDecision operation.requestDigest
    ("finalize-" ++ cfg.semanticDigest (.requestDecision requestId (r.decisionDigest cfg)))
    transactionId now
  let db ← db.chargeModel runId r.result.output.byteLength
    reservation.reservedTotalTokens reservation.reservedCostMicrousd now cannotSettle
  let db : Db := { db with tables := { db.tables with
    modelReservations := db.tables.modelReservations.modify requestId fun row =>
      { row with
        actualOutputBytes := some r.result.output.byteLength
        actualTotalTokens := some r.result.totalTokens
        chargedTotalTokens := some reservation.reservedTotalTokens
        chargedCostMicrousd := some row.reservedCostMicrousd
        state := .committed
        updatedAt := utc now }
    modelOperations := db.tables.modelOperations.modify requestId fun row =>
      { row with
        state := .succeeded
        modelResultDigest := some (r.resultDigest cfg)
        outputArtifactRecordDigest := some (r.artifactDigest cfg)
        finalizationDecisionDigest := some (r.decisionDigest cfg)
        updatedAt := utc now } } }
  let db := db.withNonceResult requestId (r.resultDigest cfg)
  let db ← db.appendGeneratedEvent cfg runId
    { type := .artifactRecorded
      producer := .adapter
      subjectId := some r.outputArtifact.metadata.id
      subjectDigest := some (r.artifactDigest cfg)
      resultDigest := some (r.artifactDigest cfg) }
    capability now transactionId
  db.closeModel cfg ((.budget, runId) :: modelEntities requestId) requestId now
    transactionId

/-- `complete_model_invocation` of a started operation. -/
def Db.completeStartedModel (db : Db) (requestId : String)
    (operation : ModelOperationRow) (r : InvocationResult) (now : Instant)
    (capability : Capability) (transactionId : String) : Result := do
  db.requireActiveModelRun operation now (.store "ECO_PLAN_NOT_ACTIVE"
    "Model completion requires its active running plan")
  let request ← db.loadRecord requestId
  let plan ← db.loadModelPlan operation
  requireDecisionProfile cfg r.finalizationDecision
    plan.project.semanticConfigDigest
  require [(r.authorized requestId operation,
    .store "ECO_MODEL_BINDING_INVALID" "Model finalization authority is invalid")]
  let inputRow ← expect
    (.store "ECO_JOURNAL_CORRUPT" "Model input artifact record is missing")
    (db.recordByDigest? operation.inputArtifactRecordDigest)
  let endpointRow ← expect
    (.store "ECO_JOURNAL_CORRUPT" "Model endpoint binding record is missing")
    (db.recordByDigest? operation.endpointBindingDigest)
  let request ← request.asModelRequest
  let input ← inputRow.record.asArtifact
  let endpoint ← endpointRow.record.asEndpoint
  require [(r.bound cfg requestId operation request input endpoint now,
    .store "ECO_MODEL_BINDING_INVALID" "Model success binding is invalid")]
  let unsettled : StoreError :=
    .store "ECO_RESERVATION_INVALID" "Model reservation cannot settle"
  let reservation ← expect unsettled (db.tables.modelReservations.get? requestId)
  require [(reservation.state = .reserved &&
    r.result.output.byteLength ≤ reservation.reservedOutputBytes &&
    r.result.totalTokens ≤ reservation.reservedTotalTokens, unsettled)]
  db.commitModel cfg requestId operation reservation r now capability transactionId

def Db.completeModelInvocation (db : Db) (requestId : String)
    (r : InvocationResult) (proof : ArtifactAvailabilityProof) (now : Instant)
    (capability : Capability) (transactionId : String) : Result := do
  requireCapability .adapter capability
  requireValid cfg
    [.modelResult r.result, .artifactRecord r.outputArtifact,
      .policyDecision r.finalizationDecision]
    (invalidRecord "Model success result is invalid")
  requireAvailable cfg r.outputArtifact (some proof)
    (.store "ECO_ARTIFACT_PROOF_REQUIRED"
      "Model output requires durable availability proof")
    (.store "ECO_ARTIFACT_PROOF_INVALID" "Model output proof binding differs")
  let operation ← expect unknownModel (db.tables.modelOperations.get? requestId)
  match operation.state with
  | .succeeded => do
    require [(operation.modelResultDigest = some (r.resultDigest cfg) &&
      operation.outputArtifactRecordDigest = some (r.artifactDigest cfg),
      .store "ECO_OPERATION_CONFLICT" "Model operation has another result")]
    return (db, .modelOperation operation true)
  | .started =>
    db.completeStartedModel cfg requestId operation r now capability transactionId
  | _ => .error (.store "ECO_MODEL_INVOCATION_AMBIGUOUS"
      "Model invocation is not safely completable")

/-! ## Failure and ambiguity -/

/-- What `fail_model_invocation` and `resolve_ambiguous_model_invocation` share:
the error record, the charge of the reserved ceiling and the `adapter.failed`
event. -/
def Db.chargeFailedModel (db : Db) (requestId : String)
    (operation : ModelOperationRow) (reservation : ModelReservationRow)
    (error : ErrorRecord) (state : ModelState) (err : StoreError) (now : Instant)
    (capability : Capability) (transactionId : String) : Result := do
  let runId := operation.runId
  let errorDigest := cfg.recordDigest (.errorRecord error)
  let db ← db.recordIfNew cfg transactionId (.errorRecord error)
  let db ← db.updateBudget runId
    (fun b => b.totalTokens + reservation.reservedTotalTokens ≤ b.limits.maxTotalTokens &&
      b.costMicrousd + reservation.reservedCostMicrousd ≤ b.limits.maxCostMicrousd)
    (fun b => { b with
      totalTokens := b.totalTokens + reservation.reservedTotalTokens
      costMicrousd := b.costMicrousd + reservation.reservedCostMicrousd
      updatedAt := utc now })
    err
  let db : Db := { db with tables := { db.tables with
    modelReservations := db.tables.modelReservations.modify requestId fun row =>
      { row with
        actualOutputBytes := none
        actualTotalTokens := none
        chargedTotalTokens := some row.reservedTotalTokens
        chargedCostMicrousd := some row.reservedCostMicrousd
        state := .uncertain
        updatedAt := utc now } } }
  let db := db.withFailedModel requestId state errorDigest now
  let db := db.withNonceResult requestId errorDigest
  let db ← db.appendGeneratedEvent cfg runId
    { type := .adapterFailed
      producer := .adapter
      subjectId := some requestId
      subjectDigest := some operation.requestDigest
      resultDigest := some errorDigest }
    capability now transactionId
  db.closeModel cfg ((.budget, runId) :: modelEntities requestId) requestId now
    transactionId

def safeModelErrorMessages : List (String × String) :=
  [("ECO_ADAPTER_OUTPUT_LIMIT", "Model output exceeded the approved limit"),
    ("ECO_ADAPTER_RESPONSE_INVALID", "Model response failed adapter validation"),
    ("ECO_ADAPTER_TIMEOUT", "Model invocation timed out"),
    ("ECO_ADAPTER_TRANSPORT", "Model transport failed"),
    ("ECO_ENDPOINT_BINDING_EXPIRED", "Approved endpoint binding expired"),
    ("ECO_DEADLINE_EXCEEDED", "Model invocation completed after its approved deadline"),
    ("ECO_MODEL_INPUT_MISMATCH", "Model input did not match its approved binding"),
    ("ECO_MODEL_FINALIZATION_DENIED", "Model output failed the current policy gate"),
    ("ECO_MODEL_REQUEST_INVALID", "Model request failed adapter validation"),
    ("ECO_MODEL_ROUTE_MISMATCH", "Model route did not match its approved binding")]

def failureShape (code : String) (error : ErrorRecord) (request : ModelRequest) :
    ErrorCategory × ErrorDetails :=
  if code = "ECO_MODEL_FINALIZATION_DENIED" then
    (.policy, { policyRule := (error.spec.details.getD {}).policyRule })
  else
    (if code = "ECO_DEADLINE_EXCEEDED" then .budget else .adapter,
      { deploymentId := some request.deploymentId })

/-- `re.fullmatch(r"ECO_[A-Z0-9_]+", …)`. -/
def isErrorCode (s : String) : Bool :=
  matchesErrorCode s && s.toList.getLast? ≠ some '\n'

def modelFailureBound (requestId : String) (operation : ModelOperationRow)
    (request : ModelRequest) (error : ErrorRecord) (now : Instant) : Bool :=
  let code := error.spec.code
  let shape := failureShape code error request
  (safeModelErrorMessages.lookup code).any fun message =>
    (code ≠ "ECO_MODEL_FINALIZATION_DENIED" ||
        shape.2.policyRule.any isErrorCode) &&
      error = modelError cfg requestId operation.runId
        { code := code
          category := shape.1
          stage := .model
          retryable := false
          safeMessage := message
          details := some shape.2 } now

/-- `fail_model_invocation` of a started operation. -/
def Db.failStartedModel (db : Db) (requestId : String)
    (operation : ModelOperationRow) (error : ErrorRecord) (now : Instant)
    (capability : Capability) (transactionId : String) : Result := do
  db.requireActiveModelRun operation now (.store "ECO_PLAN_NOT_ACTIVE"
    "Model failure requires its active running plan")
  let request ← db.loadRecord requestId
  let request ← request.asModelRequest
  require [(modelFailureBound cfg requestId operation request error now,
    .store "ECO_MODEL_BINDING_INVALID" "Model failure binding is invalid")]
  let unsettled : StoreError :=
    .store "ECO_RESERVATION_INVALID" "Model reservation cannot fail"
  let reservation ← expect unsettled (db.tables.modelReservations.get? requestId)
  require [(reservation.state = .reserved, unsettled)]
  db.chargeFailedModel cfg requestId operation reservation error .failed
    (.store "ECO_RESERVATION_INVALID" "Model failure budget cannot settle")
    now capability transactionId

def Db.failModelInvocation (db : Db) (requestId : String) (error : ErrorRecord)
    (now : Instant) (capability : Capability) (transactionId : String) : Result := do
  requireCapability .adapter capability
  requireValid cfg [.errorRecord error]
    (invalidRecord "Model failure result is invalid")
  let operation ← expect unknownModel (db.tables.modelOperations.get? requestId)
  match operation.state with
  | .failed => do
    require [(operation.errorRecordDigest = some (cfg.recordDigest (.errorRecord error)),
      .store "ECO_OPERATION_CONFLICT" "Model operation has another failure")]
    return (db, .modelOperation operation true)
  | .started =>
    db.failStartedModel cfg requestId operation error now capability transactionId
  | _ => .error (.store "ECO_MODEL_INVOCATION_AMBIGUOUS"
      "Model invocation is not safely failable")

def modelAmbiguousMessage : String :=
  "Model invocation outcome is ambiguous after a durable STARTED fence"

def ambiguousSpec (request : ModelRequest) : ErrorSpec where
  code := "ECO_MODEL_OUTCOME_AMBIGUOUS"
  category := .internal
  stage := .model
  retryable := false
  safeMessage := modelAmbiguousMessage
  details := some { deploymentId := some request.deploymentId }

def cannotSettleAmbiguous : StoreError :=
  .store "ECO_RESERVATION_INVALID" "Ambiguous model budget cannot settle"

/-- `resolve_ambiguous_model_invocation` of a started operation. -/
def Db.resolveStartedModel (db : Db) (requestId : String)
    (operation : ModelOperationRow) (now : Instant) (capability : Capability)
    (transactionId : String) : Result := do
  let request ← db.loadRecord requestId
  let invalid : StoreError :=
    .store "ECO_RESERVATION_INVALID" "Ambiguous model reservation is invalid"
  let reservation ← expect invalid (db.tables.modelReservations.get? requestId)
  require [(reservation.state = .reserved, invalid)]
  let request ← request.asModelRequest
  let error := modelError cfg requestId operation.runId (ambiguousSpec request) now
  requireValid cfg [.errorRecord error] .contract
  db.chargeFailedModel cfg requestId operation reservation error .ambiguous
    cannotSettleAmbiguous now capability transactionId

def Db.resolveAmbiguousModelInvocation (db : Db) (requestId : String)
    (observedStartedAt : Stamp) (now : Instant)
    (runtimeCapability adapterCapability : Capability) (transactionId : String) :
    Result := do
  requireCapability .runtime runtimeCapability
  requireCapability .adapter adapterCapability
  let operation ← expect unknownModel (db.tables.modelOperations.get? requestId)
  match operation.state with
  | .ambiguous => do
    require [(operation.startedAt = some observedStartedAt,
      .store "ECO_MODEL_OPERATION_FENCED" "Observed STARTED fence differs")]
    return (db, .modelOperation operation true)
  | .started => do
    require [(operation.startedAt = some observedStartedAt,
      .store "ECO_MODEL_OPERATION_FENCED"
        "Model STARTED fence is stale or terminal")]
    db.resolveStartedModel cfg requestId operation now adapterCapability transactionId
  | _ => .error (.store "ECO_MODEL_OPERATION_FENCED"
      "Model STARTED fence is stale or terminal")

end Models

end Ecosystem.Store
