import Ecosystem.Store.Runs

/-!
# Repository reads

A read of a repository file is prepared under a lease, with its bytes reserved, and then
completed, failed, or aborted after the lease.  Completion spends the reserved bytes;
failure and abort give them back.
-/

namespace Ecosystem.Store

open Ecosystem.Lib Ecosystem.Runtime

section Reads

variable (cfg : StoreConfig)

/-! ## Shared checks and updates -/

/-- `UPDATE budgets … WHERE run_id = ? AND …`, which has to hit its row. -/
def Db.updateBudget (db : Db) (runId : String) (allowed : BudgetRow → Bool)
    (f : BudgetRow → BudgetRow) (err : StoreError) : Except StoreError Db := do
  let row ← expect err (db.tables.budgets.get? runId)
  require [(allowed row, err)]
  return { db with tables := { db.tables with
    budgets := db.tables.budgets.modify runId f } }

def clockRollback : StoreError :=
  .store "ECO_CLOCK_ROLLBACK" "Runtime clock moved backwards"

def deadlineElapsed : StoreError :=
  .store "ECO_DEADLINE_EXCEEDED" "Run deadline has elapsed"

def requireClock (run : RunRow) (now : Instant) : Except StoreError Unit := do
  let updatedAt ← parse run.updatedAt
  require [(updatedAt.us ≤ now.us, clockRollback)]

def RunRow.isLive (run : RunRow) (nowEpochUs : ℤ) : Bool :=
  run.deadlineEpochUs.any (nowEpochUs < ·)

/-- `_require_live_run_time_tx`. -/
def Db.requireLiveRunTime (db : Db) (runId : String) (now : Instant) :
    Except StoreError Unit := do
  let run ← expect unknownRun (db.tables.runs.get? runId)
  requireClock run now
  require [(run.isLive (cfg.instantEpochUs now), deadlineElapsed)]

def requireLiveLease (operation : OperationRow) (leaseToken : String)
    (nowEpochUs : ℤ) : Except StoreError Unit :=
  require
    [(operation.state = .prepared,
        .store "ECO_OPERATION_TERMINAL" "Operation is already terminal"),
      (operation.leaseTokenDigest =
          some (cfg.semanticDigest (.operationLease leaseToken)) &&
        operation.leaseUntilEpochUs.any (nowEpochUs < ·),
        .store "ECO_OPERATION_FENCED" "Operation lease is invalid or expired")]

def Record.asIntent : Record → Except StoreError ToolExecutionIntent
  | .toolExecutionIntent intent => .ok intent
  | _ => .error .missingKey

def unknownOperation : StoreError :=
  .store "ECO_OPERATION_UNKNOWN" "Operation does not exist"

def invalidReservation : StoreError :=
  .store "ECO_RESERVATION_INVALID" "Input reservation is invalid"

def cannotRelease : StoreError :=
  .store "ECO_RESERVATION_INVALID" "Budget reservation cannot release"

def cannotCommit : StoreError :=
  .store "ECO_RESERVATION_INVALID" "Budget reservation cannot commit"

/-! ## Preparation -/

structure ReadRequest where
  plan : RunPlan
  snapshot : RepositorySnapshot
  toolRequest : ToolRequest
  decision : PolicyDecision
  intent : ToolExecutionIntent

namespace ReadRequest

def records (r : ReadRequest) : List Record :=
  [.runPlan r.plan, .repositorySnapshot r.snapshot, .toolRequest r.toolRequest,
    .policyDecision r.decision, .toolExecutionIntent r.intent]

def runId (r : ReadRequest) : String := r.plan.metadata.runId

def operationId (r : ReadRequest) : String := r.intent.metadata.id

def planDigest (r : ReadRequest) : String := cfg.recordDigest (.runPlan r.plan)

def requestDigest (r : ReadRequest) : String :=
  cfg.recordDigest (.toolRequest r.toolRequest)

def decisionDigest (r : ReadRequest) : String :=
  cfg.recordDigest (.policyDecision r.decision)

def intentDigest (r : ReadRequest) : String :=
  cfg.recordDigest (.toolExecutionIntent r.intent)

def bound (r : ReadRequest) (path : String) (entry : SnapshotEntry) : Bool :=
  let subject := r.toolRequest.metadata.id
  (r.plan.tools.find? (·.id = "repository.read")).any fun tool =>
    r.runId = r.toolRequest.metadata.runId &&
      r.runId = r.decision.metadata.runId &&
      r.runId = r.intent.metadata.runId &&
      r.toolRequest.planDigest = r.planDigest cfg &&
      r.toolRequest.toolId = "repository.read" &&
      r.decision.effect = .allow &&
      r.decision.subject = ⟨.toolRequest, subject, r.requestDigest cfg⟩ &&
      r.intent.planDigest = r.planDigest cfg &&
      r.intent.toolRequest = ⟨subject, r.requestDigest cfg⟩ &&
      r.intent.allowDecision = ⟨r.decision.metadata.id, r.decisionDigest cfg⟩ &&
      r.intent.toolCatalogDigest = tool.catalogDigest &&
      r.intent.reservation = ⟨1, entry.byteLength⟩ &&
      r.intent.repositoryEntry =
        { snapshotDigest := cfg.recordDigest (.repositorySnapshot r.snapshot)
          pathDigest := cfg.pathReferenceDigest path
          contentDigest := entry.contentDigest
          byteLength := entry.byteLength
          dataClass := entry.dataClass
          trust := entry.trust }

def check (r : ReadRequest) : Except StoreError SnapshotEntry := do
  requireValid cfg r.records (invalidRecord "Repository read input is invalid")
  requirePlanProfile cfg r.plan
  requireDecisionProfile cfg r.decision r.plan.project.semanticConfigDigest
  let path ← expect .missingKey r.toolRequest.path
  let planned ← expect .missingKey r.plan.repositorySnapshot
  require [(r.snapshot.id = planned.id &&
      cfg.recordDigest (.repositorySnapshot r.snapshot) = planned.digest &&
      r.snapshot.rootIdentityDigest = planned.rootIdentityDigest &&
      r.snapshot.trust = planned.trust,
    .store "ECO_SNAPSHOT_MISMATCH" "Snapshot does not match active plan")]
  let entry ← expect
    (.store "ECO_PATH_NOT_IN_SNAPSHOT" "Requested path is not in snapshot")
    (r.snapshot.entries.find? (·.path = path))
  require [(r.bound cfg path entry,
    .store "ECO_OPERATION_BINDING_INVALID" "Repository read binding is invalid")]
  return entry

end ReadRequest

/-- `run_id = ? AND idempotency_key_digest = ?`. -/
def Tables.operationByKey? (t : Tables) (runId key : String) : Option OperationRow :=
  (t.operations.entries.find? fun e =>
    e.2.runId = runId && e.2.idempotencyKeyDigest = key).map Prod.snd

/-- `run_id = ? AND tool_request_digest = ?`. -/
def Tables.hasToolRequest (t : Tables) (runId digest : String) : Bool :=
  t.operations.entries.any fun e =>
    e.2.runId = runId && e.2.toolRequestDigest = digest

structure LeaseGrant where
  ownerId : String
  token : String
  untilEpochUs : ℤ

def Db.withOperation (db : Db) (r : ReadRequest) (bytes : ℕ) (lease : LeaseGrant)
    (now : Instant) : Db :=
  { db with tables := { db.tables with
      operations := db.tables.operations.insert r.operationId
        { runId := r.runId
          idempotencyKeyDigest := r.intent.idempotencyKeyDigest
          intentDigest := r.intentDigest cfg
          toolRequestDigest := r.requestDigest cfg
          allowDecisionDigest := r.decisionDigest cfg
          leaseOwnerId := some lease.ownerId
          leaseTokenDigest := some (cfg.semanticDigest (.operationLease lease.token))
          leaseUntilEpochUs := some lease.untilEpochUs
          createdAt := utc now
          updatedAt := utc now }
      reservations := db.tables.reservations.insert r.operationId
        { runId := r.runId
          planDigest := r.planDigest cfg
          reservedInputBytes := bytes
          createdAt := utc now
          updatedAt := utc now } } }

/-- The reservation of `bytes` from the input budget. -/
def Db.reserveInput (db : Db) (r : ReadRequest) (bytes : ℕ) (now : Instant) :
    Except StoreError Db :=
  db.updateBudget r.runId
    (fun b => b.planDigest = r.planDigest cfg &&
      cfg.instantEpochUs now < b.deadlineEpochUs &&
      b.toolRequests + 1 ≤ b.limits.maxToolRequests &&
      b.inputBytes + b.reservedInputBytes + bytes ≤ b.limits.maxInputBytes)
    (fun b => { b with
      toolRequests := b.toolRequests + 1
      reservedInputBytes := b.reservedInputBytes + bytes
      updatedAt := utc now })
    (.store "ECO_BUDGET_EXHAUSTED" "Tool or input budget is exhausted")

/-- `prepare_repository_read` of an operation that is not there yet. -/
def Db.openRead (db : Db) (r : ReadRequest) (bytes : ℕ) (lease : LeaseGrant)
    (now : Instant) (policyCapability runtimeCapability : Capability)
    (transactionId : String) : Result := do
  let subject := r.toolRequest.metadata.id
  require [(!db.tables.hasToolRequest r.runId (r.requestDigest cfg),
    .store "ECO_OPERATION_SUBJECT_CONFLICT" "Tool request already has an operation")]
  let db ← db.issueDecision cfg r.decision transactionId
  let db ← db.consumeDecision cfg r.decision (r.requestDigest cfg) r.operationId
    transactionId now
  let db ← db.reserveInput cfg r bytes now
  let db ← db.recordNew cfg transactionId (.toolExecutionIntent r.intent)
    (.store "ECO_OPERATION_CONFLICT" "Operation record already exists")
  require [((db.tables.operations.get? r.operationId).isNone &&
    (db.tables.reservations.get? r.operationId).isNone, .integrity)]
  let db := db.withOperation cfg r bytes lease now
  let db ← db.appendGeneratedEvent cfg r.runId
    { type := .toolRequested
      producer := .runtime
      subjectId := some subject
      subjectDigest := some (r.requestDigest cfg) }
    runtimeCapability now transactionId
  let db ← db.appendGeneratedEvent cfg r.runId
    { type := .toolAllowed
      producer := .policy
      subjectId := some subject
      subjectDigest := some (r.requestDigest cfg)
      resultDigest := some (r.decisionDigest cfg) }
    policyCapability now transactionId
  let db ← db.recordAuthorityRevisions cfg
    [(.budget, r.runId), (.operation, r.operationId),
      (.reservation, r.operationId)] transactionId (utc now)
  return (db, .lease r.operationId lease.token lease.untilEpochUs
    (r.intentDigest cfg))

/-- `prepare_repository_read` of an operation that is there. -/
def Db.reopenRead (db : Db) (r : ReadRequest) (existing : OperationRow) : Result := do
  require
    [(existing.intentDigest = r.intentDigest cfg,
        .store "ECO_IDEMPOTENCY_CONFLICT" "Idempotency key is bound to another intent"),
      (existing.state ≠ .prepared,
        .store "ECO_OPERATION_IN_PROGRESS" "Operation is already leased")]
  return (db, .operation existing)

def Db.prepareRepositoryRead (db : Db) (r : ReadRequest) (ownerId : String)
    (leaseSeconds : ℕ) (now : Instant)
    (policyCapability brokerCapability runtimeCapability : Capability)
    (transactionId leaseToken : String) : Result := do
  requireCapability .policy policyCapability
  requireCapability .broker brokerCapability
  requireCapability .runtime runtimeCapability
  require
    [(isBoundedId ownerId, .value "owner_id must be a bounded safe identifier"),
      (0 < leaseSeconds, .value "lease_seconds must be a positive integer")]
  let entry ← r.check cfg
  let leaseUntil ← now.addSeconds leaseSeconds
  let notActive : StoreError :=
    .store "ECO_PLAN_UNTRUSTED" "Plan is not the active authority"
  let run ← expect notActive (db.tables.runs.get? r.runId)
  let planRow ← expect notActive (db.tables.plans.get? r.plan.metadata.id)
  require [(run.activePlanDigest = some (r.planDigest cfg) &&
    planRow.planDigest = r.planDigest cfg && run.state = .running, notActive)]
  requireClock run now
  require [(run.isLive (cfg.instantEpochUs now), deadlineElapsed)]
  let deadline ← expect deadlineElapsed run.deadlineEpochUs
  let lease : LeaseGrant :=
    { ownerId := ownerId
      token := leaseToken
      untilEpochUs := min (cfg.instantEpochUs leaseUntil) deadline }
  match db.tables.operationByKey? r.runId r.intent.idempotencyKeyDigest with
  | some existing => db.reopenRead cfg r existing
  | none =>
    db.openRead cfg r entry.byteLength lease now policyCapability
      runtimeCapability transactionId

/-! ## Settlement -/

def Db.withSettledOperation (db : Db) (operationId : String)
    (state : OperationState) (receiptDigest artifactRecordDigest errorRecordDigest :
      Option String) (outcomeDigest : String) (now : Instant) : Db :=
  { db with tables := { db.tables with
      operations := db.tables.operations.modify operationId fun row =>
        { row with
          state := state
          leaseOwnerId := none
          leaseTokenDigest := none
          leaseUntilEpochUs := none
          receiptDigest := receiptDigest
          artifactRecordDigest := artifactRecordDigest
          errorRecordDigest := errorRecordDigest
          outcomeDigest := some outcomeDigest
          updatedAt := utc now } } }

def readEntities (runId operationId : String) : List (EntityType × String) :=
  [(.budget, runId), (.reservation, operationId), (.operation, operationId)]

/-- What `fail_repository_read` and `abort_expired_operation` share: the result
records, the released bytes and the `tool.failed` event. -/
def Db.releaseRead (db : Db) (operationId : String) (operation : OperationRow)
    (intent : ToolExecutionIntent) (reservation : ReservationRow)
    (error : ErrorRecord) (outcome : ToolExecutionOutcome) (now : Instant)
    (capability : Capability) (transactionId : String) : Result := do
  let errorDigest := cfg.recordDigest (.errorRecord error)
  let outcomeDigest := cfg.recordDigest (.toolExecutionOutcome outcome)
  let runId := operation.runId
  let db ← db.recordNew cfg transactionId (.errorRecord error) conflictError
  let db ← db.recordNew cfg transactionId (.toolExecutionOutcome outcome)
    conflictError
  let bytes := reservation.reservedInputBytes
  let db ← db.updateBudget runId (fun b => bytes ≤ b.reservedInputBytes)
    (fun b => { b with
      reservedInputBytes := b.reservedInputBytes - bytes
      updatedAt := utc now })
    cannotRelease
  let db : Db := { db with tables := { db.tables with
    reservations := db.tables.reservations.modify operationId fun row =>
      { row with state := .released, updatedAt := utc now } } }
  let db := db.withSettledOperation operationId .failed operation.receiptDigest
    operation.artifactRecordDigest (some errorDigest) outcomeDigest now
  let db := db.withNonceResult operationId outcomeDigest
  let db ← db.appendGeneratedEvent cfg runId
    { type := .toolFailed
      producer := .broker
      subjectId := some intent.toolRequest.id
      subjectDigest := some operation.toolRequestDigest
      resultDigest := some outcomeDigest }
    capability now transactionId
  let db ← db.recordAuthorityRevisions cfg (readEntities runId operationId)
    transactionId (utc now)
  let row ← expect unknownOperation (db.tables.operations.get? operationId)
  return (db, .operation row)

def recoveryExpiredMessage : String :=
  "Prepared operation cannot be retried without a trusted recovery payload"

def abortError (operationId : String) (operation : OperationRow)
    (intent : ToolExecutionIntent) (now : Instant) : ErrorRecord where
  metadata :=
    { id := "error-" ++ operationId
      runId := operation.runId
      requestId := some intent.toolRequest.id
      createdAt := utc now }
  spec :=
    { code := "ECO_OPERATION_RECOVERY_UNAVAILABLE"
      category := .internal
      stage := .tool
      retryable := false
      safeMessage := recoveryExpiredMessage
      details := some { toolId := some "repository.read" } }

def failedOutcome (operationId : String) (operation : OperationRow)
    (errorDigest : String) (createdAt : Stamp) : ToolExecutionOutcome where
  metadata :=
    { id := "outcome-" ++ operationId
      runId := operation.runId
      operationId := operationId
      createdAt := createdAt }
  spec :=
    { intentDigest := operation.intentDigest
      status := .failed
      errorRecordDigest := some errorDigest }

/-- `abort_expired_operation` of a prepared operation. -/
def Db.abortPreparedRead (db : Db) (operationId : String) (operation : OperationRow)
    (now : Instant) (capability : Capability) (observedLeaseEpoch : Option ℕ)
    (transactionId : String) : Result := do
  require [(observedLeaseEpoch.all (operation.leaseEpoch = ·),
    .store "ECO_OPERATION_FENCED" "Observed operation epoch is stale")]
  let run ← expect unknownRun (db.tables.runs.get? operation.runId)
  requireClock run now
  require [(operation.leaseUntilEpochUs.all (· ≤ cfg.instantEpochUs now),
    .store "ECO_OPERATION_NOT_EXPIRED" "Operation lease has not elapsed")]
  let reservation ← expect invalidReservation
    (db.tables.reservations.get? operationId)
  require [(reservation.state = .reserved, invalidReservation)]
  let intent ← db.loadRecord operationId
  let intent ← intent.asIntent
  let error := abortError operationId operation intent now
  let outcome := failedOutcome operationId operation
    (cfg.recordDigest (.errorRecord error)) (utc now)
  requireValid cfg [.errorRecord error, .toolExecutionOutcome outcome] .contract
  db.releaseRead cfg operationId operation intent reservation error outcome now
    capability transactionId

/-- `abort_expired_operation` and `resolve_unrecoverable_operation`. -/
def Db.abortExpiredOperation (db : Db) (operationId : String) (now : Instant)
    (capability : Capability) (observedLeaseEpoch : Option ℕ)
    (transactionId : String) : Result := do
  requireCapability .broker capability
  let operation ← expect unknownOperation (db.tables.operations.get? operationId)
  if operation.state ≠ .prepared then return (db, .operation operation)
  else
    db.abortPreparedRead cfg operationId operation now capability
      observedLeaseEpoch transactionId

/-- `claim_operation`: every prepared operation is `no_retry` and is refused. -/
def Db.claimOperation (db : Db) (operationId ownerId : String) (leaseSeconds : ℕ)
    (capability : Capability) : Result := do
  requireCapability .broker capability
  require
    [(isBoundedId ownerId, .value "owner_id must be a bounded safe identifier"),
      (0 < leaseSeconds, .value "lease_seconds must be valid")]
  let operation ← expect unknownOperation (db.tables.operations.get? operationId)
  if operation.state ≠ .prepared then return (db, .operation operation)
  else
    match operation.recoveryMode with
    | .noRetry => .error (.store "ECO_OPERATION_NO_RETRY"
        "Operation has no trusted durable recovery payload")

structure ReadResult where
  receipt : RepositoryReadReceipt
  artifact : ArtifactRecord
  outcome : ToolExecutionOutcome

namespace ReadResult

def receiptDigest (r : ReadResult) : String :=
  cfg.recordDigest (.repositoryReadReceipt r.receipt)

def artifactDigest (r : ReadResult) : String :=
  cfg.recordDigest (.artifactRecord r.artifact)

def outcomeDigest (r : ReadResult) : String :=
  cfg.recordDigest (.toolExecutionOutcome r.outcome)

def bound (r : ReadResult) (operationId : String) (operation : OperationRow)
    (entry : RepositoryEntry) : Bool :=
  let runId := operation.runId
  r.receipt.metadata =
      { id := "receipt-" ++ operationId
        runId := runId
        operationId := operationId
        createdAt := r.receipt.metadata.createdAt } &&
    r.receipt.spec =
      { intentDigest := operation.intentDigest
        toolRequestDigest := operation.toolRequestDigest
        repositorySnapshotDigest := entry.snapshotDigest
        contentDigest := entry.contentDigest
        byteLength := entry.byteLength
        dataClass := entry.dataClass
        trust := entry.trust } &&
    r.artifact.metadata.id = "artifact-" ++ operationId &&
    r.artifact.metadata.runId = runId &&
    r.artifact.spec.sha256 = entry.contentDigest &&
    r.artifact.spec.byteLength.value = entry.byteLength &&
    r.artifact.spec.dataClass = entry.dataClass &&
    r.artifact.spec.trust = entry.trust &&
    r.artifact.spec.producer = ⟨.tool, "repository.read"⟩ &&
    r.artifact.spec.storageRef =
      "artifact://runs/" ++ runId ++ "/artifact-" ++ operationId &&
    r.outcome.metadata.id = "outcome-" ++ operationId &&
    r.outcome.metadata.runId = runId &&
    r.outcome.metadata.operationId = operationId &&
    r.outcome.spec =
      { intentDigest := operation.intentDigest
        status := .succeeded
        receiptDigest := some (r.receiptDigest cfg)
        artifactRecordDigest := some (r.artifactDigest cfg) }

end ReadResult

def requireAvailable (artifact : ArtifactRecord)
    (proof : Option ArtifactAvailabilityProof) (required invalid : StoreError) :
    Except StoreError Unit := do
  let store ← expect required cfg.artifacts
  let proof ← expect required proof
  require
    [(proof.storageRef = artifact.spec.storageRef &&
        proof.sha256 = artifact.spec.sha256 &&
        proof.byteLength = artifact.spec.byteLength.value, invalid),
      (store.verifyAvailability proof, .store "ECO_ARTIFACT_PROOF_INVALID"
        "Artifact availability proof is invalid")]

/-- The writes of `complete_repository_read`. -/
def Db.commitRead (db : Db) (operationId : String) (operation : OperationRow)
    (intent : ToolExecutionIntent) (result : ReadResult) (now : Instant)
    (capability : Capability) (transactionId : String) : Result := do
  let runId := operation.runId
  let bytes := intent.repositoryEntry.byteLength
  let db ← db.recordNew cfg transactionId (.repositoryReadReceipt result.receipt)
    conflictError
  let db ← db.recordNew cfg transactionId (.artifactRecord result.artifact)
    conflictError
  let db ← db.recordNew cfg transactionId (.toolExecutionOutcome result.outcome)
    conflictError
  let db ← db.updateBudget runId
    (fun b => bytes ≤ b.reservedInputBytes &&
      b.inputBytes + bytes ≤ b.limits.maxInputBytes)
    (fun b => { b with
      reservedInputBytes := b.reservedInputBytes - bytes
      inputBytes := b.inputBytes + bytes
      updatedAt := utc now })
    cannotCommit
  let db : Db := { db with tables := { db.tables with
    reservations := db.tables.reservations.modify operationId fun row =>
      { row with
        actualInputBytes := some row.reservedInputBytes
        state := .committed
        updatedAt := utc now } } }
  let db := db.withSettledOperation operationId .succeeded
    (some (result.receiptDigest cfg)) (some (result.artifactDigest cfg))
    operation.errorRecordDigest (result.outcomeDigest cfg) now
  let db := db.withNonceResult operationId (result.outcomeDigest cfg)
  let db ← db.appendGeneratedEvent cfg runId
    { type := .toolCompleted
      producer := .broker
      subjectId := some intent.toolRequest.id
      subjectDigest := some operation.toolRequestDigest
      resultDigest := some (result.outcomeDigest cfg) }
    capability now transactionId
  let db ← db.appendGeneratedEvent cfg runId
    { type := .artifactRecorded
      producer := .broker
      subjectId := some result.artifact.metadata.id
      subjectDigest := some (result.artifactDigest cfg)
      resultDigest := some (result.artifactDigest cfg) }
    capability now transactionId
  let db ← db.recordAuthorityRevisions cfg (readEntities runId operationId)
    transactionId (utc now)
  let row ← expect unknownOperation (db.tables.operations.get? operationId)
  return (db, .operation row)

/-- `complete_repository_read` of an operation that has not succeeded. -/
def Db.completeOpenRead (db : Db) (operationId : String) (operation : OperationRow)
    (leaseToken : String) (result : ReadResult)
    (proof : Option ArtifactAvailabilityProof) (now : Instant)
    (capability : Capability) (transactionId : String) : Result := do
  db.requireLiveRunTime cfg operation.runId now
  requireLiveLease cfg operation leaseToken (cfg.instantEpochUs now)
  let intent ← db.loadRecord operationId
  let intent ← intent.asIntent
  require [(result.bound cfg operationId operation intent.repositoryEntry,
    .store "ECO_OPERATION_BINDING_INVALID" "Success binding is invalid")]
  requireAvailable cfg result.artifact proof
    (.store "ECO_ARTIFACT_PROOF_REQUIRED"
      "Successful operation requires durable artifact availability proof")
    (.store "ECO_ARTIFACT_PROOF_INVALID" "Artifact proof binding differs")
  let reservation ← expect invalidReservation
    (db.tables.reservations.get? operationId)
  require [(reservation.state = .reserved &&
    reservation.reservedInputBytes = intent.repositoryEntry.byteLength,
    invalidReservation)]
  db.commitRead cfg operationId operation intent result now capability transactionId

def otherOutcome : StoreError :=
  .store "ECO_OPERATION_CONFLICT" "Operation has another outcome"

def Db.completeRepositoryRead (db : Db) (operationId leaseToken : String)
    (result : ReadResult) (proof : Option ArtifactAvailabilityProof) (now : Instant)
    (capability : Capability) (transactionId : String) : Result := do
  requireCapability .broker capability
  requireValid cfg
    [.repositoryReadReceipt result.receipt, .artifactRecord result.artifact,
      .toolExecutionOutcome result.outcome]
    (invalidRecord "Success result is invalid")
  let operation ← expect unknownOperation (db.tables.operations.get? operationId)
  if operation.state = .succeeded then do
    require [(operation.outcomeDigest = some (result.outcomeDigest cfg), otherOutcome)]
    return (db, .operation operation)
  else
    db.completeOpenRead cfg operationId operation leaseToken result proof now
      capability transactionId

def safeBrokerErrorMessages : List (String × String) :=
  [("ECO_BINARY_FILE", "Repository content is not approved text"),
    ("ECO_FILE_CHANGED", "Repository file changed during the approved read"),
    ("ECO_FILE_DENIED", "Repository file is not readable by the broker"),
    ("ECO_FILE_NOT_FOUND", "Repository file does not exist"),
    ("ECO_FILE_OPEN_FAILED", "Repository file could not be opened safely"),
    ("ECO_FILE_TOO_LARGE", "Repository file exceeds the approved read limit"),
    ("ECO_HARDLINK_DENIED", "Repository file has an unsupported link topology"),
    ("ECO_NOT_REGULAR_FILE", "Repository path is not a regular file"),
    ("ECO_PATH_ESCAPE", "Repository path is outside the approved root"),
    ("ECO_SNAPSHOT_CONTENT_MISMATCH",
      "Repository content differs from the approved snapshot"),
    ("ECO_TEXT_ENCODING", "Repository content is not valid approved text")]

def failureBound (operationId : String) (operation : OperationRow)
    (intent : ToolExecutionIntent) (error : ErrorRecord)
    (outcome : ToolExecutionOutcome) : Bool :=
  let code := error.spec.code
  (safeBrokerErrorMessages.lookup code).any fun message =>
    error.metadata =
        { id := "error-" ++ operationId
          runId := operation.runId
          requestId := some intent.toolRequest.id
          createdAt := error.metadata.createdAt } &&
      error.spec =
        { code := code
          category := .broker
          stage := .tool
          retryable := false
          safeMessage := message
          details := some { toolId := some "repository.read" } } &&
      outcome = failedOutcome operationId operation
        (cfg.recordDigest (.errorRecord error)) outcome.metadata.createdAt

/-- `fail_repository_read` of an operation that has not failed. -/
def Db.failOpenRead (db : Db) (operationId : String) (operation : OperationRow)
    (leaseToken : String) (error : ErrorRecord) (outcome : ToolExecutionOutcome)
    (now : Instant) (capability : Capability) (transactionId : String) : Result := do
  db.requireLiveRunTime cfg operation.runId now
  requireLiveLease cfg operation leaseToken (cfg.instantEpochUs now)
  let intent ← db.loadRecord operationId
  let intent ← intent.asIntent
  require [(failureBound cfg operationId operation intent error outcome,
    .store "ECO_OPERATION_BINDING_INVALID" "Failure binding is invalid")]
  let reservation ← expect invalidReservation
    (db.tables.reservations.get? operationId)
  require [(reservation.state = .reserved, invalidReservation)]
  db.releaseRead cfg operationId operation intent reservation error outcome now
    capability transactionId

def Db.failRepositoryRead (db : Db) (operationId leaseToken : String)
    (error : ErrorRecord) (outcome : ToolExecutionOutcome) (now : Instant)
    (capability : Capability) (transactionId : String) : Result := do
  requireCapability .broker capability
  requireValid cfg [.errorRecord error, .toolExecutionOutcome outcome]
    (invalidRecord "Failure result is invalid")
  let operation ← expect unknownOperation (db.tables.operations.get? operationId)
  if operation.state = .failed then do
    require [(operation.outcomeDigest =
      some (cfg.recordDigest (.toolExecutionOutcome outcome)), otherOutcome)]
    return (db, .operation operation)
  else
    db.failOpenRead cfg operationId operation leaseToken error outcome now
      capability transactionId

end Reads

end Ecosystem.Store
