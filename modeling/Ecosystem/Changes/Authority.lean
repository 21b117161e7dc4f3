import Ecosystem.Changes.Records

/-!
# The operations of the change authority

The tables of `SQLiteChangeAuthority` and the body of each public operation, which
raises or returns the tables that it leaves; the transaction rolls back when it raises.

The ten transitions of a row share `_transition`, with the record `Transition` of its
arguments; `DigestColumn` names the columns that one may set or compare.
-/

namespace Ecosystem.Changes

open Ecosystem.Lib

/-! ## The tables -/

structure Tables where
  proposals : Table String ProposalRow := .empty
  approvals : Table String ApprovalRow := .empty
  operations : Table String OperationRow := .empty
  locks : Table String LockRow := .empty

structure Db extends Tables where
  audit : List (LogEntry AuditBody) := []

/-- Rows are written; their audit entries follow. -/
def Db.put (db : Db) (t : Tables) : Db := { db with toTables := t }

def corrupt (message : String) : StoreError :=
  .store "ECO_CHANGE_STORE_CORRUPT" message

def operationUnknown : StoreError :=
  .store "ECO_CHANGE_OPERATION_UNKNOWN" "Change operation does not exist"

/-- The largest integer of a SQLite column. -/
def maxInteger : ℤ := 9223372036854775807

section Operations

variable (cfg : ChangeConfig)

/-- `_row_digest` of the live row of an entity. -/
def Tables.rowDigest? (t : Tables) (entity : EntityType) (id : String) : Option String :=
  match entity with
  | .proposal =>
    (t.proposals.get? id).map fun row => cfg.semanticDigest (.proposalRow id row)
  | .approval =>
    (t.approvals.get? id).map fun row => cfg.semanticDigest (.approvalRow id row)
  | .operation =>
    (t.operations.get? id).map fun row => cfg.semanticDigest (.operationRow id row)
  | .targetLock =>
    (t.locks.get? id).map fun row => cfg.semanticDigest (.lockRow id row)

def Db.auditRow (db : Db) (entity : EntityType) (id transactionId : String)
    (action : AuditAction) (occurredAt : Stamp) : Except StoreError Db := do
  let stateDigest ← expect (corrupt "Audited authority row is absent")
    (db.rowDigest? cfg entity id)
  return { db with
    audit := cfg.auditKeys.append db.audit
      { transactionId := transactionId
        entityType := entity
        entityId := id
        action := action
        stateDigest := stateDigest
        occurredAt := occurredAt } }

/-! ## Proposals and approvals -/

def ChangeConfig.proposalRow (p : Proposal) (now : Instant) : ProposalRow where
  projectId := p.projectId
  runId := p.runId
  planDigest := p.planDigest
  proposalDigest := cfg.semanticDigest (.proposal p)
  subjectDigest := cfg.semanticDigest (.subject (cfg.subjectOf p))
  targetRefDigest := p.targetRefDigest
  record :=
    { proposal := p
      proposalDigest := cfg.semanticDigest (.proposal p)
      subjectDigest := cfg.semanticDigest (.subject (cfg.subjectOf p))
      limitsDigest := cfg.semanticDigest (.limits p.limits) }
  createdAt := utc now

/-- The columns `UNIQUE` beside the key. -/
def Tables.proposalFree (t : Tables) (row : ProposalRow) : Bool :=
  (t.proposals.select fun _ other =>
    other.proposalDigest = row.proposalDigest ||
      other.subjectDigest = row.subjectDigest).isEmpty

def Tables.addProposal (t : Tables) (id : String) (row : ProposalRow) : Tables :=
  { t with proposals := t.proposals.insert id row }

/-- The transaction of `register_proposal` for a validated proposal. -/
def Db.insertProposal (db : Db) (p : Proposal) (now : Instant)
    (transactionId : String) : Except StoreError Db :=
  let row := cfg.proposalRow p now
  match db.proposals.get? p.proposalId with
  | some existing => do
    require [(existing.proposalDigest = row.proposalDigest,
      .store "ECO_CHANGE_ID_CONFLICT" "Proposal id has another digest")]
    return db
  | none => do
    require [(db.proposalFree row, .integrity)]
    (db.put (db.addProposal p.proposalId row)).auditRow cfg .proposal p.proposalId
      transactionId .registered (utc now)

/-- `register_proposal`; the answer is the digests of the proposal and of its
subject. -/
def Db.registerProposal (db : Db) (candidate : Proposal) (now : Instant)
    (transactionId : String) : Except StoreError (Db × String × String) := do
  let p ← validatedProposal candidate
  let subject ← approvalSubjectPayload (cfg.subjectOf p)
  let db' ← db.insertProposal cfg p now transactionId
  return (db', cfg.semanticDigest (.proposal p), cfg.semanticDigest (.subject subject))

def ChangeConfig.approvalRow (proposalId : String) (envelope : Envelope)
    (expiresAt : Instant) : ApprovalRow where
  proposalId := proposalId
  subjectDigest := envelope.subjectDigest
  envelopeDigest := cfg.semanticDigest (.envelope envelope)
  humanId := envelope.humanId
  assurance := envelope.assurance
  keyId := envelope.keyId
  challengeNonce := envelope.challengeNonce
  issuedAt := envelope.issuedAt
  expiresAt := envelope.expiresAt
  expiresAtEpochUs := cfg.epoch expiresAt
  envelope := envelope

def Tables.approvalFree (t : Tables) (row : ApprovalRow) : Bool :=
  (t.approvals.select fun _ other =>
    other.envelopeDigest = row.envelopeDigest ||
      other.challengeNonce = row.challengeNonce).isEmpty

def Tables.addApproval (t : Tables) (id : String) (row : ApprovalRow) : Tables :=
  { t with approvals := t.approvals.insert id row }

/-- The transaction of `record_verified_grant`. -/
def Db.insertApproval (db : Db) (id : String) (row : ApprovalRow) (now : Instant)
    (transactionId : String) : Except StoreError (Db × ApprovalRow) :=
  match db.approvals.get? id with
  | some existing => do
    require [(existing.envelopeDigest = row.envelopeDigest,
      .store "ECO_APPROVAL_ID_CONFLICT" "Approval id has another envelope")]
    return (db, existing)
  | none => do
    require [(db.approvalFree row,
      .store "ECO_APPROVAL_REPLAY" "Approval challenge was already used")]
    let db' ← (db.put (db.addApproval id row)).auditRow cfg .approval id transactionId
      .issued (utc now)
    return (db', row)

def Db.recordVerifiedGrant (db : Db) (envelope : Envelope) (now : Instant)
    (transactionId : String) : Except StoreError (Db × ApprovalRow) := do
  let proposal ← expect
    (.store "ECO_APPROVAL_MISMATCH" "Approval proposal is unknown")
    (db.proposals.select fun _ row => row.subjectDigest = envelope.subjectDigest).head?
  let window ← cfg.trust.verify envelope envelope.subjectDigest now
  db.insertApproval cfg envelope.approvalId
    (cfg.approvalRow proposal.1 envelope window.2) now transactionId

/-! ## Preparing an operation -/

structure PrepareRequest where
  operationId : String
  proposalId : String
  approvalId : String
  idempotencyKey : String
  recovery : RecoveryArtifact
  ownerId : String
  leaseSeconds : ℕ := 30

/-- What `prepare_operation` answers. -/
inductive Prepared
  | fresh (leaseToken : String) (leaseUntil : Instant) (intentDigest : String)
  | replayed (row : OperationRow)

def ChangeConfig.intentDigest (operationId : String) (row : OperationRow) : String :=
  cfg.semanticDigest (.intent
    { operationId := operationId
      proposalId := row.proposalId
      approvalId := row.approvalId
      policyDecisionDigest := row.policyDecisionDigest
      idempotencyKeyDigest := row.idempotencyKeyDigest
      recovery := row.recovery })

/-- The row that `prepare_operation` inserts, still without its intent. -/
def ChangeConfig.operationDraft (request : PrepareRequest) (proposal : ProposalRow)
    (leaseToken : String) (leaseUntil now : Instant) : OperationRow where
  runId := proposal.runId
  proposalId := request.proposalId
  approvalId := request.approvalId
  idempotencyKeyDigest := cfg.semanticDigest (.idempotency request.idempotencyKey)
  policyDecisionDigest := proposal.record.proposal.policyDecisionDigest
  intentDigest := ""
  recovery := request.recovery
  targetRefDigest := proposal.targetRefDigest
  leaseOwnerId := some request.ownerId
  leaseTokenDigest := some (cfg.leaseDigest leaseToken)
  leaseUntilEpochUs := some (cfg.epoch leaseUntil)
  createdAt := utc now
  updatedAt := utc now

def ChangeConfig.operationRow (request : PrepareRequest) (proposal : ProposalRow)
    (leaseToken : String) (leaseUntil now : Instant) : OperationRow :=
  let draft := cfg.operationDraft request proposal leaseToken leaseUntil now
  { draft with intentDigest := cfg.intentDigest request.operationId draft }

/-- The constraints on an inserted operation. -/
def Tables.operationFree (t : Tables) (id : String) (row : OperationRow) : Bool :=
  (t.operations.get? id).isNone &&
    (t.operations.select fun _ other =>
      other.approvalId = row.approvalId ||
        other.policyDecisionDigest = row.policyDecisionDigest ||
        other.intentDigest = row.intentDigest ||
        (other.runId = row.runId &&
          other.idempotencyKeyDigest = row.idempotencyKeyDigest)).isEmpty

def ApprovalRow.consume (row : ApprovalRow) (operationId : String) (now : Instant) :
    ApprovalRow :=
  { row with
    state := .consumed
    consumedAt := some (utc now)
    consumedOperationId := some operationId }

/-- A lock on a target: a new row, or the old one taken over. -/
def Tables.acquire (t : Tables) (target operationId : String) (now : Instant) :
    Tables :=
  let lock : LockRow := { operationId := operationId, updatedAt := utc now }
  { t with locks := t.locks.upsert target lock fun _ => lock }

/-- The checks of `prepare_operation` behind the search for a replay. -/
def Tables.prepareChecks (t : Tables) (proposal : ProposalRow) (approval : ApprovalRow)
    (operationId : String) (row : OperationRow) (now : Instant) :
    List (Bool × StoreError) :=
  [(((t.operations.select fun _ other => other.runId = proposal.runId).length : ℤ) <
        proposal.record.proposal.limits.maxOperations,
      .store "ECO_CHANGE_BUDGET_EXHAUSTED" "Plan write-operation budget is exhausted"),
    (approval.state = .issued,
      .store "ECO_APPROVAL_CONSUMED" "Approval is not available for PREPARE"),
    (cfg.epoch now < approval.expiresAtEpochUs,
      .store "ECO_APPROVAL_EXPIRED" "Approval is not available for PREPARE"),
    ((t.operations.select fun _ other =>
        other.policyDecisionDigest = row.policyDecisionDigest).isEmpty,
      .store "ECO_POLICY_DECISION_CONSUMED"
        "Policy allow decision was already consumed by another operation"),
    (!(t.locks.get? proposal.targetRefDigest).any (·.state = .active),
      .store "ECO_CHANGE_TARGET_LOCKED" "Change target is already locked"),
    (row.recovery.byteLength ≤ maxInteger, .overflow),
    (t.operationFree operationId row,
      .store "ECO_CHANGE_OPERATION_CONFLICT" "Operation identity is already bound"),
    ((t.approvals.select fun _ other =>
        other.consumedOperationId = some operationId).isEmpty, .integrity)]

/-- The three writes of `prepare_operation`. -/
def Tables.addOperation (t : Tables) (request : PrepareRequest) (row : OperationRow)
    (now : Instant) : Tables :=
  { t with
    operations := t.operations.insert request.operationId row
    approvals := t.approvals.modify request.approvalId
      (·.consume request.operationId now) }.acquire
    row.targetRefDigest request.operationId now

def Db.insertOperation (db : Db) (request : PrepareRequest) (row : OperationRow)
    (now : Instant) (transactionId : String) : Except StoreError Db := do
  let db ← (db.put (db.addOperation request row now)).auditRow cfg .approval
    request.approvalId transactionId .consumed (utc now)
  let db ← db.auditRow cfg .operation request.operationId transactionId .prepared
    (utc now)
  db.auditRow cfg .targetLock row.targetRefDigest transactionId .acquired (utc now)

/-- The transaction of `prepare_operation`, for a row that is drafted. -/
def Db.prepareRow (db : Db) (request : PrepareRequest) (proposal : ProposalRow)
    (approval : ApprovalRow) (row : OperationRow) (leaseToken : String)
    (leaseUntil now : Instant) (transactionId : String) :
    Except StoreError (Db × Prepared) :=
  match (db.operations.select fun _ other => other.runId = proposal.runId &&
      other.idempotencyKeyDigest = row.idempotencyKeyDigest).head? with
  | some (_, existing) => do
    require [(existing.intentDigest = row.intentDigest,
      .store "ECO_CHANGE_IDEMPOTENCY_CONFLICT" "Key is bound to another intent")]
    return (db, .replayed existing)
  | none => do
    require (db.prepareChecks cfg proposal approval request.operationId row now)
    let db' ← db.insertOperation cfg request row now transactionId
    return (db', .fresh leaseToken leaseUntil row.intentDigest)

def Db.prepareOperation (db : Db) (request : PrepareRequest) (now : Instant)
    (transactionId leaseToken : String) : Except StoreError (Db × Prepared) := do
  require
    [changeId request.operationId "operation id", changeId request.proposalId "proposal id",
      changeId request.approvalId "approval id", changeId request.ownerId "owner id",
      changeId request.idempotencyKey "idempotency key",
      recoveryReference request.recovery.storageRef,
      changeDigest request.recovery.sha256 "recovery artifact digest",
      recoveryLength request.recovery.byteLength,
      changeDigest request.recovery.metadataDigest "recovery metadata digest",
      (1 ≤ request.leaseSeconds && request.leaseSeconds ≤ 3600,
        .value "lease_seconds must be between 1 and 3600")]
  let leaseUntil ← now.addSeconds request.leaseSeconds
  let mismatch := .store "ECO_CHANGE_AUTHORITY_MISMATCH"
    "Proposal or approval is not bound"
  let proposal ← expect mismatch (db.proposals.get? request.proposalId)
  let approval ← expect mismatch (db.approvals.get? request.approvalId)
  require
    [(approval.proposalId = request.proposalId, mismatch),
      changeDigest proposal.record.proposal.policyDecisionDigest
        "policy decision digest"]
  db.prepareRow cfg request proposal approval
    (cfg.operationRow request proposal leaseToken leaseUntil now) leaseToken leaseUntil
    now transactionId

/-! ## Leases -/

/-- What a worker presents with a change of an operation row. -/
structure LeaseClaim where
  ownerId : String
  token : String
  epoch : ℤ
  now : Instant

def OperationRow.heldBy (row : OperationRow) (lease : LeaseClaim) : Bool :=
  row.leaseOwnerId = some lease.ownerId && (row.leaseEpoch : ℤ) = lease.epoch &&
    row.leaseTokenDigest = some (cfg.leaseDigest lease.token)

def OperationRow.leaseRunning (row : OperationRow) (now : Instant) : Bool :=
  row.leaseUntilEpochUs.any (cfg.epoch now < ·)

def OperationRow.requireLease (row : OperationRow) (lease : LeaseClaim) :
    List (Bool × StoreError) :=
  [(row.heldBy cfg lease, .store "ECO_CHANGE_FENCED" "Change operation lease is stale"),
    (row.leaseRunning cfg lease.now,
      .store "ECO_CHANGE_LEASE_EXPIRED" "Change operation lease expired")]

/-! ## Transitions -/

inductive DigestColumn
  | beforeProof | executionIntent | applyReceipt | rollbackReceipt | failure
  | recoveryReason

def OperationRow.column (row : OperationRow) : DigestColumn → Option String
  | .beforeProof => row.beforeProofDigest
  | .executionIntent => row.executionIntentDigest
  | .applyReceipt => row.applyReceiptDigest
  | .rollbackReceipt => row.rollbackReceiptDigest
  | .failure => row.failureDigest
  | .recoveryReason => row.recoveryReasonDigest

def OperationRow.setColumn (row : OperationRow) (digest : String) :
    DigestColumn → OperationRow
  | .beforeProof => { row with beforeProofDigest := some digest }
  | .executionIntent => { row with executionIntentDigest := some digest }
  | .applyReceipt => { row with applyReceiptDigest := some digest }
  | .rollbackReceipt => { row with rollbackReceiptDigest := some digest }
  | .failure => { row with failureDigest := some digest }
  | .recoveryReason => { row with recoveryReasonDigest := some digest }

/-- The arguments of `_transition` beside the operation and the lease. -/
structure Transition where
  allowed : List OperationState
  target : OperationState
  receipt : Option (DigestColumn × String) := none
  reason : Option (DigestColumn × String) := none
  recoveryPhase : Option RecoveryPhase := none
  lockActive : Option Bool := none
  recoverySourcePhase : Option RecoveryPhase := none
  recovery : Option RecoveryArtifact := none

/-- A repeated transition names the same bindings. -/
def Transition.replays (t : Transition) (row : OperationRow) : Bool :=
  t.receipt.all (fun c => row.column c.1 = some c.2) &&
    t.reason.all (fun c => row.column c.1 = some c.2) &&
    t.recovery.all (fun artifact => row.recovery = artifact)

def Transition.phaseFrom (t : Transition) (row : OperationRow) : Option RecoveryPhase :=
  if t.target = .recoveryRequired then
    some (if row.state = .applied ∨ row.state = .rollingBack then .rollback else .apply)
  else t.recoveryPhase

def OperationState.terminal (s : OperationState) : Bool :=
  s ∈ [.committed, .rolledBack, .failed]

def OperationRow.rebind (row : OperationRow) (operationId : String)
    (artifact : RecoveryArtifact) : OperationRow :=
  { row with
    recovery := artifact
    intentDigest := cfg.intentDigest operationId { row with recovery := artifact } }

def OperationRow.clearLease (row : OperationRow) : OperationRow :=
  { row with leaseOwnerId := none, leaseTokenDigest := none, leaseUntilEpochUs := none }

/-- The `UPDATE` of `_transition`. -/
def Transition.update (t : Transition) (operationId : String) (now : Instant)
    (row : OperationRow) : OperationRow :=
  let moved : OperationRow :=
    { row with
      state := t.target
      updatedAt := utc now
      recoveryPhase := (t.phaseFrom row).orElse fun _ => row.recoveryPhase }
  let received := t.receipt.elim moved fun c => moved.setColumn c.2 c.1
  let reasoned := t.reason.elim received fun c => received.setColumn c.2 c.1
  let rebound := t.recovery.elim reasoned (reasoned.rebind cfg operationId)
  if t.target.terminal then rebound.clearLease else rebound

/-- The checks of `_transition` on the row that it finds. -/
def Transition.checks (t : Transition) (lease : LeaseClaim) (row : OperationRow) :
    List (Bool × StoreError) :=
  (row.state ∈ t.allowed, .store "ECO_CHANGE_STATE" "Change transition is not allowed") ::
    (row.state ≠ .recoveryRequired ||
        t.recoverySourcePhase.all (row.recoveryPhase = some ·),
      .store "ECO_CHANGE_RECOVERY_PHASE" "Recovery direction does not permit transition") ::
    (t.target ≠ .applying ||
        (row.beforeProofDigest.isSome && row.executionIntentDigest.isSome),
      .store "ECO_CHANGE_ROLLBACK_UNREADY"
        "Before proof and execution intent must be durable before apply") ::
    row.requireLease cfg lease

def Tables.updateFree (t : Tables) (operationId : String) (row : OperationRow) :
    List (Bool × StoreError) :=
  [(row.recovery.byteLength ≤ maxInteger, .overflow), ((t.operations.select fun id other =>
        id ≠ operationId && other.intentDigest = row.intentDigest).isEmpty, .integrity)]

def Tables.release (t : Tables) (target operationId : String) (now : Instant) :
    Tables :=
  { t with
    locks := t.locks.modify target fun lock =>
      if lock.operationId = operationId then
        { lock with state := .released, updatedAt := utc now }
      else lock }

def Db.setLock (db : Db) (operationId : String) (row : OperationRow) (active : Bool)
    (now : Instant) (transactionId : String) : Except StoreError Db := do
  require
    [(!active || !(db.locks.get? row.targetRefDigest).any
        (fun lock => lock.state = .active && lock.operationId ≠ operationId),
      .store "ECO_CHANGE_TARGET_LOCKED" "Change target is already locked")]
  let t :=
    if active then db.acquire row.targetRefDigest operationId now
    else db.release row.targetRefDigest operationId now
  (db.put t).auditRow cfg .targetLock row.targetRefDigest transactionId
    (if active then .acquired else .released) (utc now)

def Tables.setOperation (t : Tables) (operationId : String) (row : OperationRow) :
    Tables :=
  { t with operations := t.operations.modify operationId fun _ => row }

/-- `_transition` behind the search for a replay. -/
def Db.enter (db : Db) (t : Transition) (operationId : String) (row : OperationRow)
    (lease : LeaseClaim) (transactionId : String) :
    Except StoreError (Db × OperationRow) := do
  let updated := t.update cfg operationId lease.now row
  require (t.checks cfg lease row ++ db.updateFree operationId updated)
  let db := db.put (db.setOperation operationId updated)
  let db ← t.lockActive.elim (.ok db) fun active =>
    db.setLock cfg operationId updated active lease.now transactionId
  let db ← db.auditRow cfg .operation operationId transactionId (.entered t.target)
    (utc lease.now)
  return (db, updated)

def Db.repeat (db : Db) (t : Transition) (row : OperationRow) :
    Except StoreError (Db × OperationRow) := do
  require [(t.replays row, .store "ECO_CHANGE_IDEMPOTENCY_CONFLICT"
      "Repeated change transition has different authority bindings")]
  return (db, row)

def Db.transition (db : Db) (t : Transition) (operationId : String)
    (lease : LeaseClaim) (transactionId : String) :
    Except StoreError (Db × OperationRow) := do
  require
    ([changeId operationId "operation id", changeId lease.ownerId "owner id"] ++
      (t.receipt.map fun c => changeDigest c.2 "receipt digest").toList ++
      (t.reason.map fun c => changeDigest c.2 "reason digest").toList)
  let row ← expect operationUnknown (db.operations.get? operationId)
  if row.state = t.target then db.repeat t row
  else db.enter cfg t operationId row lease transactionId

/-! ## The transitions by name -/

def rollbackReadyTransition (beforeProofDigest executionIntentDigest : String)
    (recovery : RecoveryArtifact) : Transition where
  allowed := [.prepared, .recoveryRequired]
  target := .rollbackReady
  reason := some (.beforeProof, beforeProofDigest)
  receipt := some (.executionIntent, executionIntentDigest)
  recoveryPhase := some .apply
  recoverySourcePhase := some .apply
  lockActive := some true
  recovery := some recovery

def applyingTransition : Transition where
  allowed := [.rollbackReady]
  target := .applying
  recoveryPhase := some .apply
  lockActive := some true

def commitReadyTransition : Transition where
  allowed := [.applying]
  target := .commitReady
  recoveryPhase := some .apply
  lockActive := some true

def appliedTransition (receiptDigest : String) : Transition where
  allowed := [.commitReady]
  target := .applied
  receipt := some (.applyReceipt, receiptDigest)
  lockActive := some true

def committedTransition : Transition where
  allowed := [.applied]
  target := .committed
  lockActive := some false

def rollingBackTransition : Transition where
  allowed := [.applied, .recoveryRequired]
  target := .rollingBack
  recoveryPhase := some .rollback
  lockActive := some true

def rolledBackTransition (receiptDigest : String) : Transition where
  allowed := [.rollingBack]
  target := .rolledBack
  receipt := some (.rollbackReceipt, receiptDigest)
  lockActive := some false

def nonterminal : List OperationState :=
  [.prepared, .applying, .commitReady, .rollbackReady, .rollingBack, .recoveryRequired]

def failedTransition (failureDigest : String) : Transition where
  allowed := nonterminal
  target := .failed
  reason := some (.failure, failureDigest)
  lockActive := some false

def recoveryRequiredTransition (reasonDigest : String) : Transition where
  allowed := [.prepared, .rollbackReady, .applying, .commitReady, .applied, .rollingBack]
  target := .recoveryRequired
  reason := some (.recoveryReason, reasonDigest)
  lockActive := some true

def Db.markRollbackReady (db : Db) (operationId beforeProofDigest
    executionIntentDigest : String) (recovery : RecoveryArtifact) (lease : LeaseClaim)
    (transactionId : String) : Except StoreError (Db × OperationRow) := do
  require
    [recoveryReference recovery.storageRef,
      changeDigest recovery.sha256 "recovery artifact digest",
      recoveryLength recovery.byteLength,
      changeDigest recovery.metadataDigest "recovery metadata digest"]
  db.transition cfg
    (rollbackReadyTransition beforeProofDigest executionIntentDigest recovery)
    operationId lease transactionId

def Db.markApplying (db : Db) (operationId : String) (lease : LeaseClaim)
    (transactionId : String) : Except StoreError (Db × OperationRow) :=
  db.transition cfg applyingTransition operationId lease transactionId

def Db.markCommitReady (db : Db) (operationId : String) (lease : LeaseClaim)
    (transactionId : String) : Except StoreError (Db × OperationRow) :=
  db.transition cfg commitReadyTransition operationId lease transactionId

def Db.markApplied (db : Db) (operationId receiptDigest : String)
    (lease : LeaseClaim) (transactionId : String) :
    Except StoreError (Db × OperationRow) :=
  db.transition cfg (appliedTransition receiptDigest) operationId lease transactionId

def Db.markCommitted (db : Db) (operationId : String) (lease : LeaseClaim)
    (transactionId : String) : Except StoreError (Db × OperationRow) :=
  db.transition cfg committedTransition operationId lease transactionId

def Db.markRollingBack (db : Db) (operationId : String) (lease : LeaseClaim)
    (transactionId : String) : Except StoreError (Db × OperationRow) :=
  db.transition cfg rollingBackTransition operationId lease transactionId

def Db.markRolledBack (db : Db) (operationId receiptDigest : String)
    (lease : LeaseClaim) (transactionId : String) :
    Except StoreError (Db × OperationRow) :=
  db.transition cfg (rolledBackTransition receiptDigest) operationId lease
    transactionId

def Db.markFailed (db : Db) (operationId failureDigest : String)
    (lease : LeaseClaim) (transactionId : String) :
    Except StoreError (Db × OperationRow) :=
  db.transition cfg (failedTransition failureDigest) operationId lease transactionId

def Db.markRecoveryRequired (db : Db) (operationId reasonDigest : String)
    (lease : LeaseClaim) (transactionId : String) :
    Except StoreError (Db × OperationRow) :=
  db.transition cfg (recoveryRequiredTransition reasonDigest) operationId lease
    transactionId

/-! ## Recovery -/

def Db.recordRecoveryConflict (db : Db) (operationId reasonDigest : String)
    (lease : LeaseClaim) (transactionId : String) :
    Except StoreError (Db × OperationRow) := do
  require [changeDigest reasonDigest "recovery reason digest"]
  let row ← expect operationUnknown (db.operations.get? operationId)
  require
    ((row.state = .recoveryRequired,
        .store "ECO_CHANGE_STATE" "Operation is not awaiting recovery") ::
      row.requireLease cfg lease)
  let updated : OperationRow :=
    { row with recoveryReasonDigest := some reasonDigest, updatedAt := utc lease.now }
  let db ← (db.put (db.setOperation operationId updated)).auditRow cfg .operation
    operationId transactionId .recoveryConflict (utc lease.now)
  return (db, updated)

structure ClaimRequest where
  operationId : String
  ownerId : String
  leaseSeconds : ℕ := 30

/-- What `claim_operation` answers. -/
inductive Claimed
  | lease (token : String) (leaseUntil : Instant) (row : OperationRow)
  | closed (row : OperationRow)

def OperationRow.claimPhase (row : OperationRow) : RecoveryPhase :=
  if row.state = .applied ∨ row.state = .rollingBack then .rollback
  else row.recoveryPhase.getD .apply

/-- The `UPDATE` of `claim_operation`. -/
def OperationRow.claim (row : OperationRow) (request : ClaimRequest)
    (leaseToken : String) (leaseUntil now : Instant) : OperationRow :=
  { row with
    state := .recoveryRequired
    recoveryPhase := some row.claimPhase
    leaseOwnerId := some request.ownerId
    leaseEpoch := row.leaseEpoch + 1
    leaseTokenDigest := some (cfg.leaseDigest leaseToken)
    leaseUntilEpochUs := some (cfg.epoch leaseUntil)
    updatedAt := utc now }

/-- The transaction of `claim_operation` on an operation that is not closed. -/
def Db.takeOver (db : Db) (request : ClaimRequest) (row : OperationRow)
    (leaseUntil now : Instant) (transactionId leaseToken : String) :
    Except StoreError (Db × Claimed) := do
  require [(!row.leaseRunning cfg now,
    .store "ECO_CHANGE_IN_PROGRESS" "Change operation lease is active")]
  let updated := row.claim cfg request leaseToken leaseUntil now
  let db ← (db.put (db.setOperation request.operationId updated)).auditRow cfg
    .operation request.operationId transactionId (.entered .recoveryRequired) (utc now)
  return (db, .lease leaseToken leaseUntil updated)

def Db.claimOperation (db : Db) (request : ClaimRequest) (now : Instant)
    (transactionId leaseToken : String) : Except StoreError (Db × Claimed) := do
  require
    [changeId request.ownerId "owner id",
      (1 ≤ request.leaseSeconds && request.leaseSeconds ≤ 3600,
        .value "lease_seconds must be between 1 and 3600")]
  let leaseUntil ← now.addSeconds request.leaseSeconds
  let row ← expect operationUnknown (db.operations.get? request.operationId)
  if row.state ∈ nonterminal ∨ row.state = .applied then
    db.takeOver cfg request row leaseUntil now transactionId leaseToken
  else return (db, .closed row)

end Operations

end Ecosystem.Changes
