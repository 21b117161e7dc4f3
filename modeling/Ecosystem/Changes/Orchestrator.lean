import Ecosystem.Changes.Broker

/-!
# The controlled write orchestrator

`create_proposal`, `execute` and `recover` of `ControlledWriteOrchestrator`, in the
order of the source; a call of the change authority is one step.

The recovery bundle is stored before the operation is prepared, and again with the
backup.  Two bundles under one reference would be a collision of SHA-256, which the
store of the model refuses.  An execution answers its state and its error code.
-/

namespace Ecosystem.Changes

open Ecosystem.Lib

/-! ## Steps on the stores -/

/-- A transaction of the change authority. -/
def authority {β : Type} (call : Circumstance → Db → Except StoreError (Db × β)) :
    WriteProg β :=
  attempt fun c w => match call c w.db with
    | .ok (db, answer) => (.ok answer, { w with db := db })
    | .error e => (.error (.store e), w)

/-- A query of the change authority. -/
def query {β : Type} (read : Db → Except StoreError β) : WriteProg β :=
  inspect fun _ w => match read w.db with
    | .ok answer => .ok answer
    | .error e => .error (.store e)

def storeCheck (checks : List (Bool × StoreError)) : WriteProg Unit :=
  match require checks with
  | .ok () => pure ()
  | .error e => .fail (.store e)

/-- `_parse`. -/
def parseTime : TimeText → Except StoreError Instant
  | .aware stamp => parse stamp
  | .naive _ =>
    .error (.store "ECO_TIME_INVALID" "Runtime timestamp lacks a timezone")
  | .invalid _ => .error (.store "ECO_TIME_INVALID" "Runtime timestamp is invalid")

def readTime (text : TimeText) : WriteProg Instant :=
  match parseTime text with
  | .ok t => pure t
  | .error e => .fail (.store e)

def Db.operationStatus (db : Db) (id : String) : Except StoreError OperationRow :=
  expect operationUnknown (db.operations.get? id)

def Db.proposalStatus (db : Db) (id : String) : Except StoreError ProposalRecord := do
  require [changeId id "proposal id"]
  let row ← expect (.store "ECO_CHANGE_UNKNOWN" "Change proposal does not exist")
    (db.proposals.get? id)
  return row.record

def Db.approvalStatus (db : Db) (id : String) : Except StoreError ApprovalRow := do
  require [changeId id "approval id"]
  expect (.store "ECO_APPROVAL_UNKNOWN" "Approval does not exist") (db.approvals.get? id)

def Db.assertOperationLease (cfg : ChangeConfig) (db : Db) (id : String)
    (required : OperationState) (lease : LeaseClaim) : Except StoreError Unit := do
  require
    [changeId id "operation id", changeId lease.ownerId "owner id",
      (required ∈ [.rollbackReady, .applying, .rollingBack],
        .value "required_state is not an in-flight write state")]
  let row ← db.operationStatus id
  require
    ((row.state = required,
      .store "ECO_CHANGE_STATE" "Change operation is not authorized for commit I/O") ::
      row.requireLease cfg lease)

section Orchestrator

variable (cfg : WriteConfig)

def RunStatus.executes (run : RunStatus) (planDigest : String) : Bool :=
  run.state = .running && run.activePlanDigest = some planDigest

def requireActivePlan (planDigest : String) : WriteProg Unit :=
  inspect fun c _ =>
    if c.run.executes planDigest then .ok ()
    else .error (.store (.store "ECO_PLAN_NOT_ACTIVE"
      "Controlled write requires the exact active running plan"))

def persistRecoveryBundle (bundle : RecoveryBundle) : WriteProg Unit :=
  perform fun _ w => match w.bundles (cfg.recoveryArtifact bundle) with
    | none => .ok { w with
        bundles := fun artifact =>
          if artifact = cfg.recoveryArtifact bundle then some bundle
          else w.bundles artifact }
    | some stored =>
      if stored = bundle then .ok w
      else .error (.store (.store "ECO_ARTIFACT_DIGEST_MISMATCH"
        "Artifact content digest does not match"))

def loadRecoveryBundle (row : OperationRow) : WriteProg RecoveryBundle :=
  inspect fun _ w => match w.bundles row.recovery with
    | some bundle => .ok bundle
    | none => .error (.store (.store "ECO_CHANGE_RECOVERY_INVALID"
        "Durable recovery bundle is invalid"))

def WritePlan.bindsSnapshot (plan : WritePlan) (snapshot : RepositorySnapshot) : Bool :=
  plan.repositorySnapshot =
    some ⟨snapshot.id, cfg.digest (.snapshot snapshot), snapshot.rootIdentityDigest⟩

/-! ## Proposing a write -/

structure ProposalInput where
  plan : WritePlan
  snapshot : RepositorySnapshot
  toolRequest : ToolRequest
  policyDecision : PolicyDecision
  candidateArtifact : ArtifactRecord
  candidateProof : ArtifactProof
  displayDigest : String
  now : Instant
  approvalTtlSeconds : ℕ := 300

/-- The proposal document that `create_proposal` composes. -/
def ProposalInput.document (i : ProposalInput) (expiresAt : Instant) : ChangeProposal where
  id := "proposal-" ++ cfg.digest
    (.proposalKey i.plan.runId (cfg.digest (.toolRequest i.toolRequest)))
  runId := i.plan.runId
  createdAt := utc i.now
  planDigest := cfg.digest (.plan i.plan)
  toolRequest := ⟨i.toolRequest.id, cfg.digest (.toolRequest i.toolRequest)⟩
  policyAllowDecision :=
    ⟨i.policyDecision.id, cfg.digest (.policyDecision i.policyDecision)⟩
  operation := i.toolRequest.arguments.operation
  pathDigest := cfg.pathReferenceDigest i.toolRequest.arguments.path
  candidateArtifact := cfg.artifactDescriptor i.candidateArtifact i.candidateProof
  displayDigest := i.displayDigest
  approvalExpiresAt := .aware (utc expiresAt)

/-- What `create_proposal` returns once the authority knows the proposal. -/
def ProposalInput.result (i : ProposalInput) (document : ChangeProposal)
    (subjectDigest : String) : ControlledWriteProposal where
  plan := i.plan
  snapshot := i.snapshot
  toolRequest := i.toolRequest
  policyDecision := i.policyDecision
  proposal := document
  approvalRequest :=
    { id := "approval-request-" ++ cfg.digest (.proposal document)
      runId := i.plan.runId
      createdAt := .aware (utc i.now)
      proposal := ⟨document.id, cfg.digest (.proposal document)⟩
      toolRequest := ⟨i.toolRequest.id, cfg.digest (.toolRequest i.toolRequest)⟩
      authoritySubjectDigest := subjectDigest
      displayDigest := i.displayDigest
      expiresAt := document.approvalExpiresAt }
  authoritySubjectDigest := subjectDigest
  candidateArtifact := i.candidateArtifact
  candidateProof := i.candidateProof
  path := i.toolRequest.arguments.path

def createProposal (i : ProposalInput) : WriteProg ControlledWriteProposal := do
  storeCheck
    [(1 ≤ i.approvalTtlSeconds && i.approvalTtlSeconds ≤ 3600,
        .value "approval_ttl_seconds must be between 1 and 3600"),
      (i.plan.tools ≠ [] && i.plan.tools.all (·.id = "repository.write"),
        .store "ECO_WRITE_PLAN_SCOPE"
          "The bounded M3 profile requires a dedicated write-only plan"),
      (i.plan.bindsSnapshot cfg i.snapshot &&
          cfg.rootIdentityDigest = i.snapshot.rootIdentityDigest,
        .store "ECO_ROOT_IDENTITY_MISMATCH"
          "Plan, snapshot and write broker are not bound to the same workspace root")]
  requireActivePlan (cfg.digest (.plan i.plan))
  inspect fun c _ =>
    if c.trusted && i.policyDecision.allows then .ok ()
    else .error (.store (.store "ECO_DECISION_UNTRUSTED"
      "Write decision is not an exact policy allow"))
  verifyAvailability cfg i.candidateProof
    (.store (.store "ECO_ARTIFACT_PROOF_INVALID" "Artifact availability proof is invalid"))
  storeCheck
    [(cfg.artifactDescriptor i.candidateArtifact i.candidateProof =
          i.toolRequest.arguments.candidateArtifact,
        .store "ECO_CANDIDATE_MISMATCH" "Candidate artifact binding differs"),
      (i.candidateArtifact.runId = i.plan.runId,
        .store "ECO_RUN_MISMATCH" "Candidate belongs to another run"),
      (i.candidateArtifact.storageRef = i.candidateProof.storageRef,
        .store "ECO_CANDIDATE_MISMATCH" "Candidate storage binding differs")]
  let decisionExpires ← readTime i.policyDecision.expiresAt
  let approvalExpires ← match i.now.addSeconds i.approvalTtlSeconds with
    | .ok t => pure t
    | .error e => .fail (.store e)
  let expiresAt :=
    if decisionExpires.us < approvalExpires.us then decisionExpires else approvalExpires
  let document := i.document cfg expiresAt
  let digests ← authority fun c db =>
    db.registerProposal cfg.changes
      (cfg.authorityProposal (i.result cfg document "")) i.now c.transactionId
  return i.result cfg document digests.2

/-! ## Executing a write -/

/-- `ControlledWriteExecution`. -/
structure WriteExecution where
  operationId : String
  state : OperationState
  replayed : Bool
  errorCode : Option String := none
deriving DecidableEq

structure ExecuteRequest where
  proposal : ControlledWriteProposal
  envelope : Envelope
  idempotencyKey : String
  now : Instant
  validated : Bool := false

namespace ExecuteRequest

variable (x : ExecuteRequest)

def arguments : WriteArguments := x.proposal.toolRequest.arguments

def operationId : String := cfg.operationId x.proposal.plan.runId x.idempotencyKey

def planDigest : String := cfg.digest (.plan x.proposal.plan)

def toolRequestReference : Reference :=
  ⟨x.proposal.toolRequest.id, cfg.digest (.toolRequest x.proposal.toolRequest)⟩

def policyDecisionReference : Reference :=
  ⟨x.proposal.policyDecision.id, cfg.digest (.policyDecision x.proposal.policyDecision)⟩

def proposalReference : Reference :=
  ⟨x.proposal.proposal.id, cfg.digest (.proposal x.proposal.proposal)⟩

/-- The checks of `execute` on the records of a proposal. -/
def bindingChecks : List (Bool × StoreError) :=
  let p := x.proposal
  [(p.path = x.arguments.path &&
        p.toolRequest.planDigest = x.planDigest cfg &&
        p.proposal.planDigest = x.planDigest cfg &&
        p.proposal.pathDigest = cfg.pathReferenceDigest p.path &&
        p.proposal.toolRequest = x.toolRequestReference cfg &&
        p.proposal.policyAllowDecision = x.policyDecisionReference cfg &&
        p.proposal.candidateArtifact = x.arguments.candidateArtifact &&
        p.approvalRequest.proposal = x.proposalReference cfg &&
        p.approvalRequest.toolRequest = x.toolRequestReference cfg &&
        p.approvalRequest.authoritySubjectDigest = p.authoritySubjectDigest &&
        p.approvalRequest.displayDigest = p.proposal.displayDigest &&
        p.approvalRequest.expiresAt = p.proposal.approvalExpiresAt &&
        p.plan.bindsSnapshot cfg p.snapshot &&
        cfg.rootIdentityDigest = p.snapshot.rootIdentityDigest,
      .store "ECO_CHANGE_AUTHORITY_MISMATCH" "Proposal bundle binding differs"),
    (cfg.artifactDescriptor p.candidateArtifact p.candidateProof =
        x.arguments.candidateArtifact,
      .store "ECO_CANDIDATE_MISMATCH" "Candidate artifact binding differs")]

def authorizedBy (stored : ProposalRecord) : Bool :=
  stored.proposal = cfg.authorityProposal x.proposal &&
    stored.subjectDigest = x.proposal.authoritySubjectDigest

/-- `build_approval_grant`. -/
def approvalGrant : ApprovalGrant where
  id := x.envelope.approvalId
  runId := x.proposal.plan.runId
  approvalRequest :=
    ⟨x.proposal.approvalRequest.id,
      cfg.digest (.approvalRequest x.proposal.approvalRequest)⟩
  proposal := x.proposalReference cfg
  authoritySubjectDigest := x.envelope.subjectDigest
  displayDigest := x.proposal.proposal.displayDigest
  envelope := x.envelope

def preparedBundle (temporaryName : String) : RecoveryBundle where
  operationId := x.operationId cfg
  runId := x.proposal.plan.runId
  proposalId := x.proposal.proposal.id
  proposalDigest := cfg.digest (.proposal x.proposal.proposal)
  approvalId := (x.approvalGrant cfg).id
  policyDecisionDigest := cfg.digest (.policyDecision x.proposal.policyDecision)
  rootIdentityDigest := x.proposal.snapshot.rootIdentityDigest
  path := x.proposal.path
  pathDigest := x.proposal.proposal.pathDigest
  operation := x.arguments.operation
  candidate :=
    { storageRef := x.proposal.candidateProof.storageRef
      sha256 := x.proposal.candidateProof.sha256
      byteLength := x.proposal.candidateProof.byteLength
      mode := x.arguments.candidateArtifact.mode }
  temporaryName := temporaryName

def backupArtifact (proof : ArtifactProof) : ArtifactRecord where
  runId := x.proposal.plan.runId
  sha256 := proof.sha256
  byteLength := proof.byteLength
  dataClass := x.proposal.candidateArtifact.dataClass
  trust := "P1"
  storageRef := proof.storageRef
  rest := "backup-" ++ x.operationId cfg

def idempotencyKeyDigest : String :=
  cfg.changes.semanticDigest (.idempotency x.idempotencyKey)

/-- The intent that `rollback_ready` composes. -/
def writeIntent (toolCatalogDigest : String) (proof : Option ArtifactProof) :
    WriteIntent where
  id := x.operationId cfg
  runId := x.proposal.plan.runId
  createdAt := utc x.now
  idempotencyKeyDigest := x.idempotencyKeyDigest cfg
  planDigest := x.planDigest cfg
  toolRequest := x.toolRequestReference cfg
  policyAllowDecision := x.policyDecisionReference cfg
  approvalGrant :=
    ⟨(x.approvalGrant cfg).id, cfg.digest (.approvalGrant (x.approvalGrant cfg))⟩
  proposal := x.proposalReference cfg
  toolCatalogDigest := toolCatalogDigest
  operation := x.arguments.operation
  pathDigest := x.proposal.proposal.pathDigest
  candidateArtifact := x.arguments.candidateArtifact
  expectedAppliedDigest := x.proposal.candidateProof.sha256
  backupArtifact := proof.map fun p => cfg.artifactDescriptor (x.backupArtifact cfg p) p

def beforeProofDigest (proof : Option ArtifactProof) : String :=
  cfg.digest (.beforeProof x.arguments.operation.before.isSome
    (proof.map fun p => cfg.digest (.availability p))
    (proof.map fun p => cfg.digest (.artifact (x.backupArtifact cfg p))))

def writeReceipt (intentDigest : String) (after : File) : WriteReceipt where
  operationId := x.operationId cfg
  runId := x.proposal.plan.runId
  createdAt := utc x.now
  intentDigest := intentDigest
  proposalDigest := cfg.digest (.proposal x.proposal.proposal)
  toolRequestDigest := cfg.digest (.toolRequest x.proposal.toolRequest)
  policyDecisionDigest := cfg.digest (.policyDecision x.proposal.policyDecision)
  approvalGrantDigest := cfg.digest (.approvalGrant (x.approvalGrant cfg))
  idempotencyKeyDigest := x.idempotencyKeyDigest cfg
  operation := x.arguments.operation
  pathDigest := x.proposal.proposal.pathDigest
  applied := after

def rollbackReceipt (intentDigest receiptDigest : String) (restored : FileState) :
    RollbackReceipt where
  operationId := x.operationId cfg
  runId := x.proposal.plan.runId
  createdAt := utc x.now
  writeIntentDigest := intentDigest
  writeReceiptDigest := receiptDigest
  pathDigest := x.proposal.proposal.pathDigest
  expectedAppliedDigest := x.proposal.candidateProof.sha256
  beforeRestored := restored

end ExecuteRequest

structure HeldLease where
  operationId : String
  token : String
  epoch : ℕ

/-- `current_lease`. -/
def HeldLease.claim (lease : HeldLease) (c : Circumstance) : LeaseClaim :=
  ⟨cfg.ownerId, lease.token, lease.epoch, c.now⟩

/-- An answer to an exact retry: historical evidence, no new authority. -/
def replayExisting (x : ExecuteRequest) (existing : OperationRow) :
    WriteProg WriteExecution := do
  let _ ← match cfg.changes.trust.verifySignature x.envelope
      x.proposal.authoritySubjectDigest with
    | .ok window => pure window
    | .error e => .fail (.store e)
  let stored ← query fun db => db.approvalStatus existing.approvalId
  storeCheck
    [(existing.proposalId = x.proposal.proposal.id &&
        existing.approvalId = x.envelope.approvalId &&
        existing.idempotencyKeyDigest = x.idempotencyKeyDigest cfg &&
        existing.policyDecisionDigest =
          cfg.digest (.policyDecision x.proposal.policyDecision) &&
        stored.envelopeDigest = cfg.changes.semanticDigest (.envelope x.envelope) &&
        stored.consumedOperationId = some (x.operationId cfg),
      .store "ECO_CHANGE_IDEMPOTENCY_CONFLICT"
        "Operation id is already bound to another exact authority")]
  return { operationId := x.operationId cfg, state := existing.state, replayed := true }

/-- The recovery bundle of an operation that can be rolled back. -/
def RecoveryBundle.ready (bundle : RecoveryBundle) (intentDigest : String)
    (proof : Option ArtifactProof) : RecoveryBundle :=
  { bundle with
    backup := proof.map fun p => ⟨p.storageRef, p.sha256, p.byteLength⟩
    intentDigest := some intentDigest
    phase := .rollbackReady }

/-- `rollback_ready`: the hook before the workspace is touched. -/
def rollbackReady (x : ExecuteRequest) (bundle : RecoveryBundle) (lease : HeldLease)
    (proof : Option ArtifactProof) : WriteProg Unit := do
  requireActivePlan (x.planDigest cfg)
  let tool ← match x.proposal.plan.tools.find? (·.id = "repository.write") with
    | some tool => pure tool
    | none => .fail .other
  phase
  let intentDigest := cfg.digest (.intent (x.writeIntent cfg tool.catalogDigest proof))
  let ready := bundle.ready intentDigest proof
  persistRecoveryBundle cfg ready
  let _ ← authority fun c db =>
    db.markRollbackReady cfg.changes lease.operationId (x.beforeProofDigest cfg proof)
      intentDigest (cfg.recoveryArtifact ready) (lease.claim cfg c) c.transactionId
  requireActivePlan (x.planDigest cfg)
  let _ ← authority fun c db =>
    db.markApplying cfg.changes lease.operationId (lease.claim cfg c) c.transactionId
  return

/-- `commit_authority`: the hook before the rename.  The guard of the runtime store
keeps the run as it is until the authority has committed. -/
def commitAuthority (x : ExecuteRequest) (lease : HeldLease) : WriteProg Unit := do
  attempt fun c w =>
    if c.run.executes (x.planDigest cfg) then
      match w.db.markCommitReady cfg.changes lease.operationId (lease.claim cfg c)
          c.transactionId with
      | .ok (db, row) =>
        (.ok (), { w with db := db }.record
          (.authorized lease.operationId row c.run c.now))
      | .error e => (.error (.store e), w)
    else (.error (.store (.store "ECO_PLAN_NOT_ACTIVE"
      "External commit requires the exact active running plan")), w)

/-- The verdict of `post_apply_validator`; an exception is a rejection. -/
def judge (x : ExecuteRequest) (operationId : String) : WriteProg Bool :=
  .act fun c w =>
    let verdict := if x.validated then some c.verdict else none
    (.ok (accepts verdict), w.record (.judged operationId verdict))

def assertRollingBack (lease : HeldLease) : WriteProg Unit :=
  inspect fun c w =>
    match w.db.assertOperationLease cfg.changes lease.operationId .rollingBack
        (lease.claim cfg c) with
    | .ok () => .ok ()
    | .error e => .error (.store e)

def ExecuteRequest.applyRequest (x : ExecuteRequest) (temporaryName : String) :
    ApplyRequest where
  path := x.proposal.path
  operation := x.arguments.operation
  candidate := x.proposal.candidateProof
  mode := x.arguments.candidateArtifact.mode
  temporaryName := temporaryName

def undo (x : ExecuteRequest) (temporaryName : String) (lease : HeldLease)
    (intentDigest receiptDigest : String) (result : WriteResult) :
    WriteProg WriteExecution := do
  let _ ← authority fun c db =>
    db.markRollingBack cfg.changes lease.operationId (lease.claim cfg c) c.transactionId
  let rolledBack ← rollback cfg result temporaryName (assertRollingBack cfg lease)
  phase
  let _ ← authority fun c db =>
    db.markRolledBack cfg.changes lease.operationId
      (cfg.digest (.rollbackReceipt
        (x.rollbackReceipt cfg intentDigest receiptDigest rolledBack.state)))
      (lease.claim cfg c) c.transactionId
  return {
    operationId := lease.operationId
    state := .rolledBack
    replayed := false
    errorCode := some "ECO_POST_APPLY_VALIDATION_FAILED" }

/-- `execute` from the broker's `apply` to a final state. -/
def applyAndCommit (x : ExecuteRequest) (bundle : RecoveryBundle) (lease : HeldLease) :
    WriteProg WriteExecution := do
  let result ← apply cfg (x.applyRequest bundle.temporaryName)
    (rollbackReady cfg x bundle lease) (commitAuthority cfg x lease)
  phase
  let intentDigest := cfg.digest (.intent (x.writeIntent cfg
    ((x.proposal.plan.tools.find? (·.id = "repository.write")).elim "" (·.catalogDigest))
    result.rollbackProof))
  let receiptDigest := cfg.digest (.receipt (x.writeReceipt cfg intentDigest result.after))
  let _ ← authority fun c db =>
    db.markApplied cfg.changes lease.operationId receiptDigest (lease.claim cfg c)
      c.transactionId
  let accepted ← judge x lease.operationId
  if accepted then
    let _ ← authority fun c db =>
      db.markCommitted cfg.changes lease.operationId (lease.claim cfg c) c.transactionId
    return { operationId := lease.operationId, state := .committed, replayed := false }
  else
    undo cfg x bundle.temporaryName lease intentDigest receiptDigest result

def untouched : List OperationState :=
  [.prepared, .rollbackReady, .applying, .commitReady]

/-- `observe` with its refusals ignored. -/
def tryObserve (path : String) : WriteProg (Option FileState) :=
  Prog.catch_ (do return some (← observe cfg path)) fun
    | .broker _ _ => pure none
    | e => .fail e

/-- `except BrokerError`. -/
def afterBrokerError (x : ExecuteRequest) (lease : HeldLease) :
    Failure → WriteProg WriteExecution
  | .broker code _ => do
    let row ← query fun db => db.operationStatus lease.operationId
    let observed ← tryObserve cfg x.proposal.path
    let failureDigest := cfg.digest (.failure "eco-write-failure-v1" code)
    if row.state ∈ untouched ∧ observed = some x.arguments.operation.before then
      let _ ← authority fun c db =>
        db.markFailed cfg.changes lease.operationId failureDigest (lease.claim cfg c)
          c.transactionId
      return {
        operationId := lease.operationId
        state := .failed
        replayed := false
        errorCode := some code }
    else
      let _ ← authority fun c db =>
        db.markRecoveryRequired cfg.changes lease.operationId failureDigest
          (lease.claim cfg c) c.transactionId
      return {
        operationId := lease.operationId
        state := .recoveryRequired
        replayed := false
        errorCode := some code }
  | e => .fail e

/-- The request that `execute` makes of `prepare_operation`. -/
def ExecuteRequest.prepareRequest (x : ExecuteRequest) (bundle : RecoveryBundle) :
    PrepareRequest where
  operationId := x.operationId cfg
  proposalId := x.proposal.proposal.id
  approvalId := (x.approvalGrant cfg).id
  idempotencyKey := x.idempotencyKey
  recovery := cfg.recoveryArtifact bundle
  ownerId := cfg.ownerId
  leaseSeconds := cfg.leaseSeconds

/-- `execute` for an operation that does not exist yet. -/
def executeFresh (x : ExecuteRequest) : WriteProg WriteExecution := do
  verifyAvailability cfg x.proposal.candidateProof
    (.store (.store "ECO_ARTIFACT_PROOF_INVALID" "Artifact availability proof is invalid"))
  let decisionExpires ← readTime x.proposal.policyDecision.expiresAt
  storeCheck [(x.now.us < decisionExpires.us,
    .store "ECO_DECISION_EXPIRED" "Write policy decision has expired")]
  let window ← match cfg.changes.trust.verify x.envelope
      x.proposal.authoritySubjectDigest x.now with
    | .ok window => pure window
    | .error e => .fail (.store e)
  let requestedAt ← readTime x.proposal.approvalRequest.createdAt
  let requestExpires ← readTime x.proposal.approvalRequest.expiresAt
  storeCheck [(requestedAt.us ≤ window.1.us && window.2.us ≤ requestExpires.us,
    .store "ECO_APPROVAL_SCOPE" "Approval validity is outside the exact request window")]
  phase
  let _ ← authority fun c db =>
    db.recordVerifiedGrant cfg.changes x.envelope x.now c.transactionId
  let temporaryName ← inspect fun c _ => .ok (".eco-write-" ++ c.secret ++ ".tmp")
  let bundle := x.preparedBundle cfg temporaryName
  persistRecoveryBundle cfg bundle
  let prepared ← authority fun c db =>
    db.prepareOperation cfg.changes (x.prepareRequest cfg bundle) x.now c.transactionId
      c.secret
  match prepared with
  | .replayed _ => do
    let row ← query fun db => db.operationStatus (x.operationId cfg)
    return { operationId := x.operationId cfg, state := row.state, replayed := true }
  | .fresh token _ _ =>
    let lease : HeldLease := ⟨x.operationId cfg, token, 1⟩
    (applyAndCommit cfg x bundle lease).catch_ (afterBrokerError cfg x lease)

def execute (x : ExecuteRequest) : WriteProg WriteExecution := do
  storeCheck (x.bindingChecks cfg)
  let stored ← query fun db => db.proposalStatus x.proposal.proposal.id
  storeCheck [(x.authorizedBy cfg stored, .store "ECO_CHANGE_AUTHORITY_MISMATCH"
      "Live write bundle differs from the exact approved authority proposal")]
  let existing ← inspect fun _ w => .ok (w.db.operations.get? (x.operationId cfg))
  match existing with
  | some row => replayExisting cfg x row
  | none => executeFresh cfg x

/-! ## Recovering a write -/

/-- The checks of `recover` on the bundle that it loads. -/
def RecoveryBundle.authorityChecks (b : RecoveryBundle) (operationId : String)
    (row : OperationRow) (stored : ProposalRecord) : List (Bool × StoreError) :=
  [(b.operationId = operationId && b.runId = row.runId &&
      b.proposalId = row.proposalId && b.approvalId = row.approvalId &&
      b.policyDecisionDigest = row.policyDecisionDigest &&
      b.rootIdentityDigest = stored.proposal.rootIdentityDigest &&
      b.rootIdentityDigest = cfg.rootIdentityDigest &&
      b.pathDigest = row.targetRefDigest &&
      cfg.pathReferenceDigest b.path = b.pathDigest,
    .store "ECO_CHANGE_RECOVERY_INVALID" "Recovery bundle authority differs")]

def RecoveryBundle.backupMatches (b : RecoveryBundle) : Bool :=
  match b.operation, b.backup with
  | .create, none => true
  | .replace before, some backup =>
    backup.sha256 = before.sha256 && backup.byteLength = before.byteLength
  | .create, some _ => false
  | .replace _, none => false

def RecoveryBundle.after (b : RecoveryBundle) : File :=
  ⟨b.candidate.sha256, b.candidate.byteLength, b.candidate.mode⟩

/-- The receipt on which `recover` rolls back. -/
def RecoveryBundle.writeResult (b : RecoveryBundle) : WriteResult where
  path := b.path
  operation := b.operation
  after := b.after
  candidate := cfg.makeProof b.candidate.storageRef b.candidate.sha256
    b.candidate.byteLength
  rollbackProof := b.backup.map fun backup =>
    cfg.makeProof backup.storageRef backup.sha256 backup.byteLength

def closeUntouched (b : RecoveryBundle) (lease : HeldLease) (row : OperationRow) :
    WriteProg WriteExecution :=
  if row.recoveryPhase = some .rollback then do
    let _ ← authority fun c db =>
      db.markRollingBack cfg.changes lease.operationId (lease.claim cfg c)
        c.transactionId
    let _ ← authority fun c db =>
      db.markRolledBack cfg.changes lease.operationId
        (cfg.digest (.recoveryReceipt lease.operationId b.intentDigest b.operation.before
          true true))
        (lease.claim cfg c) c.transactionId
    return {
      operationId := lease.operationId
      state := .rolledBack
      replayed := false
      errorCode := some "ECO_CRASH_RECOVERY_ROLLBACK" }
  else do
    let _ ← authority fun c db =>
      db.markFailed cfg.changes lease.operationId
        (cfg.digest (.failure "eco-write-recovery-v1" "before-state-observed"))
        (lease.claim cfg c) c.transactionId
    return {
      operationId := lease.operationId
      state := .failed
      replayed := false
      errorCode := some "ECO_WRITE_NOT_COMMITTED" }

def reportConflict (lease : HeldLease) (observed : FileState) :
    WriteProg WriteExecution := do
  let _ ← authority fun c db =>
    db.recordRecoveryConflict cfg.changes lease.operationId
      (cfg.digest (.conflict observed)) (lease.claim cfg c) c.transactionId
  return {
    operationId := lease.operationId
    state := .recoveryRequired
    replayed := false
    errorCode := some "ECO_RECOVERY_CONFLICT" }

/-- The approved after-state is observed and taken back. -/
def rollBackApplied (b : RecoveryBundle) (lease : HeldLease) :
    WriteProg WriteExecution :=
  Prog.catch_
    (do
      let _ ← authority fun c db =>
        db.markRollingBack cfg.changes lease.operationId (lease.claim cfg c)
          c.transactionId
      let result ← rollback cfg (b.writeResult cfg) b.temporaryName
        (assertRollingBack cfg lease)
      let _ ← authority fun c db =>
        db.markRolledBack cfg.changes lease.operationId
          (cfg.digest (.recoveryReceipt lease.operationId b.intentDigest result.state
            result.changed false))
          (lease.claim cfg c) c.transactionId
      return {
        operationId := lease.operationId
        state := .rolledBack
        replayed := false
        errorCode := some "ECO_CRASH_RECOVERY_ROLLBACK" })
    fun
    | .broker code _ => do
      let _ ← authority fun c db =>
        db.markRecoveryRequired cfg.changes lease.operationId
          (cfg.digest (.failure "eco-write-recovery-failure-v1" code))
          (lease.claim cfg c) c.transactionId
      return {
        operationId := lease.operationId
        state := .recoveryRequired
        replayed := false
        errorCode := some code }
    | e => .fail e

/-- `recover` on the bundle of the operation that it has claimed. -/
def reconcile (b : RecoveryBundle) (lease : HeldLease) (row : OperationRow) :
    WriteProg WriteExecution := do
  storeCheck [(b.backupMatches,
    .store "ECO_CHANGE_RECOVERY_INVALID" "Recovery before-state proof differs")]
  let _ ← cleanupTemporary b.path b.temporaryName
  let observed ← observe cfg b.path
  if observed = b.operation.before then closeUntouched cfg b lease row
  else if observed ≠ some b.after then reportConflict cfg lease observed
  else do
    storeCheck [(b.phase = .rollbackReady && b.intentDigest.isSome,
      .store "ECO_CHANGE_RECOVERY_INVALID" "Rollback authority was not durable")]
    rollBackApplied cfg b lease

/-- `recover` with a lease on the operation. -/
def recoverClaimed (operationId : String) (stored : ProposalRecord) (token : String)
    (row : OperationRow) : WriteProg WriteExecution := do
  let b ← loadRecoveryBundle row
  storeCheck (b.authorityChecks cfg operationId row stored)
  phase
  reconcile cfg b ⟨operationId, token, row.leaseEpoch⟩ row

def recover (operationId : String) (now : Instant) : WriteProg WriteExecution := do
  let row ← query fun db => db.operationStatus operationId
  if row.state.terminal then
    return { operationId := operationId, state := row.state, replayed := true }
  let stored ← query fun db => db.proposalStatus row.proposalId
  storeCheck [(stored.proposal.rootIdentityDigest = cfg.rootIdentityDigest,
    .store "ECO_ROOT_IDENTITY_MISMATCH"
      "Recovery broker is not pinned to the approved workspace root")]
  let claimed ← authority fun c db =>
    db.claimOperation cfg.changes
      { operationId := operationId, ownerId := cfg.ownerId,
        leaseSeconds := cfg.leaseSeconds } now c.transactionId c.secret
  match claimed with
  | .closed row =>
    return { operationId := operationId, state := row.state, replayed := true }
  | .lease token _ row => recoverClaimed cfg operationId stored token row

end Orchestrator

end Ecosystem.Changes
