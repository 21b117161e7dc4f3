import Ecosystem.Changes.Authority

/-!
# Documents of a controlled write

The documents that `write_orchestrator.py` composes: a proposal with its records, the
bundle of a recovery, the intent, the receipts.  A document has passed the schema of
its kind.  What no check reads is kept as `rest`.
-/

namespace Ecosystem.Changes


/-! ## Files -/

structure File where
  sha256 : String
  byteLength : ℕ
  mode : ℕ
deriving DecidableEq

/-- `FileState`: absent, or a regular file with its content and mode. -/
abbrev FileState := Option File

inductive WriteKind
  | create | replace

def WriteKind.text : WriteKind → String
  | .create => "create"
  | .replace => "replace"

/-- The operation of a write with the `expectedBefore` that its schema asks for. -/
inductive WriteOperation
  | create
  | replace (before : File)
deriving DecidableEq

def WriteOperation.kind : WriteOperation → WriteKind
  | .create => .create
  | .replace _ => .replace

def WriteOperation.before : WriteOperation → FileState
  | .create => none
  | .replace file => some file

/-- `ArtifactAvailabilityProof`. -/
structure ArtifactProof where
  storageRef : String
  sha256 : String
  byteLength : ℕ
  keyId : String
  token : String
deriving DecidableEq

/-! ## The records of a proposal -/

structure Reference where
  id : String
  digest : String
deriving DecidableEq

structure SnapshotBinding where
  id : String
  digest : String
  rootIdentityDigest : String
deriving DecidableEq

structure PlannedTool where
  id : String
  catalogDigest : String
deriving DecidableEq

structure WritePlan where
  runId : String
  projectId : String
  tools : List PlannedTool
  maxToolRequests : ℕ
  repositorySnapshot : Option SnapshotBinding
  rest : String := ""
deriving DecidableEq

structure RepositorySnapshot where
  id : String
  rootIdentityDigest : String
  rest : String := ""
deriving DecidableEq

/-- `candidateArtifact` of the tool arguments. -/
structure CandidateDescriptor where
  artifactRecordDigest : String
  contentDigest : String
  byteLength : ℕ
  dataClass : String
  trust : String
  availabilityProofDigest : String
  mode : ℕ
deriving DecidableEq

structure WriteArguments where
  path : String
  operation : WriteOperation
  candidateArtifact : CandidateDescriptor
deriving DecidableEq

structure ToolRequest where
  id : String
  planDigest : String
  arguments : WriteArguments
  rest : String := ""
deriving DecidableEq

structure PolicyDecision where
  id : String
  allows : Bool
  expiresAt : TimeText
  rest : String := ""
deriving DecidableEq

structure ArtifactRecord where
  runId : String
  sha256 : String
  byteLength : ℕ
  dataClass : String
  trust : String
  storageRef : String
  rest : String := ""
deriving DecidableEq

/-- `WorkspaceChangeProposal`. -/
structure ChangeProposal where
  id : String
  runId : String
  createdAt : Stamp
  planDigest : String
  toolRequest : Reference
  policyAllowDecision : Reference
  operation : WriteOperation
  pathDigest : String
  candidateArtifact : CandidateDescriptor
  displayDigest : String
  approvalExpiresAt : TimeText
deriving DecidableEq

structure ApprovalRequest where
  id : String
  runId : String
  createdAt : TimeText
  proposal : Reference
  toolRequest : Reference
  authoritySubjectDigest : String
  displayDigest : String
  expiresAt : TimeText
deriving DecidableEq

structure ControlledWriteProposal where
  plan : WritePlan
  snapshot : RepositorySnapshot
  toolRequest : ToolRequest
  policyDecision : PolicyDecision
  proposal : ChangeProposal
  approvalRequest : ApprovalRequest
  authoritySubjectDigest : String
  candidateArtifact : ArtifactRecord
  candidateProof : ArtifactProof
  path : String
deriving DecidableEq

/-! ## What an execution writes down -/

inductive BundlePhase
  | prepared | rollbackReady
deriving DecidableEq

/-- `candidate` of a recovery bundle. -/
structure BundleCandidate where
  storageRef : String
  sha256 : String
  byteLength : ℕ
  mode : ℕ
deriving DecidableEq

/-- `backup` of a recovery bundle. -/
structure BundleBackup where
  storageRef : String
  sha256 : String
  byteLength : ℕ
deriving DecidableEq

structure RecoveryBundle where
  operationId : String
  runId : String
  proposalId : String
  proposalDigest : String
  approvalId : String
  policyDecisionDigest : String
  rootIdentityDigest : String
  path : String
  pathDigest : String
  operation : WriteOperation
  candidate : BundleCandidate
  temporaryName : String
  backup : Option BundleBackup := none
  intentDigest : Option String := none
  phase : BundlePhase := .prepared
deriving DecidableEq

structure ApprovalGrant where
  id : String
  runId : String
  approvalRequest : Reference
  proposal : Reference
  authoritySubjectDigest : String
  displayDigest : String
  envelope : Envelope

/-- `WorkspaceWriteIntent`. -/
structure WriteIntent where
  id : String
  runId : String
  createdAt : Stamp
  idempotencyKeyDigest : String
  planDigest : String
  toolRequest : Reference
  policyAllowDecision : Reference
  approvalGrant : Reference
  proposal : Reference
  toolCatalogDigest : String
  operation : WriteOperation
  pathDigest : String
  candidateArtifact : CandidateDescriptor
  expectedAppliedDigest : String
  backupArtifact : Option CandidateDescriptor

/-- `WorkspaceWriteReceipt`. -/
structure WriteReceipt where
  operationId : String
  runId : String
  createdAt : Stamp
  intentDigest : String
  proposalDigest : String
  toolRequestDigest : String
  policyDecisionDigest : String
  approvalGrantDigest : String
  idempotencyKeyDigest : String
  operation : WriteOperation
  pathDigest : String
  applied : File

/-- `WorkspaceRollbackReceipt`. -/
structure RollbackReceipt where
  operationId : String
  runId : String
  createdAt : Stamp
  writeIntentDigest : String
  writeReceiptDigest : String
  pathDigest : String
  expectedAppliedDigest : String
  beforeRestored : FileState

/-- What `semantic_digest` is taken of. -/
inductive WriteDocument
  | plan (plan : WritePlan)
  | snapshot (snapshot : RepositorySnapshot)
  | toolRequest (request : ToolRequest)
  | policyDecision (decision : PolicyDecision)
  | artifact (artifact : ArtifactRecord)
  | availability (proof : ArtifactProof)
  | descriptor (descriptor : CandidateDescriptor)
  | expectedBefore (before : FileState)
  | proposal (proposal : ChangeProposal)
  | approvalRequest (request : ApprovalRequest)
  | approvalGrant (grant : ApprovalGrant)
  | proposalKey (runId requestDigest : String)
  | operationKey (runId idempotencyKey : String)
  | beforeProof (present : Bool) (availabilityProofDigest artifactRecordDigest : Option String)
  | intent (intent : WriteIntent)
  | receipt (receipt : WriteReceipt)
  | rollbackReceipt (receipt : RollbackReceipt)
  | failure (domain code : String)
  | conflict (observed : FileState)
  | recoveryReceipt (operationId : String) (intentDigest : Option String)
      (restored : FileState) (changed afterProcessLoss : Bool)

/-! ## Configuration -/

/-- A digest of `semantic_digest` has the form that the authority asks for. -/
abbrev HexDigest := { s : String // isHexDigest s = true }

/-- What is fixed while an orchestrator with its broker and its stores is in use. -/
structure WriteConfig where
  changes : ChangeConfig
  ownerId : String
  leaseSeconds : ℕ
  rootIdentityDigest : String
  pathReferenceDigest : String → String
  maximumFileBytes : ℕ
  /-- The code with which the broker refuses content that is no UTF-8 text. -/
  contentFault : String → Option String
  semanticDigest : WriteDocument → HexDigest
  recoveryArtifact : RecoveryBundle → RecoveryArtifact
  /-- The key of the artifact store and its HMAC of a reference, digest and length. -/
  proofKeyId : String
  proofToken : String → String → ℕ → String

namespace WriteConfig

variable (cfg : WriteConfig)

def digest (document : WriteDocument) : String := (cfg.semanticDigest document).1

theorem digest_hex (document : WriteDocument) : isHexDigest (cfg.digest document) = true :=
  (cfg.semanticDigest document).2

def operationId (runId idempotencyKey : String) : String :=
  "operation-" ++ cfg.digest (.operationKey runId idempotencyKey)

def makeProof (storageRef sha256 : String) (byteLength : ℕ) : ArtifactProof where
  storageRef := storageRef
  sha256 := sha256
  byteLength := byteLength
  keyId := cfg.proofKeyId
  token := cfg.proofToken storageRef sha256 byteLength

/-- `_artifact_descriptor`; no record carries a `mode`, so the default stands. -/
def artifactDescriptor (record : ArtifactRecord) (proof : ArtifactProof) :
    CandidateDescriptor where
  artifactRecordDigest := cfg.digest (.artifact record)
  contentDigest := record.sha256
  byteLength := record.byteLength
  dataClass := record.dataClass
  trust := record.trust
  availabilityProofDigest := cfg.digest (.availability proof)
  mode := 0o644

def authorityProposal (p : ControlledWriteProposal) : Proposal where
  proposalId := p.proposal.id
  projectId := p.plan.projectId
  runId := p.plan.runId
  planDigest := cfg.digest (.plan p.plan)
  policyDecisionDigest := cfg.digest (.policyDecision p.policyDecision)
  actionClass := "A2"
  operationKind := p.toolRequest.arguments.operation.kind.text
  rootIdentityDigest := p.snapshot.rootIdentityDigest
  baseDigest := cfg.digest (.snapshot p.snapshot)
  targetRefDigest := p.proposal.pathDigest
  desiredDigest := cfg.digest (.descriptor p.toolRequest.arguments.candidateArtifact)
  rollbackDigest := cfg.digest (.expectedBefore p.toolRequest.arguments.operation.before)
  displayDigest := p.proposal.displayDigest
  limits :=
    { maxBytes := p.toolRequest.arguments.candidateArtifact.byteLength
      maxFiles := 1
      maxOperations := p.plan.maxToolRequests
      approvalExpiresAt := p.proposal.approvalExpiresAt }

end WriteConfig

def ControlledWriteProposal.approved (p : ControlledWriteProposal) : File where
  sha256 := p.toolRequest.arguments.candidateArtifact.contentDigest
  byteLength := p.toolRequest.arguments.candidateArtifact.byteLength
  mode := p.toolRequest.arguments.candidateArtifact.mode

def ControlledWriteProposal.candidate (p : ControlledWriteProposal) : File where
  sha256 := p.candidateProof.sha256
  byteLength := p.candidateProof.byteLength
  mode := p.toolRequest.arguments.candidateArtifact.mode

end Ecosystem.Changes
