import Ecosystem.Store.Records
import Ecosystem.Lib.AuditLog
import Ecosystem.Lib.Text

/-!
# Records of the change authority

The documents of `change_store.py` and `approval.py` and the rows of the authority.  A
candidate has the fields of its kind; another mapping is refused before it is read.

A timestamp of a caller may denote an instant, lack its timezone, or be none.  Digests
are taken of the structured value of a JSON text.
-/

namespace Ecosystem.Changes

open Ecosystem.Lib
export Ecosystem.Store (StoreError Instant Stamp utc parse require expect require_eq_ok
  require_bind_eq_ok expect_eq_ok)

/-! ## Patterns -/

def isLowerHex (c : Char) : Bool :=
  c.isDigit || ('a' ≤ c && c ≤ 'f')

/-- A letter or digit, then at most 127 letters, digits and signs. -/
def isIdentifier (signs : List Char) (s : String) : Bool :=
  match s.toList with
  | [] => false
  | c :: cs => c.isAlphanum && cs.length ≤ 127 &&
      cs.all fun c => c.isAlphanum || c ∈ signs

/-- `_ID` of the change store. -/
def isChangeId : String → Bool :=
  isIdentifier ['.', '_', ':', '@', '/', '-']

/-- `_ID` of `approval.py`. -/
def isApprovalId : String → Bool :=
  isIdentifier ['.', '_', ':', '-']

/-- `_HEX`. -/
def isHexDigest (s : String) : Bool :=
  s.toList.length = 64 && s.toList.all isLowerHex

def isHexText (s : String) : Bool :=
  (asciiText s).length = 64 && (asciiText s).all isLowerHex

theorem isHexDigest_eq : isHexDigest = isHexText := by
  funext s
  rw [isHexDigest, isHexText, toList_eq_asciiText]

theorem isHexDigest_replicate {c : Char} (h : isLowerHex c = true) :
    isHexDigest (String.ofList (List.replicate 64 c)) = true := by
  rw [isHexDigest, String.toList_ofList, List.length_replicate, List.all_replicate, h]
  rfl

def recoveryScheme : List Char := "artifact://".toList

/-- `_RECOVERY_REF`: behind the scheme a letter or digit, then letters, digits and
five signs, without an empty segment inside and without a segment `.` or `..`. -/
def isRecoveryReference (s : String) : Bool :=
  recoveryScheme.isPrefixOf s.toList &&
    match s.toList.drop recoveryScheme.length with
    | [] => false
    | c :: cs => c.isAlphanum && cs.length ≤ 4095 &&
        (cs.all fun c => c.isAlphanum || c ∈ ['.', '_', ':', '/', '-']) &&
        (((c :: cs).splitOn '/').all fun seg => seg ≠ ['.'] && seg ≠ ['.', '.']) &&
        (((c :: cs).splitOn '/').dropLast.all fun seg => seg ≠ [])

/-! ## Errors -/

/-- `_id`, `_digest`, `_recovery_reference` and `_recovery_length`: the check and
the error of its failure. -/
def changeId (value field : String) : Bool × StoreError :=
  (isChangeId value, .store "ECO_CHANGE_INVALID" ("Change " ++ field ++ " is invalid"))

def changeDigest (value field : String) : Bool × StoreError :=
  (isHexDigest value, .store "ECO_CHANGE_INVALID" ("Change " ++ field ++ " is invalid"))

def changeHexText (value field : String) : Bool × StoreError :=
  (isHexText value, .store "ECO_CHANGE_INVALID" ("Change " ++ field ++ " is invalid"))

theorem changeDigest_eq : changeDigest = changeHexText := by
  funext value field
  rw [changeDigest, changeHexText, isHexDigest_eq]

def recoveryReference (value : String) : Bool × StoreError :=
  (isRecoveryReference value, .store "ECO_CHANGE_INVALID"
    "Recovery storage reference is not an opaque artifact reference")

def recoveryLength (value : ℤ) : Bool × StoreError :=
  (0 ≤ value, .store "ECO_CHANGE_INVALID" "Recovery artifact length is invalid")

/-- `_identifier` and `_digest` of `approval.py`. -/
def approvalIdentifier (value field : String) : Bool × StoreError :=
  (isApprovalId value,
    .store "ECO_APPROVAL_INVALID" ("Approval " ++ field ++ " is invalid"))

def approvalDigest (value field : String) : Bool × StoreError :=
  (isHexDigest value, .store "ECO_APPROVAL_INVALID" ("Approval " ++ field ++ " is invalid"))

def approvalHexText (value field : String) : Bool × StoreError :=
  (isHexText value, .store "ECO_APPROVAL_INVALID" ("Approval " ++ field ++ " is invalid"))

theorem approvalDigest_eq : approvalDigest = approvalHexText := by
  funext value field
  rw [approvalDigest, approvalHexText, isHexDigest_eq]

/-! ## Timestamps -/

inductive TimeText
  | aware (stamp : Stamp)
  | naive (text : String)
  | invalid (text : String)
deriving DecidableEq

def parseUtc : TimeText → Except StoreError Instant
  | .aware stamp => parse stamp
  | .naive _ =>
    .error (.store "ECO_APPROVAL_INVALID" "Approval timestamp lacks a timezone")
  | .invalid _ =>
    .error (.store "ECO_APPROVAL_INVALID" "Approval timestamp is invalid")

/-! ## Proposals and subjects -/

structure Limits where
  maxBytes : ℤ
  maxFiles : ℤ
  maxOperations : ℤ
  approvalExpiresAt : TimeText
deriving DecidableEq

structure Proposal where
  proposalId : String
  projectId : String
  runId : String
  planDigest : String
  policyDecisionDigest : String
  actionClass : String
  operationKind : String
  rootIdentityDigest : String
  baseDigest : String
  targetRefDigest : String
  desiredDigest : String
  rollbackDigest : String
  displayDigest : String
  limits : Limits
deriving DecidableEq

def validatedProposal (p : Proposal) : Except StoreError Proposal := do
  require
    [changeId p.proposalId "proposalId", changeId p.projectId "projectId",
      changeId p.runId "runId", changeDigest p.planDigest "planDigest",
      changeDigest p.policyDecisionDigest "policyDecisionDigest",
      changeDigest p.rootIdentityDigest "rootIdentityDigest",
      changeDigest p.baseDigest "baseDigest",
      changeDigest p.targetRefDigest "targetRefDigest",
      changeDigest p.desiredDigest "desiredDigest",
      changeDigest p.rollbackDigest "rollbackDigest",
      changeDigest p.displayDigest "displayDigest",
      (p.actionClass = "A2" && p.operationKind ∈ ["create", "replace"],
        .store "ECO_CHANGE_SCOPE" "Only one-file A2 create/replace is supported"),
      (0 ≤ p.limits.maxBytes && p.limits.maxBytes ≤ 100000000 &&
          p.limits.maxFiles = 1 &&
          1 ≤ p.limits.maxOperations && p.limits.maxOperations ≤ 10000,
        .store "ECO_CHANGE_SCOPE" "Single-file limits are invalid")]
  let _ ← parseUtc p.limits.approvalExpiresAt
  return p

structure Subject where
  storeId : String
  projectId : String
  runId : String
  planDigest : String
  policyDecisionDigest : String
  proposalDigest : String
  actionClass : String
  operationKind : String
  rootIdentityDigest : String
  baseDigest : String
  targetRefDigest : String
  desiredDigest : String
  rollbackDigest : String
  displayDigest : String
  limitsDigest : String

def approvalSubjectPayload (s : Subject) : Except StoreError Subject := do
  require
    [(s.actionClass = "A2",
        .store "ECO_APPROVAL_SCOPE" "Single-file workspace writes require A2"),
      (s.operationKind ∈ ["create", "replace"],
        .store "ECO_APPROVAL_SCOPE" "Write kind must be create or replace"),
      approvalIdentifier s.storeId "store id",
      approvalIdentifier s.projectId "project id",
      approvalIdentifier s.runId "run id", approvalDigest s.planDigest "plan digest",
      approvalDigest s.policyDecisionDigest "policy decision digest",
      approvalDigest s.proposalDigest "proposal digest",
      approvalDigest s.rootIdentityDigest "root identity digest",
      approvalDigest s.baseDigest "base digest",
      approvalDigest s.targetRefDigest "target reference digest",
      approvalDigest s.desiredDigest "desired digest",
      approvalDigest s.rollbackDigest "rollback digest",
      approvalDigest s.displayDigest "display digest",
      approvalDigest s.limitsDigest "limits digest"]
  return s

/-! ## Approval envelopes -/

/-- `_signed_payload`: the envelope without its signature. -/
structure SignedPayload where
  protocol : String
  approvalId : String
  subjectDigest : String
  humanId : String
  assurance : String
  keyId : String
  challengeNonce : String
  issuedAt : TimeText
  expiresAt : TimeText

structure Envelope extends SignedPayload where
  signature : String

/-- `ApprovalKeyPolicy`, under the id of its key. -/
structure ApprovalKeyPolicy where
  humanId : String
  assurance : String
  verificationKey : String

/-- `ApprovalTrustStore`: the configured policies and the HMAC of a payload under a
key. -/
structure ApprovalTrustStore where
  policies : String → Option ApprovalKeyPolicy
  hmac : String → SignedPayload → String

/-- `_verify_signature`: the validity window of an authentic envelope. -/
def ApprovalTrustStore.verifySignature (trust : ApprovalTrustStore)
    (envelope : Envelope) (expectedSubjectDigest : String) :
    Except StoreError (Instant × Instant) := do
  require
    [(envelope.protocol = "eco-approval-envelope-v1",
        .store "ECO_APPROVAL_INVALID" "Approval protocol is unsupported"),
      approvalIdentifier envelope.approvalId "approvalId",
      approvalIdentifier envelope.humanId "humanId",
      approvalIdentifier envelope.keyId "keyId",
      approvalIdentifier envelope.challengeNonce "challengeNonce",
      approvalDigest envelope.subjectDigest "subject digest",
      approvalDigest envelope.signature "signature",
      (envelope.subjectDigest = expectedSubjectDigest,
        .store "ECO_APPROVAL_MISMATCH" "Approval subject does not match proposal")]
  let untrusted := .store "ECO_APPROVAL_UNTRUSTED"
    "Approval identity policy is not trusted"
  let policy ← expect untrusted (trust.policies envelope.keyId)
  require
    [(envelope.humanId = policy.humanId && envelope.assurance = policy.assurance,
      untrusted)]
  let issuedAt ← parseUtc envelope.issuedAt
  let expiresAt ← parseUtc envelope.expiresAt
  require
    [(issuedAt.us < expiresAt.us,
        .store "ECO_APPROVAL_INVALID" "Approval validity window is invalid"),
      (envelope.signature = trust.hmac policy.verificationKey envelope.toSignedPayload,
        .store "ECO_APPROVAL_UNTRUSTED" "Approval signature is invalid")]
  return (issuedAt, expiresAt)

def ApprovalTrustStore.verify (trust : ApprovalTrustStore) (envelope : Envelope)
    (expectedSubjectDigest : String) (now : Instant) :
    Except StoreError (Instant × Instant) := do
  let window ← trust.verifySignature envelope expectedSubjectDigest
  require
    [(window.1.us ≤ now.us,
        .store "ECO_CLOCK_ROLLBACK" "Approval issue time is in the future"),
      (now.us < window.2.us, .store "ECO_APPROVAL_EXPIRED" "Approval is expired")]
  return window

/-! ## Rows -/

/-- The canonical record of a proposal: its body with the digests taken of it. -/
structure ProposalRecord where
  proposal : Proposal
  proposalDigest : String
  subjectDigest : String
  limitsDigest : String

structure ProposalRow where
  projectId : String
  runId : String
  planDigest : String
  proposalDigest : String
  subjectDigest : String
  targetRefDigest : String
  record : ProposalRecord
  createdAt : Stamp

inductive ApprovalState
  | issued | consumed
deriving DecidableEq

structure ApprovalRow where
  proposalId : String
  subjectDigest : String
  envelopeDigest : String
  humanId : String
  assurance : String
  keyId : String
  challengeNonce : String
  issuedAt : TimeText
  expiresAt : TimeText
  expiresAtEpochUs : ℤ
  state : ApprovalState := .issued
  consumedAt : Option Stamp := none
  consumedOperationId : Option String := none
  envelope : Envelope

inductive OperationState
  | prepared | applying | commitReady | applied | committed | rollbackReady
  | rollingBack | rolledBack | failed | recoveryRequired
deriving DecidableEq

inductive RecoveryPhase
  | apply | rollback
deriving DecidableEq

/-- Where the recovery bundle of an operation lies, and what it must be. -/
structure RecoveryArtifact where
  storageRef : String
  sha256 : String
  byteLength : ℤ
  metadataDigest : String
deriving DecidableEq

structure OperationRow where
  runId : String
  proposalId : String
  approvalId : String
  idempotencyKeyDigest : String
  policyDecisionDigest : String
  intentDigest : String
  recovery : RecoveryArtifact
  beforeProofDigest : Option String := none
  executionIntentDigest : Option String := none
  targetRefDigest : String
  state : OperationState := .prepared
  recoveryPhase : Option RecoveryPhase := some .apply
  leaseOwnerId : Option String
  leaseEpoch : ℕ := 1
  leaseTokenDigest : Option String
  leaseUntilEpochUs : Option ℤ
  applyReceiptDigest : Option String := none
  rollbackReceiptDigest : Option String := none
  failureDigest : Option String := none
  recoveryReasonDigest : Option String := none
  createdAt : Stamp
  updatedAt : Stamp
deriving DecidableEq

inductive LockState
  | active | released
deriving DecidableEq

structure LockRow where
  operationId : String
  state : LockState := .active
  updatedAt : Stamp

/-! ## The audit log -/

inductive EntityType
  | proposal | approval | operation | targetLock
deriving DecidableEq

inductive AuditAction
  | registered | issued | consumed | prepared | acquired | released
  | recoveryConflict
  | entered (state : OperationState)

structure AuditBody where
  transactionId : String
  entityType : EntityType
  entityId : String
  action : AuditAction
  stateDigest : String
  occurredAt : Stamp

/-! ## Digested documents -/

/-- `_intent_digest`. -/
structure Intent where
  operationId : String
  proposalId : String
  approvalId : String
  policyDecisionDigest : String
  idempotencyKeyDigest : String
  recovery : RecoveryArtifact

/-- What a digest is taken of. -/
inductive Document
  | proposal (proposal : Proposal)
  | limits (limits : Limits)
  | subject (subject : Subject)
  | envelope (envelope : Envelope)
  | lease (token : String)
  | idempotency (key : String)
  | intent (intent : Intent)
  | proposalRow (id : String) (row : ProposalRow)
  | approvalRow (id : String) (row : ApprovalRow)
  | operationRow (id : String) (row : OperationRow)
  | lockRow (id : String) (row : LockRow)
  | audit (storeId : String) (sequence : ℕ) (body : AuditBody)
      (previousEntryHash : String)

/-- What is fixed when an authority is opened.  `epochUs` is
`int(timestamp() * 1_000_000)`, a float computation. -/
structure ChangeConfig where
  storeId : String
  keyId : String
  semanticDigest : Document → String
  hmacTag : String → String
  epochUs : ℤ → ℤ
  trust : ApprovalTrustStore

namespace ChangeConfig

variable (cfg : ChangeConfig)

def epoch (now : Instant) : ℤ := cfg.epochUs now.us

def leaseDigest (token : String) : String := cfg.semanticDigest (.lease token)

def auditKeys : LogKeys AuditBody where
  hash sequence body previous :=
    cfg.semanticDigest (.audit cfg.storeId sequence body previous)
  tag := cfg.hmacTag
  keyId := cfg.keyId
  genesis := String.ofList (List.replicate 64 '0')

def subjectOf (p : Proposal) : Subject where
  storeId := cfg.storeId
  projectId := p.projectId
  runId := p.runId
  planDigest := p.planDigest
  policyDecisionDigest := p.policyDecisionDigest
  proposalDigest := cfg.semanticDigest (.proposal p)
  actionClass := p.actionClass
  operationKind := p.operationKind
  rootIdentityDigest := p.rootIdentityDigest
  baseDigest := p.baseDigest
  targetRefDigest := p.targetRefDigest
  desiredDigest := p.desiredDigest
  rollbackDigest := p.rollbackDigest
  displayDigest := p.displayDigest
  limitsDigest := cfg.semanticDigest (.limits p.limits)

end ChangeConfig

end Ecosystem.Changes
