import Ecosystem.Lib.Base64
import Ecosystem.Lib.Checks
import Ecosystem.Runtime.EventChain

/-!
# Approval records

The four kinds of `team-approval.schema.json` and what
`validate_team_approval_record` asks of one.  A document of another shape is
`malformed`; the patterns, bounds and meaning of a typed record are still to be checked.

A timestamp is `canonical`, given by its microseconds, or some `other` text.  The `$`
of a schema pattern also matches in front of a final newline.
-/

namespace Ecosystem.Approval

open Ecosystem.Lib

/-! ## Instants -/

abbrev Instant := ℤ

/-- `datetime.min` and `datetime.max` in UTC. -/
def minInstant : Instant := -62135596800000000

def maxInstant : Instant := 253402300799999999

def representable (t : Instant) : Bool := minInstant ≤ t && t ≤ maxInstant

/-- An instant that a canonical timestamp can denote: a whole second. -/
abbrev Stamp := { t : Instant // representable t = true ∧ t % 1000000 = 0 }

instance (a b : Stamp) : Decidable (a ≤ b) := inferInstanceAs (Decidable (a.1 ≤ b.1))

instance (a b : Stamp) : Decidable (a < b) := inferInstanceAs (Decidable (a.1 < b.1))

inductive Timestamp
  | canonical (at_ : Stamp)
  | other (isDateTime : Bool)

/-- A clock reading: a naive one, or the instant of an aware one. -/
inductive DateTime
  | naive
  | aware (at_ : Instant)

/-! ## Failures -/

inductive Failure
  | timeInvalid
  | invalid
  | bindingInvalid
  | requesterConflict
  | expired
  | keyUntrusted
  | signatureInvalid
  | quorum
  | duplicatePrincipal
  | voteDenied
  /-- `OverflowError` of the date arithmetic. -/
  | overflow

def utc : DateTime → Except Failure Stamp
  | .naive => .error .timeInvalid
  | .aware t =>
    if hr : representable t = true then
      if hs : t % 1000000 = 0 then .ok ⟨t, hr, hs⟩ else .error .timeInvalid
    else .error .overflow

def parseTimestamp : Timestamp → Except Failure Stamp
  | .canonical t => .ok t
  | .other _ => .error .timeInvalid

/-- `_timestamp`, of an instant that `_utc` returned. -/
def timestamp (t : Stamp) : Timestamp := .canonical t

@[simp] theorem parseTimestamp_eq_ok {text : Timestamp} {t : Stamp} :
    parseTimestamp text = .ok t ↔ text = .canonical t := by
  cases text <;> simp [parseTimestamp]

theorem utc_eq_ok {now : DateTime} {t : Stamp} : utc now = .ok t ↔ now = .aware t.val := by
  cases now with
  | naive => simp [utc]
  | aware at_ =>
    rcases t with ⟨t, hr, hs⟩
    simp only [utc, DateTime.aware.injEq]
    constructor
    · intro h
      split at h
      · split at h
        · exact congrArg Subtype.val (Except.ok.inj h)
        · cases h
      · cases h
    · rintro rfl
      rw [dif_pos hr, dif_pos hs]

/-! ## Patterns -/

def isLower (c : Char) : Bool := 'a' ≤ c && c ≤ 'z'

def isLowerHex (c : Char) : Bool := c.isDigit || ('a' ≤ c && c ≤ 'f')

def isIdTail (c : Char) : Bool := isLower c || c.isDigit || c ∈ ['.', '_', ':', '@', '/', '-']

def isNameTail (c : Char) : Bool := isLower c || c.isDigit || c ∈ ['.', '_', '-']

/-- One character of the first class and between `least` and `most` of the other. -/
def matchesHead (first rest : Char → Bool) (least most : ℕ) : List Char → Bool
  | [] => false
  | c :: cs => first c && least ≤ cs.length && cs.length ≤ most && cs.all rest

/-- `_CANONICAL_ID` and the `id` pattern of the schema. -/
def idPattern : List Char → Bool :=
  matchesHead (fun c => isLower c || c.isDigit) isIdTail 0 127

/-- `[a-z][a-z0-9._-]{1,63}`. -/
def rolePattern : List Char → Bool := matchesHead isLower isNameTail 1 63

/-- `[a-z][a-z0-9._-]{1,127}`. -/
def namePattern : List Char → Bool := matchesHead isLower isNameTail 1 127

/-- `[A-Z][A-Za-z0-9]{1,63}`. -/
def kindPattern : List Char → Bool :=
  matchesHead (fun c => 'A' ≤ c && c ≤ 'Z') Char.isAlphanum 1 63

/-- `[a-f0-9]{64}`. -/
def hexPattern (cs : List Char) : Bool := cs.length = 64 && cs.all isLowerHex

/-- `ed25519:[a-f0-9]{64}`. -/
def keyIdPattern (cs : List Char) : Bool :=
  cs.take 8 = "ed25519:".toList && hexPattern (cs.drop 8)

/-- `[A-Za-z0-9_-]{86}`. -/
def signaturePattern (cs : List Char) : Bool :=
  cs.length = 86 && cs.all fun c => c.isAlphanum || c = '_' || c = '-'

/-- `re.search` of an anchored pattern, as the schema uses it. -/
def searches (pattern : List Char → Bool) (s : String) : Bool :=
  pattern (Runtime.dropFinalNewline s.toList)

/-- `re.fullmatch`, as the code uses it. -/
def fullMatches (pattern : List Char → Bool) (s : String) : Bool := pattern s.toList

/-! ## The records -/

structure Metadata where
  id : String
  createdAt : Timestamp
  recordDigest : String

inductive RecordKind
  | approvalProfile
  | teamApprovalRequest
  | teamApprovalVote
  | teamActionPermit
deriving DecidableEq

def RecordKind.name : RecordKind → String
  | .approvalProfile => "ApprovalProfile"
  | .teamApprovalRequest => "TeamApprovalRequest"
  | .teamApprovalVote => "TeamApprovalVote"
  | .teamActionPermit => "TeamActionPermit"

structure RecordBinding where
  kind : RecordKind
  id : String
  digest : String
deriving DecidableEq

structure TeamBinding where
  id : String
  digest : String

structure PolicyBinding where
  id : String
  revision : ℤ
  digest : String
  revocationEpoch : ℤ
deriving DecidableEq

structure Validity where
  notBefore : Timestamp
  notAfter : Timestamp

inductive ActionClass
  | a0 | a1 | a2 | a3 | a4

structure ActionBinding where
  capability : String
  actionClass : ActionClass
  operation : String
  digest : String

/-- `resourceBinding` and `snapshotBinding`. -/
structure ResourceBinding where
  kind : String
  id : String
  digest : String

structure PrincipalBinding where
  principalId : String
  membershipDigest : String
deriving DecidableEq

structure ApproverBinding where
  principalId : String
  keyId : String
  membershipDigest : String

inductive Purpose
  | runtimeAction
  | emergencyRecovery
deriving DecidableEq

structure ProfileSpec where
  purpose : Purpose
  team : TeamBinding
  policy : PolicyBinding
  requiredApproverRole : String
  quorum : ℤ
  validity : Validity

structure ApprovalProfile where
  metadata : Metadata
  spec : ProfileSpec

structure RequestSpec where
  profile : RecordBinding
  requester : PrincipalBinding
  action : ActionBinding
  resource : ResourceBinding
  snapshot : ResourceBinding
  policy : PolicyBinding
  expiresAt : Timestamp

structure TeamApprovalRequest where
  metadata : Metadata
  spec : RequestSpec

inductive Decision
  | approve
  | deny
deriving DecidableEq

structure VoteSpec where
  profile : RecordBinding
  request : RecordBinding
  approver : ApproverBinding
  decision : Decision
  issuedAt : Timestamp
  expiresAt : Timestamp
  /-- The `value` of the signature. -/
  signature : String

structure TeamApprovalVote where
  metadata : Metadata
  spec : VoteSpec

structure PermitApprover where
  principalId : String
  keyId : String
  membershipDigest : String
  vote : RecordBinding

structure PermitSpec where
  profile : RecordBinding
  request : RecordBinding
  action : ActionBinding
  resource : ResourceBinding
  snapshot : ResourceBinding
  policy : PolicyBinding
  approvers : List PermitApprover
  quorum : ℤ
  issuedAt : Timestamp
  expiresAt : Timestamp
  consumptionNonceDigest : String

structure TeamActionPermit where
  metadata : Metadata
  spec : PermitSpec

inductive ApprovalRecord
  | profile (record : ApprovalProfile)
  | request (record : TeamApprovalRequest)
  | vote (record : TeamApprovalVote)
  | permit (record : TeamActionPermit)

inductive Document
  | notMapping
  /-- Without a supported kind, or of one whose shape it does not have. -/
  | malformed (kind : Option RecordKind)
  | record (r : ApprovalRecord)

def ApprovalRecord.kind : ApprovalRecord → RecordKind
  | .profile _ => .approvalProfile
  | .request _ => .teamApprovalRequest
  | .vote _ => .teamApprovalVote
  | .permit _ => .teamActionPermit

def ApprovalRecord.metadata : ApprovalRecord → Metadata
  | .profile r => r.metadata
  | .request r => r.metadata
  | .vote r => r.metadata
  | .permit r => r.metadata

def ApprovalRecord.binding (r : ApprovalRecord) : RecordBinding :=
  ⟨r.kind, r.metadata.id, r.metadata.recordDigest⟩

def Metadata.withoutDigest (m : Metadata) : Metadata := { m with recordDigest := "" }

def ApprovalRecord.withoutDigest : ApprovalRecord → ApprovalRecord
  | .profile r => .profile { r with metadata := r.metadata.withoutDigest }
  | .request r => .request { r with metadata := r.metadata.withoutDigest }
  | .vote r => .vote { r with metadata := r.metadata.withoutDigest }
  | .permit r => .permit { r with metadata := r.metadata.withoutDigest }

/-! ## What is computed outside -/

/-- The hashes, the canonical text of a vote and the signature scheme. -/
structure Primitives where
  semanticDigest : ApprovalRecord → String
  semanticDigest_hex : ∀ r, hexPattern (semanticDigest r).toList = true
  canonicalVote : TeamApprovalVote → List UInt8
  sha256 : List UInt8 → String
  sha256_hex : ∀ bytes, hexPattern (sha256 bytes).toList = true
  /-- `identity_key_fingerprint`. -/
  keyFingerprint : List UInt8 → String
  /-- `Ed25519PublicKey.verify`: key, signature, message. -/
  ed25519Verify : List UInt8 → List UInt8 → List UInt8 → Bool

def Primitives.identityKeyId (prims : Primitives) (publicKey : List UInt8) : String :=
  "ed25519:" ++ prims.keyFingerprint publicKey

def Primitives.approvalRecordDigest (prims : Primitives) (r : ApprovalRecord) : String :=
  prims.semanticDigest r.withoutDigest

def approvalSignatureDomain : List UInt8 :=
  "eco-team-approval-vote-signature-v1".toUTF8.toList ++ [0]

def Primitives.approvalVoteMessage (prims : Primitives) (vote : TeamApprovalVote) :
    List UInt8 :=
  approvalSignatureDomain ++ prims.canonicalVote
    { vote with metadata := vote.metadata.withoutDigest, spec.signature := "" }

/-- The URL alphabet differs from the standard one in two symbols. -/
def fromUrlSymbol (c : Char) : Char :=
  if c = '-' then '+' else if c = '_' then '/' else c

def toUrlSymbol (c : Char) : Char :=
  if c = '+' then '-' else if c = '/' then '_' else c

def decodeBase64url (value : String) (expectedBytes : ℕ) : Option (List UInt8) :=
  if '=' ∈ value.toList then none
  else
    let padding := List.replicate ((4 - value.toList.length % 4) % 4) '='
    match Base64.b64decode (value.toList.map fromUrlSymbol ++ padding) with
    | none => none
    | some raw =>
      let spelling := ((Base64.b64encode raw).filter (· ≠ '=')).map toUrlSymbol
      if raw.length = expectedBytes ∧ spelling = value.toList then some raw else none

/-! ## The structural contract -/

section Schema

def Timestamp.schemaValid : Timestamp → Bool
  | .canonical _ => true
  | .other isDateTime => isDateTime

def Metadata.schemaValid (m : Metadata) : Bool :=
  searches idPattern m.id && m.createdAt.schemaValid && searches hexPattern m.recordDigest

def RecordBinding.schemaValid (b : RecordBinding) : Bool :=
  searches idPattern b.id && searches hexPattern b.digest

def TeamBinding.schemaValid (b : TeamBinding) : Bool :=
  searches idPattern b.id && searches hexPattern b.digest

def PolicyBinding.schemaValid (b : PolicyBinding) : Bool :=
  searches idPattern b.id && 1 ≤ b.revision && b.revision ≤ 2147483647 &&
    searches hexPattern b.digest && 0 ≤ b.revocationEpoch && b.revocationEpoch ≤ 2147483647

def Validity.schemaValid (v : Validity) : Bool :=
  v.notBefore.schemaValid && v.notAfter.schemaValid

def ActionBinding.schemaValid (b : ActionBinding) : Bool :=
  searches namePattern b.capability && searches namePattern b.operation &&
    searches hexPattern b.digest

def ResourceBinding.schemaValid (b : ResourceBinding) : Bool :=
  searches kindPattern b.kind && searches idPattern b.id && searches hexPattern b.digest

def PrincipalBinding.schemaValid (b : PrincipalBinding) : Bool :=
  searches idPattern b.principalId && searches hexPattern b.membershipDigest

def ApproverBinding.schemaValid (b : ApproverBinding) : Bool :=
  searches idPattern b.principalId && searches keyIdPattern b.keyId &&
    searches hexPattern b.membershipDigest

def PermitApprover.schemaValid (a : PermitApprover) : Bool :=
  searches idPattern a.principalId && searches keyIdPattern a.keyId &&
    searches hexPattern a.membershipDigest && a.vote.schemaValid

def quorumValid (n : ℤ) : Bool := 1 ≤ n && n ≤ 16

def ProfileSpec.schemaValid (s : ProfileSpec) : Bool :=
  s.team.schemaValid && s.policy.schemaValid &&
    searches rolePattern s.requiredApproverRole && quorumValid s.quorum &&
    s.validity.schemaValid

def RequestSpec.schemaValid (s : RequestSpec) : Bool :=
  s.profile.schemaValid && s.requester.schemaValid && s.action.schemaValid &&
    s.resource.schemaValid && s.snapshot.schemaValid && s.policy.schemaValid &&
    s.expiresAt.schemaValid

def VoteSpec.schemaValid (s : VoteSpec) : Bool :=
  s.profile.schemaValid && s.request.schemaValid && s.approver.schemaValid &&
    s.issuedAt.schemaValid && s.expiresAt.schemaValid &&
    searches signaturePattern s.signature

def PermitSpec.schemaValid (s : PermitSpec) : Bool :=
  s.profile.schemaValid && s.request.schemaValid && s.action.schemaValid &&
    s.resource.schemaValid && s.snapshot.schemaValid && s.policy.schemaValid &&
    1 ≤ s.approvers.length && s.approvers.length ≤ 16 &&
    s.approvers.all PermitApprover.schemaValid && quorumValid s.quorum &&
    s.issuedAt.schemaValid && s.expiresAt.schemaValid &&
    searches hexPattern s.consumptionNonceDigest

def ApprovalRecord.schemaValid : ApprovalRecord → Bool
  | .profile r => r.metadata.schemaValid && r.spec.schemaValid
  | .request r => r.metadata.schemaValid && r.spec.schemaValid
  | .vote r => r.metadata.schemaValid && r.spec.schemaValid
  | .permit r => r.metadata.schemaValid && r.spec.schemaValid

def sanitizedSchemaErrors : Document → List String
  | .notMapping => ["TeamApprovalRecord$: has the wrong type"]
  | .malformed none => ["TeamApprovalRecord$.kind: is not a supported approval record kind"]
  | .malformed (some kind) => [kind.name ++ "$: failed structural validation"]
  | .record r => if r.schemaValid then [] else [r.kind.name ++ "$: failed structural validation"]

end Schema

/-! ## The meaning of a record -/

def errorIf (c : Bool) (r : RecordKind) (field : String) : List String :=
  if c then [r.name ++ field ++ ": failed validation"] else []

/-- The body of the `try` of `_semantic_errors`. -/
def timedErrors : ApprovalRecord → Except Failure (List String)
  | .profile r => do
    let createdAt ← parseTimestamp r.metadata.createdAt
    let notBefore ← parseTimestamp r.spec.validity.notBefore
    let notAfter ← parseTimestamp r.spec.validity.notAfter
    return errorIf (!(notBefore ≤ createdAt && createdAt < notAfter))
        .approvalProfile "$.spec.validity" ++
      errorIf (r.spec.purpose = .emergencyRecovery && r.spec.quorum < 2)
        .approvalProfile "$.spec.quorum"
  | .request r => do
    let createdAt ← parseTimestamp r.metadata.createdAt
    let expiresAt ← parseTimestamp r.spec.expiresAt
    return errorIf (!(createdAt < expiresAt)) .teamApprovalRequest "$.spec.expiresAt" ++
      errorIf (r.spec.profile.kind ≠ .approvalProfile)
        .teamApprovalRequest "$.spec.profile"
  | .vote r => do
    let createdAt ← parseTimestamp r.metadata.createdAt
    let issuedAt ← parseTimestamp r.spec.issuedAt
    let expiresAt ← parseTimestamp r.spec.expiresAt
    return errorIf (createdAt ≠ issuedAt || !(issuedAt < expiresAt))
        .teamApprovalVote "$.spec" ++
      errorIf (r.spec.profile.kind ≠ .approvalProfile ||
          r.spec.request.kind ≠ .teamApprovalRequest) .teamApprovalVote "$.spec" ++
      errorIf (decodeBase64url r.spec.signature 64).isNone
        .teamApprovalVote "$.spec.signature"
  | .permit r => do
    let createdAt ← parseTimestamp r.metadata.createdAt
    let issuedAt ← parseTimestamp r.spec.issuedAt
    let expiresAt ← parseTimestamp r.spec.expiresAt
    let principals := r.spec.approvers.map PermitApprover.principalId
    return errorIf (!(createdAt = issuedAt && issuedAt < expiresAt))
        .teamActionPermit "$.spec" ++
      errorIf (principals ≠ principals.mergeSort (· ≤ ·) || !principals.Nodup)
        .teamActionPermit "$.spec.approvers" ++
      errorIf (principals.length < r.spec.quorum) .teamActionPermit "$.spec.quorum"

def semanticErrors (prims : Primitives) (r : ApprovalRecord) : List String :=
  (match timedErrors r with
    | .ok errors => errors
    | .error _ => [r.kind.name ++ "$: failed time validation"]) ++
  errorIf (r.metadata.recordDigest ≠ prims.approvalRecordDigest r)
    r.kind "$.metadata.recordDigest"

def approvalContractErrors (prims : Primitives) (document : Document) : List String :=
  match sanitizedSchemaErrors document, document with
  | [], .record r => semanticErrors prims r
  | errors, _ => errors

/-- `validate_team_approval_record`, where its error becomes a failure. -/
def validateTeamApprovalRecord (prims : Primitives) (document : Document) :
    Except Failure ApprovalRecord :=
  match approvalContractErrors prims document, document with
  | [], .record r => .ok r
  | _, _ => .error .invalid

/-! ## When a record is accepted -/

@[simp] theorem errorIf_eq_nil {c : Bool} {kind : RecordKind} {field : String} :
    errorIf c kind field = [] ↔ c = false := by
  cases c <;> simp [errorIf]

structure ApprovalRecord.Valid (prims : Primitives) (r : ApprovalRecord) : Prop where
  schema : r.schemaValid = true
  timed : timedErrors r = .ok []
  digest : r.metadata.recordDigest = prims.approvalRecordDigest r

theorem semanticErrors_eq_nil {prims : Primitives} {r : ApprovalRecord} :
    semanticErrors prims r = [] ↔ timedErrors r = .ok [] ∧
        r.metadata.recordDigest = prims.approvalRecordDigest r := by
  simp only [semanticErrors, List.append_eq_nil_iff, errorIf_eq_nil]
  cases timedErrors r with
  | error e | ok errors => simp

theorem validateTeamApprovalRecord_eq_ok {prims : Primitives} {document : Document}
    {r : ApprovalRecord} :
    validateTeamApprovalRecord prims document = .ok r ↔
      document = .record r ∧ r.Valid prims := by
  cases document with
  | notMapping => simp [validateTeamApprovalRecord, approvalContractErrors, sanitizedSchemaErrors]
  | malformed kind =>
    cases kind <;>
      simp [validateTeamApprovalRecord, approvalContractErrors, sanitizedSchemaErrors]
  | record s =>
    by_cases hs : s.schemaValid
    · have herrors : approvalContractErrors prims (.record s) = semanticErrors prims s := by
        simp [approvalContractErrors, sanitizedSchemaErrors, hs]
      unfold validateTeamApprovalRecord
      rw [herrors, Document.record.injEq]
      constructor
      · intro h
        cases hnil : semanticErrors prims s with
        | nil =>
          rw [hnil] at h
          obtain rfl : s = r := Except.ok.inj h
          obtain ⟨htimed, hdigest⟩ := semanticErrors_eq_nil.mp hnil
          exact ⟨rfl, hs, htimed, hdigest⟩
        | cons e es =>
          rw [hnil] at h
          cases h
      · rintro ⟨rfl, _, htimed, hdigest⟩
        rw [semanticErrors_eq_nil.mpr ⟨htimed, hdigest⟩]
    · have herrors : approvalContractErrors prims (.record s) =
          [s.kind.name ++ "$: failed structural validation"] := by
        simp [approvalContractErrors, sanitizedSchemaErrors, hs]
      unfold validateTeamApprovalRecord
      rw [herrors]
      constructor
      · intro h
        cases h
      · rintro ⟨h, hvalid⟩
        cases h
        exact absurd hvalid.schema hs

end Ecosystem.Approval
