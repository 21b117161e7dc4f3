import Ecosystem.Approval.Records

/-!
# The approval verifier

`TeamApprovalVerifier` of `team_approval.py`: the context that every call validates
first, the verification of one vote, and the permit built from several.  The resolver
answers the same query always with the same key, or with none.
-/

namespace Ecosystem.Approval

open Ecosystem.Lib Ecosystem.Lib.Checks

/-! ## Resolved keys -/

/-- `ResolvedApprovalKey`, with what its `__post_init__` checks. -/
structure ResolvedApprovalKey (prims : Primitives) where
  teamId : String
  principalId : String
  keyId : String
  membershipDigest : String
  roles : List String
  policyDigest : String
  revocationEpoch : ℤ
  notBefore : Stamp
  notAfter : Stamp
  publicKey : List UInt8
  teamId_canonical : fullMatches idPattern teamId = true
  principalId_canonical : fullMatches idPattern principalId = true
  publicKey_length : publicKey.length = 32
  keyId_eq : keyId = prims.identityKeyId publicKey
  membershipDigest_hex : fullMatches hexPattern membershipDigest = true
  roles_sorted : roles.Pairwise (· < ·)
  roles_nonempty : roles ≠ []
  roles_canonical : ∀ role ∈ roles, fullMatches idPattern role = true
  policyDigest_hex : fullMatches hexPattern policyDigest = true
  revocationEpoch_range : 0 ≤ revocationEpoch ∧ revocationEpoch ≤ 2147483647
  window : notBefore.val < notAfter.val

/-- The keyword arguments of `resolve_active_key`. -/
structure KeyQuery where
  teamId : String
  profileId : String
  profileDigest : String
  requiredRole : String
  quorum : ℤ
  principalId : String
  keyId : String
  policyDigest : String
  revocationEpoch : ℤ
  at_ : Stamp

/-- `TeamApprovalVerifier`; the windows are microseconds. -/
structure TeamApprovalVerifier (prims : Primitives) where
  resolveActiveKey : KeyQuery → Option (ResolvedApprovalKey prims)
  maximumClockSkew : ℤ
  maximumVoteLifetime : ℤ
  skew_nonneg : 0 ≤ maximumClockSkew
  lifetime_pos : 0 < maximumVoteLifetime

/-! ## The context -/

/-- `expected_requester_principal_id` and `expected_requester_membership_digest`. -/
abbrev ExpectedRequester := PrincipalBinding

/-- The records that a context was validated for, with what `_validate_context`
returns. -/
structure Context where
  profile : ApprovalProfile
  request : TeamApprovalRequest
  observedAt : Stamp
  expiry : Stamp

def ApprovalRecord.asProfile : ApprovalRecord → Option ApprovalProfile
  | .profile r => some r
  | _ => none

def ApprovalRecord.asRequest : ApprovalRecord → Option TeamApprovalRequest
  | .request r => some r
  | _ => none

def ApprovalRecord.asVote : ApprovalRecord → Option TeamApprovalVote
  | .vote r => some r
  | _ => none

/-- `min` of two instants. -/
def earlier (t u : Stamp) : Stamp := if u.val < t.val then u else t

variable (prims : Primitives)

def validateContext (profile request : Document) (expected : ExpectedRequester)
    (now : DateTime) : Except Failure Context := do
  let profileRecord ← validateTeamApprovalRecord prims profile
  let requestRecord ← validateTeamApprovalRecord prims request
  let profile ← expect .invalid profileRecord.asProfile
  let request ← expect .invalid requestRecord.asRequest
  let observedAt ← utc now
  let profileStart ← parseTimestamp profile.spec.validity.notBefore
  let profileEnd ← parseTimestamp profile.spec.validity.notAfter
  let requestExpiry ← parseTimestamp request.spec.expiresAt
  require (fullMatches idPattern expected.principalId &&
    fullMatches hexPattern expected.membershipDigest &&
    request.spec.requester = expected &&
    profileStart.val ≤ observedAt.val && observedAt.val < profileEnd.val &&
    observedAt.val < requestExpiry.val &&
    request.spec.profile = profileRecord.binding &&
    request.spec.policy = profile.spec.policy) Failure.bindingInvalid
  return { profile, request, observedAt, expiry := earlier profileEnd requestExpiry }

/-! ## One vote -/

structure VerifiedApprovalVote where
  voteId : String
  voteDigest : String
  profileId : String
  profileDigest : String
  requestId : String
  requestDigest : String
  principalId : String
  keyId : String
  membershipDigest : String
  decision : Decision
  issuedAt : Stamp
  expiresAt : Stamp

variable {prims} (verifier : TeamApprovalVerifier prims)

/-- `observed_at + maximum_clock_skew`. -/
def TeamApprovalVerifier.latestIssue (observedAt : Stamp) : Except Failure Instant :=
  if representable (observedAt.val + verifier.maximumClockSkew) then
    .ok (observedAt.val + verifier.maximumClockSkew)
  else .error .overflow

def keyQuery (profile : ApprovalProfile) (approver : ApproverBinding) (observedAt : Stamp) :
    KeyQuery where
  teamId := profile.spec.team.id
  profileId := profile.metadata.id
  profileDigest := profile.metadata.recordDigest
  requiredRole := profile.spec.requiredApproverRole
  quorum := profile.spec.quorum
  principalId := approver.principalId
  keyId := approver.keyId
  policyDigest := profile.spec.policy.digest
  revocationEpoch := profile.spec.policy.revocationEpoch
  at_ := observedAt

/-- `expected` of `verify_vote`. -/
def ResolvedApprovalKey.fits (resolved : ResolvedApprovalKey prims) (profile : ApprovalProfile)
    (approver : ApproverBinding) (observedAt issuedAt expiresAt : Stamp) : Bool :=
  resolved.teamId = profile.spec.team.id &&
    resolved.principalId = approver.principalId &&
    resolved.keyId = approver.keyId &&
    resolved.membershipDigest = approver.membershipDigest &&
    resolved.policyDigest = profile.spec.policy.digest &&
    resolved.revocationEpoch = profile.spec.policy.revocationEpoch &&
    profile.spec.requiredApproverRole ∈ resolved.roles &&
    resolved.notBefore.val ≤ issuedAt.val &&
    observedAt.val < resolved.notAfter.val &&
    expiresAt.val ≤ resolved.notAfter.val

/-- The last step of `verify_vote`. -/
def signatureVerifies (prims : Primitives) (publicKey : List UInt8)
    (vote : TeamApprovalVote) : Bool :=
  match decodeBase64url vote.spec.signature 64 with
  | some signature =>
    prims.ed25519Verify publicKey signature (prims.approvalVoteMessage vote)
  | none => false

/-- The time checks of `verify_vote`.  The latest issue is computed only when the
first comparison has not refused the vote yet. -/
def TeamApprovalVerifier.checkTimes (context : Context) (earliest issuedAt expiresAt : Stamp) :
    Except Failure Unit := do
  require (earliest.val ≤ issuedAt.val) Failure.expired
  let latest ← verifier.latestIssue context.observedAt
  require (issuedAt.val ≤ latest && context.observedAt.val < expiresAt.val &&
    expiresAt.val ≤ context.expiry.val &&
    expiresAt.val - issuedAt.val ≤ verifier.maximumVoteLifetime) Failure.expired

/-- `max` of two instants. -/
def later (t u : Stamp) : Stamp := if t.val < u.val then u else t

def TeamApprovalVerifier.verifyVote (profile request vote : Document)
    (expected : ExpectedRequester) (now : DateTime) :
    Except Failure VerifiedApprovalVote := do
  let context ← validateContext prims profile request expected now
  let voteRecord ← validateTeamApprovalRecord prims vote
  let vote ← expect .invalid voteRecord.asVote
  let issuedAt ← parseTimestamp vote.spec.issuedAt
  let expiresAt ← parseTimestamp vote.spec.expiresAt
  let requestCreatedAt ← parseTimestamp context.request.metadata.createdAt
  let profileNotBefore ← parseTimestamp context.profile.spec.validity.notBefore
  require (vote.spec.approver.principalId ≠ context.request.spec.requester.principalId)
    Failure.requesterConflict
  require (vote.spec.profile = (ApprovalRecord.profile context.profile).binding &&
    vote.spec.request = (ApprovalRecord.request context.request).binding)
    Failure.bindingInvalid
  verifier.checkTimes context (later profileNotBefore requestCreatedAt) issuedAt expiresAt
  let resolved ← expect .keyUntrusted <|
    verifier.resolveActiveKey (keyQuery context.profile vote.spec.approver context.observedAt)
  require (resolved.fits context.profile vote.spec.approver context.observedAt
    issuedAt expiresAt) Failure.keyUntrusted
  require (signatureVerifies prims resolved.publicKey vote) Failure.signatureInvalid
  return {
    voteId := vote.metadata.id
    voteDigest := vote.metadata.recordDigest
    profileId := vote.spec.profile.id
    profileDigest := vote.spec.profile.digest
    requestId := vote.spec.request.id
    requestDigest := vote.spec.request.digest
    principalId := vote.spec.approver.principalId
    keyId := vote.spec.approver.keyId
    membershipDigest := vote.spec.approver.membershipDigest
    decision := vote.spec.decision
    issuedAt
    expiresAt }

/-! ## The permit -/

structure VerifiedActionPermit where
  record : TeamActionPermit
  permitDigest : String
  expiresAt : Stamp

def Document.isMapping : Document → Bool
  | .notMapping => false
  | _ => true

def VerifiedApprovalVote.approver (vote : VerifiedApprovalVote) : PermitApprover where
  principalId := vote.principalId
  keyId := vote.keyId
  membershipDigest := vote.membershipDigest
  vote := ⟨.teamApprovalVote, vote.voteId, vote.voteDigest⟩

/-- `sorted(vote_list, key=...)`. -/
def sortedByPrincipal (votes : List VerifiedApprovalVote) : List VerifiedApprovalVote :=
  votes.mergeSort fun v w => v.principalId ≤ w.principalId

def permitRecord (context : Context) (votes : List VerifiedApprovalVote)
    (permitId : String) (nonceDigest : String) (expiresAt : Stamp) : TeamActionPermit where
  metadata := {
    id := permitId
    createdAt := timestamp context.observedAt
    recordDigest := String.ofList (List.replicate 64 '0') }
  spec := {
    profile := (ApprovalRecord.profile context.profile).binding
    request := (ApprovalRecord.request context.request).binding
    action := context.request.spec.action
    resource := context.request.spec.resource
    snapshot := context.request.spec.snapshot
    policy := context.request.spec.policy
    approvers := (sortedByPrincipal votes).map VerifiedApprovalVote.approver
    quorum := context.profile.spec.quorum
    issuedAt := timestamp context.observedAt
    expiresAt := timestamp expiresAt
    consumptionNonceDigest := nonceDigest }

/-- `record["metadata"]["recordDigest"] = approval_record_digest(record)`. -/
def TeamActionPermit.withDigest (permit : TeamActionPermit) (prims : Primitives) :
    TeamActionPermit :=
  { permit with
    metadata.recordDigest := prims.approvalRecordDigest (.permit permit) }

/-- `min(context_expiry, *(vote.expires_at for vote in vote_list))`. -/
def permitExpiry (context : Context) (votes : List VerifiedApprovalVote) : Stamp :=
  votes.foldl (fun t vote => earlier t vote.expiresAt) context.expiry

/-- What is left of `build_action_permit` once every vote is verified. -/
def sealPermit (prims : Primitives) (context : Context) (votes : List VerifiedApprovalVote)
    (permitId : String) (nonce : List UInt8) : Except Failure VerifiedActionPermit := do
  require (votes.map VerifiedApprovalVote.principalId).Nodup Failure.duplicatePrincipal
  let profile := (ApprovalRecord.profile context.profile).binding
  let request := (ApprovalRecord.request context.request).binding
  require (votes.all fun vote => vote.profileId = profile.id &&
    vote.profileDigest = profile.digest && vote.requestId = request.id &&
    vote.requestDigest = request.digest) Failure.bindingInvalid
  require (votes.all fun vote => vote.decision = .approve) Failure.voteDenied
  require (context.profile.spec.quorum ≤ votes.length) Failure.quorum
  let expiresAt := permitExpiry context votes
  require (context.observedAt.val < expiresAt.val) Failure.expired
  let record := (permitRecord context votes permitId (prims.sha256 nonce) expiresAt).withDigest prims
  let _ ← validateTeamApprovalRecord prims (.record (.permit record))
  return { record, permitDigest := record.metadata.recordDigest, expiresAt }

def TeamApprovalVerifier.buildActionPermit (profile request : Document)
    (votes : List Document) (permitId : String) (nonce : List UInt8)
    (expected : ExpectedRequester) (now : DateTime) :
    Except Failure VerifiedActionPermit := do
  let context ← validateContext prims profile request expected now
  require (fullMatches idPattern permitId) Failure.invalid
  require (nonce.length = 32) Failure.invalid
  require (1 ≤ votes.length && votes.length ≤ 16 && votes.all Document.isMapping)
    Failure.quorum
  let verified ← votes.mapM fun vote =>
    verifier.verifyVote profile request vote expected (.aware context.observedAt)
  sealPermit prims context verified permitId nonce

end Ecosystem.Approval
