import Ecosystem.Approval.Verifier

/-!
# Quorum permits

A permit stands for a context that holds and for votes that each approve its profile
and its request.  `build_action_permit` succeeds exactly on these, as long as the
latest issue time is a date, whatever the order of the votes.
-/

namespace Ecosystem.Approval

open Ecosystem.Lib Ecosystem.Lib.Checks

variable {prims : Primitives}

/-! ## The context -/

/-- A profile and a request that belong together, at a moment when both are in
force. -/
structure Context.Holds (prims : Primitives) (profile request : Document)
    (expected : ExpectedRequester) (now : DateTime) (context : Context) : Prop where
  profile_eq : profile = .record (.profile context.profile)
  request_eq : request = .record (.request context.request)
  profile_valid : (ApprovalRecord.profile context.profile).Valid prims
  request_valid : (ApprovalRecord.request context.request).Valid prims
  clock : now = .aware context.observedAt.val
  principal_canonical : fullMatches idPattern expected.principalId = true
  membership_hex : fullMatches hexPattern expected.membershipDigest = true
  requester : context.request.spec.requester = expected
  window : ∃ notBefore notAfter requestExpiry : Stamp,
    context.profile.spec.validity = ⟨.canonical notBefore, .canonical notAfter⟩ ∧
    context.request.spec.expiresAt = .canonical requestExpiry ∧
    notBefore.val ≤ context.observedAt.val ∧ context.observedAt.val < notAfter.val ∧
    context.observedAt.val < requestExpiry.val ∧
    context.expiry = earlier notAfter requestExpiry
  profile_bound :
    context.request.spec.profile = (ApprovalRecord.profile context.profile).binding
  policy_bound : context.request.spec.policy = context.profile.spec.policy

variable {r : ApprovalRecord} {s : String}

theorem asProfile_eq_some {p : ApprovalProfile} :
    r.asProfile = some p ↔ r = .profile p := by
  cases r <;> simp [ApprovalRecord.asProfile]

theorem asRequest_eq_some {q : TeamApprovalRequest} :
    r.asRequest = some q ↔ r = .request q := by
  cases r <;> simp [ApprovalRecord.asRequest]

theorem asVote_eq_some {v : TeamApprovalVote} : r.asVote = some v ↔ r = .vote v := by
  cases r <;> simp [ApprovalRecord.asVote]

theorem validateContext_eq_ok {profile request : Document} {expected : ExpectedRequester}
    {now : DateTime} {context : Context} :
    validateContext prims profile request expected now = .ok context ↔
      context.Holds prims profile request expected now := by
  simp only [validateContext, bind_eq_ok, validateTeamApprovalRecord_eq_ok, expect_eq_ok,
    asProfile_eq_some, asRequest_eq_some, utc_eq_ok, parseTimestamp_eq_ok,
    require_eq_ok, Bool.and_eq_true, decide_eq_true_eq]
  constructor
  · rintro ⟨_, ⟨rfl, hprofile⟩, _, ⟨rfl, hrequest⟩, p, rfl, q, rfl, observedAt, rfl,
      notBefore, hstart, notAfter, hend, requestExpiry, hexpiry, ⟨⟩,
      ⟨⟨⟨⟨⟨⟨⟨hid, hhex⟩, hrequester⟩, hnb⟩, hna⟩, hre⟩, hbound⟩, hpolicy⟩, hcontext⟩
    have hcontext := Except.ok.inj hcontext
    subst hcontext
    refine ⟨rfl, rfl, hprofile, hrequest, rfl, hid, hhex, hrequester,
      ⟨notBefore, notAfter, requestExpiry, ?_, hexpiry, hnb, hna, hre, rfl⟩, hbound, hpolicy⟩
    show p.spec.validity = _
    rcases hv : p.spec.validity with ⟨nb, na⟩
    rw [hv] at hstart hend
    rw [← hstart, ← hend]
  · rintro ⟨rfl, rfl, hprofile, hrequest, rfl, hid, hhex, hrequester,
      ⟨notBefore, notAfter, requestExpiry, hvalidity, hexpiry, hnb, hna, hre, hcexp⟩,
      hbound, hpolicy⟩
    refine ⟨_, ⟨rfl, hprofile⟩, _, ⟨rfl, hrequest⟩, _, rfl, _, rfl, context.observedAt, rfl,
      notBefore, by rw [hvalidity], notAfter, by rw [hvalidity], requestExpiry, hexpiry, (),
      ⟨⟨⟨⟨⟨⟨⟨hid, hhex⟩, hrequester⟩, hnb⟩, hna⟩, hre⟩, hbound⟩, hpolicy⟩, ?_⟩
    rcases context with ⟨p, q, observedAt, expiry⟩
    simp only at hcexp
    rw [hcexp]
    rfl

theorem Context.Holds.unique {profile request : Document} {expected : ExpectedRequester}
    {now : DateTime} {context context' : Context}
    (h : context.Holds prims profile request expected now)
    (h' : context'.Holds prims profile request expected now) : context' = context :=
  Except.ok.inj
    ((validateContext_eq_ok.mpr h').symm.trans (validateContext_eq_ok.mpr h))

theorem Context.Holds.observed {profile request : Document} {expected : ExpectedRequester}
    {now : DateTime} {context : Context}
    (h : context.Holds prims profile request expected now) :
    context.Holds prims profile request expected (.aware context.observedAt) := by
  rw [← h.clock]
  exact h

/-! ## One vote -/

variable {verifier : TeamApprovalVerifier prims}

/-- The times of a vote: issued when profile and request were there already and no
later than the clock skew allows, not expired, and living no longer than the context
and the longest lifetime. -/
structure InTime (verifier : TeamApprovalVerifier prims) (context : Context)
    (issuedAt expiresAt : Stamp) : Prop where
  after_profile : ∀ t, context.profile.spec.validity.notBefore = .canonical t →
    t.val ≤ issuedAt.val
  after_request : ∀ t, context.request.metadata.createdAt = .canonical t →
    t.val ≤ issuedAt.val
  issued : issuedAt.val ≤ context.observedAt.val + verifier.maximumClockSkew
  alive : context.observedAt.val < expiresAt.val
  within : expiresAt.val ≤ context.expiry.val
  lifetime : expiresAt.val - issuedAt.val ≤ verifier.maximumVoteLifetime

/-- **A valid vote** of a context: bound to its profile and request, cast by someone
else than the requester, in time, and signed with a key that the resolver vouches
for. -/
structure ValidVote (verifier : TeamApprovalVerifier prims) (context : Context)
    (vote : TeamApprovalVote) (issuedAt expiresAt : Stamp) : Prop where
  contract : (ApprovalRecord.vote vote).Valid prims
  issuedAt_eq : vote.spec.issuedAt = .canonical issuedAt
  expiresAt_eq : vote.spec.expiresAt = .canonical expiresAt
  other : vote.spec.approver.principalId ≠ context.request.spec.requester.principalId
  profile : vote.spec.profile = (ApprovalRecord.profile context.profile).binding
  request : vote.spec.request = (ApprovalRecord.request context.request).binding
  inTime : InTime verifier context issuedAt expiresAt
  key : ∃ resolved, verifier.resolveActiveKey
      (keyQuery context.profile vote.spec.approver context.observedAt) = some resolved ∧
    resolved.fits context.profile vote.spec.approver context.observedAt
      issuedAt expiresAt = true ∧
    signatureVerifies prims resolved.publicKey vote = true

/-- The latest admissible issue time is still a date. -/
def HasLatestIssue (verifier : TeamApprovalVerifier prims) (context : Context) : Prop :=
  representable (context.observedAt.val + verifier.maximumClockSkew) = true

/-- What `verify_vote` says of a vote. -/
def verifiedVote (vote : TeamApprovalVote) (issuedAt expiresAt : Stamp) :
    VerifiedApprovalVote where
  voteId := vote.metadata.id
  voteDigest := vote.metadata.recordDigest
  profileId := vote.spec.profile.id
  profileDigest := vote.spec.profile.digest
  requestId := vote.spec.request.id
  requestDigest := vote.spec.request.digest
  principalId := vote.spec.approver.principalId
  keyId := vote.spec.approver.keyId
  membershipDigest := vote.spec.approver.membershipDigest
  decision := vote.spec.decision
  issuedAt := issuedAt
  expiresAt := expiresAt

theorem latestIssue_eq_ok {observedAt : Stamp} {t : Instant} :
    verifier.latestIssue observedAt = .ok t ↔
      representable (observedAt.val + verifier.maximumClockSkew) = true ∧
        t = observedAt.val + verifier.maximumClockSkew := by
  unfold TeamApprovalVerifier.latestIssue
  split
  · rename_i h
    simp [h, eq_comm]
  · rename_i h
    simp [h]

theorem later_le {t u : Stamp} {v : Instant} : (later t u).val ≤ v ↔ t.val ≤ v ∧ u.val ≤ v := by
  unfold later
  by_cases h : t.val < u.val
  · rw [if_pos h]
    exact ⟨fun hu => ⟨h.le.trans hu, hu⟩, fun hu => hu.2⟩
  · rw [if_neg h]
    exact ⟨fun ht => ⟨ht, (not_lt.mp h).trans ht⟩, fun ht => ht.1⟩

theorem checkTimes_eq_ok {context : Context} {notBefore createdAt issuedAt expiresAt : Stamp}
    (hnb : context.profile.spec.validity.notBefore = .canonical notBefore)
    (hca : context.request.metadata.createdAt = .canonical createdAt) :
    verifier.checkTimes context (later notBefore createdAt) issuedAt expiresAt = .ok () ↔
      HasLatestIssue verifier context ∧ InTime verifier context issuedAt expiresAt := by
  simp only [TeamApprovalVerifier.checkTimes, bind_eq_ok, latestIssue_eq_ok,
    require_eq_ok, Bool.and_eq_true, decide_eq_true_eq, later_le]
  constructor
  · rintro ⟨⟨⟩, ⟨hprofile, hrequest⟩, _, ⟨hrep, rfl⟩, ⟨⟨hissued, halive⟩, hwithin⟩, hlife⟩
    refine ⟨hrep, ⟨fun t ht => ?_, fun t ht => ?_, hissued, halive, hwithin, hlife⟩⟩
    · rw [hnb] at ht
      exact Timestamp.canonical.inj ht ▸ hprofile
    · rw [hca] at ht
      exact Timestamp.canonical.inj ht ▸ hrequest
  · rintro ⟨hrep, h⟩
    exact ⟨(), ⟨h.after_profile _ hnb, h.after_request _ hca⟩, _, ⟨hrep, rfl⟩,
      ⟨⟨h.issued, h.alive⟩, h.within⟩, h.lifetime⟩

theorem createdAt_canonical {q : TeamApprovalRequest}
    (h : (ApprovalRecord.request q).Valid prims) :
    ∃ t, q.metadata.createdAt = .canonical t := by
  have htimed := h.timed
  simp only [timedErrors, bind_eq_ok, parseTimestamp_eq_ok] at htimed
  obtain ⟨t, ht, _⟩ := htimed
  exact ⟨t, ht⟩

/-- **The verification of one vote** succeeds exactly on the valid votes of the
context, while the latest issue time is a date. -/
theorem verifyVote_eq_ok {profile request vote : Document} {expected : ExpectedRequester}
    {now : DateTime} {context : Context}
    (hcontext : context.Holds prims profile request expected now)
    {verified : VerifiedApprovalVote} :
    verifier.verifyVote profile request vote expected now = .ok verified ↔
      ∃ v issuedAt expiresAt, vote = .record (.vote v) ∧ HasLatestIssue verifier context ∧
        ValidVote verifier context v issuedAt expiresAt ∧
        verified = verifiedVote v issuedAt expiresAt := by
  obtain ⟨createdAt, hcreated⟩ := createdAt_canonical hcontext.request_valid
  obtain ⟨notBefore, notAfter, requestExpiry, hvalidity, -⟩ := hcontext.window
  have hnb : context.profile.spec.validity.notBefore = .canonical notBefore := by
    rw [hvalidity]
  have hok := validateContext_eq_ok.mpr hcontext
  have hbind : ∀ f : Context → Except Failure VerifiedApprovalVote,
      (validateContext prims profile request expected now >>= f) = f context :=
    fun f => by rw [hok]; rfl
  rw [TeamApprovalVerifier.verifyVote, hbind]
  constructor
  · intro h
    simp only [bind_eq_ok, validateTeamApprovalRecord_eq_ok, expect_eq_ok, asVote_eq_some,
      parseTimestamp_eq_ok, require_eq_ok, Bool.and_eq_true, decide_eq_true_eq] at h
    obtain ⟨_, ⟨rfl, hvalid⟩, v, rfl, issuedAt, hissued, expiresAt, hexpires, c, hc, nb, hnb',
      ⟨⟩, hother, ⟨⟩, ⟨hp, hq⟩, ⟨⟩, htimes, resolved, hresolved, ⟨⟩, hfits, ⟨⟩, hsig,
      hverified⟩ := h
    have htimes := (checkTimes_eq_ok hnb' hc).mp htimes
    exact ⟨v, issuedAt, expiresAt, rfl, htimes.1,
      ⟨hvalid, hissued, hexpires, hother, hp, hq, htimes.2, resolved, hresolved, hfits, hsig⟩,
      (Except.ok.inj hverified).symm⟩
  · rintro ⟨v, issuedAt, expiresAt, rfl, hlatest, hvote, rfl⟩
    obtain ⟨resolved, hresolved, hfits, hsig⟩ := hvote.key
    simp only [bind_eq_ok, validateTeamApprovalRecord_eq_ok, expect_eq_ok, asVote_eq_some,
      parseTimestamp_eq_ok, require_eq_ok, Bool.and_eq_true, decide_eq_true_eq]
    exact ⟨_, ⟨rfl, hvote.contract⟩, v, rfl, issuedAt, hvote.issuedAt_eq, expiresAt,
      hvote.expiresAt_eq, createdAt, hcreated, notBefore, hnb, (), hvote.other, (),
      ⟨hvote.profile, hvote.request⟩, (),
      (checkTimes_eq_ok hnb hcreated).mpr ⟨hlatest, hvote.inTime⟩, resolved, hresolved, (),
      hfits, (), hsig, rfl⟩

/-! ## The votes of a permit -/

/-- A vote with its times, as the verification of a valid one reads them. -/
structure CountedVote where
  vote : TeamApprovalVote
  issuedAt : Stamp
  expiresAt : Stamp

def CountedVote.document (c : CountedVote) : Document := .record (.vote c.vote)

def CountedVote.verified (c : CountedVote) : VerifiedApprovalVote :=
  verifiedVote c.vote c.issuedAt c.expiresAt

def CountedVote.principal (c : CountedVote) : String := c.vote.spec.approver.principalId

def CountedVote.Approves (verifier : TeamApprovalVerifier prims) (context : Context)
    (c : CountedVote) : Prop :=
  ValidVote verifier context c.vote c.issuedAt c.expiresAt ∧ c.vote.spec.decision = .approve

theorem verifyVotes_eq_ok {profile request : Document} {votes : List Document}
    {expected : ExpectedRequester} {now : DateTime} {context : Context}
    (hcontext : context.Holds prims profile request expected now)
    (hlatest : HasLatestIssue verifier context) {verified : List VerifiedApprovalVote} :
    (votes.mapM fun vote => verifier.verifyVote profile request vote expected now) =
        .ok verified ↔
      ∃ counted : List CountedVote, votes = counted.map CountedVote.document ∧
        verified = counted.map CountedVote.verified ∧
        ∀ c ∈ counted, ValidVote verifier context c.vote c.issuedAt c.expiresAt := by
  rw [mapM_eq_ok]
  constructor
  · intro h
    induction h with
    | nil => exact ⟨[], rfl, rfl, fun _ hc => (nomatch hc)⟩
    | cons hx _ ih =>
      obtain ⟨v, issuedAt, expiresAt, hdoc, _, hvalid, hverified⟩ :=
        (verifyVote_eq_ok hcontext).mp hx
      obtain ⟨counted, hdocs, hverifieds, hall⟩ := ih
      refine ⟨⟨v, issuedAt, expiresAt⟩ :: counted, ?_, ?_, ?_⟩
      · rw [List.map_cons, hdoc, hdocs]
        rfl
      · rw [List.map_cons, hverified, hverifieds]
        rfl
      · exact List.forall_mem_cons.mpr ⟨hvalid, hall⟩
  · rintro ⟨counted, rfl, rfl, hall⟩
    rw [List.forall₂_map_left_iff, List.forall₂_map_right_iff, List.forall₂_same]
    exact fun c hc => (verifyVote_eq_ok hcontext).mpr
      ⟨c.vote, c.issuedAt, c.expiresAt, rfl, hlatest, hall c hc, rfl⟩

/-! ## The expiry -/

theorem earlier_le_left (t u : Stamp) : (earlier t u).val ≤ t.val := by
  unfold earlier
  split
  · rename_i h
    exact h.le
  · exact le_rfl

theorem earlier_le_right (t u : Stamp) : (earlier t u).val ≤ u.val := by
  unfold earlier
  split
  · exact le_rfl
  · rename_i h
    exact not_lt.mp h

theorem lt_earlier {t u : Stamp} {x : Instant} (ht : x < t.val) (hu : x < u.val) :
    x < (earlier t u).val := by
  unfold earlier
  split
  · exact hu
  · exact ht

theorem earlier_right_comm (t u v : Stamp) :
    earlier (earlier t u) v = earlier (earlier t v) u := by
  have heq : ∀ x y : Stamp, (earlier x y).val = min x.val y.val := by
    intro x y
    unfold earlier
    by_cases h : y.val < x.val
    · rw [if_pos h, min_eq_right h.le]
    · rw [if_neg h, min_eq_left (not_lt.mp h)]
  apply Subtype.ext
  rw [heq, heq, heq, heq, min_right_comm]

theorem foldl_earlier_le (votes : List VerifiedApprovalVote) (t : Stamp) :
    (votes.foldl (fun t vote => earlier t vote.expiresAt) t).val ≤ t.val ∧ ∀ vote ∈ votes,
        (votes.foldl (fun t vote => earlier t vote.expiresAt) t).val ≤ vote.expiresAt.val := by
  induction votes generalizing t with
  | nil => exact ⟨le_rfl, fun _ h => (nomatch h)⟩
  | cons v votes ih =>
    obtain ⟨hle, hall⟩ := ih (earlier t v.expiresAt)
    rw [List.foldl_cons]
    refine ⟨hle.trans (earlier_le_left _ _), List.forall_mem_cons.mpr ⟨?_, hall⟩⟩
    exact hle.trans (earlier_le_right _ _)

theorem lt_permitExpiry {context : Context} {votes : List VerifiedApprovalVote} {x : Instant}
    (hcontext : x < context.expiry.val) (hvotes : ∀ vote ∈ votes, x < vote.expiresAt.val) :
    x < (permitExpiry context votes).val := by
  unfold permitExpiry
  generalize context.expiry = t at hcontext
  induction votes generalizing t with
  | nil => exact hcontext
  | cons v votes ih =>
    rw [List.forall_mem_cons] at hvotes
    exact ih hvotes.2 _ (lt_earlier hcontext hvotes.1)

theorem permitExpiry_perm {context : Context} {votes votes' : List VerifiedApprovalVote}
    (h : votes.Perm votes') : permitExpiry context votes = permitExpiry context votes' :=
  h.foldl_eq' (fun _ _ _ _ t => earlier_right_comm t _ _) _

/-! ## The order of the approvers -/

theorem principals_sorted (votes : List VerifiedApprovalVote) :
    ((sortedByPrincipal votes).map VerifiedApprovalVote.principalId).Pairwise (· ≤ ·) := by
  rw [List.pairwise_map]
  refine (List.pairwise_mergeSort ?_ ?_ votes).imp fun h => of_decide_eq_true h
  · intro u v w huv hvw
    simp only [decide_eq_true_eq] at *
    exact String.le_trans huv hvw
  · intro v w
    simp only [Bool.or_eq_true, decide_eq_true_eq]
    exact String.le_total _ _

theorem sortedByPrincipal_perm {votes votes' : List VerifiedApprovalVote}
    (h : votes.Perm votes') (hnodup : (votes.map VerifiedApprovalVote.principalId).Nodup) :
    sortedByPrincipal votes = sortedByPrincipal votes' := by
  have hperm : (sortedByPrincipal votes).Perm (sortedByPrincipal votes') :=
    (List.mergeSort_perm ..).trans (h.trans (List.mergeSort_perm ..).symm)
  have hsorted := List.pairwise_map.mp (principals_sorted votes)
  have hsorted' := List.pairwise_map.mp (principals_sorted votes')
  refine hperm.eq_of_pairwise ?_ hsorted hsorted'
  intro v w hv hw hvw hwv
  have hv : v ∈ votes := (List.mergeSort_perm ..).mem_iff.mp hv
  have hw : w ∈ votes := h.mem_iff.mpr ((List.mergeSort_perm ..).mem_iff.mp hw)
  exact List.inj_on_of_nodup_map hnodup hv hw (String.le_antisymm hvw hwv)

/-! ## The permit keeps its contract -/

/-- The conditions on the votes taken together. -/
structure CountedVotes (verifier : TeamApprovalVerifier prims) (context : Context)
    (counted : List CountedVote) : Prop where
  least : 1 ≤ counted.length
  most : counted.length ≤ 16
  quorum : context.profile.spec.quorum ≤ counted.length
  approves : ∀ c ∈ counted, c.Approves verifier context
  distinct : (counted.map CountedVote.principal).Nodup

theorem map_principalId_verified (counted : List CountedVote) :
    (counted.map CountedVote.verified).map VerifiedApprovalVote.principalId =
      counted.map CountedVote.principal := by
  rw [List.map_map]
  rfl

theorem searches_of_fullMatches {pattern : List Char → Bool}
    (hs : ∀ cs, pattern cs = true → cs.getLast? ≠ some '\n')
    (h : fullMatches pattern s = true) : searches pattern s = true := by
  rw [searches, Runtime.dropFinalNewline, if_neg (hs _ h)]
  exact h

theorem idPattern_getLast {cs : List Char} (h : idPattern cs = true) :
    cs.getLast? ≠ some '\n' := by
  intro hlast
  have hmem : '\n' ∈ cs := List.mem_of_getLast? hlast
  cases cs with
  | nil => cases hmem
  | cons c cs =>
    simp only [idPattern, matchesHead, Bool.and_eq_true, List.all_eq_true] at h
    rcases List.mem_cons.mp hmem with rfl | hrest
    · exact absurd h.1.1.1 (by decide)
    · exact absurd (h.2 _ hrest) (by decide)

theorem hexPattern_getLast {cs : List Char} (h : hexPattern cs = true) :
    cs.getLast? ≠ some '\n' := by
  intro hlast
  have hmem : '\n' ∈ cs := List.mem_of_getLast? hlast
  simp only [hexPattern, Bool.and_eq_true, List.all_eq_true] at h
  exact absurd (h.2 _ hmem) (by decide)

theorem searches_id (h : fullMatches idPattern s = true) : searches idPattern s = true :=
  searches_of_fullMatches (fun _ => idPattern_getLast) h

theorem searches_hex (h : hexPattern s.toList = true) : searches hexPattern s = true :=
  searches_of_fullMatches (fun _ => hexPattern_getLast) h

theorem binding_schemaValid (h : r.Valid prims) : r.binding.schemaValid = true := by
  have hmeta : r.metadata.schemaValid = true := by
    have hs := h.schema
    cases r <;>
      · simp only [ApprovalRecord.schemaValid, Bool.and_eq_true] at hs
        exact hs.1
  simp only [Metadata.schemaValid, Bool.and_eq_true] at hmeta
  simp only [ApprovalRecord.binding, RecordBinding.schemaValid, Bool.and_eq_true]
  exact ⟨hmeta.1.1, hmeta.2⟩

theorem approver_schemaValid {c : CountedVote}
    (h : (ApprovalRecord.vote c.vote).Valid prims) :
    c.verified.approver.schemaValid = true := by
  have hbinding := binding_schemaValid h
  have hs := h.schema
  simp only [ApprovalRecord.schemaValid, VoteSpec.schemaValid, ApproverBinding.schemaValid,
    Bool.and_eq_true] at hs
  obtain ⟨_, ⟨⟨⟨_, ⟨hid, hkey⟩, hmember⟩, _⟩, _⟩, _⟩ := hs
  simp only [PermitApprover.schemaValid, Bool.and_eq_true]
  exact ⟨⟨⟨hid, hkey⟩, hmember⟩, hbinding⟩

section Permit

variable {profile request : Document} {expected : ExpectedRequester} {now : DateTime}
  {context : Context} {counted : List CountedVote} {permitId : String} {nonce : List UInt8}
  {expiresAt : Stamp}

theorem permit_schemaValid (hcontext : context.Holds prims profile request expected now)
    (hvotes : CountedVotes verifier context counted)
    (hid : fullMatches idPattern permitId = true) :
    (ApprovalRecord.permit ((permitRecord context (counted.map CountedVote.verified) permitId
      (prims.sha256 nonce) expiresAt).withDigest prims)).schemaValid = true := by
  have hp := hcontext.profile_valid.schema
  have hq := hcontext.request_valid.schema
  have happrovers : ((sortedByPrincipal (counted.map CountedVote.verified)).map
      VerifiedApprovalVote.approver).all PermitApprover.schemaValid = true := by
    rw [List.all_map, List.all_eq_true]
    intro v hv
    obtain ⟨c, hc, rfl⟩ := List.mem_map.mp ((List.mergeSort_perm ..).mem_iff.mp hv)
    exact approver_schemaValid (hvotes.approves c hc).1.contract
  have hlength : (sortedByPrincipal (counted.map CountedVote.verified)).length =
      counted.length := by
    rw [sortedByPrincipal, List.length_mergeSort, List.length_map]
  simp only [ApprovalRecord.schemaValid, ProfileSpec.schemaValid, RequestSpec.schemaValid,
    Bool.and_eq_true] at hp hq
  obtain ⟨_, ⟨⟨⟨⟨_, _⟩, hrole⟩, hquorum⟩, _⟩⟩ := hp
  obtain ⟨_, ⟨⟨⟨⟨⟨⟨_, _⟩, haction⟩, hresource⟩, hsnapshot⟩, hpolicy⟩, _⟩⟩ := hq
  simp only [ApprovalRecord.schemaValid, TeamActionPermit.withDigest, permitRecord,
    Metadata.schemaValid, PermitSpec.schemaValid, Timestamp.schemaValid, timestamp,
    Bool.and_eq_true, List.length_map, hlength, decide_eq_true_eq]
  exact ⟨⟨⟨searches_id hid, trivial⟩, searches_hex (prims.semanticDigest_hex _)⟩,
    ⟨⟨⟨⟨⟨⟨⟨⟨⟨⟨⟨⟨binding_schemaValid hcontext.profile_valid,
      binding_schemaValid hcontext.request_valid⟩, haction⟩, hresource⟩, hsnapshot⟩,
      hpolicy⟩, hvotes.least⟩, hvotes.most⟩, happrovers⟩, hquorum⟩, trivial⟩, trivial⟩,
      searches_hex (prims.sha256_hex _)⟩⟩

theorem permit_valid (hcontext : context.Holds prims profile request expected now)
    (hvotes : CountedVotes verifier context counted)
    (hid : fullMatches idPattern permitId = true)
    (hexpiry : context.observedAt.val < expiresAt.val) :
    (ApprovalRecord.permit ((permitRecord context (counted.map CountedVote.verified) permitId
      (prims.sha256 nonce) expiresAt).withDigest prims)).Valid prims where
  schema := permit_schemaValid hcontext hvotes hid
  digest := rfl
  timed := by
    have hsorted := principals_sorted (counted.map CountedVote.verified)
    have hperm : ((sortedByPrincipal (counted.map CountedVote.verified)).map
        VerifiedApprovalVote.principalId).Perm (counted.map CountedVote.principal) := by
      rw [← map_principalId_verified]
      exact (List.mergeSort_perm ..).map _
    have hprincipals : ((sortedByPrincipal (counted.map CountedVote.verified)).map
        VerifiedApprovalVote.approver).map PermitApprover.principalId =
        (sortedByPrincipal (counted.map CountedVote.verified)).map
          VerifiedApprovalVote.principalId := by
      rw [List.map_map]
      rfl
    have hlength := hperm.length_eq
    rw [List.length_map] at hlength
    have hquorum := hvotes.quorum
    simp only [timedErrors, TeamActionPermit.withDigest, permitRecord, timestamp,
      parseTimestamp, hprincipals]
    show Except.ok _ = Except.ok _
    rw [List.mergeSort_of_pairwise (hsorted.imp fun h => decide_eq_true h)]
    have halive : context.observedAt < expiresAt := hexpiry
    simp [halive, hperm.nodup_iff.mpr hvotes.distinct, hlength, hquorum]

/-! ## Sealing -/

theorem sealPermit_eq_ok {permit : VerifiedActionPermit}
    (hcontext : context.Holds prims profile request expected now)
    (hcounted : ∀ c ∈ counted, ValidVote verifier context c.vote c.issuedAt c.expiresAt)
    (hleast : 1 ≤ counted.length) (hmost : counted.length ≤ 16)
    (hid : fullMatches idPattern permitId = true) :
    sealPermit prims context (counted.map CountedVote.verified) permitId nonce = .ok permit ↔
      CountedVotes verifier context counted ∧
      permit.expiresAt = permitExpiry context (counted.map CountedVote.verified) ∧
      permit.record = (permitRecord context (counted.map CountedVote.verified) permitId
        (prims.sha256 nonce) permit.expiresAt).withDigest prims ∧
      permit.permitDigest = permit.record.metadata.recordDigest := by
  have halive : context.observedAt.val <
      (permitExpiry context (counted.map CountedVote.verified)).val := by
    obtain ⟨_, notAfter, requestExpiry, _, _, _, hna, hre, hexp⟩ := hcontext.window
    refine lt_permitExpiry (by rw [hexp]; exact lt_earlier hna hre) ?_
    intro v hv
    obtain ⟨c, hc, rfl⟩ := List.mem_map.mp hv
    exact (hcounted c hc).inTime.alive
  have hbound : ∀ v ∈ counted.map CountedVote.verified,
      v.profileId = (ApprovalRecord.profile context.profile).binding.id ∧
      v.profileDigest = (ApprovalRecord.profile context.profile).binding.digest ∧
      v.requestId = (ApprovalRecord.request context.request).binding.id ∧
      v.requestDigest = (ApprovalRecord.request context.request).binding.digest := by
    intro v hv
    obtain ⟨c, hc, rfl⟩ := List.mem_map.mp hv
    have hp := (hcounted c hc).profile
    have hq := (hcounted c hc).request
    simp [CountedVote.verified, verifiedVote, hp, hq]
  simp only [sealPermit, bind_eq_ok, require_eq_ok, validateTeamApprovalRecord_eq_ok,
    map_principalId_verified, List.all_eq_true, Bool.and_eq_true, decide_eq_true_eq,
    List.length_map]
  constructor
  · rintro ⟨⟨⟩, hnodup, ⟨⟩, _, ⟨⟩, happrove, ⟨⟩, hquorum, ⟨⟩, _, _, ⟨_, hvalid⟩, hpermit⟩
    have hpermit := Except.ok.inj hpermit
    subst hpermit
    refine ⟨⟨hleast, hmost, hquorum, fun c hc => ⟨hcounted c hc, ?_⟩, hnodup⟩, rfl, rfl, rfl⟩
    exact happrove _ (List.mem_map_of_mem hc)
  · rintro ⟨hvotes, hexp, hrecord, hdigest⟩
    refine ⟨(), hvotes.distinct, (), fun v hv => ?_, (), ?_, (), hvotes.quorum, (), halive, _,
      ⟨rfl, permit_valid hcontext hvotes hid halive⟩, ?_⟩
    · obtain ⟨h1, h2, h3, h4⟩ := hbound v hv
      exact ⟨⟨⟨h1, h2⟩, h3⟩, h4⟩
    · intro v hv
      obtain ⟨c, hc, rfl⟩ := List.mem_map.mp hv
      exact (hvotes.approves c hc).2
    · rcases permit with ⟨record, digest, exp⟩
      simp only at hexp hrecord hdigest
      subst hexp hrecord hdigest
      rfl

end Permit

/-! ## The quorum -/

/-- **What a permit needs**: a context that holds, a canonical permit id, a nonce of
32 bytes, and between 1 and 16 documents, at least as many as the quorum, that are
valid approving votes of distinct principals. -/
def Permissible (verifier : TeamApprovalVerifier prims) (profile request : Document)
    (votes : List Document) (permitId : String) (nonce : List UInt8)
    (expected : ExpectedRequester) (now : DateTime) (context : Context)
    (counted : List CountedVote) : Prop :=
  context.Holds prims profile request expected now ∧
    fullMatches idPattern permitId = true ∧ nonce.length = 32 ∧
    votes = counted.map CountedVote.document ∧ CountedVotes verifier context counted

section Build

variable {profile request : Document} {votes : List Document} {permitId : String}
  {nonce : List UInt8} {expected : ExpectedRequester} {now : DateTime}

variable {permit : VerifiedActionPermit}

theorem buildActionPermit_eq_ok :
    verifier.buildActionPermit profile request votes permitId nonce expected now = .ok permit ↔
      ∃ context counted,
        Permissible verifier profile request votes permitId nonce expected now context counted ∧
        HasLatestIssue verifier context ∧
        permit.expiresAt = permitExpiry context (counted.map CountedVote.verified) ∧
        permit.record = (permitRecord context (counted.map CountedVote.verified) permitId
          (prims.sha256 nonce) permit.expiresAt).withDigest prims ∧
        permit.permitDigest = permit.record.metadata.recordDigest := by
  simp only [TeamApprovalVerifier.buildActionPermit, bind_eq_ok, validateContext_eq_ok,
    require_eq_ok, Bool.and_eq_true, decide_eq_true_eq]
  constructor
  · rintro ⟨context, hcontext, ⟨⟩, hid, ⟨⟩, hnonce, ⟨⟩, ⟨⟨hleast, hmost⟩, _⟩, verified,
      hverified, hseal⟩
    -- the first vote could only be verified with a latest issue time
    have hlatest : HasLatestIssue verifier context := by
      rcases votes with _ | ⟨vote, rest⟩
      · simp at hleast
      · cases mapM_eq_ok.mp hverified with
        | cons hvote _ =>
          obtain ⟨_, _, _, _, hlatest, _⟩ := (verifyVote_eq_ok hcontext.observed).mp hvote
          exact hlatest
    obtain ⟨counted, rfl, rfl, hcounted⟩ :=
      (verifyVotes_eq_ok hcontext.observed hlatest).mp hverified
    rw [List.length_map] at hleast hmost
    obtain ⟨hvotes, hpermit⟩ := (sealPermit_eq_ok hcontext hcounted hleast hmost hid).mp hseal
    exact ⟨context, counted, ⟨hcontext, hid, hnonce, rfl, hvotes⟩, hlatest, hpermit⟩
  · rintro ⟨context, counted, ⟨hcontext, hid, hnonce, rfl, hvotes⟩, hlatest, hpermit⟩
    have hcounted : ∀ c ∈ counted, ValidVote verifier context c.vote c.issuedAt c.expiresAt :=
      fun c hc => (hvotes.approves c hc).1
    refine ⟨context, hcontext, (), hid, (), hnonce, (), ⟨⟨?_, ?_⟩, ?_⟩, _,
      (verifyVotes_eq_ok hcontext.observed hlatest).mpr ⟨counted, rfl, rfl, hcounted⟩,
      (sealPermit_eq_ok hcontext hcounted hvotes.least hvotes.most hid).mpr ⟨hvotes, hpermit⟩⟩
    · rw [List.length_map]
      exact hvotes.least
    · rw [List.length_map]
      exact hvotes.most
    · rw [List.all_map, List.all_eq_true]
      exact fun _ _ => rfl

structure VerifiedActionPermit.Sound (permit : VerifiedActionPermit) (context : Context)
    (counted : List CountedVote) : Prop where
  expiry_written : permit.record.spec.expiresAt = .canonical permit.expiresAt
  within_profile : ∀ t, context.profile.spec.validity.notAfter = .canonical t →
    permit.expiresAt.val ≤ t.val
  within_request : ∀ t, context.request.spec.expiresAt = .canonical t →
    permit.expiresAt.val ≤ t.val
  within_votes : ∀ c ∈ counted, permit.expiresAt.val ≤ c.expiresAt.val
  principals : (permit.record.spec.approvers.map PermitApprover.principalId).Perm
    (counted.map CountedVote.principal)

theorem buildActionPermit_sound
    (h : verifier.buildActionPermit profile request votes permitId nonce expected now =
      .ok permit) :
    ∃ context counted,
      Permissible verifier profile request votes permitId nonce expected now context counted ∧
        permit.Sound context counted := by
  obtain ⟨context, counted, hpermissible, _, hexpiry, hrecord, _⟩ :=
    buildActionPermit_eq_ok.mp h
  obtain ⟨notBefore, notAfter, requestExpiry, hvalidity, hrequest, _, _, _, hcexp⟩ :=
    hpermissible.1.window
  obtain ⟨hcontext, hvotes⟩ :=
    foldl_earlier_le (counted.map CountedVote.verified) context.expiry
  have hcontext : permit.expiresAt.val ≤ context.expiry.val := hexpiry ▸ hcontext
  rw [hcexp] at hcontext
  refine ⟨context, counted, hpermissible, ⟨?_, fun t ht => ?_, fun t ht => ?_,
    fun c hc => ?_, ?_⟩⟩
  · rw [hrecord]
    rfl
  · rw [hvalidity] at ht
    exact Timestamp.canonical.inj ht ▸ hcontext.trans (earlier_le_left _ _)
  · rw [hrequest] at ht
    exact Timestamp.canonical.inj ht ▸ hcontext.trans (earlier_le_right _ _)
  · rw [hexpiry]
    exact hvotes _ (List.mem_map_of_mem hc)
  · rw [hrecord]
    show (((sortedByPrincipal (counted.map CountedVote.verified)).map
      VerifiedApprovalVote.approver).map PermitApprover.principalId).Perm _
    rw [List.map_map, ← map_principalId_verified]
    exact (List.mergeSort_perm ..).map _

theorem buildActionPermit_perm {votes' : List Document} (hperm : votes.Perm votes')
    (h : verifier.buildActionPermit profile request votes permitId nonce expected now =
      .ok permit) :
    verifier.buildActionPermit profile request votes' permitId nonce expected now =
      .ok permit := by
  obtain ⟨context, counted, ⟨hcontext, hid, hnonce, rfl, hvotes⟩, hlatest, hexpiry, hrecord,
    hdigest⟩ := buildActionPermit_eq_ok.mp h
  -- the counted votes follow the documents
  obtain ⟨counted', hcounted, hdocs⟩ : ∃ counted' : List CountedVote,
      counted.Perm counted' ∧ votes' = counted'.map CountedVote.document := by
    have hmap : List.Forall₂ (fun d c => CountedVote.document c = d)
        (counted.map CountedVote.document) counted := by
      rw [List.forall₂_map_left_iff, List.forall₂_same]
      exact fun _ _ => rfl
    obtain ⟨counted', hforall, hcounted⟩ := List.perm_comp_forall₂ hperm.symm hmap
    refine ⟨counted', hcounted.symm, ?_⟩
    clear hcounted hperm hmap h
    induction hforall with
    | nil => rfl
    | cons hd _ ih => rw [List.map_cons, hd, ← ih]
  have hverified := hcounted.map CountedVote.verified
  have hnodup : ((counted.map CountedVote.verified).map
      VerifiedApprovalVote.principalId).Nodup := by
    rw [map_principalId_verified]
    exact hvotes.distinct
  refine buildActionPermit_eq_ok.mpr ⟨context, counted', ⟨hcontext, hid, hnonce, hdocs,
    ⟨?_, ?_, ?_, fun c hc => hvotes.approves c (hcounted.mem_iff.mpr hc), ?_⟩⟩, hlatest, ?_, ?_,
    hdigest⟩
  · rw [← hcounted.length_eq]
    exact hvotes.least
  · rw [← hcounted.length_eq]
    exact hvotes.most
  · rw [← hcounted.length_eq]
    exact hvotes.quorum
  · exact (hcounted.map CountedVote.principal).nodup_iff.mp hvotes.distinct
  · rw [hexpiry, permitExpiry_perm hverified]
  · rw [hrecord, permitRecord, permitRecord, sortedByPrincipal_perm hverified hnodup]

theorem buildActionPermit_refuses {before after : List Document} {vote : TeamApprovalVote}
    (hvote : vote.spec.decision = .deny ∨
      ∃ other : TeamApprovalVote, Document.record (.vote other) ∈ before ++ after ∧
        other.spec.approver.principalId = vote.spec.approver.principalId)
    (permit : VerifiedActionPermit) :
    verifier.buildActionPermit profile request
      (before ++ .record (.vote vote) :: after) permitId nonce expected now ≠ .ok permit := by
  intro h
  -- the order does not matter, so the vote may as well come first
  have h := buildActionPermit_perm List.perm_middle h
  obtain ⟨context, counted, ⟨_, _, _, hdocs, hvotes⟩, _⟩ := buildActionPermit_eq_ok.mp h
  rcases counted with _ | ⟨c, counted⟩
  · simp at hdocs
  · rw [List.map_cons, List.cons.injEq] at hdocs
    obtain ⟨hc, hrest⟩ := hdocs
    have hc : c.vote = vote := by
      have hc := Document.record.inj hc
      exact (ApprovalRecord.vote.inj hc).symm
    rcases hvote with hdeny | ⟨other, hother, hsame⟩
    · have happrove := (hvotes.approves c (List.mem_cons_self ..)).2
      rw [hc, hdeny] at happrove
      cases happrove
    · rw [hrest] at hother
      obtain ⟨d, hd, hdoc⟩ := List.mem_map.mp hother
      have hd' : d.vote = other := ApprovalRecord.vote.inj (Document.record.inj hdoc)
      have hnodup := hvotes.distinct
      rw [List.map_cons, List.nodup_cons] at hnodup
      refine hnodup.1 (List.mem_map.mpr ⟨d, hd, ?_⟩)
      rw [CountedVote.principal, CountedVote.principal, hc, hd', hsame]

/-- **Quorum permits are sound, complete and independent of order.**  A permit is
built exactly when the documents are a quorum of valid approving votes of distinct
principals and the latest admissible issue time is a date.  It expires with the
first of the profile, the request and the votes, lists exactly the principals that
voted, and comes out the same for every order of the votes; a denial or a second
vote of a principal never lets one be built. -/
theorem quorum_permits (verifier : TeamApprovalVerifier prims) (profile request : Document)
    (votes : List Document) (permitId : String) (nonce : List UInt8)
    (expected : ExpectedRequester) (now : DateTime) :
    ((∃ permit, verifier.buildActionPermit profile request votes permitId nonce expected now =
        .ok permit) ↔ ∃ context counted,
        Permissible verifier profile request votes permitId nonce expected now context
          counted ∧ HasLatestIssue verifier context) ∧ (∀ permit,
      verifier.buildActionPermit profile request votes permitId nonce expected now =
        .ok permit → (∃ context counted,
        Permissible verifier profile request votes permitId nonce expected now context
          counted ∧ permit.Sound context counted) ∧ ∀ votes', votes.Perm votes' →
        verifier.buildActionPermit profile request votes' permitId nonce expected now =
          .ok permit) ∧ ∀ before after vote, votes = before ++ after →
      (vote.spec.decision = .deny ∨
        ∃ other : TeamApprovalVote, Document.record (.vote other) ∈ votes ∧
          other.spec.approver.principalId = vote.spec.approver.principalId) →
      ∀ permit, verifier.buildActionPermit profile request
        (before ++ .record (.vote vote) :: after) permitId nonce expected now ≠ .ok permit := by
  refine ⟨⟨?_, ?_⟩, fun permit h => ⟨buildActionPermit_sound h,
    fun votes' hperm => buildActionPermit_perm hperm h⟩, ?_⟩
  · rintro ⟨permit, h⟩
    obtain ⟨context, counted, hpermissible, hlatest, _⟩ := buildActionPermit_eq_ok.mp h
    exact ⟨context, counted, hpermissible, hlatest⟩
  · rintro ⟨context, counted, hpermissible, hlatest⟩
    let expiresAt := permitExpiry context (counted.map CountedVote.verified)
    let record := (permitRecord context (counted.map CountedVote.verified) permitId
      (prims.sha256 nonce) expiresAt).withDigest prims
    exact ⟨⟨record, record.metadata.recordDigest, expiresAt⟩, buildActionPermit_eq_ok.mpr
      ⟨context, counted, hpermissible, hlatest, rfl, rfl, rfl⟩⟩
  · rintro before after vote rfl hvote permit
    exact buildActionPermit_refuses hvote permit

end Build

/-! ## At the end of the calendar -/

section LastMinute

def zeros : String := String.ofList (List.replicate 64 '0')

def samplePrimitives : Primitives where
  semanticDigest _ := zeros
  semanticDigest_hex := fun _ => by decide
  canonicalVote _ := []
  sha256 _ := zeros
  sha256_hex := fun _ => by decide
  keyFingerprint _ := zeros
  ed25519Verify _ _ _ := true

/-- 9999-12-31T23:59:00Z, 23:59:30Z and 23:59:59Z. -/
def sampleStart : Stamp := ⟨253402300740000000, by decide, by decide⟩

def sampleNow : Stamp := ⟨253402300770000000, by decide, by decide⟩

def sampleEnd : Stamp := ⟨253402300799000000, by decide, by decide⟩

def sampleMetadata (id : String) : Metadata := ⟨id, .canonical sampleStart, zeros⟩

def samplePolicy : PolicyBinding := ⟨"policy-1", 1, zeros, 0⟩

def sampleRequester : PrincipalBinding := ⟨"alice", zeros⟩

def sampleKeyId : String := "ed25519:" ++ zeros

def sampleProfile : ApprovalProfile where
  metadata := sampleMetadata "profile-1"
  spec := {
    purpose := .runtimeAction
    team := ⟨"team-1", zeros⟩
    policy := samplePolicy
    requiredApproverRole := "approver"
    quorum := 1
    validity := ⟨.canonical sampleStart, .canonical sampleEnd⟩ }

def sampleRequest : TeamApprovalRequest where
  metadata := sampleMetadata "request-1"
  spec := {
    profile := ⟨.approvalProfile, "profile-1", zeros⟩
    requester := sampleRequester
    action := ⟨"repository.write", .a2, "write", zeros⟩
    resource := ⟨"Repository", "repo-1", zeros⟩
    snapshot := ⟨"Snapshot", "snapshot-1", zeros⟩
    policy := samplePolicy
    expiresAt := .canonical sampleEnd }

def sampleVote : TeamApprovalVote where
  metadata := sampleMetadata "vote-1"
  spec := {
    profile := ⟨.approvalProfile, "profile-1", zeros⟩
    request := ⟨.teamApprovalRequest, "request-1", zeros⟩
    approver := ⟨"bob", sampleKeyId, zeros⟩
    decision := .approve
    issuedAt := .canonical sampleStart
    expiresAt := .canonical sampleEnd
    signature := String.ofList (List.replicate 86 'A') }

def sampleKey : ResolvedApprovalKey samplePrimitives where
  teamId := "team-1"
  principalId := "bob"
  keyId := sampleKeyId
  membershipDigest := zeros
  roles := ["approver"]
  policyDigest := zeros
  revocationEpoch := 0
  notBefore := sampleStart
  notAfter := sampleEnd
  publicKey := List.replicate 32 0
  teamId_canonical := by decide
  principalId_canonical := by decide
  publicKey_length := by decide
  keyId_eq := rfl
  membershipDigest_hex := by decide
  roles_sorted := List.pairwise_singleton ..
  roles_nonempty := by decide
  roles_canonical := by decide
  policyDigest_hex := by decide
  revocationEpoch_range := by decide
  window := by decide

/-- The windows that the verifier has by default. -/
def sampleVerifier : TeamApprovalVerifier samplePrimitives where
  resolveActiveKey _ := some sampleKey
  maximumClockSkew := 60000000
  maximumVoteLifetime := 1800000000
  skew_nonneg := by decide
  lifetime_pos := by decide

def sampleContext : Context := ⟨sampleProfile, sampleRequest, sampleNow, sampleEnd⟩

theorem sampleContext_holds :
    sampleContext.Holds samplePrimitives (.record (.profile sampleProfile))
      (.record (.request sampleRequest)) sampleRequester (.aware sampleNow) where
  profile_eq := rfl
  request_eq := rfl
  profile_valid := ⟨by rfl, by rfl, rfl⟩
  request_valid := ⟨by decide +kernel, by rfl, rfl⟩
  clock := rfl
  principal_canonical := by decide
  membership_hex := by decide
  requester := rfl
  window := ⟨sampleStart, sampleEnd, sampleEnd, rfl, rfl, by decide, by decide, by decide, rfl⟩
  profile_bound := rfl
  policy_bound := rfl

theorem sampleVotes_count {verifier : TeamApprovalVerifier samplePrimitives}
    (hkey : verifier.resolveActiveKey = fun _ => some sampleKey)
    (hskew : sampleStart.val ≤ sampleNow.val + verifier.maximumClockSkew)
    (hlifetime : sampleEnd.val - sampleStart.val ≤ verifier.maximumVoteLifetime) :
    CountedVotes verifier sampleContext [⟨sampleVote, sampleStart, sampleEnd⟩] where
  least := by decide
  most := by decide
  quorum := by decide
  distinct := List.nodup_singleton _
  approves := by
    rw [List.forall_mem_singleton]
    refine ⟨⟨⟨by rfl, by rfl, rfl⟩, rfl, rfl, by decide, rfl, rfl,
      ⟨?_, ?_, hskew, by decide, by decide, hlifetime⟩, sampleKey, by rw [hkey], by rfl,
      by rfl⟩, rfl⟩
    · rintro t ht
      exact Timestamp.canonical.inj ht ▸ le_rfl
    · rintro t ht
      exact Timestamp.canonical.inj ht ▸ le_rfl

/-- Without a clock skew the votes get their permit. -/
example : ∃ permit, TeamApprovalVerifier.buildActionPermit
    { sampleVerifier with maximumClockSkew := 0, skew_nonneg := le_rfl }
    (.record (.profile sampleProfile)) (.record (.request sampleRequest))
    [.record (.vote sampleVote)] "permit-1" (List.replicate 32 0) sampleRequester
    (.aware sampleNow) = .ok permit := by
  let votes := [CountedVote.verified ⟨sampleVote, sampleStart, sampleEnd⟩]
  let expiresAt := permitExpiry sampleContext votes
  let record := (permitRecord sampleContext votes "permit-1"
    (samplePrimitives.sha256 (List.replicate 32 0)) expiresAt).withDigest samplePrimitives
  refine ⟨⟨record, record.metadata.recordDigest, expiresAt⟩, buildActionPermit_eq_ok.mpr
    ⟨sampleContext, [⟨sampleVote, sampleStart, sampleEnd⟩], ⟨sampleContext_holds, by decide,
      by decide, rfl, sampleVotes_count rfl (by decide) (by decide)⟩, ?_, rfl, rfl, rfl⟩⟩
  show representable (sampleNow.val + 0) = true
  decide

/-- Half a minute before the end of the calendar, a quorum of valid votes gets no
permit: the latest issue time is past the last date. -/
theorem quorum_refused_at_calendar_end :
    Permissible sampleVerifier (.record (.profile sampleProfile))
      (.record (.request sampleRequest)) [.record (.vote sampleVote)] "permit-1"
      (List.replicate 32 0) sampleRequester (.aware sampleNow) sampleContext
      [⟨sampleVote, sampleStart, sampleEnd⟩] ∧
    ∀ permit, sampleVerifier.buildActionPermit (.record (.profile sampleProfile))
      (.record (.request sampleRequest)) [.record (.vote sampleVote)] "permit-1"
      (List.replicate 32 0) sampleRequester (.aware sampleNow) ≠ .ok permit := by
  refine ⟨⟨sampleContext_holds, by decide, by decide, rfl,
    sampleVotes_count rfl (by decide) (by decide)⟩, ?_⟩
  intro permit h
  obtain ⟨context, counted, hpermissible, hlatest, _⟩ := buildActionPermit_eq_ok.mp h
  rw [HasLatestIssue, sampleContext_holds.unique hpermissible.1] at hlatest
  exact absurd hlatest (by decide)

end LastMinute

end Ecosystem.Approval
