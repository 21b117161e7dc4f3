import Ecosystem.Access.Policy

/-!
# Evaluation of team access

A request is any JSON value; `readRequest` tests its form and reads its fields.
`Matching` says which statements speak about a request, in no order, and `Allowed`
what the answer depends on.
-/

namespace Ecosystem.Access

open Ecosystem.Lib

section Requests

variable {Φ : Type}

/-! ## Requests -/

def fullId (s : String) : Bool := idBody s.toList

def fullDigest (s : String) : Bool :=
  s.toList.length = 64 && s.toList.all fun c => c.isDigit || ('a' ≤ c && c ≤ 'f')

def sameKeys (members : List (String × Json Φ)) (required : List String) : Bool :=
  required.all (· ∈ members.map Prod.fst) && (members.map Prod.fst).all (· ∈ required)

def textOf : Option (Json Φ) → Option String
  | some (.str s) => some s
  | _ => none

/-- The id and the digest of an object with these two fields and a kind. -/
def readTriple (value : Option (Json Φ)) : Option (String × String × String) :=
  match value with
  | some (.obj members) =>
    if !sameKeys members ["kind", "id", "digest"] then none
    else
      match textOf (members.lookup "kind"), textOf (members.lookup "id"),
          textOf (members.lookup "digest") with
      | some kind, some id, some digest =>
        if fullId id && fullDigest digest then some (kind, id, digest) else none
      | _, _, _ => none
  | _ => none

def exactBinding (value : Option (Json Φ)) (kind : String) : Option Reference :=
  match readTriple value with
  | some (k, id, digest) => if k = kind then some ⟨id, digest⟩ else none
  | none => none

def memberOf {β : Type} (ofText : String → Option β) :
    Option (Json Φ) → Except AccessError (Option β)
  | some (.str s) => .ok (ofText s)
  | some (.arr _) => .error .typeError
  | some (.obj _) => .error .typeError
  | _ => .ok none

def readId (value : Option (Json Φ)) : Option String :=
  match textOf value with
  | some id => if fullId id then some id else none
  | none => none

/-- `valid_request` with the fields that it has read; `none` is an invalid request. -/
def readRequest (request : Json Φ) : Except AccessError (Option AccessRequest) :=
  match request with
  | .obj members =>
    if !sameKeys members ["principal", "membership", "action", "actionClass",
        "resource", "projectId", "environmentId", "dataClass"] then .ok none
    else
      match exactBinding (members.lookup "principal") "PrincipalIdentity",
          exactBinding (members.lookup "membership") "MembershipBinding",
          (textOf (members.lookup "action")).bind Action.ofText with
      | some principal, some membership, some action =>
        match memberOf ActionClass.ofText (members.lookup "actionClass") with
        | .error err => .error err
        | .ok none => .ok none
        | .ok (some actionClass) =>
          match readTriple (members.lookup "resource"), readId (members.lookup "projectId"),
              readId (members.lookup "environmentId") with
          | some (kind, id, digest), some projectId, some environmentId =>
            match memberOf DataClass.ofText (members.lookup "dataClass") with
            | .error err => .error err
            | .ok none => .ok none
            | .ok (some dataClass) =>
              .ok (some ⟨principal, membership, action, actionClass, kind, id,
                digest, projectId, environmentId, dataClass⟩)
          | _, _, _ => .ok none
      | _, _, _ => .ok none
  | _ => .ok none

end Requests

/-! ## Decisions -/

structure TeamAccessDecision where
  teamEffect : Effect
  code : String
  policyDigest : String
  requestDigest : String
  actorBindingDigest : String
  matchedStatementDigests : List String := []
  approvalProfileId : Option String := none
  approvalProfileDigest : Option String := none
  narrowingOnly : Bool := true
  effectiveAuthorization : Bool := false
  runtimeAuthorityCreated : Bool := false

/-- What the loop over the statements collects: effect, digest, approval profile. -/
structure StatementMatch where
  effect : Effect
  digest : String
  approvalProfile : Option Reference

/-- The condition under which a statement is collected. -/
def Statement.speaksOf (s : Statement) (req : AccessRequest) (observed : ℤ) : Bool :=
  s.action = req.action && s.actionClass = req.actionClass &&
    (some s.resource.kind = ResourceKind.ofText req.resourceKind &&
      s.resource.id = req.resourceId && s.resource.digest = req.resourceDigest) &&
    s.constraints.projectId = req.projectId &&
    s.constraints.environmentId = req.environmentId &&
    req.dataClass ∈ s.constraints.dataClasses &&
    s.constraints.notBefore ≤ observed && observed < s.constraints.notAfter

def assignedRoleIds (p : TeamAccessPolicy) (req : AccessRequest) : List String :=
  ((p.bindings.filter fun b => b.principal = req.principal &&
    b.membership = req.membership).map (·.roleId)).dedup.insertionSort (· ≤ ·)

def roleStatements (p : TeamAccessPolicy) (roleId : String) : List Statement :=
  ((p.roles.find? fun role => role.id = roleId).map (·.statements)).getD []

def collect (dig : Digests) (p : TeamAccessPolicy) (req : AccessRequest)
    (observed : ℤ) : List StatementMatch :=
  (assignedRoleIds p req).flatMap fun roleId =>
    ((roleStatements p roleId).filter fun s => s.speaksOf req observed).map fun s =>
      ⟨s.effect, dig.statement roleId s, s.approvalProfile⟩

def digestsOf (effect : Effect) (found : List StatementMatch) : List String :=
  ((found.filter (·.effect = effect)).map (·.digest)).insertionSort (· ≤ ·)

def profilesOf (found : List StatementMatch) : List Reference :=
  (found.filter (·.effect = .allow)).filterMap (·.approvalProfile)

/-- `_decision` with the effect deny for a request that was read. -/
def denied (dig : Digests) (p : TeamAccessPolicy) (req : AccessRequest) (code : String)
    (found : List String) : TeamAccessDecision where
  teamEffect := .deny
  code := code
  policyDigest := p.recordDigest
  requestDigest := dig.request req
  actorBindingDigest := dig.actorBinding req.principal req.membership
  matchedStatementDigests := found

def decideFound (dig : Digests) (p : TeamAccessPolicy) (req : AccessRequest)
    (found : List StatementMatch) : TeamAccessDecision :=
  if digestsOf .deny found ≠ [] then
    denied dig p req "ECO_TEAM_ACCESS_EXPLICIT_DENY" (digestsOf .deny found)
  else if digestsOf .allow found ≠ [] then
    -- the set of profiles does not tell two names of one profile apart
    if req.actionClass = .a2 ∧ (profilesOf found).dedup.length ≠ 1 then
      denied dig p req "ECO_TEAM_ACCESS_APPROVAL_AMBIGUOUS" (digestsOf .allow found)
    else
      { teamEffect := .allow
        code := "ECO_TEAM_ACCESS_ALLOW_CANDIDATE"
        policyDigest := p.recordDigest
        requestDigest := dig.request req
        actorBindingDigest := dig.actorBinding req.principal req.membership
        matchedStatementDigests := digestsOf .allow found
        approvalProfileId := (profilesOf found).head?.map (·.id)
        approvalProfileDigest := (profilesOf found).head?.map (·.digest) }
  else denied dig p req "ECO_TEAM_ACCESS_DEFAULT_DENY" []

/-- The part of `evaluate_team_access` behind the test of the request. -/
def decideRequest (dig : Digests) (p : TeamAccessPolicy) (req : AccessRequest)
    (observed : ℤ) : TeamAccessDecision :=
  if req.actionClass ≠ req.action.profile.1 ∨
      ResourceKind.ofText req.resourceKind ≠ some req.action.profile.2 then
    denied dig p req "ECO_TEAM_ACCESS_REQUEST_MISMATCH" []
  else if req.actionClass = .a3 ∨ req.actionClass = .a4 then
    denied dig p req "ECO_TEAM_ACCESS_HIGH_IMPACT_DENIED" []
  else if req.dataClass = .d4 then denied dig p req "ECO_TEAM_ACCESS_D4_DENIED" []
  else if assignedRoleIds p req = [] then
    denied dig p req "ECO_TEAM_ACCESS_ACTOR_UNBOUND" []
  else decideFound dig p req (collect dig p req observed)

/-- `evaluate_team_access`; `now` is none when it is not an aware time. -/
def evaluateTeamAccess {Φ : Type} (dig : Digests) (policy : TeamAccessPolicy)
    (request : Json Φ) (now : Option ℤ) : Except AccessError TeamAccessDecision :=
  match validateTeamAccessPolicy dig policy with
  | .error err => .error err
  | .ok validated =>
    let refuse (code : String) : TeamAccessDecision :=
      { teamEffect := .deny
        code := code
        policyDigest := validated.recordDigest
        requestDigest := dig.invalidRequest
        actorBindingDigest := dig.invalidRequest }
    match now with
    | none => .ok (refuse "ECO_TEAM_ACCESS_TIME_INVALID")
    | some observed =>
      match readRequest request with
      | .error err => .error err
      | .ok none => .ok (refuse "ECO_TEAM_ACCESS_REQUEST_INVALID")
      | .ok (some candidate) => .ok (decideRequest dig validated candidate observed)

/-! ## Which statements speak about a request -/

def Bound (p : TeamAccessPolicy) (req : AccessRequest) (role : Role) : Prop :=
  ∃ b ∈ p.bindings, b.principal = req.principal ∧ b.membership = req.membership ∧
    b.roleId = role.id

def Matching (p : TeamAccessPolicy) (req : AccessRequest) (observed : ℤ)
    (s : Statement) : Prop :=
  ∃ role ∈ p.roles, Bound p req role ∧ s ∈ role.statements ∧
    s.speaksOf req observed = true

/-- What is asked of the request alone. -/
structure Admissible (req : AccessRequest) : Prop where
  actionClass : req.actionClass = req.action.profile.1
  resourceKind : ResourceKind.ofText req.resourceKind = some req.action.profile.2
  atMostA2 : req.actionClass.level ≤ ActionClass.a2.level
  belowD4 : req.dataClass.level < DataClass.d4.level

/-- **What the answer depends on.** -/
structure Allowed (p : TeamAccessPolicy) (req : AccessRequest) (observed : ℤ) :
    Prop where
  admissible : Admissible req
  allowed : ∃ s, Matching p req observed s ∧ s.effect = .allow
  notDenied : ∀ s, Matching p req observed s → s.effect ≠ .deny
  approval : req.actionClass = .a2 → ∃ profile, ∀ s, Matching p req observed s →
    s.effect = .allow → s.approvalProfile = some profile

section Collected

variable {dig : Digests} {p : TeamAccessPolicy} {req : AccessRequest} {observed : ℤ}

theorem mem_assignedRoleIds {id : String} :
    id ∈ assignedRoleIds p req ↔
      ∃ b ∈ p.bindings, b.principal = req.principal ∧ b.membership = req.membership ∧
        b.roleId = id := by
  rw [assignedRoleIds, List.mem_insertionSort, List.mem_dedup, List.mem_map]
  simp only [List.mem_filter, Bool.and_eq_true, decide_eq_true_eq, and_assoc]

theorem roleStatements_of_mem (h : Accepted p) {role : Role} (hrole : role ∈ p.roles) :
    roleStatements p role.id = role.statements := by
  have hfind : (p.roles.find? fun other => other.id = role.id) = some role := by
    have hnodup := h.roles
    revert hnodup hrole
    generalize p.roles = roles
    intro hrole hnodup
    induction roles with
    | nil => cases hrole
    | cons head roles ih =>
      rw [List.map_cons, List.nodup_cons] at hnodup
      rw [List.find?_cons]
      rcases List.mem_cons.mp hrole with rfl | hrole
      · simp
      · have hne : head.id ≠ role.id := by
          intro heq
          exact hnodup.1 (heq ▸ List.mem_map_of_mem hrole)
        simp only [hne, decide_false]
        exact ih hrole hnodup.2
  rw [roleStatements, hfind]
  rfl

theorem mem_collect (h : Accepted p) {m : StatementMatch} :
    m ∈ collect dig p req observed ↔
      ∃ role ∈ p.roles, Bound p req role ∧ ∃ s ∈ role.statements,
        s.speaksOf req observed = true ∧
        m = ⟨s.effect, dig.statement role.id s, s.approvalProfile⟩ := by
  rw [collect, List.mem_flatMap]
  constructor
  · rintro ⟨roleId, hassigned, hm⟩
    obtain ⟨b, hb, hprincipal, hmembership, rfl⟩ := mem_assignedRoleIds.mp hassigned
    obtain ⟨role, hrole, hid⟩ := List.mem_map.mp (h.bound b hb)
    rw [← hid, roleStatements_of_mem h hrole, List.mem_map] at hm
    obtain ⟨s, hs, rfl⟩ := hm
    obtain ⟨hs, hspeaks⟩ := List.mem_filter.mp hs
    exact ⟨role, hrole, ⟨b, hb, hprincipal, hmembership, hid.symm⟩, s, hs, hspeaks, rfl⟩
  · rintro ⟨role, hrole, hbound, s, hs, hspeaks, rfl⟩
    refine ⟨role.id, mem_assignedRoleIds.mpr hbound, List.mem_map.mpr ⟨s, ?_, rfl⟩⟩
    rw [roleStatements_of_mem h hrole]
    exact List.mem_filter.mpr ⟨hs, hspeaks⟩

theorem digestsOf_eq_nil (h : Accepted p) {effect : Effect} :
    digestsOf effect (collect dig p req observed) = [] ↔
      ∀ s, Matching p req observed s → s.effect ≠ effect := by
  rw [digestsOf, ← List.length_eq_zero_iff, List.length_insertionSort,
    List.length_eq_zero_iff, List.map_eq_nil_iff, List.filter_eq_nil_iff]
  constructor
  · rintro hnone s ⟨role, hrole, hbound, hs, hspeaks⟩ heffect
    refine hnone ⟨s.effect, dig.statement role.id s, s.approvalProfile⟩
      ((mem_collect h).mpr ⟨role, hrole, hbound, s, hs, hspeaks, rfl⟩) ?_
    exact decide_eq_true heffect
  · intro hall m hm heffect
    obtain ⟨role, hrole, hbound, s, hs, hspeaks, rfl⟩ := (mem_collect h).mp hm
    exact hall s ⟨role, hrole, hbound, hs, hspeaks⟩ (of_decide_eq_true heffect)

theorem mem_profilesOf (h : Accepted p) {profile : Reference} :
    profile ∈ profilesOf (collect dig p req observed) ↔
      ∃ s, Matching p req observed s ∧ s.effect = .allow ∧
        s.approvalProfile = some profile := by
  rw [profilesOf, List.mem_filterMap]
  constructor
  · rintro ⟨m, hm, hprofile⟩
    obtain ⟨hm, heffect⟩ := List.mem_filter.mp hm
    obtain ⟨role, hrole, hbound, s, hs, hspeaks, rfl⟩ := (mem_collect h).mp hm
    exact ⟨s, ⟨role, hrole, hbound, hs, hspeaks⟩, of_decide_eq_true heffect, hprofile⟩
  · rintro ⟨s, ⟨role, hrole, hbound, hs, hspeaks⟩, heffect, hprofile⟩
    refine ⟨⟨s.effect, dig.statement role.id s, s.approvalProfile⟩,
      List.mem_filter.mpr ⟨?_, decide_eq_true heffect⟩, hprofile⟩
    exact (mem_collect h).mpr ⟨role, hrole, hbound, s, hs, hspeaks, rfl⟩

theorem length_dedup_eq_one {α : Type} [DecidableEq α] {xs : List α} :
    xs.dedup.length = 1 ↔ ∃ a ∈ xs, ∀ x ∈ xs, x = a := by
  rw [List.length_eq_one_iff]
  constructor
  · rintro ⟨a, ha⟩
    refine ⟨a, List.mem_dedup.mp (by rw [ha]; exact List.mem_singleton_self a), ?_⟩
    intro x hx
    have hx := List.mem_dedup.mpr hx
    rw [ha] at hx
    exact List.mem_singleton.mp hx
  · rintro ⟨a, ha, hall⟩
    have hmem : ∀ x ∈ xs.dedup, x = a := fun x hx => hall x (List.mem_dedup.mp hx)
    have hnodup := xs.nodup_dedup
    have hin := List.mem_dedup.mpr ha
    generalize xs.dedup = ys at hmem hnodup hin
    rcases ys with _ | ⟨y, _ | ⟨z, ys⟩⟩
    · cases hin
    · exact ⟨y, rfl⟩
    · have hy := hmem y (by simp)
      have hz := hmem z (by simp)
      rw [hy, hz] at hnodup
      simp at hnodup

theorem Matching.class_eq {s : Statement} (h : Matching p req observed s) :
    s.actionClass = req.actionClass := by
  obtain ⟨-, -, -, -, hspeaks⟩ := h
  simp only [Statement.speaksOf, Bool.and_eq_true, decide_eq_true_eq] at hspeaks
  exact hspeaks.1.1.1.1.1.1.2

theorem Matching.profile (h : Accepted p) {s : Statement}
    (hs : Matching p req observed s) (hallow : s.effect = .allow)
    (hclass : req.actionClass = .a2) : ∃ profile, s.approvalProfile = some profile := by
  have heq := hs.class_eq
  obtain ⟨role, hrole, -, hmem, -⟩ := hs
  have hprofile := (h.allow hrole hmem hallow).mp (heq.trans hclass)
  exact Option.ne_none_iff_exists'.mp hprofile

theorem one_profile_iff (h : Accepted p) (hclass : req.actionClass = .a2)
    (hallowed : ∃ s, Matching p req observed s ∧ s.effect = .allow) :
    (profilesOf (collect dig p req observed)).dedup.length = 1 ↔
      ∃ profile, ∀ s, Matching p req observed s → s.effect = .allow →
        s.approvalProfile = some profile := by
  rw [length_dedup_eq_one]
  constructor
  · rintro ⟨profile, -, hall⟩
    refine ⟨profile, fun s hs heffect => ?_⟩
    obtain ⟨other, hother⟩ := hs.profile h heffect hclass
    rw [hother, hall other ((mem_profilesOf h).mpr ⟨s, hs, heffect, hother⟩)]
  · rintro ⟨profile, hall⟩
    obtain ⟨s, hs, heffect⟩ := hallowed
    refine ⟨profile, (mem_profilesOf h).mpr ⟨s, hs, heffect, hall s hs heffect⟩, ?_⟩
    intro other hother
    obtain ⟨s', hs', heffect', hother'⟩ := (mem_profilesOf h).mp hother
    rw [hall s' hs' heffect'] at hother'
    exact (Option.some.inj hother').symm

theorem digestsOf_ne_nil (h : Accepted p) {effect : Effect} :
    digestsOf effect (collect dig p req observed) ≠ [] ↔
      ∃ s, Matching p req observed s ∧ s.effect = effect := by
  rw [ne_eq, digestsOf_eq_nil h]
  push Not
  rfl

/-! ## The answer -/

theorem decideRequest_not_admissible (h : ¬ Admissible req) :
    (decideRequest dig p req observed).teamEffect = .deny := by
  unfold decideRequest
  split
  · rfl
  next hprofile =>
  split
  · rfl
  next himpact =>
  split
  · rfl
  next hdata =>
  push Not at hprofile himpact
  refine absurd ⟨hprofile.1, hprofile.2, ?_, ?_⟩ h
  · cases hclass : req.actionClass <;> simp_all [ActionClass.level]
  · cases hclass : req.dataClass <;> simp_all [DataClass.level]

theorem decideRequest_of_matching (hreq : Admissible req)
    (hsome : ∃ s, Matching p req observed s) :
    decideRequest dig p req observed =
      decideFound dig p req (collect dig p req observed) := by
  obtain ⟨hclass, hkind, hA2, hD4⟩ := hreq
  have hassigned : assignedRoleIds p req ≠ [] := by
    obtain ⟨s, role, hrole, hbound, -, -⟩ := hsome
    exact List.ne_nil_of_mem (mem_assignedRoleIds.mpr hbound)
  rw [decideRequest, if_neg (by rw [not_or, not_not, not_not]; exact ⟨hclass, hkind⟩),
    if_neg, if_neg, if_neg hassigned]
  · intro h
    rw [h] at hD4
    exact absurd hD4 (by decide)
  · rintro (h | h)
    · rw [h] at hA2
      exact absurd hA2 (by decide)
    · rw [h] at hA2
      exact absurd hA2 (by decide)

theorem decideRequest_denied (h : Accepted p) (hreq : Admissible req)
    (hdeny : ∃ s, Matching p req observed s ∧ s.effect = .deny) :
    (decideRequest dig p req observed).teamEffect = .deny ∧
      (decideRequest dig p req observed).code = "ECO_TEAM_ACCESS_EXPLICIT_DENY" := by
  obtain ⟨s, hs, heffect⟩ := hdeny
  rw [decideRequest_of_matching hreq ⟨s, hs⟩, decideFound,
    if_pos ((digestsOf_ne_nil h).mpr ⟨s, hs, heffect⟩)]
  exact ⟨rfl, rfl⟩

theorem decideRequest_allowing (h : Accepted p) (hreq : Admissible req)
    (hdeny : ∀ s, Matching p req observed s → s.effect ≠ .deny)
    (hallow : ∃ s, Matching p req observed s ∧ s.effect = .allow) :
    ((req.actionClass = .a2 → ∃ profile, ∀ s, Matching p req observed s →
        s.effect = .allow → s.approvalProfile = some profile) →
      (decideRequest dig p req observed).teamEffect = .allow ∧
        (decideRequest dig p req observed).approvalProfileId =
          (profilesOf (collect dig p req observed)).head?.map (·.id) ∧
        (decideRequest dig p req observed).approvalProfileDigest =
          (profilesOf (collect dig p req observed)).head?.map (·.digest)) ∧
    ((¬ (req.actionClass = .a2 → ∃ profile, ∀ s, Matching p req observed s →
        s.effect = .allow → s.approvalProfile = some profile)) →
      (decideRequest dig p req observed).teamEffect = .deny ∧
        (decideRequest dig p req observed).code =
          "ECO_TEAM_ACCESS_APPROVAL_AMBIGUOUS") := by
  have hsome : ∃ s, Matching p req observed s := hallow.imp fun _ hs => hs.1
  rw [decideRequest_of_matching hreq hsome, decideFound,
    if_neg (not_not.mpr ((digestsOf_eq_nil h).mpr hdeny)),
    if_pos ((digestsOf_ne_nil h).mpr hallow)]
  constructor
  · intro hprofile
    rw [if_neg]
    · exact ⟨rfl, rfl, rfl⟩
    · rintro ⟨hclass, hlength⟩
      exact hlength ((one_profile_iff h hclass hallow).mpr (hprofile hclass))
  · intro hprofile
    push Not at hprofile
    obtain ⟨hclass, hnone⟩ := hprofile
    rw [if_pos]
    · exact ⟨rfl, rfl⟩
    · refine ⟨hclass, fun hlength => ?_⟩
      obtain ⟨profile, hall⟩ := (one_profile_iff h hclass hallow).mp hlength
      obtain ⟨s, hs, heffect, hne⟩ := hnone profile
      exact hne (hall s hs heffect)

theorem decideRequest_not_allowing (h : Accepted p)
    (hallow : ¬ ∃ s, Matching p req observed s ∧ s.effect = .allow) :
    (decideRequest dig p req observed).teamEffect = .deny := by
  unfold decideRequest decideFound
  split
  · rfl
  split
  · rfl
  split
  · rfl
  split
  · rfl
  split
  · rfl
  rw [if_neg fun hne => hallow ((digestsOf_ne_nil h).mp hne)]
  rfl

/-- **The decision is exact.** -/
theorem decideRequest_allow_iff (h : Accepted p) :
    (decideRequest dig p req observed).teamEffect = .allow ↔ Allowed p req observed := by
  by_cases hreq : Admissible req
  · by_cases hallow : ∃ s, Matching p req observed s ∧ s.effect = .allow
    · by_cases hdeny : ∃ s, Matching p req observed s ∧ s.effect = .deny
      · rw [(decideRequest_denied h hreq hdeny).1]
        refine iff_of_false (by decide) fun hallowed => ?_
        obtain ⟨s, hs, heffect⟩ := hdeny
        exact hallowed.notDenied s hs heffect
      · push Not at hdeny
        obtain ⟨hyes, hno⟩ := @decideRequest_allowing dig p req observed h hreq hdeny hallow
        by_cases hprofile : req.actionClass = .a2 → ∃ profile, ∀ s,
            Matching p req observed s → s.effect = .allow →
              s.approvalProfile = some profile
        · exact iff_of_true (hyes hprofile).1 ⟨hreq, hallow, hdeny, hprofile⟩
        · rw [(hno hprofile).1]
          exact iff_of_false (by decide) fun hallowed => hprofile hallowed.approval
    · rw [decideRequest_not_allowing h hallow]
      exact iff_of_false (by decide) fun hallowed => hallow hallowed.allowed
  · rw [decideRequest_not_admissible hreq]
    exact iff_of_false (by decide) fun hallowed => hreq hallowed.admissible

theorem decideRequest_profile (h : Accepted p) (hallowed : Allowed p req observed)
    {profile : Reference} (hprofile : ∃ s, Matching p req observed s ∧ s.effect = .allow ∧
      s.approvalProfile = some profile) (hclass : req.actionClass = .a2) :
    (decideRequest dig p req observed).approvalProfileId = some profile.id ∧
      (decideRequest dig p req observed).approvalProfileDigest = some profile.digest := by
  obtain ⟨hyes, -⟩ := @decideRequest_allowing dig p req observed h hallowed.admissible
    hallowed.notDenied hallowed.allowed
  obtain ⟨-, hid, hdigest⟩ := hyes hallowed.approval
  obtain ⟨only, honly⟩ := hallowed.approval hclass
  have hall : ∀ x ∈ profilesOf (collect dig p req observed), x = only := by
    intro x hx
    obtain ⟨s, hs, heffect, hsome⟩ := (mem_profilesOf h).mp hx
    rw [honly s hs heffect] at hsome
    exact (Option.some.inj hsome).symm
  have hmem : _ ∈ profilesOf (collect dig p req observed) :=
    (mem_profilesOf h).mpr hprofile
  rw [hid, hdigest]
  generalize profilesOf (collect dig p req observed) = profiles at hall hmem
  rcases profiles with _ | ⟨x, profiles⟩
  · cases hmem
  · rw [List.head?_cons, hall x (List.mem_cons_self ..), hall profile hmem]
    exact ⟨rfl, rfl⟩

end Collected

/-! ## Evaluation -/

section Evaluation

variable {Φ : Type} {dig : Digests} {p p' : TeamAccessPolicy} {request : Json Φ}
  {now : Option ℤ} {d d' : TeamAccessDecision}

theorem evaluate_of_allow (h : evaluateTeamAccess dig p request now = .ok d)
    (hallow : d.teamEffect = .allow) :
    Accepted p ∧ ∃ observed req, now = some observed ∧
      readRequest request = .ok (some req) ∧ d = decideRequest dig p req observed := by
  unfold evaluateTeamAccess at h
  split at h
  · cases h
  next validated hvalid =>
  obtain ⟨rfl, haccepted⟩ := accepted_of_validate hvalid
  dsimp only at h
  split at h
  · cases h
    cases hallow
  · next observed =>
      split at h
      · cases h
      · cases h
        cases hallow
      · next req hread =>
          cases h
          exact ⟨haccepted, observed, req, rfl, hread, rfl⟩

theorem evaluate_eq (hvalid : validateTeamAccessPolicy dig p = .ok p) {observed : ℤ}
    {req : AccessRequest} (hread : readRequest request = .ok (some req)) :
    evaluateTeamAccess dig p request (some observed) =
      .ok (decideRequest dig p req observed) := by
  unfold evaluateTeamAccess
  simp only [hvalid, hread]

theorem valid_of_evaluate (h : evaluateTeamAccess dig p request now = .ok d) :
    validateTeamAccessPolicy dig p = .ok p := by
  unfold evaluateTeamAccess at h
  split at h
  · cases h
  next validated hvalid =>
  obtain ⟨rfl, -⟩ := accepted_of_validate hvalid
  exact hvalid

/-! ## Policies that differ in one entry -/

def AddsDeny (p p' : TeamAccessPolicy) : Prop :=
  ∃ (before : List Role) (role : Role) (after : List Role) (front : List Statement)
      (s : Statement) (back : List Statement),
    p.roles = before ++ { role with statements := front ++ back } :: after ∧
    p'.roles = before ++ { role with statements := front ++ s :: back } :: after ∧
    s.effect = .deny ∧ p'.bindings = p.bindings

/-- A binding is removed; the rest of the record may change. -/
def RemovesBinding (p p' : TeamAccessPolicy) : Prop :=
  ∃ before b after, p.bindings = before ++ b :: after ∧ p'.bindings = before ++ after ∧
    p'.roles = p.roles

theorem AddsDeny.matching (h : AddsDeny p p') {req : AccessRequest} {observed : ℤ}
    {s : Statement} :
    (Matching p req observed s → Matching p' req observed s) ∧
      (Matching p' req observed s → s.effect = .allow → Matching p req observed s) := by
  obtain ⟨before, role, after, front, added, back, hroles, hroles', hdeny, hbindings⟩ := h
  have hbound : ∀ r : Role, Bound p' req r ↔ Bound p req r := by
    intro r
    rw [Bound, Bound, hbindings]
  constructor
  · rintro ⟨r, hr, hb, hs, hspeaks⟩
    rw [hroles] at hr
    rcases List.mem_append.mp hr with hr | hr
    · have hmem : r ∈ p'.roles := by
        rw [hroles']
        exact List.mem_append_left _ hr
      exact ⟨r, hmem, (hbound r).mpr hb, hs, hspeaks⟩
    · rcases List.mem_cons.mp hr with rfl | hr
      · refine ⟨{ role with statements := front ++ added :: back }, ?_, ?_, ?_, hspeaks⟩
        · rw [hroles']
          exact List.mem_append_right _ (List.mem_cons_self ..)
        · exact (hbound _).mpr hb
        · rcases List.mem_append.mp hs with hs | hs
          · exact List.mem_append_left _ hs
          · exact List.mem_append_right _ (List.mem_cons_of_mem _ hs)
      · have hmem : r ∈ p'.roles := by
          rw [hroles']
          exact List.mem_append_right _ (List.mem_cons_of_mem _ hr)
        exact ⟨r, hmem, (hbound r).mpr hb, hs, hspeaks⟩
  · rintro ⟨r, hr, hb, hs, hspeaks⟩ hallow
    rw [hroles'] at hr
    rcases List.mem_append.mp hr with hr | hr
    · have hmem : r ∈ p.roles := by
        rw [hroles]
        exact List.mem_append_left _ hr
      exact ⟨r, hmem, (hbound r).mp hb, hs, hspeaks⟩
    · rcases List.mem_cons.mp hr with rfl | hr
      · refine ⟨{ role with statements := front ++ back }, ?_, ?_, ?_, hspeaks⟩
        · rw [hroles]
          exact List.mem_append_right _ (List.mem_cons_self ..)
        · exact (hbound _).mp hb
        · rcases List.mem_append.mp hs with hs | hs
          · exact List.mem_append_left _ hs
          · rcases List.mem_cons.mp hs with rfl | hs
            · rw [hdeny] at hallow
              cases hallow
            · exact List.mem_append_right _ hs
      · have hmem : r ∈ p.roles := by
          rw [hroles]
          exact List.mem_append_right _ (List.mem_cons_of_mem _ hr)
        exact ⟨r, hmem, (hbound r).mp hb, hs, hspeaks⟩

theorem AddsDeny.allowed (h : AddsDeny p p') {req : AccessRequest} {observed : ℤ}
    (hallowed : Allowed p' req observed) : Allowed p req observed where
  admissible := hallowed.admissible
  allowed := by
    obtain ⟨s, hs, heffect⟩ := hallowed.allowed
    exact ⟨s, h.matching.2 hs heffect, heffect⟩
  notDenied := fun s hs => hallowed.notDenied s (h.matching.1 hs)
  approval := by
    intro hclass
    obtain ⟨profile, hall⟩ := hallowed.approval hclass
    exact ⟨profile, fun s hs => hall s (h.matching.1 hs)⟩

theorem RemovesBinding.matching (h : RemovesBinding p p') {req : AccessRequest}
    {observed : ℤ} {s : Statement} (hs : Matching p' req observed s) :
    Matching p req observed s := by
  obtain ⟨before, removed, after, hbindings, hbindings', hroles⟩ := h
  obtain ⟨role, hrole, ⟨b, hb, hbound⟩, hs, hspeaks⟩ := hs
  rw [hroles] at hrole
  refine ⟨role, hrole, ⟨b, ?_, hbound⟩, hs, hspeaks⟩
  rw [hbindings'] at hb
  rw [hbindings]
  rcases List.mem_append.mp hb with hb | hb
  · exact List.mem_append_left _ hb
  · exact List.mem_append_right _ (List.mem_cons_of_mem _ hb)

/-! ## The evaluation as a whole -/

theorem evaluate_allow_iff (hvalid : validateTeamAccessPolicy dig p = .ok p) :
    (∃ d, evaluateTeamAccess dig p request now = .ok d ∧ d.teamEffect = .allow) ↔
      ∃ observed req, now = some observed ∧ readRequest request = .ok (some req) ∧
        Allowed p req observed := by
  constructor
  · rintro ⟨d, hd, hallow⟩
    obtain ⟨haccepted, observed, req, hnow, hread, rfl⟩ := evaluate_of_allow hd hallow
    exact ⟨observed, req, hnow, hread, (decideRequest_allow_iff haccepted).mp hallow⟩
  · rintro ⟨observed, req, rfl, hread, hallowed⟩
    exact ⟨_, evaluate_eq hvalid hread,
      (decideRequest_allow_iff (accepted_of_validate hvalid).2).mpr hallowed⟩

theorem deny_of_addsDeny (h : AddsDeny p p')
    (hd : evaluateTeamAccess dig p request now = .ok d)
    (hd' : evaluateTeamAccess dig p' request now = .ok d')
    (hdeny : d.teamEffect = .deny) : d'.teamEffect = .deny := by
  cases heffect : d'.teamEffect with
  | deny => rfl
  | allow =>
    obtain ⟨haccepted, observed, req, rfl, hread, rfl⟩ := evaluate_of_allow hd' heffect
    have hvalid := valid_of_evaluate hd
    rw [evaluate_eq hvalid hread] at hd
    cases hd
    have hallowed := h.allowed ((decideRequest_allow_iff haccepted).mp heffect)
    rw [(decideRequest_allow_iff (accepted_of_validate hvalid).2).mpr hallowed] at hdeny
    cases hdeny

/-- A binding that is removed can only take away what was denied for its sake: a deny
statement of its role, or its share in the ambiguity of the approval. -/
theorem deny_of_removesBinding (h : RemovesBinding p p')
    (hd : evaluateTeamAccess dig p request now = .ok d)
    (hd' : evaluateTeamAccess dig p' request now = .ok d')
    (hdeny : d.teamEffect = .deny) (hambiguous : d.code ≠ "ECO_TEAM_ACCESS_APPROVAL_AMBIGUOUS")
    (hexplicit : d.code ≠ "ECO_TEAM_ACCESS_EXPLICIT_DENY") : d'.teamEffect = .deny := by
  cases heffect : d'.teamEffect with
  | deny => rfl
  | allow =>
    obtain ⟨haccepted', observed, req, rfl, hread, rfl⟩ := evaluate_of_allow hd' heffect
    have hvalid := valid_of_evaluate hd
    have haccepted := (accepted_of_validate hvalid).2
    rw [evaluate_eq hvalid hread] at hd
    cases hd
    have hallowed := (decideRequest_allow_iff haccepted').mp heffect
    have hallow : ∃ s, Matching p req observed s ∧ s.effect = .allow := by
      obtain ⟨s, hs, hs'⟩ := hallowed.allowed
      exact ⟨s, h.matching hs, hs'⟩
    by_cases hdenied : ∃ s, Matching p req observed s ∧ s.effect = .deny
    · exact absurd (decideRequest_denied haccepted hallowed.admissible hdenied).2
        hexplicit
    · push Not at hdenied
      obtain ⟨hyes, hno⟩ := @decideRequest_allowing dig p req observed haccepted
        hallowed.admissible hdenied hallow
      by_cases hprofile : req.actionClass = .a2 → ∃ profile, ∀ s,
          Matching p req observed s → s.effect = .allow →
            s.approvalProfile = some profile
      · rw [(hyes hprofile).1] at hdeny
        cases hdeny
      · exact absurd (hno hprofile).2 hambiguous

variable (Φ)

/-- **Team access evaluation is exact with deny override.**  Adding a deny statement
turns no denial into an allow, removing a binding only an explicit or an ambiguous one,
and nothing of class A3 or A4 or on D4 is ever allowed. -/
theorem team_access_exact (dig : Digests) :
    (∀ p (request : Json Φ) now, validateTeamAccessPolicy dig p = .ok p →
      ((∃ d, evaluateTeamAccess dig p request now = .ok d ∧ d.teamEffect = .allow) ↔
        ∃ observed req, now = some observed ∧ readRequest request = .ok (some req) ∧
          Allowed p req observed)) ∧ (∀ p (request : Json Φ) observed req d s profile,
      evaluateTeamAccess dig p request (some observed) = .ok d →
      d.teamEffect = .allow → readRequest request = .ok (some req) →
      req.actionClass = .a2 → Matching p req observed s → s.effect = .allow →
      s.approvalProfile = some profile → d.approvalProfileId = some profile.id ∧
        d.approvalProfileDigest = some profile.digest) ∧
    (∀ p p' (request : Json Φ) now d d', AddsDeny p p' →
      evaluateTeamAccess dig p request now = .ok d →
      evaluateTeamAccess dig p' request now = .ok d' →
      d.teamEffect = .deny → d'.teamEffect = .deny) ∧
    (∀ p p' (request : Json Φ) now d d', RemovesBinding p p' →
      evaluateTeamAccess dig p request now = .ok d →
      evaluateTeamAccess dig p' request now = .ok d' →
      d.teamEffect = .deny → d.code ≠ "ECO_TEAM_ACCESS_APPROVAL_AMBIGUOUS" →
      d.code ≠ "ECO_TEAM_ACCESS_EXPLICIT_DENY" → d'.teamEffect = .deny) ∧
    (∀ p (request : Json Φ) now d, evaluateTeamAccess dig p request now = .ok d →
      d.teamEffect = .allow → ∃ req, readRequest request = .ok (some req) ∧
        req.actionClass.level ≤ ActionClass.a2.level ∧
        req.dataClass.level < DataClass.d4.level) := by
  refine ⟨fun p request now => evaluate_allow_iff, ?_, fun p p' request now d d' =>
    deny_of_addsDeny, fun p p' request now d d' => deny_of_removesBinding, ?_⟩
  · intro p request observed req d s profile hd hallow hread hclass hs heffect hprofile
    obtain ⟨haccepted, observed', req', hnow, hread', rfl⟩ := evaluate_of_allow hd hallow
    cases hnow
    rw [hread] at hread'
    cases hread'
    exact decideRequest_profile haccepted ((decideRequest_allow_iff haccepted).mp hallow)
      ⟨s, hs, heffect, hprofile⟩ hclass
  · intro p request now d hd hallow
    obtain ⟨haccepted, observed, req, -, hread, rfl⟩ := evaluate_of_allow hd hallow
    have hallowed := (decideRequest_allow_iff haccepted).mp hallow
    exact ⟨req, hread, hallowed.admissible.atMostA2, hallowed.admissible.belowD4⟩

end Evaluation

/-! ## A denying role is unbound -/

def sampleDigest : String := String.ofList (List.replicate 64 'a')

def sampleDigests : Digests where
  policy := fun _ => sampleDigest
  bindingId := fun _ _ roleId => roleId
  request := fun _ => ""
  actorBinding := fun _ _ => ""
  statement := fun roleId _ => roleId
  invalidRequest := ""

def sampleActor : Reference := ⟨"actor", sampleDigest⟩

def sampleStatement (effect : Effect) (profile : Option Reference) : Statement where
  id := "s"
  effect := effect
  action := .codeExecute
  actionClass := .a2
  resource := ⟨.project, "r", sampleDigest⟩
  constraints := ⟨"p", "e", [.d0], 0, 10⟩
  approvalProfile := profile

def sampleBinding (roleId : String) : ActorBinding :=
  ⟨"binding:" ++ roleId, sampleActor, sampleActor, roleId⟩

/-- One role allows with an approval and another one denies. -/
def samplePolicy (roleIds : List String) : TeamAccessPolicy where
  id := "policy"
  revision := 1
  createdAt := 0
  recordDigest := sampleDigest
  roles := [⟨"a", [sampleStatement .allow (some ⟨"approval", sampleDigest⟩)]⟩,
    ⟨"b", [sampleStatement .deny none]⟩]
  bindings := roleIds.map sampleBinding

def sampleReference (kind id : String) : Json Unit :=
  .obj [("digest", .str sampleDigest), ("id", .str id), ("kind", .str kind)]

def sampleRequest : Json Unit :=
  .obj [("action", .str "code.execute"), ("actionClass", .str "A2"),
    ("dataClass", .str "D0"), ("environmentId", .str "e"),
    ("membership", sampleReference "MembershipBinding" "actor"),
    ("principal", sampleReference "PrincipalIdentity" "actor"), ("projectId", .str "p"),
    ("resource", sampleReference "project" "r")]

/-- **Removing a binding can turn an explicit denial into an allow**: the binding is
that of the role that denies. -/
theorem unbound_denial_allows :
    RemovesBinding (samplePolicy ["a", "b"]) (samplePolicy ["a"]) ∧
      (evaluateTeamAccess sampleDigests (samplePolicy ["a", "b"]) sampleRequest
          (some 5)).map (fun d => (d.teamEffect, d.code)) =
        .ok (.deny, "ECO_TEAM_ACCESS_EXPLICIT_DENY") ∧
      (evaluateTeamAccess sampleDigests (samplePolicy ["a"]) sampleRequest
          (some 5)).map (fun d => (d.teamEffect, d.code)) =
        .ok (.allow, "ECO_TEAM_ACCESS_ALLOW_CANDIDATE") := by
  refine ⟨⟨[sampleBinding "a"], sampleBinding "b", [], rfl, rfl, rfl⟩, ?_, ?_⟩
  · decide +kernel
  · decide +kernel

def sampleAccess : AccessRequest :=
  ⟨sampleActor, sampleActor, .codeExecute, .a2, "project", "r", sampleDigest, "p", "e", .d0⟩

theorem team_access_exact_code_execution :
    Allowed (samplePolicy ["a"]) sampleAccess 5 ∧
      ∃ d, evaluateTeamAccess sampleDigests (samplePolicy ["a"]) sampleRequest (some 5) =
        .ok d ∧ d.approvalProfileId = some "approval" := by
  have hvalid : validateTeamAccessPolicy sampleDigests (samplePolicy ["a"]) =
      .ok (samplePolicy ["a"]) := by
    rfl
  have hread : readRequest sampleRequest = .ok (some sampleAccess) := by rfl
  obtain ⟨hexact, hprofile, -⟩ := team_access_exact Unit sampleDigests
  have hallow : (decideRequest sampleDigests (samplePolicy ["a"]) sampleAccess
      5).teamEffect = .allow := by
    rfl
  have heval := @evaluate_eq Unit sampleDigests (samplePolicy ["a"]) sampleRequest hvalid 5
    sampleAccess hread
  obtain ⟨observed, req, hnow, hread', hallowed⟩ :=
    (hexact (samplePolicy ["a"]) sampleRequest (some 5) hvalid).mp ⟨_, heval, hallow⟩
  cases hnow
  rw [hread] at hread'
  cases hread'
  refine ⟨hallowed, _, heval, ?_⟩
  have hs : Matching (samplePolicy ["a"]) sampleAccess 5
      (sampleStatement .allow (some ⟨"approval", sampleDigest⟩)) := by
    refine ⟨⟨"a", [sampleStatement .allow (some ⟨"approval", sampleDigest⟩)]⟩, ?_,
      ⟨sampleBinding "a", ?_, rfl, rfl, rfl⟩, ?_, by rfl⟩
    · simp [samplePolicy]
    · simp [samplePolicy]
    · simp
  exact (hprofile _ _ _ _ _ _ _ heval hallow hread rfl hs rfl rfl).1

end Ecosystem.Access
