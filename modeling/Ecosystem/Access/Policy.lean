import Ecosystem.Lib.Json
import Ecosystem.Teams.Contracts

/-!
# Team access policies

The policy of `eco_runtime/team_access.py` and `team_access_contract_errors`, on the
structured value of the JSON; `schemaOk` is what the schema asks of its fields.
Instants are microseconds; a digest is a parameter, a function of its record.
-/

namespace Ecosystem.Access

open Ecosystem.Teams (patternBody matchesDigest sortedUnique errorIf)

/-! ## Enumerations -/

inductive ActionClass
  | a0 | a1 | a2 | a3 | a4
deriving DecidableEq

inductive DataClass
  | d0 | d1 | d2 | d3 | d4
deriving DecidableEq

inductive Effect
  | allow | deny
deriving DecidableEq

inductive ResourceKind
  | identityRecord | policyRecord | deployment | workflow | repositoryEntry | project
  | externalService | productionTarget
deriving DecidableEq

inductive Action
  | identityInspect | policyInspect | modelInvoke | runPlan | repositoryRead
  | runActivate | evaluationRun | repositoryWrite | codeExecute | externalWrite
  | productionChange
deriving DecidableEq

def ActionClass.level : ActionClass → ℕ
  | .a0 => 0
  | .a1 => 1
  | .a2 => 2
  | .a3 => 3
  | .a4 => 4

def DataClass.level : DataClass → ℕ
  | .d0 => 0
  | .d1 => 1
  | .d2 => 2
  | .d3 => 3
  | .d4 => 4

def ActionClass.ofText : String → Option ActionClass
  | "A0" => some .a0
  | "A1" => some .a1
  | "A2" => some .a2
  | "A3" => some .a3
  | "A4" => some .a4
  | _ => none

def DataClass.ofText : String → Option DataClass
  | "D0" => some .d0
  | "D1" => some .d1
  | "D2" => some .d2
  | "D3" => some .d3
  | "D4" => some .d4
  | _ => none

def Action.ofText : String → Option Action
  | "identity.inspect" => some .identityInspect
  | "policy.inspect" => some .policyInspect
  | "model.invoke" => some .modelInvoke
  | "run.plan" => some .runPlan
  | "repository.read" => some .repositoryRead
  | "run.activate" => some .runActivate
  | "evaluation.run" => some .evaluationRun
  | "repository.write" => some .repositoryWrite
  | "code.execute" => some .codeExecute
  | "external.write" => some .externalWrite
  | "production.change" => some .productionChange
  | _ => none

def ResourceKind.ofText : String → Option ResourceKind
  | "identity-record" => some .identityRecord
  | "policy-record" => some .policyRecord
  | "deployment" => some .deployment
  | "workflow" => some .workflow
  | "repository-entry" => some .repositoryEntry
  | "project" => some .project
  | "external-service" => some .externalService
  | "production-target" => some .productionTarget
  | _ => none

/-- `ACTION_PROFILE`: the class of an action and the kind of its resource. -/
def Action.profile : Action → ActionClass × ResourceKind
  | .identityInspect => (.a0, .identityRecord)
  | .policyInspect => (.a0, .policyRecord)
  | .modelInvoke => (.a0, .deployment)
  | .runPlan => (.a0, .workflow)
  | .repositoryRead => (.a1, .repositoryEntry)
  | .runActivate => (.a1, .workflow)
  | .evaluationRun => (.a1, .workflow)
  | .repositoryWrite => (.a2, .repositoryEntry)
  | .codeExecute => (.a2, .project)
  | .externalWrite => (.a3, .externalService)
  | .productionChange => (.a4, .productionTarget)

/-! ## Records -/

/-- A binding whose kind is a constant: a principal, a membership or an approval
profile. -/
structure Reference where
  id : String
  digest : String
deriving DecidableEq

structure ResourceBinding where
  kind : ResourceKind
  id : String
  digest : String

structure Constraints where
  projectId : String
  environmentId : String
  dataClasses : List DataClass
  notBefore : ℤ
  notAfter : ℤ

structure Statement where
  id : String
  effect : Effect
  action : Action
  actionClass : ActionClass
  resource : ResourceBinding
  constraints : Constraints
  approvalProfile : Option Reference

structure Role where
  id : String
  statements : List Statement

structure ActorBinding where
  id : String
  principal : Reference
  membership : Reference
  roleId : String

structure TeamAccessPolicy where
  id : String
  revision : ℕ
  createdAt : ℤ
  recordDigest : String
  roles : List Role
  bindings : List ActorBinding

/-- A request whose fields have been checked; the kind of its resource may be any
text. -/
structure AccessRequest where
  principal : Reference
  membership : Reference
  action : Action
  actionClass : ActionClass
  resourceKind : String
  resourceId : String
  resourceDigest : String
  projectId : String
  environmentId : String
  dataClass : DataClass

/-- `semantic_digest` of the records that are digested. -/
structure Digests where
  /-- of a policy, whatever its own digest is -/
  policy : TeamAccessPolicy → String
  bindingId : Reference → Reference → String → String
  request : AccessRequest → String
  actorBinding : Reference → Reference → String
  statement : String → Statement → String
  invalidRequest : String

def teamAccessPolicyDigest (dig : Digests) (policy : TeamAccessPolicy) : String :=
  dig.policy { policy with recordDigest := "" }

def teamAccessBindingId (dig : Digests) (principal membership : Reference)
    (roleId : String) : String :=
  "binding:" ++ dig.bindingId principal membership roleId

/-! ## The schema -/

/-- `[a-z0-9][a-z0-9._:@-]{0,127}` -/
def idBody : List Char → Bool
  | [] => false
  | c :: cs =>
    (c.isLower || c.isDigit) && cs.length ≤ 127 &&
      cs.all fun c => c.isLower || c.isDigit || c ∈ ['.', '_', ':', '@', '-']

/-- The schema pattern `id`. -/
def matchesId (s : String) : Bool := idBody (patternBody s)

def Reference.schemaOk (r : Reference) : Bool :=
  matchesId r.id && matchesDigest r.digest

def Statement.schemaOk (s : Statement) : Bool :=
  matchesId s.id && matchesId s.resource.id && matchesDigest s.resource.digest &&
    matchesId s.constraints.projectId && matchesId s.constraints.environmentId &&
    1 ≤ s.constraints.dataClasses.length && s.constraints.dataClasses.length ≤ 5 &&
    s.constraints.dataClasses.Nodup && s.approvalProfile.all Reference.schemaOk

def Role.schemaOk (r : Role) : Bool :=
  matchesId r.id && 1 ≤ r.statements.length && r.statements.length ≤ 256 &&
    r.statements.all Statement.schemaOk

def ActorBinding.schemaOk (b : ActorBinding) : Bool :=
  matchesId b.id && b.principal.schemaOk && b.membership.schemaOk && matchesId b.roleId

def TeamAccessPolicy.schemaOk (p : TeamAccessPolicy) : Bool :=
  matchesId p.id && 1 ≤ p.revision && p.revision ≤ 2147483647 &&
    matchesDigest p.recordDigest &&
    1 ≤ p.roles.length && p.roles.length ≤ 256 && p.roles.all Role.schemaOk &&
    1 ≤ p.bindings.length && p.bindings.length ≤ 4096 &&
    p.bindings.all ActorBinding.schemaOk

/-! ## Semantic errors -/

inductive AccessError
  | schema
  | contract (errors : List String)
  /-- a value that has no hash is looked up in a set -/
  | typeError
deriving DecidableEq

def Statement.invalid (created : ℤ) (s : Statement) : Bool :=
  s.actionClass ≠ s.action.profile.1 ||
    s.resource.kind ≠ s.action.profile.2 ||
    !(s.constraints.notBefore < s.constraints.notAfter) ||
    created ≥ s.constraints.notAfter ||
    !decide (s.constraints.dataClasses.Pairwise fun a b => a.level ≤ b.level) ||
    (s.effect = .allow && s.actionClass = .a2 && s.approvalProfile = none) ||
    ((s.effect ≠ .allow || s.actionClass ≠ .a2) && s.approvalProfile ≠ none) ||
    (s.effect = .allow &&
      (s.actionClass ∈ [ActionClass.a3, .a4] || DataClass.d4 ∈ s.constraints.dataClasses))

/-- The loop over the bindings; `seen` are the actors and roles met before. -/
def bindingErrors (dig : Digests) (roleIds : List String) :
    List (String × String × String) → List ActorBinding → List String
  | _, [] => []
  | seen, binding :: rest =>
    let actorRole := (binding.principal.digest, binding.membership.digest, binding.roleId)
    errorIf (binding.id ≠ teamAccessBindingId dig binding.principal
        binding.membership binding.roleId ||
        binding.roleId ∉ roleIds || actorRole ∈ seen)
      "TeamAccessPolicy$.spec.bindings: failed validation" ++
    bindingErrors dig roleIds (actorRole :: seen) rest

def roleErrors (created : ℤ) (entry : Role × ℕ) : List String :=
  errorIf (!sortedUnique (entry.1.statements.map (·.id)))
    ("TeamAccessPolicy$.spec.roles[" ++ toString entry.2 ++
      "].statements: failed validation") ++
  entry.1.statements.zipIdx.flatMap fun s =>
    errorIf (s.1.invalid created)
      ("TeamAccessPolicy$.spec.roles[" ++ toString entry.2 ++ "].statements[" ++
        toString s.2 ++ "]: failed validation")

/-- `team_access_contract_errors`, behind the schema. -/
def teamAccessContractErrors (dig : Digests) (p : TeamAccessPolicy) : List String :=
  errorIf (p.recordDigest ≠ teamAccessPolicyDigest dig p)
    "TeamAccessPolicy$.metadata.recordDigest: failed validation" ++
  errorIf (!sortedUnique (p.roles.map (·.id)))
    "TeamAccessPolicy$.spec.roles: failed validation" ++
  errorIf (!sortedUnique (p.bindings.map (·.id)))
    "TeamAccessPolicy$.spec.bindings: failed validation" ++
  bindingErrors dig (p.roles.map (·.id)) [] p.bindings ++
  p.roles.zipIdx.flatMap (roleErrors p.createdAt)

def validateTeamAccessPolicy (dig : Digests) (p : TeamAccessPolicy) :
    Except AccessError TeamAccessPolicy :=
  if !p.schemaOk then .error .schema
  else if teamAccessContractErrors dig p ≠ [] then
    .error (.contract (teamAccessContractErrors dig p))
  else .ok p

/-! ## Accepted policies -/

structure Accepted (p : TeamAccessPolicy) : Prop where
  roles : (p.roles.map (·.id)).Nodup
  bound : ∀ b ∈ p.bindings, b.roleId ∈ p.roles.map (·.id)
  statements : ∀ role ∈ p.roles, ∀ s ∈ role.statements, s.invalid p.createdAt = false

theorem errorIf_eq_nil {c : Bool} {text : String} : errorIf c text = [] ↔ c = false := by
  cases c <;> simp [errorIf]

theorem bound_of_bindingErrors {dig : Digests} {roleIds : List String}
    {seen : List (String × String × String)} {bindings : List ActorBinding}
    (h : bindingErrors dig roleIds seen bindings = []) :
    ∀ b ∈ bindings, b.roleId ∈ roleIds := by
  induction bindings generalizing seen with
  | nil => exact fun _ hb => (nomatch hb)
  | cons binding rest ih =>
    rw [bindingErrors, List.append_eq_nil_iff, errorIf_eq_nil] at h
    obtain ⟨hone, hrest⟩ := h
    intro b hb
    rcases List.mem_cons.mp hb with rfl | hb
    · simp only [Bool.or_eq_false_iff, decide_eq_false_iff_not, not_not] at hone
      exact hone.1.2
    · exact ih hrest b hb

theorem accepted_of_validate {dig : Digests} {p validated : TeamAccessPolicy}
    (h : validateTeamAccessPolicy dig p = .ok validated) :
    validated = p ∧ Accepted p := by
  unfold validateTeamAccessPolicy at h
  split at h
  · cases h
  split at h
  · cases h
  next herrors =>
  cases h
  refine ⟨rfl, ?_⟩
  rw [not_not, teamAccessContractErrors] at herrors
  simp only [List.append_eq_nil_iff, errorIf_eq_nil] at herrors
  obtain ⟨⟨⟨⟨-, hroles⟩, -⟩, hbindings⟩, hstatements⟩ := herrors
  refine ⟨?_, bound_of_bindingErrors hbindings, ?_⟩
  · rw [Bool.not_eq_false', sortedUnique, Bool.and_eq_true,
      decide_eq_true_eq, decide_eq_true_eq] at hroles
    exact hroles.2
  · intro role hrole s hs
    obtain ⟨i, hi⟩ := List.mem_iff_getElem?.mp hrole
    obtain ⟨j, hj⟩ := List.mem_iff_getElem?.mp hs
    have hone := List.flatMap_eq_nil_iff.mp hstatements (role, i)
      (List.mk_mem_zipIdx_iff_getElem?.mpr hi)
    rw [roleErrors, List.append_eq_nil_iff] at hone
    exact errorIf_eq_nil.mp (List.flatMap_eq_nil_iff.mp hone.2 (s, j)
      (List.mk_mem_zipIdx_iff_getElem?.mpr hj))

theorem Accepted.allow {p : TeamAccessPolicy} (h : Accepted p) {role : Role}
    (hrole : role ∈ p.roles) {s : Statement} (hs : s ∈ role.statements)
    (hallow : s.effect = .allow) :
    (s.actionClass = .a2 ↔ s.approvalProfile ≠ none) := by
  have hvalid := h.statements role hrole s hs
  simp only [Statement.invalid, Bool.or_eq_false_iff, hallow] at hvalid
  simp at hvalid
  obtain ⟨⟨⟨-, hprofile⟩, hnone⟩, -⟩ := hvalid
  constructor
  · exact hprofile
  · intro hsome
    by_contra hclass
    exact hsome (hnone hclass)

end Ecosystem.Access
