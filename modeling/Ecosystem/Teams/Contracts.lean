import Ecosystem.Lib.Text

/-!
# Team contracts

The records of `eco_teams/contracts.py` and their checks, on the structured value of the
JSON.  `TeamRecord.schemaOk` is what the schema asks of the fields; the texts of schema
errors are left out.
-/

namespace Ecosystem.Teams

/-! ## Patterns and errors -/

/-- A `$` of a schema pattern also matches before a final line feed. -/
def patternBody (s : String) : List Char :=
  let cs := s.toList
  if cs.getLast? = some '\n' then cs.dropLast else cs

/-- The schema pattern `id`: a letter or digit, then at most 127 of letters,
digits and six signs. -/
def matchesId (s : String) : Bool :=
  match patternBody s with
  | [] => false
  | c :: cs =>
    c.isAlphanum && cs.length ≤ 127 &&
      cs.all fun c => c.isAlphanum || c ∈ ['.', '_', ':', '@', '/', '-']

/-- `^[a-f0-9]{64}$`. -/
def matchesDigest (s : String) : Bool :=
  (patternBody s).length = 64 &&
    (patternBody s).all fun c => c.isDigit || ('a' ≤ c && c ≤ 'f')

def asciiBody (s : String) : List Char :=
  let cs := Lib.asciiText s
  if cs.getLast? = some '\n' then cs.dropLast else cs

def idText (s : String) : Bool :=
  match asciiBody s with
  | [] => false
  | c :: cs =>
    c.isAlphanum && cs.length ≤ 127 &&
      cs.all fun c => c.isAlphanum || c ∈ ['.', '_', ':', '@', '/', '-']

def digestText (s : String) : Bool :=
  (asciiBody s).length = 64 &&
    (asciiBody s).all fun c => c.isDigit || ('a' ≤ c && c ≤ 'f')

theorem patternBody_eq (s : String) : patternBody s = asciiBody s := by
  rw [patternBody, asciiBody, Lib.toList_eq_asciiText]

theorem matchesId_eq : matchesId = idText := by
  funext s
  rw [matchesId, idText, patternBody_eq]

theorem matchesDigest_eq : matchesDigest = digestText := by
  funext s
  rw [matchesDigest, digestText, patternBody_eq]

inductive TeamError
  | runtime (code : String)
  | schema
  | contract (errors : List String)
  /-- any other exception of a gate -/
  | foreign
deriving DecidableEq

/-! ## Records -/

structure Timestamp where
  text : String
  instant : ℤ

structure Binding where
  kind : String
  id : String
  digest : String
deriving DecidableEq

structure TaskBudget where
  maxTokens : ℕ
  maxCostMicrousd : ℕ
  maxDurationSeconds : ℕ

inductive DataClass
  | d0 | d1 | d2 | d3
deriving DecidableEq

/-- `_DATA_ORDER`. -/
def DataClass.order : DataClass → ℕ
  | .d0 => 0
  | .d1 => 1
  | .d2 => 2
  | .d3 => 3

structure TeamRole where
  id : String
  principal : Binding
  membership : Binding
  actions : List String
  dataClasses : List DataClass
  toolIds : List String
  zones : List String
  notAfter : Timestamp
  budget : TaskBudget
  delegatesTo : List String

structure TeamAuthorityBinding where
  teamId : String
  storeId : String
  authoritySnapshotDigest : String
  activeBundleDigest : String
  accessPolicyDigest : String

structure AgentTeamManifest where
  id : String
  projectId : String
  createdAt : Timestamp
  recordDigest : String
  authority : TeamAuthorityBinding
  roles : List TeamRole
  maxTasks : ℕ
  maxTotalTokens : ℕ
  maxCostMicrousd : ℕ
  deadline : Timestamp

structure TeamTask where
  id : String
  teamId : String
  projectId : String
  runId : String
  createdAt : Timestamp
  recordDigest : String
  roleId : String
  parentTaskId : Option String
  action : String
  dataClass : DataClass
  toolId : Option String
  zone : String
  environmentId : String
  resource : Binding
  notAfter : Timestamp
  budget : TaskBudget
  input : Binding
  dependencies : List String
  routeDecision : Option Binding

structure TeamHandoff where
  id : String
  teamId : String
  projectId : String
  runId : String
  createdAt : Timestamp
  recordDigest : String
  fromTaskId : String
  fromRoleId : String
  toTaskId : String
  toRoleId : String
  artifact : Binding

inductive TaskStatus
  | pending | leased | started | succeeded | failed | cancelled | ambiguous
deriving DecidableEq

/-- `_TERMINAL`. -/
def TaskStatus.isTerminal : TaskStatus → Bool
  | .succeeded | .failed | .cancelled | .ambiguous => true
  | .pending | .leased | .started => false

inductive RunStatus
  | active | cancelling | succeeded | failed | partialFailure | cancelled
  | ambiguous
deriving DecidableEq

structure TaskResult where
  id : String
  status : TaskStatus
  outcomeDigest : Option String
  chargedTokens : ℕ
  chargedCostMicrousd : ℕ

structure TeamRunResult where
  id : String
  teamId : String
  projectId : String
  runId : String
  createdAt : String
  recordDigest : String
  status : RunStatus
  cancellationRequested : Bool
  tasks : List TaskResult
  usageTokens : ℕ
  usageCostMicrousd : ℕ

inductive TeamRecord
  | manifest (record : AgentTeamManifest)
  | task (record : TeamTask)
  | handoff (record : TeamHandoff)
  | result (record : TeamRunResult)

/-! ## Schemas -/

def textOk (maxLength : ℕ) (s : String) : Bool :=
  1 ≤ s.length && s.length ≤ maxLength

def Binding.schemaOk (b : Binding) : Bool :=
  textOk 64 b.kind && matchesId b.id && matchesDigest b.digest

def TaskBudget.schemaOk (b : TaskBudget) : Bool :=
  b.maxTokens ≤ 1000000000 && b.maxCostMicrousd ≤ 1000000000000 &&
    1 ≤ b.maxDurationSeconds && b.maxDurationSeconds ≤ 86400

def TeamRole.schemaOk (r : TeamRole) : Bool :=
  matchesId r.id && r.principal.schemaOk && r.membership.schemaOk &&
    r.actions ≠ [] && r.actions.Nodup && r.actions.all (textOk 64) &&
    r.dataClasses ≠ [] && r.dataClasses.Nodup &&
    r.toolIds.Nodup && r.toolIds.all (textOk 128) &&
    r.zones ≠ [] && r.zones.Nodup && r.zones.all (textOk 64) &&
    r.budget.schemaOk && r.delegatesTo.Nodup && r.delegatesTo.all matchesId

def AgentTeamManifest.schemaOk (m : AgentTeamManifest) : Bool :=
  matchesId m.id && matchesId m.projectId && matchesDigest m.recordDigest &&
    matchesId m.authority.teamId && matchesId m.authority.storeId &&
    matchesDigest m.authority.authoritySnapshotDigest &&
    matchesDigest m.authority.activeBundleDigest &&
    matchesDigest m.authority.accessPolicyDigest &&
    1 ≤ m.roles.length && m.roles.length ≤ 64 &&
    m.roles.all TeamRole.schemaOk &&
    1 ≤ m.maxTasks && m.maxTasks ≤ 10000 &&
    m.maxTotalTokens ≤ 1000000000 && m.maxCostMicrousd ≤ 1000000000000

def TeamTask.schemaOk (t : TeamTask) : Bool :=
  matchesId t.id && matchesId t.teamId && matchesId t.projectId &&
    matchesId t.runId && matchesDigest t.recordDigest && matchesId t.roleId &&
    t.parentTaskId.all matchesId && textOk 64 t.action &&
    t.toolId.all (textOk 128) && textOk 64 t.zone && matchesId t.environmentId &&
    t.resource.schemaOk && t.budget.schemaOk && t.input.schemaOk &&
    t.dependencies.Nodup && t.dependencies.all matchesId &&
    t.routeDecision.all Binding.schemaOk

def TeamHandoff.schemaOk (h : TeamHandoff) : Bool :=
  matchesId h.id && matchesId h.teamId && matchesId h.projectId &&
    matchesId h.runId && matchesDigest h.recordDigest &&
    matchesId h.fromTaskId && matchesId h.fromRoleId && matchesId h.toTaskId &&
    matchesId h.toRoleId && h.artifact.schemaOk

def TaskResult.schemaOk (t : TaskResult) : Bool :=
  matchesId t.id && t.status.isTerminal && t.outcomeDigest.all matchesDigest

def TeamRunResult.schemaOk (r : TeamRunResult) : Bool :=
  matchesId r.id && matchesId r.teamId && matchesId r.projectId &&
    matchesId r.runId && matchesDigest r.recordDigest &&
    r.status ≠ .active && r.status ≠ .cancelling &&
    r.tasks ≠ [] && r.tasks.all TaskResult.schemaOk

/-- `_schema_errors` finds nothing. -/
def TeamRecord.schemaOk : TeamRecord → Bool
  | .manifest m => m.schemaOk
  | .task t => t.schemaOk
  | .handoff h => h.schemaOk
  | .result r => r.schemaOk

/-! ## Semantic errors -/

def sortedUnique (values : List String) : Bool :=
  decide (values.Pairwise (· ≤ ·)) && values.Nodup

def errorIf (condition : Bool) (error : String) : List String :=
  if condition then [error] else []

/-- The role errors of one role: `deadline` is the manifest's. -/
def roleErrors (m : AgentTeamManifest) (r : TeamRole) : List String :=
  let at_ := "AgentTeamManifest$.spec.roles." ++ r.id
  let listError (ok : Bool) (field : String) :=
    errorIf (!ok) (at_ ++ "." ++ field ++ ": must be sorted and unique")
  errorIf (r.principal.kind ≠ "PrincipalIdentity" ||
      r.membership.kind ≠ "MembershipBinding")
    (at_ ++ ": invalid M5 identity binding") ++
  listError (sortedUnique r.actions) "actions" ++
  listError (decide (r.dataClasses.Pairwise fun a b => a.order ≤ b.order) &&
    r.dataClasses.Nodup) "dataClasses" ++
  listError (sortedUnique r.toolIds) "toolIds" ++
  listError (sortedUnique r.zones) "zones" ++
  listError (sortedUnique r.delegatesTo) "delegatesTo" ++
  errorIf (r.notAfter.instant > m.deadline.instant)
    (at_ ++ ".notAfter: exceeds team deadline") ++
  errorIf (r.id ∈ r.delegatesTo ||
      !r.delegatesTo.all fun target => m.roles.any fun r => r.id = target)
    (at_ ++ ".delegatesTo: invalid target") ++
  errorIf (r.budget.maxTokens > m.maxTotalTokens ||
      r.budget.maxCostMicrousd > m.maxCostMicrousd)
    (at_ ++ ".budget: exceeds team budget")

def roleMap (m : AgentTeamManifest) (id : String) : Option TeamRole :=
  m.roles.reverse.find? fun r => r.id = id

/-- Does delegation to `target` expand the authority of `source`? -/
def delegationExpands (source target : TeamRole) : Bool :=
  !target.actions.all (· ∈ source.actions) ||
    !target.dataClasses.all (· ∈ source.dataClasses) ||
    !target.toolIds.all (· ∈ source.toolIds) ||
    !target.zones.all (· ∈ source.zones) ||
    target.notAfter.instant > source.notAfter.instant ||
    target.budget.maxTokens > source.budget.maxTokens ||
    target.budget.maxCostMicrousd > source.budget.maxCostMicrousd ||
    target.budget.maxDurationSeconds > source.budget.maxDurationSeconds

/-- The delegation errors; an unknown target ends the check. -/
def delegationErrors (m : AgentTeamManifest) : List (TeamRole × String) → List String
  | [] => []
  | (source, targetId) :: rest =>
    match roleMap m targetId with
    | none => ["AgentTeamManifest$: semantic validation failed"]
    | some target =>
      errorIf (delegationExpands source target)
        ("AgentTeamManifest$.spec.roles." ++ source.id ++
          ".delegatesTo: target expands authority") ++
      delegationErrors m rest

def manifestErrors (m : AgentTeamManifest) : List String :=
  errorIf (!sortedUnique (m.roles.map (·.id)))
    "AgentTeamManifest$.spec.roles: roles must be sorted and unique" ++
  errorIf (m.createdAt.instant ≥ m.deadline.instant)
    "AgentTeamManifest$.spec.deadline: must be after creation" ++
  m.roles.flatMap (roleErrors m) ++
  delegationErrors m
    (m.roles.flatMap fun source => source.delegatesTo.map fun t => (source, t))

/-- `ACTION_PROFILE`: the class of an action and the kind of its resource. -/
def actionProfile : String → Option (String × String)
  | "identity.inspect" => some ("A0", "identity-record")
  | "policy.inspect" => some ("A0", "policy-record")
  | "model.invoke" => some ("A0", "deployment")
  | "run.plan" => some ("A0", "workflow")
  | "repository.read" => some ("A1", "repository-entry")
  | "run.activate" => some ("A1", "workflow")
  | "evaluation.run" => some ("A1", "workflow")
  | "repository.write" => some ("A2", "repository-entry")
  | "code.execute" => some ("A2", "project")
  | "external.write" => some ("A3", "external-service")
  | "production.change" => some ("A4", "production-target")
  | _ => none

def taskErrors (t : TeamTask) : List String :=
  errorIf (!sortedUnique t.dependencies || t.id ∈ t.dependencies)
    "TeamTask$.spec.dependencies: must be sorted, unique, and exclude self" ++
  errorIf (t.parentTaskId = some t.id)
    "TeamTask$.spec.parentTaskId: cannot reference self" ++
  errorIf ((actionProfile t.action).map Prod.snd ≠ some t.resource.kind)
    "TeamTask$.spec.resource: does not match action profile" ++
  errorIf (t.action = "model.invoke" &&
      t.routeDecision.map (·.kind) ≠ some "ModelRouteDecision")
    "TeamTask$.spec.routeDecision: model.invoke requires an exact route binding" ++
  errorIf (t.action ≠ "model.invoke" && t.routeDecision.isSome)
    "TeamTask$.spec.routeDecision: non-model tasks cannot carry model routes" ++
  errorIf ("repository.".toList.isPrefixOf t.action.toList &&
      t.toolId ≠ some t.action)
    "TeamTask$.spec.toolId: repository action requires its exact tool id" ++
  errorIf (t.createdAt.instant ≥ t.notAfter.instant)
    "TeamTask$.spec.notAfter: must be after creation"

def handoffErrors (h : TeamHandoff) : List String :=
  errorIf (h.fromTaskId = h.toTaskId) "TeamHandoff$.spec: self handoff is invalid"

def summaryStatus (statuses : List TaskStatus) : RunStatus :=
  if .ambiguous ∈ statuses then .ambiguous
  else if statuses.all (· = .succeeded) then .succeeded
  else if statuses.all (· = .cancelled) then .cancelled
  else if statuses.all (· = .failed) then .failed
  else .partialFailure

def resultErrors (r : TeamRunResult) : List String :=
  errorIf (!sortedUnique (r.tasks.map (·.id)))
    "TeamRunResult$.spec.tasks: must be sorted and unique" ++
  errorIf (r.status ≠ summaryStatus (r.tasks.map (·.status)))
    "TeamRunResult$.spec.status: does not truthfully summarize task outcomes" ++
  errorIf (r.usageTokens ≠ (r.tasks.map (·.chargedTokens)).sum ||
      r.usageCostMicrousd ≠ (r.tasks.map (·.chargedCostMicrousd)).sum)
    "TeamRunResult$.spec.usage: does not equal task usage" ++
  r.tasks.flatMap fun t =>
    errorIf ((t.status = .succeeded || t.status = .failed) &&
        t.outcomeDigest.isNone)
      "TeamRunResult$.spec.tasks: completed task lacks outcome digest"

/-! ## Validation -/

namespace TeamRecord

def kind : TeamRecord → String
  | .manifest _ => "AgentTeamManifest"
  | .task _ => "TeamTask"
  | .handoff _ => "TeamHandoff"
  | .result _ => "TeamRunResult"

def recordDigest : TeamRecord → String
  | .manifest m => m.recordDigest
  | .task t => t.recordDigest
  | .handoff h => h.recordDigest
  | .result r => r.recordDigest

def withDigest (digest : String) : TeamRecord → TeamRecord
  | .manifest m => .manifest { m with recordDigest := digest }
  | .task t => .task { t with recordDigest := digest }
  | .handoff h => .handoff { h with recordDigest := digest }
  | .result r => .result { r with recordDigest := digest }

def semanticErrors : TeamRecord → List String
  | .manifest m => manifestErrors m
  | .task t => taskErrors t
  | .handoff h => handoffErrors h
  | .result r => resultErrors r

/-- `validate_record`.  The digest of a record is taken with the digest field
removed; `semanticDigest` is the hash of what is left. -/
def validate (semanticDigest : TeamRecord → String) (record : TeamRecord) :
    Except TeamError Unit :=
  if !record.schemaOk then .error .schema
  else if record.recordDigest ≠ semanticDigest (record.withDigest "") then
    .error (.contract [record.kind ++ "$.metadata.recordDigest: digest mismatch"])
  else if record.semanticErrors ≠ [] then
    .error (.contract record.semanticErrors)
  else .ok ()

end TeamRecord

end Ecosystem.Teams
