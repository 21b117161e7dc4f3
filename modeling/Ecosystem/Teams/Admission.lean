import Ecosystem.Teams.Database

/-!
# Admission of a run

The checks of `create_run` in front of its transaction: every task is bound to
the run, fits its role, the graph of dependencies and parents has no cycle, and
a child task stays within its parent.
-/

namespace Ecosystem.Teams

open Ecosystem.Lib

def assertTaskRole (task : TeamTask) (role : TeamRole) : Except TeamError Unit :=
  if task.action ∉ role.actions ∨ task.dataClass ∉ role.dataClasses ∨
      (∃ tool ∈ task.toolId, tool ∉ role.toolIds) ∨ task.zone ∉ role.zones ∨
      task.notAfter.instant > role.notAfter.instant ∨
      task.budget.maxTokens > role.budget.maxTokens ∨
      task.budget.maxCostMicrousd > role.budget.maxCostMicrousd ∨
      task.budget.maxDurationSeconds > role.budget.maxDurationSeconds then
    raised "ECO_TEAM_TASK_AUTHORITY_EXPANSION"
  else .ok ()

/-- `_assert_child_narrow`; `parentRole` is the role of the parent task. -/
def assertChildNarrow (parent child : TeamTask) (parentRole : TeamRole) :
    Except TeamError Unit :=
  if child.roleId ∉ parentRole.delegatesTo then
    raised "ECO_TEAM_DELEGATION_DENIED"
  else if child.action ≠ parent.action ∨
      child.dataClass.order > parent.dataClass.order ∨
      (parent.toolId = none ∧ child.toolId ≠ none) ∨
      (parent.toolId ≠ none ∧ child.toolId ≠ none ∧
        child.toolId ≠ parent.toolId) ∨
      child.zone ≠ parent.zone ∨ child.environmentId ≠ parent.environmentId ∨
      child.resource ≠ parent.resource ∨
      child.notAfter.instant > parent.notAfter.instant ∨
      child.budget.maxTokens > parent.budget.maxTokens ∨
      child.budget.maxCostMicrousd > parent.budget.maxCostMicrousd ∨
      child.budget.maxDurationSeconds > parent.budget.maxDurationSeconds then
    raised "ECO_TEAM_CHILD_AUTHORITY_EXPANSION"
  else .ok ()

/-! ## The task graph -/

/-- The tasks that a task waits for or descends from, in the order visited. -/
def TeamTask.edges (task : TeamTask) : List String :=
  task.dependencies ++ task.parentTaskId.toList

/-- `visit` of `_assert_acyclic`: the tasks visited when it returns.  The stack
of tasks being visited is an argument, since every return restores it; beyond
`depth` the interpreter raises. -/
def visit (tasks : List TeamTask) :
    ℕ → List String → List String → String → Except TeamError (List String)
  | 0, _, _, _ => .error .foreign
  | depth + 1, visiting, visited, id =>
    if id ∈ visiting then raised "ECO_TEAM_TASK_CYCLE"
    else if id ∈ visited then .ok visited
    else
      match tasks.find? fun task => task.id = id with
      | none => .error .foreign
      | some task =>
        match task.edges.foldlM (fun visited edge =>
            if tasks.any fun other => other.id = edge then
              visit tasks depth (id :: visiting) visited edge
            else raised "ECO_TEAM_TASK_REFERENCE_INVALID") visited with
        | .error err => .error err
        | .ok visited => .ok (id :: visited)

/-- The identifiers in the order of `sorted`. -/
def sortedIds (tasks : List TeamTask) : List String :=
  (tasks.map (·.id)).insertionSort (· ≤ ·)

def assertAcyclic (recursionLimit : ℕ) (tasks : List TeamTask) :
    Except TeamError Unit :=
  match (sortedIds tasks).foldlM (visit tasks recursionLimit []) [] with
  | .error err => .error err
  | .ok _ => .ok ()

section Checks

variable {W E : Type} (prim : Primitives W E)

/-! ## The tasks of a run -/

def checkTask (manifest : AgentTeamManifest) (runId : String) (observed : ℤ)
    (checked : List TeamTask) (record : TeamRecord) :
    Except TeamError (List TeamTask) :=
  match record.validate prim.semanticDigest with
  | .error err => .error err
  | .ok () =>
    match record with
    | .task task =>
      if task.runId ≠ runId ∨ task.teamId ≠ manifest.authority.teamId ∨
          task.projectId ≠ manifest.projectId ∨
          task.id ∈ checked.map (·.id) ∨ task.createdAt.instant > observed ∨
          task.notAfter.instant > manifest.deadline.instant then
        raised "ECO_TEAM_TASK_BINDING_MISMATCH"
      else
        match roleMap manifest task.roleId with
        | none => raised "ECO_TEAM_ROLE_UNKNOWN"
        | some role =>
          match assertTaskRole task role with
          | .error err => .error err
          | .ok () => .ok (checked ++ [task])
    | _ => raised "ECO_TEAM_TASK_BINDING_MISMATCH"

def checkParent (manifest : AgentTeamManifest) (tasks : List TeamTask)
    (task : TeamTask) : Except TeamError Unit :=
  match task.parentTaskId with
  | none => .ok ()
  | some parentId =>
    match tasks.find? fun other => other.id = parentId with
    | none => .error .foreign
    | some parent =>
      match roleMap manifest parent.roleId with
      | none => .error .foreign
      | some role => assertChildNarrow parent task role

/-- The checks of `create_run` behind those of the manifest. -/
def admitTasks (manifest : AgentTeamManifest) (runId : String) (observed : ℤ)
    (records : List TeamRecord) : Except TeamError (List TeamTask) :=
  match records.foldlM (checkTask prim manifest runId observed) [] with
  | .error err => .error err
  | .ok tasks =>
    match assertAcyclic prim.recursionLimit tasks with
    | .error err => .error err
    | .ok () =>
      match tasks.forM (checkParent manifest tasks) with
      | .error err => .error err
      | .ok () => .ok tasks

/-- The checks of `create_run` on its manifest. -/
def admitManifest (gates : Gates W E) (record : TeamRecord) (runId : String)
    (taskCount : ℕ) (observed : ℤ) : Except TeamError AgentTeamManifest :=
  match record.validate prim.semanticDigest with
  | .error err => .error err
  | .ok () =>
    match record with
    | .manifest manifest =>
      match gates.manifestCurrent manifest observed with
      | .error err => .error err
      | .ok () =>
        if runId = "" ∨ taskCount < 1 then raised "ECO_TEAM_RUN_INVALID"
        else if taskCount > manifest.maxTasks then
          raised "ECO_TEAM_TASK_LIMIT"
        else if manifest.createdAt.instant > observed ∨
            observed ≥ manifest.deadline.instant then
          raised "ECO_TEAM_RUN_EXPIRED"
        else .ok manifest
    | _ => raised "ECO_TEAM_MANIFEST_INVALID"

end Checks

end Ecosystem.Teams
