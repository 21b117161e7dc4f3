import Ecosystem.Lib.DepthFirst
import Ecosystem.Teams.Budget

/-!
# Delegation and the task graph

`create_run` checks each task against its parent only, which is transitive
(`Within.trans`).  The graph of a task list is the union of its dependencies and parents,
and `visit` the traversal of `Lib.DepthFirst` over it (`visit_eq`): what it refuses
without a reason in the graph is a path that outgrows the stack.
-/

namespace Ecosystem.Teams

open Ecosystem.Lib Relation

/-! ## Narrowing -/

/-- A task stays within the authority of another one. -/
structure Within (ancestor task : TeamTask) : Prop where
  action : task.action = ancestor.action
  zone : task.zone = ancestor.zone
  environmentId : task.environmentId = ancestor.environmentId
  resource : task.resource = ancestor.resource
  toolId : task.toolId = none ∨ task.toolId = ancestor.toolId
  dataClass : task.dataClass.order ≤ ancestor.dataClass.order
  maxTokens : task.budget.maxTokens ≤ ancestor.budget.maxTokens
  maxCost : task.budget.maxCostMicrousd ≤ ancestor.budget.maxCostMicrousd
  maxDuration : task.budget.maxDurationSeconds ≤ ancestor.budget.maxDurationSeconds
  notAfter : task.notAfter.instant ≤ ancestor.notAfter.instant

theorem Within.trans {a b c : TeamTask} (h : Within a b) (h' : Within b c) :
    Within a c where
  action := h'.action.trans h.action
  zone := h'.zone.trans h.zone
  environmentId := h'.environmentId.trans h.environmentId
  resource := h'.resource.trans h.resource
  toolId := by
    rcases h'.toolId with hnone | hsame
    · exact .inl hnone
    · rw [hsame]
      exact h.toolId
  dataClass := h'.dataClass.trans h.dataClass
  maxTokens := h'.maxTokens.trans h.maxTokens
  maxCost := h'.maxCost.trans h.maxCost
  maxDuration := h'.maxDuration.trans h.maxDuration
  notAfter := h'.notAfter.trans h.notAfter

theorem within_of_assertChildNarrow {parent child : TeamTask} {role : TeamRole}
    (h : assertChildNarrow parent child role = .ok ()) : Within parent child := by
  unfold assertChildNarrow raised at h
  split at h
  · cases h
  split at h
  · cases h
  next hnarrow =>
  simp only [not_or, not_not, not_and, not_lt, gt_iff_lt] at hnarrow
  obtain ⟨haction, hdata, hnone, htool, hzone, henv, hresource, hafter, htokens,
    hcost, hduration⟩ := hnarrow
  refine ⟨haction, hzone, henv, hresource, ?_, hdata, htokens, hcost, hduration, hafter⟩
  by_cases hchild : child.toolId = none
  · exact .inl hchild
  · exact .inr (htool (fun hparent => hchild (hnone hparent)) hchild)

/-! ## The graph of a task list -/

def UnionRelation (tasks : List TeamTask) (a b : String) : Prop :=
  ∃ task ∈ tasks, task.id = a ∧ b ∈ task.edges

def GraphClosed (tasks : List TeamTask) : Prop :=
  ∀ task ∈ tasks, ∀ id ∈ task.edges, id ∈ tasks.map (·.id)

def GraphAcyclic (tasks : List TeamTask) : Prop :=
  ∀ id, ¬ TransGen (UnionRelation tasks) id id

def IsParent (tasks : List TeamTask) (task parent : TeamTask) : Prop :=
  parent ∈ tasks ∧ task.parentTaskId = some parent.id

def Ancestor (tasks : List TeamTask) : TeamTask → TeamTask → Prop :=
  TransGen (IsParent tasks)

def isKnown (tasks : List TeamTask) (id : String) : Bool :=
  tasks.any fun task => task.id = id

def successors (tasks : List TeamTask) (id : String) : List String :=
  ((tasks.find? fun task => task.id = id).map (·.edges)).getD []

/-- In the order of the traversal some path is the first to reach its tasks and has
this many edges. -/
def TooDeep (limit : ℕ) (tasks : List TeamTask) : Prop :=
  ∃ before id after, sortedIds tasks = before ++ id :: after ∧
    DepthFirst.Deep (successors tasks) limit
      (DepthFirst.ReachedFrom (successors tasks) before) id

variable {tasks : List TeamTask} {id : String} {task : TeamTask} {limit : ℕ}

theorem isKnown_iff : isKnown tasks id = true ↔ id ∈ tasks.map (·.id) := by
  simp [isKnown]

theorem mem_sortedIds : id ∈ sortedIds tasks ↔ id ∈ tasks.map (·.id) :=
  List.mem_insertionSort _

theorem find?_of_nodup (hnodup : (tasks.map (·.id)).Nodup) (h : task ∈ tasks) :
    (tasks.find? fun other => other.id = task.id) = some task := by
  induction tasks with
  | nil => cases h
  | cons head tasks ih =>
    rw [List.map_cons, List.nodup_cons] at hnodup
    rw [List.find?_cons]
    rcases List.mem_cons.mp h with rfl | h
    · simp
    · have hne : head.id ≠ task.id := by
        intro heq
        exact hnodup.1 (heq ▸ List.mem_map_of_mem h)
      simp only [hne, decide_false]
      exact ih hnodup.2 h

theorem edge_iff (hnodup : (tasks.map (·.id)).Nodup) {a b : String} :
    DepthFirst.Edge (successors tasks) a b ↔ UnionRelation tasks a b := by
  unfold DepthFirst.Edge successors UnionRelation
  constructor
  · intro h
    cases hfind : tasks.find? fun task => task.id = a with
    | none =>
      rw [hfind] at h
      cases h
    | some task =>
      rw [hfind] at h
      exact ⟨task, List.mem_of_find?_eq_some hfind, by
        simpa using List.find?_some hfind, h⟩
  · rintro ⟨task, hmem, rfl, hb⟩
    rw [find?_of_nodup hnodup hmem]
    exact hb

theorem successors_of_mem (hnodup : (tasks.map (·.id)).Nodup)
    (h : task ∈ tasks) : successors tasks task.id = task.edges := by
  rw [successors, find?_of_nodup hnodup h]
  rfl

/-! ## The traversal -/

/-- The traversal of the library over the graph of the list, with the errors of
`_assert_acyclic`. -/
def traverse (tasks : List TeamTask) :
    ℕ → List String → List String → String → Except TeamError (List String) :=
  DepthFirst.visit (isKnown tasks) (successors tasks) TeamError.foreign
    (TeamError.runtime "ECO_TEAM_TASK_CYCLE")
    (TeamError.runtime "ECO_TEAM_TASK_REFERENCE_INVALID")

/-- **`visit` is the traversal of the library.** -/
theorem visit_eq (tasks : List TeamTask) {depth : ℕ} {visiting visited : List String}
    (hid : isKnown tasks id = true) :
    visit tasks depth visiting visited id = traverse tasks depth visiting visited id := by
  induction depth generalizing visiting visited id with
  | zero => rfl
  | succ depth ih =>
    rw [visit, traverse, DepthFirst.visit]
    by_cases hstack : id ∈ visiting
    · rw [if_pos hstack, if_pos hstack]
      rfl
    · rw [if_neg hstack, if_neg hstack]
      by_cases hdone : id ∈ visited
      · rw [if_pos hdone, if_pos hdone]
      rw [if_neg hdone, if_neg hdone]
      cases hfind : tasks.find? fun task => task.id = id with
      | none =>
        rw [isKnown, List.any_eq_true] at hid
        obtain ⟨task, hmem, htask⟩ := hid
        exact absurd htask (List.find?_eq_none.mp hfind task hmem)
      | some task =>
        have hsucc : successors tasks id = task.edges := by
          rw [successors, hfind]
          rfl
        have hstep : (fun visited edge =>
              if tasks.any fun other => other.id = edge then
                visit tasks depth (id :: visiting) visited edge
              else raised "ECO_TEAM_TASK_REFERENCE_INVALID") =
            fun visited edge =>
              if isKnown tasks edge then
                traverse tasks depth (id :: visiting) visited edge
              else .error (.runtime "ECO_TEAM_TASK_REFERENCE_INVALID") := by
          funext visited edge
          have hknown : (tasks.any fun other => other.id = edge) = isKnown tasks edge := rfl
          rw [hknown]
          by_cases hedge : isKnown tasks edge = true
          · rw [if_pos hedge, if_pos hedge, ih hedge]
          · rw [if_neg hedge, if_neg hedge]
            rfl
        dsimp only
        rw [hstep, hsucc]
        unfold traverse
        split
        · next err hfold => rw [hfold]
        · next between hfold => rw [hfold]

theorem foldlM_visit_eq (tasks : List TeamTask) (limit : ℕ) (ids visited : List String)
    (hids : ∀ id ∈ ids, isKnown tasks id = true) :
    ids.foldlM (visit tasks limit []) visited =
      ids.foldlM (traverse tasks limit []) visited := by
  induction ids generalizing visited with
  | nil => rfl
  | cons id ids ih =>
    rw [List.foldlM_cons, List.foldlM_cons, visit_eq tasks (hids id (by simp))]
    congr 1
    funext visited
    exact ih visited fun other hother => hids other (List.mem_cons_of_mem _ hother)

theorem isKnown_of_mem_sortedIds (h : id ∈ sortedIds tasks) : isKnown tasks id = true :=
  isKnown_iff.mpr (mem_sortedIds.mp h)

theorem assertAcyclic_eq_ok :
    assertAcyclic limit tasks = .ok () ↔
      ∃ visited, (sortedIds tasks).foldlM (traverse tasks limit []) [] = .ok visited := by
  rw [assertAcyclic, foldlM_visit_eq tasks limit (sortedIds tasks) []
    fun _ => isKnown_of_mem_sortedIds]
  cases (sortedIds tasks).foldlM (traverse tasks limit []) [] with
  | error err =>
    constructor
    · intro h
      cases h
    · rintro ⟨visited, h⟩
      cases h
  | ok visited => exact ⟨fun _ => ⟨visited, rfl⟩, fun _ => rfl⟩

/-- **What `_assert_acyclic` accepts** is closed and has no infinite path. -/
theorem assertAcyclic_sound
    (hnodup : (tasks.map (·.id)).Nodup) (h : assertAcyclic limit tasks = .ok ()) :
    GraphClosed tasks ∧
      ∀ task ∈ tasks, Acc (fun b a => UnionRelation tasks a b) task.id := by
  obtain ⟨visited, hscan⟩ := assertAcyclic_eq_ok.mp h
  obtain ⟨hknown, hacc⟩ := DepthFirst.scan_sound hscan fun _ => isKnown_of_mem_sortedIds
  have hedge : (fun b a => DepthFirst.Edge (successors tasks) a b) =
      fun b a => UnionRelation tasks a b := by
    funext b a
    exact propext (edge_iff hnodup)
  constructor
  · intro task hmem id hid
    refine isKnown_iff.mp (hknown task.id ?_ id ?_)
    · exact mem_sortedIds.mpr (List.mem_map_of_mem hmem)
    · rw [successors_of_mem hnodup hmem]
      exact hid
  · intro task hmem
    rw [← hedge]
    exact hacc task.id (mem_sortedIds.mpr (List.mem_map_of_mem hmem))

theorem not_forall_of_acc {α : Type} {r : α → α → Prop} {a : α} (h : Acc r a) :
    ∀ chain : ℕ → α, chain 0 = a → ¬ ∀ n, r (chain (n + 1)) (chain n) := by
  induction h with
  | intro a _ ih =>
    rintro chain rfl hchain
    exact ih (chain 1) (hchain 0) (fun n => chain (n + 1)) rfl
      fun n => hchain (n + 1)

theorem graphAcyclic_of_acc
    (h : ∀ task ∈ tasks, Acc (fun b a => UnionRelation tasks a b) task.id) :
    GraphAcyclic tasks := by
  intro id hcycle
  have hacc : Acc (fun b a => UnionRelation tasks a b) id := by
    obtain ⟨b, ⟨task, hmem, rfl, -⟩, -⟩ := TransGen.head'_iff.mp hcycle
    exact h task hmem
  have hswap : TransGen (fun b a => UnionRelation tasks a b) id id := by
    rw [← transGen_swap]
    exact hcycle
  exact not_forall_of_acc hacc.transGen (fun _ => id) rfl fun _ => hswap

/-- **`_assert_acyclic` on a closed graph without cycles.** -/
theorem assertAcyclic_complete
    (hnodup : (tasks.map (·.id)).Nodup) (hclosed : GraphClosed tasks)
    (hacyclic : GraphAcyclic tasks) :
    assertAcyclic limit tasks = .ok () ↔ ¬ TooDeep limit tasks := by
  have hedge : DepthFirst.Edge (successors tasks) = UnionRelation tasks := by
    funext a b
    exact propext (edge_iff hnodup)
  rw [assertAcyclic_eq_ok]
  refine DepthFirst.scan_spec ?_ ?_ fun _ => isKnown_of_mem_sortedIds
  · intro a _ b hb
    obtain ⟨task, hmem, -, hb⟩ := (edge_iff hnodup).mp hb
    exact isKnown_iff.mpr (hclosed task hmem b hb)
  · rw [hedge]
    exact hacyclic

/-! ## Admission -/

section Admission

variable {W E : Type} {prim : Primitives W E}

variable {manifest : AgentTeamManifest} {runId : String} {records : List TeamRecord}
  {tasks : List TeamTask}

theorem checkTasks_eq_ok {observed : ℤ}
    (h : records.foldlM (checkTask prim manifest runId observed) [] = .ok tasks) :
    records = tasks.map TeamRecord.task ∧ (tasks.map (·.id)).Nodup := by
  refine foldlM_history_induction (f := checkTask prim manifest runId observed)
    (s := []) (fun records tasks => records = tasks.map TeamRecord.task ∧
      (tasks.map (·.id)).Nodup) ⟨rfl, List.nodup_nil⟩ ?_ records tasks h
  rintro _ checked record checked' - ⟨rfl, hnodup⟩ hone
  unfold checkTask raised at hone
  split at hone
  · cases hone
  split at hone
  · next task =>
      split at hone
      · cases hone
      next hbound =>
      push Not at hbound
      split at hone
      · cases hone
      split at hone
      · cases hone
      cases hone
      refine ⟨by simp, ?_⟩
      rw [List.map_append, List.map_singleton, List.nodup_append]
      refine ⟨hnodup, List.nodup_singleton _, ?_⟩
      rintro a ha b hb rfl
      rw [List.mem_singleton.mp hb] at ha
      exact hbound.2.2.2.1 ha
  · cases hone

theorem within_of_checkParent (hnodup : (tasks.map (·.id)).Nodup) {task parent : TeamTask}
    (h : checkParent manifest tasks task = .ok ()) (hparent : IsParent tasks task parent) :
    Within parent task := by
  unfold checkParent at h
  rw [hparent.2] at h
  dsimp only at h
  rw [find?_of_nodup hnodup hparent.1] at h
  dsimp only at h
  split at h
  · cases h
  exact within_of_assertChildNarrow h

theorem within_of_ancestor (hnodup : (tasks.map (·.id)).Nodup)
    (h : ∀ task ∈ tasks, checkParent manifest tasks task = .ok ())
    {task ancestor : TeamTask} (htask : task ∈ tasks)
    (hancestor : Ancestor tasks task ancestor) : Within ancestor task := by
  induction hancestor with
  | single hparent => exact within_of_checkParent hnodup (h task htask) hparent
  | tail hchain hparent ih =>
    have hmem := (TransGen.tail'_iff.mp hchain).elim fun _ h => h.2.1
    exact (within_of_checkParent hnodup (h _ hmem) hparent).trans ih

theorem admitTasks_checks {observed : ℤ}
    (h : admitTasks prim manifest runId observed records = .ok tasks) :
    records = tasks.map TeamRecord.task ∧ (tasks.map (·.id)).Nodup ∧
      assertAcyclic prim.recursionLimit tasks = .ok () ∧
      ∀ task ∈ tasks, checkParent manifest tasks task = .ok () := by
  unfold admitTasks at h
  split at h
  · cases h
  next tasks' hchecked =>
  split at h
  · cases h
  next hgraph =>
  split at h
  · cases h
  next hparents =>
  cases h
  obtain ⟨hrecords, hnodup⟩ := checkTasks_eq_ok hchecked
  exact ⟨hrecords, hnodup, hgraph, forM_eq_ok.mp hparents⟩

/-- **A run that is created** has a closed graph without cycles, its parent chains
end, and every task stays within its ancestors. -/
theorem createRun_narrows {gates : Gates W E} {ses : Session} {db : TeamDb}
    {record : TeamRecord} {now clock : ℤ} {digest : String}
    (h : (createRun prim gates ses db record runId records now clock).answer = .ok digest) :
    ∃ tasks : List TeamTask, records = tasks.map TeamRecord.task ∧
      (tasks.map (·.id)).Nodup ∧ GraphClosed tasks ∧ GraphAcyclic tasks ∧
      (∀ chain : ℕ → TeamTask, ¬ ∀ n, IsParent tasks (chain n) (chain (n + 1))) ∧
      ∀ task ∈ tasks, ∀ ancestor, Ancestor tasks task ancestor → Within ancestor task := by
  unfold createRun timed at h
  split at h
  · cases h
  next observed hobserved =>
  dsimp only at h
  split at h
  · cases h
  next manifest hmanifest =>
  split at h
  · cases h
  next tasks htasks =>
  obtain ⟨hrecords, hnodup, hgraph, hparents⟩ := admitTasks_checks htasks
  obtain ⟨hclosed, hacc⟩ := assertAcyclic_sound hnodup hgraph
  refine ⟨tasks, hrecords, hnodup, hclosed, graphAcyclic_of_acc hacc, ?_,
    fun task htask ancestor => within_of_ancestor hnodup hparents htask⟩
  intro chain hchain
  refine not_forall_of_acc (hacc (chain 1) (hchain 0).1)
    (fun n => (chain (n + 1)).id) rfl fun n => ?_
  refine ⟨chain (n + 1), (hchain n).1, rfl, ?_⟩
  rw [TeamTask.edges, (hchain (n + 1)).2]
  simp

/-- **Delegation narrows and the task graph is acyclic** for every run that is
created; `_assert_acyclic` accepts exactly the closed acyclic maps, exactly when no
such map outgrows the stack. -/
theorem delegation_narrows_iff (prim : Primitives W E) :
    (∀ (gates : Gates W E) ses db record runId records now clock digest,
      (createRun prim gates ses db record runId records now clock).answer = .ok digest →
      ∃ tasks : List TeamTask, records = tasks.map TeamRecord.task ∧
        (tasks.map (·.id)).Nodup ∧ GraphClosed tasks ∧ GraphAcyclic tasks ∧
        (∀ chain : ℕ → TeamTask, ¬ ∀ n, IsParent tasks (chain n) (chain (n + 1))) ∧
        ∀ task ∈ tasks, ∀ ancestor, Ancestor tasks task ancestor → Within ancestor task) ∧
      ∀ tasks : List TeamTask, (tasks.map (·.id)).Nodup →
        ((assertAcyclic prim.recursionLimit tasks = .ok () ↔
            GraphClosed tasks ∧ GraphAcyclic tasks) ↔
          (GraphClosed tasks → GraphAcyclic tasks →
            ¬ TooDeep prim.recursionLimit tasks)) := by
  refine ⟨fun gates ses db record runId records now clock digest =>
    createRun_narrows, ?_⟩
  intro tasks hnodup
  constructor
  · intro h hclosed hacyclic
    exact (assertAcyclic_complete hnodup hclosed hacyclic).mp (h.mpr ⟨hclosed, hacyclic⟩)
  · intro hdepth
    constructor
    · intro h
      obtain ⟨hclosed, hacc⟩ := assertAcyclic_sound hnodup h
      exact ⟨hclosed, graphAcyclic_of_acc hacc⟩
    · rintro ⟨hclosed, hacyclic⟩
      exact (assertAcyclic_complete hnodup hclosed hacyclic).mpr
        (hdepth hclosed hacyclic)

end Admission

/-! ## A run with a delegated task -/

/-- Digests that tell a task from the one it is delegated by. -/
def delegatingPrimitives : Primitives Unit Unit :=
  { samplePrimitives with
    semanticDigest := fun record =>
      match record with
      | .task task =>
        if task.parentTaskId = none then sampleDigest
        else String.ofList (List.replicate 64 'b')
      | _ => sampleDigest }

/-- The first role delegates to the second. -/
def delegatingManifest : AgentTeamManifest :=
  { sampleManifest with
    roles := sampleManifest.roles.flatMap fun role =>
      [{ role with delegatesTo := ["role-2"] }, { role with id := "role-2" }]
    maxTasks := 2 }

def delegatedTask : TeamTask :=
  { sampleTask with
    id := "task-2"
    recordDigest := String.ofList (List.replicate 64 'b')
    roleId := "role-2"
    parentTaskId := some "task-1"
    notAfter := ⟨"", 40⟩ }

theorem delegatedRun_created : (createRun delegatingPrimitives openGates sampleSession
      (initialSystem delegatingPrimitives sampleSession "store"
        fun _ : Unit => sampleSession).db (.manifest delegatingManifest) "run-1"
      [.task sampleTask, .task delegatedTask] 1 1).answer = .ok "" := by
  generalize hcall : createRun delegatingPrimitives openGates = call
  delta createRun admitManifest admitTasks checkTask TeamRecord.validate
    TeamRecord.schemaOk AgentTeamManifest.schemaOk TeamRole.schemaOk TeamTask.schemaOk
    TaskBudget.schemaOk Binding.schemaOk at hcall
  rw [matchesId_eq, matchesDigest_eq] at hcall
  subst hcall
  rfl

theorem delegation_narrows_iff_delegated :
    Within sampleTask delegatedTask ∧
      (assertAcyclic 10 [sampleTask, delegatedTask] = .ok () ↔
        GraphClosed [sampleTask, delegatedTask] ∧
          GraphAcyclic [sampleTask, delegatedTask]) := by
  obtain ⟨tasks, htasks, hnodup, hclosed, hacyclic, -, hwithin⟩ :=
    (delegation_narrows_iff delegatingPrimitives).1 _ _ _ _ _ _ _ _ _
      delegatedRun_created
  obtain rfl : [sampleTask, delegatedTask] = tasks :=
    List.map_injective_iff.mpr (fun _ _ h => TeamRecord.task.inj h) htasks
  refine ⟨hwithin delegatedTask (by simp) sampleTask
    (.single ⟨by simp, rfl⟩), ?_⟩
  refine ((delegation_narrows_iff delegatingPrimitives).2 _ hnodup).mpr ?_
  intro hclosed hacyclic
  refine (assertAcyclic_complete hnodup hclosed hacyclic).mp ?_
  rfl

/-! ## A chain that outgrows the stack -/

/-- Identifiers that fit the schema: the first of them comes first in every order. -/
def chainChars (k : ℕ) : List Char :=
  List.replicate (k / 100) 'b' ++ List.replicate (k % 100 + 1) 'a'

def chainId (k : ℕ) : String := String.ofList (chainChars k)

/-- Every task but the last depends on the next one. -/
def chainTask (n k : ℕ) : TeamTask :=
  { sampleTask with
    id := chainId k
    dependencies := if k < n then [chainId (k + 1)] else [] }

def taskChain (n : ℕ) : List TeamTask := (List.range (n + 1)).map (chainTask n)

theorem chainId_injective : Function.Injective chainId := by
  intro j k h
  have hchars : chainChars j = chainChars k := String.ofList_injective h
  have hb : (chainChars j).count 'b' = (chainChars k).count 'b' := by rw [hchars]
  have ha : (chainChars j).count 'a' = (chainChars k).count 'a' := by rw [hchars]
  simp only [chainChars, List.count_append, List.count_replicate] at ha hb
  simp at ha hb
  omega

theorem nodup_chain (n : ℕ) : ((taskChain n).map (·.id)).Nodup := by
  rw [taskChain, List.map_map]
  exact List.nodup_range.map chainId_injective

theorem mem_chain {n : ℕ} : task ∈ taskChain n ↔ ∃ k ≤ n, task = chainTask n k := by
  simp only [taskChain, List.mem_map, List.mem_range, Nat.lt_succ_iff]
  constructor
  · rintro ⟨k, hk, rfl⟩
    exact ⟨k, hk, rfl⟩
  · rintro ⟨k, hk, rfl⟩
    exact ⟨k, hk, rfl⟩

theorem edges_chain {n k : ℕ} :
    (chainTask n k).edges = if k < n then [chainId (k + 1)] else [] := by
  simp [TeamTask.edges, chainTask, sampleTask]

theorem unionRelation_chain {n : ℕ} {a b : String} :
    UnionRelation (taskChain n) a b ↔ ∃ k < n, a = chainId k ∧ b = chainId (k + 1) := by
  constructor
  · rintro ⟨task, hmem, rfl, hb⟩
    obtain ⟨k, -, rfl⟩ := mem_chain.mp hmem
    rw [edges_chain] at hb
    split at hb
    · next hk => exact ⟨k, hk, rfl, List.mem_singleton.mp hb⟩
    · cases hb
  · rintro ⟨k, hk, rfl, rfl⟩
    refine ⟨chainTask n k, mem_chain.mpr ⟨k, hk.le, rfl⟩, rfl, ?_⟩
    rw [edges_chain, if_pos hk]
    exact List.mem_singleton_self _

theorem graphClosed_chain (n : ℕ) : GraphClosed (taskChain n) := by
  intro task hmem id hid
  obtain ⟨k, -, rfl⟩ := mem_chain.mp hmem
  rw [edges_chain] at hid
  split at hid
  · next hk =>
      rw [List.mem_singleton.mp hid]
      exact List.mem_map.mpr ⟨chainTask n (k + 1), mem_chain.mpr ⟨k + 1, hk, rfl⟩, rfl⟩
  · cases hid

theorem graphAcyclic_chain (n : ℕ) : GraphAcyclic (taskChain n) := by
  have hgrow : ∀ a b, TransGen (UnionRelation (taskChain n)) a b →
      ∃ j k, j < k ∧ a = chainId j ∧ b = chainId k := by
    intro a b h
    induction h with
    | single hstep =>
      obtain ⟨k, -, rfl, rfl⟩ := unionRelation_chain.mp hstep
      exact ⟨k, k + 1, Nat.lt_succ_self k, rfl, rfl⟩
    | tail _ hstep ih =>
      obtain ⟨j, k, hjk, rfl, hk⟩ := ih
      obtain ⟨l, -, hl, rfl⟩ := unionRelation_chain.mp hstep
      obtain rfl := chainId_injective (hk.symm.trans hl)
      exact ⟨j, k + 1, Nat.lt_succ_of_lt hjk, rfl, rfl⟩
  intro id hcycle
  obtain ⟨j, k, hjk, hj, hk⟩ := hgrow id id hcycle
  have := chainId_injective (hj.symm.trans hk)
  omega

theorem successors_chain {n k : ℕ} (hk : k < n) :
    successors (taskChain n) (chainId k) = [chainId (k + 1)] := by
  have h := successors_of_mem (nodup_chain n) (mem_chain.mpr ⟨k, hk.le, rfl⟩)
  rw [edges_chain, if_pos hk] at h
  exact h

theorem deep_chain {n k d : ℕ} (h : k + d = n) {done : String → Prop}
    (hdone : ∀ j, ¬ done (chainId j)) :
    DepthFirst.Deep (successors (taskChain n)) d done (chainId k) := by
  induction d generalizing k done with
  | zero => exact DepthFirst.deep_zero
  | succ d ih =>
    rw [DepthFirst.deep_succ]
    refine ⟨hdone k, [], chainId (k + 1), [], successors_chain (by omega), ?_⟩
    refine ih (by omega) ?_
    rintro j (hj | ⟨b, hb, -⟩)
    · exact hdone j hj
    · cases hb

theorem chainId_zero_le (k : ℕ) : chainId 0 ≤ chainId k := by
  rw [String.le_iff_toList_le]
  simp only [chainId, String.toList_ofList, chainChars]
  have hfirst : List.replicate (0 / 100) 'b' ++ List.replicate (0 % 100 + 1) 'a' =
    ['a'] := rfl
  rw [hfirst]
  cases k / 100 with
  | zero =>
    rw [List.replicate_zero, List.nil_append, List.replicate_succ]
    cases k % 100 with
    | zero => exact le_rfl
    | succ r => exact le_of_lt (List.Lex.cons List.Lex.nil)
  | succ q =>
    rw [List.replicate_succ, List.cons_append]
    exact le_of_lt (List.Lex.rel (by decide))

theorem sortedIds_chain (n : ℕ) : ∃ rest, sortedIds (taskChain n) = chainId 0 :: rest := by
  have hids : (taskChain n).map (·.id) =
      chainId 0 :: ((List.range n).map fun k => chainId (k + 1)) := by
    rw [taskChain, List.range_succ_eq_map, List.map_map, List.map_cons, List.map_map]
    rfl
  rw [sortedIds, hids, List.insertionSort_cons_of_forall_rel]
  · exact ⟨_, rfl⟩
  · intro id hid
    obtain ⟨k, -, rfl⟩ := List.mem_map.mp hid
    exact chainId_zero_le (k + 1)

theorem tooDeep_chain (n : ℕ) : TooDeep n (taskChain n) := by
  obtain ⟨rest, hsorted⟩ := sortedIds_chain n
  refine ⟨[], chainId 0, rest, hsorted, deep_chain (Nat.zero_add n) ?_⟩
  rintro j ⟨b, hb, -⟩
  cases hb

/-- **A chain of 1001 tasks** is closed and has no cycle, and is refused where the
interpreter has 1000 frames. -/
theorem long_chain_refused :
    GraphClosed (taskChain 1000) ∧ GraphAcyclic (taskChain 1000) ∧
      assertAcyclic 1000 (taskChain 1000) ≠ .ok () := by
  refine ⟨graphClosed_chain 1000, graphAcyclic_chain 1000, ?_⟩
  intro h
  exact (assertAcyclic_complete (nodup_chain 1000) (graphClosed_chain 1000)
    (graphAcyclic_chain 1000)).mp h (tooDeep_chain 1000)

end Ecosystem.Teams
