import Ecosystem.Teams.Authentication

/-!
# Dependencies of claimed tasks

The dependencies of a task are looked at when it is claimed.  They stay met: a task that
has succeeded is terminal, and a handoff is recorded only where there is none yet.
-/

namespace Ecosystem.Teams

open Ecosystem.Lib Relation

/-! ## Handoffs -/

def handoffsBetween (t : TeamTables) (runId fromTaskId toTaskId : String) :
    List ((String × String) × HandoffRow) :=
  t.handoffs.select fun k row => k.1 = runId && row.fromTaskId = fromTaskId &&
    row.toTaskId = toTaskId

theorem handoffBetween_eq (t : TeamTables) (r a b : String) :
    handoffBetween t r a b = (handoffsBetween t r a b).head?.map Prod.snd := rfl

theorem handoffsBetween_of_none {t : TeamTables} {r a b : String}
    (h : handoffBetween t r a b = none) : handoffsBetween t r a b = [] := by
  rw [handoffBetween_eq, Option.map_eq_none_iff, List.head?_eq_none_iff] at h
  exact h

structure DependencyMet (t : TeamTables) (k : String × String)
    (dependency : String) (handoff : (String × String) × HandoffRow) : Prop where
  succeeded : ∃ row, t.tasks.get? (k.1, dependency) = some row ∧
    row.status = .succeeded
  single : handoffsBetween t k.1 dependency k.2 = [handoff]

structure DependencyInv (w : World) : Prop where
  bound : ∀ k row, w.tables.tasks.get? k = some row →
    row.document.runId = k.1 ∧ row.document.id = k.2
  single : ∀ r a b, (handoffsBetween w.tables r a b).length ≤ 1
  met : ∀ k row, w.tables.tasks.get? k = some row → 0 < row.attempt →
    ∀ dependency ∈ row.document.dependencies,
      ∃ handoff, DependencyMet w.tables k dependency handoff ∧
        handoff.2.artifactDigest = row.document.input.digest

section Moves

variable {W E : Type} {prim : Primitives W E} {w w' : World}

theorem move_handoffs (h : Move prim w w') (r a b : String) :
    handoffsBetween w'.tables r a b = handoffsBetween w.tables r a b ∨
      handoffsBetween w.tables r a b = [] ∧ ∃ e, handoffsBetween w'.tables r a b = [e] := by
  cases h with
  | create hmanifest _ htasks =>
    left
    dsimp only [handoffsBetween]
    rw [(insertTasks_spec htasks).frame, (insertManifest_spec hmanifest).1]
  | start _ _ hroute =>
    left
    rw [(consumeRoute_spec hroute).1]
    rfl
  | @handoff handoff _ _ _ _ _ _ _ _ _ hnew hinsert =>
    dsimp only [handoffsBetween, Table.select]
    rw [(Table.insert?_eq_some hinsert).2, List.filter_append]
    by_cases hmatch : handoff.runId = r ∧ handoff.fromTaskId = a ∧
        handoff.toTaskId = b
    · obtain ⟨rfl, rfl, rfl⟩ := hmatch
      have hnone := handoffsBetween_of_none hnew
      dsimp only [handoffsBetween, Table.select] at hnone
      rw [hnone, List.nil_append, List.filter_cons_of_pos (by simp), List.filter_nil]
      exact .inr ⟨rfl, _, rfl⟩
    · left
      rw [List.filter_cons_of_neg (by simpa [and_assoc] using hmatch),
        List.filter_nil, List.append_nil]
  | _ => exact .inl rfl

theorem DependencyMet.move {k : String × String} {dependency : String}
    {handoff : (String × String) × HandoffRow}
    (hmet : DependencyMet w.tables k dependency handoff) (h : Move prim w w') :
    DependencyMet w'.tables k dependency handoff := by
  obtain ⟨row, hrow, hstatus⟩ := hmet.succeeded
  obtain ⟨row', hrow', hmoved⟩ := move_row h hrow
  refine ⟨⟨row', hrow', ?_⟩, ?_⟩
  · rw [hmoved.step.terminal (by rw [hstatus]; rfl)]
    exact hstatus
  · rcases move_handoffs h k.1 dependency k.2 with hsame | ⟨hnil, -⟩
    · rw [hsame]
      exact hmet.single
    · rw [hmet.single] at hnil
      cases hnil

theorem met_of_dependenciesReady (hi : DependencyInv w) {k : String × String}
    {row : TaskRow} (hrow : w.tables.tasks.get? k = some row)
    (hready : dependenciesReady w.tables row.document = true)
    {dependency : String} (hmem : dependency ∈ row.document.dependencies) :
    ∃ handoff, DependencyMet w.tables k dependency handoff ∧
      handoff.2.artifactDigest = row.document.input.digest := by
  obtain ⟨hrun, hid⟩ := hi.bound k row hrow
  have hone := List.all_eq_true.mp hready dependency hmem
  rw [Bool.and_eq_true, hrun, hid, handoffBetween_eq] at hone
  obtain ⟨source, hsource, hstatus⟩ := (Option.any_eq_true _ _).mp hone.1
  obtain ⟨found, hfound, hdigest⟩ := (Option.any_eq_true _ _).mp hone.2
  obtain ⟨handoff, hhead, rfl⟩ := Option.map_eq_some_iff.mp hfound
  refine ⟨handoff, ⟨⟨source, hsource, of_decide_eq_true hstatus⟩, ?_⟩,
    of_decide_eq_true hdigest⟩
  have hsingle := hi.single k.1 dependency k.2
  match hlist : handoffsBetween w.tables k.1 dependency k.2 with
  | [] => rw [hlist] at hhead; cases hhead
  | [e] =>
    rw [hlist] at hhead
    obtain rfl := Option.some.inj hhead
    rfl
  | e :: e' :: rest =>
    rw [hlist, List.length_cons, List.length_cons] at hsingle
    omega

theorem RowStep.attempt {row row' : TaskRow} (h : RowStep row row') :
    row'.attempt = row.attempt ∨ row.status = .pending ∧ row'.status = .leased := by
  cases h with
  | lease _ _ _ hpending => exact .inr ⟨hpending, rfl⟩
  | _ => exact .inl rfl

theorem insertTasks_rows {runId : String} {tasks : List TeamTask}
    {t t' : TeamTables} (h : tasks.foldlM (insertTask runId) t = .ok t') :
    (∀ k row, t'.tasks.get? k = some row → t.tasks.get? k = some row ∨
      ∃ task ∈ tasks, k = (runId, task.id) ∧ row = freshRow task) ∧
    ∀ task ∈ tasks, t'.tasks.get? (runId, task.id) = some (freshRow task) := by
  induction tasks generalizing t with
  | nil =>
    cases h
    exact ⟨fun _ _ h => .inl h, by simp⟩
  | cons task tasks ih =>
    rw [List.foldlM_cons] at h
    obtain ⟨t₁, hinsert, hrest⟩ := bind_eq_ok.mp h
    obtain ⟨hrows, hall⟩ := ih hrest
    unfold insertTask at hinsert
    split at hinsert
    · cases hinsert
    split at hinsert
    · cases hinsert
    next rows hnew =>
    cases hinsert
    refine ⟨?_, ?_⟩
    · intro k row hrow
      rcases hrows k row hrow with hold | ⟨other, hother, hk, hfresh⟩
      · rw [Table.get?_insert? hnew] at hold
        split at hold
        · next hk =>
            cases hold
            exact .inr ⟨task, List.mem_cons_self, hk, rfl⟩
        · exact .inl hold
      · exact .inr ⟨other, List.mem_cons_of_mem _ hother, hk, hfresh⟩
    · intro other hother
      rcases List.mem_cons.mp hother with rfl | hother
      · refine (insertTasks_spec hrest).kept _ _ ?_
        rw [Table.get?_insert? hnew, if_pos rfl]
      · exact hall other hother

theorem move_row_admitted (h : Move prim w w') {k : String × String}
    {row' : TaskRow} (hrow' : w'.tables.tasks.get? k = some row') :
    (∃ row, w.tables.tasks.get? k = some row ∧ RowMoved w w' row row') ∨
      w.tables.runs.get? k.1 = none ∧ ∃ manifest tasks task,
        Admitted manifest k.1 tasks ∧ task ∈ tasks ∧ k.2 = task.id ∧
          row' = freshRow task := by
  rcases move_row_cases h hrow' with hold | ⟨hfree, ⟨run, hrun⟩, -⟩
  · exact .inl hold
  · cases h with
    | @create t₁ t' manifest runId runs tasks hmanifest hinsert htasks hadmitted =>
      have hframe := (insertManifest_spec hmanifest).1
      rcases (insertTasks_rows htasks).1 k row' hrow' with
        hold | ⟨task, hmem, rfl, rfl⟩
      · rw [hframe] at hold
        exact .inl ⟨row', hold, rowMoved_same w _ row'⟩
      · exact .inr ⟨hfree, manifest, tasks, task, hadmitted, hmem, rfl, rfl⟩
    | start _ _ hroute =>
      rw [(consumeRoute_spec hroute).1] at hrun
      rw [show w.tables.runs.get? k.1 = some run from hrun] at hfree
      cases hfree
    | @cancel _ run' _ _ _ hruns =>
      subst hruns
      dsimp only [TeamTables.updateRun] at hrun
      rw [Table.get?_modify, hfree] at hrun
      split at hrun <;> cases hrun
    | finalize =>
      dsimp only at hrun
      rw [Table.get?_modify, hfree] at hrun
      split at hrun <;> cases hrun
    | _ =>
      rw [show w.tables.runs.get? k.1 = some run from hrun] at hfree
      cases hfree

theorem dependencyInv_move (w w' : World) (hi : DependencyInv w)
    (h : Move prim w w') : DependencyInv w' := by
  refine ⟨?_, ?_, ?_⟩
  · intro k row' hrow'
    rcases move_row_admitted h hrow' with
      ⟨row, hrow, hmoved⟩ | ⟨-, manifest, tasks, task, ha, hmem, hid, rfl⟩
    · rw [hmoved.step.document.1]
      exact hi.bound k row hrow
    · exact ⟨ha.bound task hmem, hid.symm⟩
  · intro r a b
    rcases move_handoffs h r a b with hsame | ⟨-, e, hone⟩
    · rw [hsame]
      exact hi.single r a b
    · rw [hone]
      exact Nat.le_refl 1
  · intro k row' hrow' hattempt dependency hmem
    suffices hmet : ∃ handoff, DependencyMet w.tables k dependency handoff ∧
        handoff.2.artifactDigest = row'.document.input.digest by
      obtain ⟨handoff, hmet, hdigest⟩ := hmet
      exact ⟨handoff, hmet.move h, hdigest⟩
    rcases move_row_cases h hrow' with ⟨row, hrow, hmoved⟩ | ⟨-, -, task, rfl⟩
    · rw [hmoved.step.document.1] at hmem ⊢
      rcases hmoved.step.attempt with hsame | ⟨hpending, hleased⟩
      · rw [hsame] at hattempt
        exact hi.met k row hrow hattempt dependency hmem
      · -- only a claim leases a pending row, and it has looked at the dependencies
        cases h with
        | @claim _ _ row₁ claim _ _ hrow₁ _ hready =>
          rw [get?_updateTask] at hrow'
          split at hrow'
          · next hk =>
              subst hk
              obtain rfl : row = row₁ := Option.some.inj (hrow.symm.trans hrow₁)
              exact met_of_dependenciesReady hi hrow hready hmem
          · obtain rfl : row = row' := Option.some.inj (hrow.symm.trans hrow')
            rw [hpending] at hleased
            cases hleased
        | _ => exact absurd hleased (hmoved.unclaimed rfl hpending)
    · cases hattempt

theorem dependencyInv_empty (issued : List LeaseClaim)
    (started : List StartRecord) : DependencyInv ⟨{}, issued, started⟩ := by
  refine ⟨?_, ?_, ?_⟩
  · intro k row hrow; cases hrow
  · intro r a b; exact Nat.zero_le 1
  · intro k row hrow; cases hrow

/-! ## What a result says -/

def SuccessTrue (w : World) : Prop :=
  ∀ r run result, w.tables.runs.get? r = some run →
    run.resultDocument = some result → result.status = .succeeded →
      ∀ k row, k.1 = r → w.tables.tasks.get? k = some row →
        row.status = .succeeded

theorem summaryStatus_succeeded {statuses : List TaskStatus}
    (h : summaryStatus statuses = .succeeded) :
    ∀ status ∈ statuses, status = .succeeded := by
  unfold summaryStatus at h
  split at h
  · cases h
  split at h
  · next hall =>
      intro status hmem
      exact of_decide_eq_true (List.all_eq_true.mp hall status hmem)
  · split at h
    · cases h
    split at h <;> cases h

theorem successTrue_move (w w' : World) (hi : BudgetInv w ∧ SuccessTrue w)
    (h : Move prim w w') : BudgetInv w' ∧ SuccessTrue w' := by
  refine ⟨budgetInv_move w w' hi.1 h, ?_⟩
  rintro r run' result hrun' hresult hstatus k row' rfl hrow'
  rcases move_result h hrun' hresult with
    ⟨run, hrun, hold⟩ | ⟨htasks, -, run, resultId, createdAt, rfl⟩
  · rw [move_closed_rows h hrun (fun k' row hk hrow => by
      rw [← hk] at hrun
      exact hi.1.results.terminal k' row run hrow hrun (by rw [hold]; rfl))
      rfl] at hrow'
    exact hi.2 k.1 run result hrun hold hstatus k row' rfl hrow'
  · rw [htasks] at hrow'
    exact summaryStatus_succeeded hstatus _
      (List.mem_map.mpr ⟨(k.2, row'), mem_runRows hrow', rfl⟩)

end Moves

end Ecosystem.Teams
