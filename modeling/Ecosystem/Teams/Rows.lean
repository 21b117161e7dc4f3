import Ecosystem.Teams.System

/-!
# What a move does to a row

`RowStep` lists the changes of one task row.  A move changes a row by such a step or
writes a fresh row for a new run; runs keep their limits, and manifests stay.
-/

namespace Ecosystem.Teams

open Ecosystem.Lib

/-! ## Steps of a row -/

inductive RowStep : TaskRow → TaskRow → Prop
  | same (row : TaskRow) : RowStep row row
  | lease {row : TaskRow} (workerDigest leaseHash : String) (expiresUs : ℤ)
      (hpending : row.status = .pending) :
      RowStep row (row.lease workerDigest leaseHash expiresUs)
  | start {row : TaskRow} (hleased : row.status = .leased) : RowStep row row.start
  | complete {row : TaskRow} (result : TaskEffectResult)
      (hstarted : row.status = .started)
      (htokens : result.usedTokens ≤ row.reservedTokens)
      (hcost : result.usedCostMicrousd ≤ row.reservedCost) :
      RowStep row (row.complete result)
  | charge {row : TaskRow} {status : TaskStatus} (hstarted : row.status = .started)
      (hstatus : status = .ambiguous ∨ status = .cancelled) :
      RowStep row (row.chargeReserved status)
  | release {row : TaskRow} (hleased : row.status = .leased) :
      RowStep row row.release
  | cancel {row : TaskRow} (hidle : row.status = .pending ∨ row.status = .leased) :
      RowStep row row.cancel
  | flag {row : TaskRow} (hstarted : row.status = .started) :
      RowStep row { row with cancellationRequested := true }

theorem RowStep.terminal {row row' : TaskRow} (h : RowStep row row')
    (hterminal : row.status.isTerminal = true) : row' = row := by
  cases h with
  | same => rfl
  | lease _ _ _ hpending => rw [hpending] at hterminal; cases hterminal
  | start hleased | release hleased => rw [hleased] at hterminal; cases hterminal
  | complete _ hstarted | charge hstarted | flag hstarted =>
    rw [hstarted] at hterminal; cases hterminal
  | cancel hidle =>
    rcases hidle with hidle | hidle <;> rw [hidle] at hterminal <;>
      cases hterminal

theorem RowStep.document {row row' : TaskRow} (h : RowStep row row') :
    row'.document = row.document ∧ row'.digest = row.digest := by
  cases h <;> exact ⟨rfl, rfl⟩

theorem rowStep_expire (row : TaskRow) (us : ℤ) : RowStep row (row.expire us) := by
  unfold TaskRow.expire
  split
  · next h => exact .charge h.1 (.inl rfl)
  · split
    · next h => exact .release h.1
    · exact .same row

theorem rowStep_requestCancel (row : TaskRow) : RowStep row row.requestCancel := by
  unfold TaskRow.requestCancel
  split
  · next h => exact .cancel h
  · split
    · next h => exact .flag h
    · exact .same row

/-! ## Reading rows after an update -/

theorem get?_updateTask (t : TeamTables) (k k' : String × String)
    (f : TaskRow → TaskRow) :
    (t.updateTask k f).tasks.get? k' =
      if k' = k then (t.tasks.get? k').map f else t.tasks.get? k' :=
  Table.get?_modify t.tasks k k' f

theorem get?_updateRun (t : TeamTables) (runId : String) (f : TaskRow → TaskRow)
    (k : String × String) :
    (t.updateRun runId f).tasks.get? k =
      (t.tasks.get? k).map fun row => if k.1 = runId then f row else row :=
  Table.get?_update t.tasks _ k

/-! ## The tables of a new run -/

theorem insertManifest_spec {t t₁ : TeamTables} {manifest : AgentTeamManifest}
    (h : insertManifest t manifest = .ok t₁) :
    t₁ = { t with manifests := t₁.manifests } ∧
      (∀ k row, t.manifests.get? k = some row → t₁.manifests.get? k = some row) ∧
      (t₁.manifests.get? manifest.id).map (·.digest) =
        some manifest.recordDigest := by
  simp only [insertManifest] at h
  split at h
  · cases h
  next hdigest =>
  cases h
  refine ⟨rfl, ?_, not_not.mp hdigest⟩
  intro k row hrow
  dsimp only
  unfold insertOrIgnore
  split
  · exact hrow
  · cases hinsert : t.manifests.insert? manifest.id
        ⟨manifest.projectId, manifest.authority.teamId,
          manifest.recordDigest, manifest⟩ with
    | none => exact hrow
    | some manifests => exact Table.get?_insert?_of_some hinsert hrow

structure TasksInserted (runId : String) (t t' : TeamTables) : Prop where
  frame : t' = { t with tasks := t'.tasks }
  kept : ∀ k row, t.tasks.get? k = some row → t'.tasks.get? k = some row
  fresh : ∀ k row, t'.tasks.get? k = some row →
    t.tasks.get? k = some row ∨ k.1 = runId ∧ ∃ task, row = freshRow task

theorem insertTasks_spec {runId : String} {tasks : List TeamTask}
    {t t' : TeamTables} (h : tasks.foldlM (insertTask runId) t = .ok t') :
    TasksInserted runId t t' := by
  induction tasks generalizing t with
  | nil =>
    cases h
    exact ⟨rfl, fun _ _ h => h, fun _ _ h => .inl h⟩
  | cons task tasks ih =>
    rw [List.foldlM_cons] at h
    obtain ⟨t₁, hinsert, hrest⟩ := bind_eq_ok.mp h
    unfold insertTask at hinsert
    split at hinsert
    · cases hinsert
    split at hinsert
    · cases hinsert
    next rows hrows =>
    cases hinsert
    have hspec := ih hrest
    refine ⟨hspec.frame, ?_, ?_⟩
    · intro k row hrow
      exact hspec.kept k row (Table.get?_insert?_of_some hrows hrow)
    · intro k row hrow
      rcases hspec.fresh k row hrow with hrow | hnew
      · rw [Table.get?_insert? hrows] at hrow
        split at hrow
        · next hk =>
            cases hrow
            exact .inr ⟨by rw [hk], task, rfl⟩
        · exact .inl hrow
      · exact .inr hnew

theorem consumeRoute_spec {t t₁ : TeamTables} {task : TeamTask} {us : ℤ}
    (h : consumeRoute t task us = .ok t₁) :
    t₁ = { t with consumedRoutes := t₁.consumedRoutes } ∧
      (∀ r row, t.consumedRoutes.get? r = some row →
        t₁.consumedRoutes.get? r = some row) ∧
      ∀ route, task.routeDecision = some route →
        t.consumedRoutes.get? route.digest = none ∧
          t₁.consumedRoutes.get? route.digest = some ⟨task.recordDigest, us⟩ := by
  unfold consumeRoute at h
  split at h
  · next hnone =>
      cases h
      refine ⟨rfl, fun _ _ h => h, fun route hroute => ?_⟩
      rw [hnone] at hroute
      cases hroute
  · next route hroute =>
      split at h
      · cases h
      split at h
      · cases h
      next routes hinsert =>
      cases h
      refine ⟨rfl, fun r row hrow => Table.get?_insert?_of_some hinsert hrow,
        fun route' hroute' => ?_⟩
      obtain rfl : route = route' := Option.some.inj (hroute.symm.trans hroute')
      refine ⟨(Table.insert?_eq_some hinsert).1, ?_⟩
      dsimp only
      rw [Table.get?_insert? hinsert, if_pos rfl]

section Moves

variable {W E : Type} {prim : Primitives W E} {w w' : World}

/-! ## Task rows -/

structure RowMoved (w w' : World) (row row' : TaskRow) : Prop where
  step : RowStep row row'
  unclaimed : w'.issued = w.issued → row.status = .pending →
    row'.status ≠ .leased

theorem rowMoved_same (w w' : World) (row : TaskRow) : RowMoved w w' row row where
  step := .same row
  unclaimed := by
    rintro - hpending hleased
    rw [hpending] at hleased
    cases hleased

def RowsMapped (w w' : World) : Prop :=
  ∀ k, ∃ f : TaskRow → TaskRow, w'.tables.tasks.get? k = (w.tables.tasks.get? k).map f ∧
      ∀ row, w.tables.tasks.get? k = some row → RowMoved w w' row (f row)

theorem rowsMapped_same (h : w'.tables.tasks = w.tables.tasks) : RowsMapped w w' :=
  fun k => ⟨id, by rw [h, Option.map_id_fun, id], fun row _ => rowMoved_same w w' row⟩

theorem rowsMapped_one {key : String × String} {f : TaskRow → TaskRow}
    {row : TaskRow} (hrow : w.tables.tasks.get? key = some row)
    (hstep : RowMoved w w' row (f row))
    (hget : ∀ k, w'.tables.tasks.get? k =
      if k = key then (w.tables.tasks.get? k).map f else w.tables.tasks.get? k) :
    RowsMapped w w' := by
  intro k
  by_cases hk : k = key
  · refine ⟨f, by rw [hget, if_pos hk], fun row' hrow' => ?_⟩
    obtain rfl : row = row' := by
      rw [hk, hrow] at hrow'
      exact Option.some.inj hrow'
    exact hstep
  · exact ⟨id, by rw [hget, if_neg hk, Option.map_id_fun, id],
      fun row _ => rowMoved_same w w' row⟩

theorem rowsMapped_run {runId : String} {f : TaskRow → TaskRow}
    (hf : ∀ row, RowMoved w w' row (f row))
    (hget : ∀ k, w'.tables.tasks.get? k = (w.tables.tasks.get? k).map fun row =>
      if k.1 = runId then f row else row) : RowsMapped w w' := by
  intro k
  refine ⟨_, hget k, fun row _ => ?_⟩
  split
  · exact hf row
  · exact rowMoved_same w w' row

theorem rowMoved_of_step {row row' : TaskRow} (hstep : RowStep row row')
    (hstatus : row.status ≠ .pending) : RowMoved w w' row row' :=
  ⟨hstep, fun _ hpending => absurd hpending hstatus⟩

theorem rowMoved_expire (w w' : World) (row : TaskRow) (us : ℤ) :
    RowMoved w w' row (row.expire us) := by
  refine ⟨rowStep_expire row us, ?_⟩
  rintro - hpending
  simp [TaskRow.expire, hpending]

theorem rowMoved_requestCancel (w w' : World) (row : TaskRow) :
    RowMoved w w' row row.requestCancel := by
  refine ⟨rowStep_requestCancel row, ?_⟩
  rintro - hpending
  simp [TaskRow.requestCancel, hpending, TaskRow.cancel]

structure TasksCreated (w w' : World) (runId : String) : Prop where
  unknown : w.tables.runs.get? runId = none
  known : ∃ run, w'.tables.runs.get? runId = some run
  kept : ∀ k row, w.tables.tasks.get? k = some row →
    w'.tables.tasks.get? k = some row
  fresh : ∀ k row, w'.tables.tasks.get? k = some row →
    w.tables.tasks.get? k = some row ∨ k.1 = runId ∧ ∃ task, row = freshRow task

theorem move_tasks (h : Move prim w w') :
    (∃ runId, TasksCreated w w' runId) ∨ RowsMapped w w' := by
  cases h with
  | @create t₁ t' manifest runId _ _ hmanifest hrun htasks =>
    obtain ⟨hframe, -, -⟩ := insertManifest_spec hmanifest
    have hspec := insertTasks_spec htasks
    have hold : t₁.tasks = w.tables.tasks := by rw [hframe]
    refine .inl ⟨runId, ⟨?_, ⟨newRun manifest, ?_⟩, ?_, ?_⟩⟩
    · rw [hframe] at hrun
      exact (Table.insert?_eq_some hrun).1
    · dsimp only
      rw [hspec.frame, Table.get?_insert? hrun, if_pos rfl]
    · intro k row hrow
      exact hspec.kept k row (by rw [← hold] at hrow; exact hrow)
    · intro k row hrow
      have := hspec.fresh k row hrow
      rw [show ({ t₁ with runs := _ } : TeamTables).tasks = w.tables.tasks
        from hold] at this
      exact this
  | expire runId us =>
    exact .inr (rowsMapped_run (fun row => rowMoved_expire w _ row us)
      (get?_updateRun w.tables runId _))
  | claim _ _ hrow hpending =>
    refine .inr (rowsMapped_one hrow ⟨.lease _ _ _ hpending, fun h => ?_⟩
      (fun k => get?_updateTask w.tables _ k _))
    simp at h
  | @start _ row _ _ _ hrow _ hroute =>
    obtain ⟨hget, -, -, -, -, -, hstatus⟩ := assertClaim_eq_ok hrow
    have hleased : row.status = .leased := by simpa using hstatus
    have hframe := (consumeRoute_spec hroute).1
    refine .inr (rowsMapped_one (f := TaskRow.start) hget
      (rowMoved_of_step (.start hleased) (by rw [hleased]; simp)) fun k => ?_)
    rw [get?_updateTask, hframe]
  | complete hrow hstarted htokens hcost =>
    exact .inr (rowsMapped_one (assertClaim_eq_ok hrow).1
      (rowMoved_of_step (.complete _ hstarted htokens hcost)
        (by rw [hstarted]; simp))
      (fun k => get?_updateTask w.tables _ k _))
  | charge hrow hstarted hstatus =>
    exact .inr (rowsMapped_one (assertClaim_eq_ok hrow).1
      (rowMoved_of_step (.charge hstarted hstatus) (by rw [hstarted]; simp))
      (fun k => get?_updateTask w.tables _ k _))
  | cancel =>
    exact .inr (rowsMapped_run (fun row => rowMoved_requestCancel w _ row)
      (get?_updateRun { w.tables with runs := _ } _ _))
  | handoff | finalize => exact .inr (rowsMapped_same rfl)

theorem move_row (h : Move prim w w') {k : String × String} {row : TaskRow}
    (hrow : w.tables.tasks.get? k = some row) :
    ∃ row', w'.tables.tasks.get? k = some row' ∧ RowMoved w w' row row' := by
  rcases move_tasks h with ⟨_, hcreated⟩ | hmap
  · exact ⟨row, hcreated.kept k row hrow, rowMoved_same w w' row⟩
  · obtain ⟨f, hf, hstep⟩ := hmap k
    exact ⟨f row, by rw [hf, hrow]; rfl, hstep row hrow⟩

/-- The row under a key comes from the row there before, or it is a fresh row of
a new run. -/
theorem move_row_cases (h : Move prim w w') {k : String × String} {row' : TaskRow}
    (hrow' : w'.tables.tasks.get? k = some row') :
    (∃ row, w.tables.tasks.get? k = some row ∧ RowMoved w w' row row') ∨
      w.tables.runs.get? k.1 = none ∧ (∃ run, w'.tables.runs.get? k.1 = some run) ∧
        ∃ task, row' = freshRow task := by
  rcases move_tasks h with ⟨runId, hcreated⟩ | hmap
  · rcases hcreated.fresh k row' hrow' with hrow | ⟨hk, htask⟩
    · exact .inl ⟨row', hrow, rowMoved_same w w' row'⟩
    · rw [hk]
      exact .inr ⟨hcreated.unknown, hcreated.known, htask⟩
  · obtain ⟨f, hf, hstep⟩ := hmap k
    rw [hf] at hrow'
    obtain ⟨row, hrow, rfl⟩ := Option.map_eq_some_iff.mp hrow'
    exact .inl ⟨row, hrow, hstep row hrow⟩

/-! ## Runs and manifests -/

theorem move_manifest (h : Move prim w w') {k : String} {row : ManifestRow}
    (hrow : w.tables.manifests.get? k = some row) :
    w'.tables.manifests.get? k = some row := by
  cases h with
  | create hmanifest _ htasks =>
    obtain ⟨-, hkept, -⟩ := insertManifest_spec hmanifest
    have hframe := (insertTasks_spec htasks).frame
    rw [show ({ w with tables := _ } : World).tables = _ from rfl, hframe]
    exact hkept k row hrow
  | start _ _ hroute =>
    have hframe := (consumeRoute_spec hroute).1
    rw [hframe]
    exact hrow
  | _ => exact hrow

/-- What a move keeps of a run. -/
def RunRow.SameLimits (run run' : RunRow) : Prop :=
  run'.maxTokens = run.maxTokens ∧ run'.maxCost = run.maxCost ∧
    run'.manifestId = run.manifestId

/-- A run keeps its limits; a new one has those of its manifest. -/
structure RunsMoved (t t' : TeamTables) : Prop where
  kept : ∀ r run, t.runs.get? r = some run →
    ∃ run' : RunRow, t'.runs.get? r = some run' ∧ RunRow.SameLimits run run'
  cases : ∀ r run', t'.runs.get? r = some run' →
    (∃ run, t.runs.get? r = some run ∧ RunRow.SameLimits run run') ∨
      t.runs.get? r = none ∧ ∃ manifest, run' = newRun manifest ∧
        (t'.manifests.get? manifest.id).map (·.digest) = some manifest.recordDigest

theorem runsMoved_same {t t' : TeamTables} (h : t'.runs = t.runs) :
    RunsMoved t t' where
  kept := by
    rw [h]
    exact fun r run hrun => ⟨run, hrun, rfl, rfl, rfl⟩
  cases := by
    rw [h]
    exact fun r run hrun => .inl ⟨run, hrun, rfl, rfl, rfl⟩

theorem runsMoved_modify {t t' : TeamTables} {runId : String}
    {f : RunRow → RunRow} (h : t'.runs = t.runs.modify runId f)
    (hf : ∀ run, RunRow.SameLimits run (f run)) : RunsMoved t t' where
  kept := by
    intro r run hrun
    rw [h, Table.get?_modify, hrun]
    split
    · exact ⟨f run, rfl, hf run⟩
    · exact ⟨run, rfl, rfl, rfl, rfl⟩
  cases := by
    intro r run' hrun'
    rw [h, Table.get?_modify] at hrun'
    split at hrun'
    · obtain ⟨run, hrun, rfl⟩ := Option.map_eq_some_iff.mp hrun'
      exact .inl ⟨run, hrun, hf run⟩
    · exact .inl ⟨run', hrun', rfl, rfl, rfl⟩

theorem move_runs (h : Move prim w w') : RunsMoved w.tables w'.tables := by
  cases h with
  | @create t₁ t' manifest runId runs _ hmanifest hrun htasks =>
    obtain ⟨hframe, -, hdigest⟩ := insertManifest_spec hmanifest
    have hframe' := (insertTasks_spec htasks).frame
    have hruns : t'.runs = runs := by rw [hframe']
    have hold : t₁.runs = w.tables.runs := by rw [hframe]
    have hmanifests : t'.manifests = t₁.manifests := by rw [hframe']
    rw [hold] at hrun
    refine ⟨?_, ?_⟩
    · intro r run hr
      dsimp only
      rw [hruns]
      exact ⟨run, Table.get?_insert?_of_some hrun hr, rfl, rfl, rfl⟩
    · intro r run' hr
      dsimp only at hr ⊢
      rw [hruns, Table.get?_insert? hrun] at hr
      split at hr
      · next heq =>
          obtain rfl := Option.some.inj hr
          refine .inr ⟨by rw [heq]; exact (Table.insert?_eq_some hrun).1, manifest, rfl, ?_⟩
          rw [hmanifests]
          exact hdigest
      · exact .inl ⟨run', hr, rfl, rfl, rfl⟩
  | start _ _ hroute =>
    have hframe := (consumeRoute_spec hroute).1
    exact runsMoved_same (by rw [hframe]; rfl)
  | cancel _ _ hruns => exact runsMoved_modify hruns fun _ => ⟨rfl, rfl, rfl⟩
  | @finalize runId _ result =>
    exact runsMoved_modify (f := fun run =>
      { run with status := result.status, resultDocument := some result }) rfl
      fun _ => ⟨rfl, rfl, rfl⟩
  | _ => exact runsMoved_same rfl

theorem move_result (h : Move prim w w') {r : String} {run' : RunRow}
    {result : TeamRunResult} (hrun' : w'.tables.runs.get? r = some run')
    (hresult : run'.resultDocument = some result) :
    (∃ run, w.tables.runs.get? r = some run ∧ run.resultDocument = some result) ∨
    w'.tables.tasks = w.tables.tasks ∧
      (∀ e ∈ runRows w.tables r, e.2.status.isTerminal = true) ∧
      ∃ run resultId createdAt, result = sealResult prim
        (runResult run r resultId createdAt (runRows w.tables r)) := by
  cases h with
  | create hmanifest hrun htasks =>
    obtain ⟨hframe, -, -⟩ := insertManifest_spec hmanifest
    have hframe' := (insertTasks_spec htasks).frame
    rw [hframe] at hrun
    dsimp only at hrun'
    rw [hframe', Table.get?_insert? hrun] at hrun'
    split at hrun'
    · obtain rfl := Option.some.inj hrun'
      cases hresult
    · exact .inl ⟨run', hrun', hresult⟩
  | start _ _ hroute =>
    have hframe := (consumeRoute_spec hroute).1
    rw [hframe] at hrun'
    exact .inl ⟨run', hrun', hresult⟩
  | cancel _ _ hruns =>
    subst hruns
    dsimp only [TeamTables.updateRun] at hrun'
    rw [Table.get?_modify] at hrun'
    split at hrun'
    · obtain ⟨run, hrun, rfl⟩ := Option.map_eq_some_iff.mp hrun'
      exact .inl ⟨run, hrun, hresult⟩
    · exact .inl ⟨run', hrun', hresult⟩
  | @finalize runId run result' resultId createdAt hrun _ _ hterminal hseal =>
    dsimp only at hrun'
    rw [Table.get?_modify] at hrun'
    split at hrun'
    · next hr =>
        obtain ⟨run₀, -, rfl⟩ := Option.map_eq_some_iff.mp hrun'
        obtain rfl := Option.some.inj hresult
        subst hr
        exact .inr ⟨rfl, hterminal, run, resultId, createdAt, hseal⟩
    · exact .inl ⟨run', hrun', hresult⟩
  | _ => exact .inl ⟨run', hrun', hresult⟩

end Moves

end Ecosystem.Teams
