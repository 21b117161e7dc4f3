import Ecosystem.Teams.Rows

/-!
# The budget of a team run

A claim reserves the budget of its task, and the other transitions release the
reservation, charge it or zero it.  `RowSound` ties the status of a row to its columns;
every transition but a claim lowers what a row uses.
-/

namespace Ecosystem.Teams

open Ecosystem.Lib Relation

/-! ## Rows -/

/-- Only leased and started rows reserve, and only terminal rows are charged. -/
structure RowSound (row : TaskRow) : Prop where
  reserved : row.reservedTokens ≠ 0 ∨ row.reservedCost ≠ 0 →
    row.status = .leased ∨ row.status = .started
  charged : row.chargedTokens ≠ 0 ∨ row.chargedCost ≠ 0 →
    row.status.isTerminal = true

theorem rowSound_fresh (task : TeamTask) : RowSound (freshRow task) := by
  constructor <;> rintro (h | h) <;> exact absurd rfl h

variable {row : TaskRow}

theorem RowSound.charged_zero (h : RowSound row) (hopen : row.status.isTerminal = false) :
    row.chargedTokens = 0 ∧ row.chargedCost = 0 := by
  by_contra hne
  rw [not_and_or] at hne
  rw [h.charged hne] at hopen
  cases hopen

theorem RowSound.reserved_zero (h : RowSound row)
    (hleased : row.status ≠ .leased) (hstarted : row.status ≠ .started) :
    row.reservedTokens = 0 ∧ row.reservedCost = 0 := by
  by_contra hne
  rw [not_and_or] at hne
  rcases h.reserved hne with h | h
  · exact hleased h
  · exact hstarted h

theorem rowSound_of_terminal (hterminal : row.status.isTerminal = true)
    (htokens : row.reservedTokens = 0) (hcost : row.reservedCost = 0) :
    RowSound row where
  reserved := by
    rintro (h | h)
    · exact absurd htokens h
    · exact absurd hcost h
  charged := fun _ => hterminal

theorem TaskEffectResult.status_terminal (result : TaskEffectResult) :
    result.status.isTerminal = true := by
  unfold TaskEffectResult.status
  split <;> rfl

theorem RowStep.sound {row row' : TaskRow} (h : RowStep row row')
    (hsound : RowSound row) : RowSound row' := by
  have hopen : ∀ {st : TaskStatus}, row.status = st → st.isTerminal = false →
      row.chargedTokens = 0 ∧ row.chargedCost = 0 := by
    intro st hst hst'
    exact hsound.charged_zero (by rw [hst]; exact hst')
  cases h with
  | same => exact hsound
  | lease _ _ _ hpending =>
    refine ⟨fun _ => .inl rfl, fun h => ?_⟩
    obtain ⟨ht, hc⟩ := hopen hpending rfl
    rcases h with h | h
    · exact absurd ht h
    · exact absurd hc h
  | start hleased =>
    refine ⟨fun _ => .inr rfl, fun h => ?_⟩
    obtain ⟨ht, hc⟩ := hopen hleased rfl
    rcases h with h | h
    · exact absurd ht h
    · exact absurd hc h
  | complete result _ _ _ =>
    exact rowSound_of_terminal result.status_terminal rfl rfl
  | charge _ hstatus =>
    refine rowSound_of_terminal ?_ rfl rfl
    rcases hstatus with rfl | rfl <;> rfl
  | release hleased =>
    refine ⟨fun h => ?_, fun h => ?_⟩
    · rcases h with h | h <;> exact absurd rfl h
    · obtain ⟨ht, hc⟩ := hopen hleased rfl
      rcases h with h | h
      · exact absurd ht h
      · exact absurd hc h
  | cancel => exact rowSound_of_terminal rfl rfl rfl
  | flag hstarted => exact ⟨fun _ => .inr hstarted, hsound.charged⟩

theorem RowStep.usage_le {row row' : TaskRow} (h : RowStep row row')
    (hclaim : row.status = .pending → row'.status ≠ .leased) :
    row'.tokens ≤ row.tokens ∧ row'.cost ≤ row.cost := by
  cases h with
  | same | start | flag => exact ⟨Nat.le_refl _, Nat.le_refl _⟩
  | lease _ _ _ hpending => exact absurd rfl (hclaim hpending)
  | complete result _ htokens hcost =>
    simp only [TaskRow.tokens, TaskRow.cost, TaskRow.complete]
    omega
  | charge =>
    simp only [TaskRow.tokens, TaskRow.cost, TaskRow.chargeReserved]
    omega
  | release =>
    simp only [TaskRow.tokens, TaskRow.cost, TaskRow.release]
    omega
  | cancel =>
    simp only [TaskRow.tokens, TaskRow.cost, TaskRow.cancel]
    omega

/-! ## Sums over a run -/

theorem usage_le {t t' : TeamTables} {r : String} {f : TaskRow → ℕ}
    (h : ∀ k row', k.1 = r → t'.tasks.get? k = some row' →
      f row' ≤ (t.tasks.get? k).elim 0 f) :
    usage t' r f ≤ usage t r f := by
  refine Table.sumBy_le_sumBy fun k row' hrow' => ?_
  split
  · next hk =>
      refine (h k row' hk hrow').trans ?_
      cases t.tasks.get? k with
      | none | some row => exact Nat.le_refl _
  · exact Nat.zero_le _

theorem usage_mono (t : TeamTables) (r : String) {f g : TaskRow → ℕ}
    (h : ∀ row, f row ≤ g row) : usage t r f ≤ usage t r g := by
  refine Table.sumBy_le_sumBy fun k row hrow => ?_
  rw [hrow, Option.elim_some]
  split
  · exact h row
  · exact Nat.le_refl _

theorem usage_congr {t t' : TeamTables} {r : String} {f : TaskRow → ℕ}
    (h : ∀ k, k.1 = r → t'.tasks.get? k = t.tasks.get? k) :
    usage t' r f = usage t r f := by
  refine Table.sumBy_congr fun k => ?_
  by_cases hk : k.1 = r
  · rw [h k hk]
  · cases t'.tasks.get? k <;> cases t.tasks.get? k <;> simp [hk]

theorem sum_runRows (t : TeamTables) (r : String) (f : TaskRow → ℕ) :
    ((runRows t r).map fun e => f e.2).sum = usage t r f := by
  have hperm := ((t.tasks.select fun k _ => k.1 = r).map
    fun e => (e.1.2, e.2)).perm_insertionSort fun a b => a.1 ≤ b.1
  rw [runRows, (hperm.map _).sum_eq, List.map_map, usage, Table.sumBy, Table.select]
  induction t.tasks.entries with
  | nil => rfl
  | cons e entries ih =>
    by_cases he : e.1.1 = r
    · rw [List.filter_cons_of_pos (by simpa using he)]
      simp only [List.map_cons, List.sum_cons, Function.comp_apply, ih, if_pos he]
    · rw [List.filter_cons_of_neg (by simpa using he), ih]
      simp only [List.map_cons, List.sum_cons, if_neg he, Nat.zero_add]

theorem mem_runRows {t : TeamTables} {k : String × String}
    (h : t.tasks.get? k = some row) : (k.2, row) ∈ runRows t k.1 := by
  rw [runRows, List.mem_insertionSort]
  refine List.mem_map.mpr ⟨(k, row), ?_, rfl⟩
  exact List.mem_filter.mpr ⟨Table.mem_entries.mpr h, by simp⟩

/-! ## The invariant -/

/-- The budget of every run is respected, and the columns tell the truth. -/
structure BudgetSafe (t : TeamTables) : Prop where
  tokens : ∀ r run, t.runs.get? r = some run →
    usage t r TaskRow.tokens ≤ run.maxTokens
  cost : ∀ r run, t.runs.get? r = some run →
    usage t r TaskRow.cost ≤ run.maxCost
  rows : ∀ k row, t.tasks.get? k = some row → RowSound row
  /-- the limits of a run are those of the manifest that it was created with -/
  manifest : ∀ r run, t.runs.get? r = some run →
    ∃ m : AgentTeamManifest, run.maxTokens = m.maxTotalTokens ∧
      run.maxCost = m.maxCostMicrousd ∧
      (t.manifests.get? run.manifestId).map (·.digest) = some m.recordDigest

structure ResultSafe (t : TeamTables) : Prop where
  terminal : ∀ k row run, t.tasks.get? k = some row →
    t.runs.get? k.1 = some run → run.resultDocument.isSome →
      row.status.isTerminal = true
  usage : ∀ r run result, t.runs.get? r = some run →
    run.resultDocument = some result →
      result.usageTokens = usage t r (·.chargedTokens) ∧
        result.usageCostMicrousd = usage t r (·.chargedCost)

def TasksOwned (t : TeamTables) : Prop :=
  ∀ k row, t.tasks.get? k = some row → ∃ run, t.runs.get? k.1 = some run

structure BudgetInv (w : World) : Prop where
  safe : BudgetSafe w.tables
  results : ResultSafe w.tables
  owned : TasksOwned w.tables

section Moves

variable {W E : Type} {prim : Primitives W E} {w w' : World}

theorem tasksOwned_move (hi : TasksOwned w.tables) (h : Move prim w w') :
    TasksOwned w'.tables := by
  intro k row' hrow'
  have hruns := move_runs h
  rcases move_row_cases h hrow' with ⟨row, hrow, -⟩ | ⟨-, hnew, -⟩
  · obtain ⟨run, hrun⟩ := hi k row hrow
    obtain ⟨run', hrun', -⟩ := hruns.kept _ run hrun
    exact ⟨run', hrun'⟩
  · exact hnew

theorem move_usage_le (h : Move prim w w') (hissued : w'.issued = w.issued) (r : String) :
    usage w'.tables r TaskRow.tokens ≤ usage w.tables r TaskRow.tokens ∧
      usage w'.tables r TaskRow.cost ≤ usage w.tables r TaskRow.cost := by
  have hrow : ∀ k row', w'.tables.tasks.get? k = some row' →
      row'.tokens ≤ (w.tables.tasks.get? k).elim 0 TaskRow.tokens ∧
        row'.cost ≤ (w.tables.tasks.get? k).elim 0 TaskRow.cost := by
    intro k row' hrow'
    rcases move_row_cases h hrow' with ⟨row, hget, hmoved⟩ | ⟨-, -, task, rfl⟩
    · rw [hget]
      exact hmoved.step.usage_le (hmoved.unclaimed hissued)
    · exact ⟨Nat.zero_le _, Nat.zero_le _⟩
  exact ⟨usage_le fun k row' _ hrow' => (hrow k row' hrow').1,
    usage_le fun k row' _ hrow' => (hrow k row' hrow').2⟩

variable {k : String × String} {r : String}

theorem usage_updateTask {t : TeamTables} {row : TaskRow}
    (hrow : t.tasks.get? k = some row) (f : TaskRow → TaskRow) (g : TaskRow → ℕ) :
    usage (t.updateTask k f) k.1 g + g row = usage t k.1 g + g (f row) := by
  have := Table.sumBy_modify hrow f fun k' row => if k'.1 = k.1 then g row else 0
  simpa [usage, TeamTables.updateTask] using this

theorem usage_updateTask_of_ne {t : TeamTables}
    (hr : r ≠ k.1) (f : TaskRow → TaskRow) (g : TaskRow → ℕ) :
    usage (t.updateTask k f) r g = usage t r g := by
  refine usage_congr fun k' hk' => ?_
  rw [get?_updateTask, if_neg]
  rintro rfl
  exact hr hk'.symm

theorem usage_within_move (hi : BudgetInv w) (h : Move prim w w')
    {run : RunRow} (hrun : w.tables.runs.get? r = some run) :
    usage w'.tables r TaskRow.tokens ≤ run.maxTokens ∧
      usage w'.tables r TaskRow.cost ≤ run.maxCost := by
  have hquiet : w'.issued = w.issued →
      usage w'.tables r TaskRow.tokens ≤ run.maxTokens ∧
        usage w'.tables r TaskRow.cost ≤ run.maxCost := by
    intro hissued
    obtain ⟨htokens, hcost⟩ := move_usage_le h hissued r
    exact ⟨htokens.trans (hi.safe.tokens r run hrun), hcost.trans (hi.safe.cost r run hrun)⟩
  cases h with
  | @claim run' manifest row claim hcontext _ hrow hpending _ htokens hcost =>
    by_cases hr : r = claim.runId
    · subst hr
      obtain rfl : run = run' :=
        Option.some.inj (hrun.symm.trans (context_eq_ok hcontext).1)
      have hreserved := (hi.safe.rows _ row hrow).reserved_zero
        (by rw [hpending]; simp) (by rw [hpending]; simp)
      have hcharged := (hi.safe.rows _ row hrow).charged_zero
        (by rw [hpending]; rfl)
      have hzero : row.tokens = 0 ∧ row.cost = 0 := by
        simp [TaskRow.tokens, TaskRow.cost, hreserved, hcharged]
      have hlease : ∀ worker hash us,
          (row.lease worker hash us).tokens = row.document.budget.maxTokens ∧
            (row.lease worker hash us).cost =
              row.document.budget.maxCostMicrousd := by
        simp [TaskRow.tokens, TaskRow.cost, TaskRow.lease, hcharged]
      have hsum := usage_updateTask hrow (·.lease claim.workerDigest
        (prim.claimHash claim.leaseToken) (prim.epoch claim.leaseExpiresAt))
      have hsumTokens := hsum TaskRow.tokens
      have hsumCost := hsum TaskRow.cost
      rw [hzero.1, (hlease _ _ _).1] at hsumTokens
      rw [hzero.2, (hlease _ _ _).2] at hsumCost
      dsimp only at hsumTokens hsumCost ⊢
      omega
    · dsimp only
      rw [usage_updateTask_of_ne hr, usage_updateTask_of_ne hr]
      exact ⟨hi.safe.tokens r run hrun, hi.safe.cost r run hrun⟩
  | _ => exact hquiet rfl

theorem usage_new_run (hi : BudgetInv w) (h : Move prim w w')
    (hfree : w.tables.runs.get? r = none) (f : TaskRow → ℕ)
    (hf : ∀ task, f (freshRow task) = 0) : usage w'.tables r f = 0 := by
  rw [← Nat.le_zero]
  refine (usage_le (t := w.tables) fun k row' hk hrow' => ?_).trans ?_
  · rcases move_row_cases h hrow' with ⟨row, hrow, -⟩ | ⟨-, -, task, rfl⟩
    · obtain ⟨run, hrun⟩ := hi.owned k row hrow
      rw [hk, hfree] at hrun
      cases hrun
    · rw [hf]
      exact Nat.zero_le _
  · refine (@Table.sumBy_le_sumBy _ _ _ _ (Table.empty : Table (String × String) _) _
    (fun _ _ => 0) fun k row hrow => ?_).trans (Nat.le_refl 0)
    rw [if_neg]
    · exact Nat.zero_le _
    · rintro rfl
      obtain ⟨run, hrun⟩ := hi.owned k row hrow
      rw [hfree] at hrun
      cases hrun

theorem budgetSafe_move (hi : BudgetInv w) (h : Move prim w w') : BudgetSafe w'.tables := by
  have hruns := move_runs h
  have hwithin : ∀ r run', w'.tables.runs.get? r = some run' →
      usage w'.tables r TaskRow.tokens ≤ run'.maxTokens ∧
        usage w'.tables r TaskRow.cost ≤ run'.maxCost := by
    intro r run' hrun'
    rcases hruns.cases r run' hrun' with ⟨run, hrun, htokens, hcost, -⟩ | ⟨hfree, -⟩
    · rw [htokens, hcost]
      exact usage_within_move hi h hrun
    · rw [usage_new_run hi h hfree TaskRow.tokens fun _ => rfl,
        usage_new_run hi h hfree TaskRow.cost fun _ => rfl]
      exact ⟨Nat.zero_le _, Nat.zero_le _⟩
  refine ⟨fun r run' hrun' => (hwithin r run' hrun').1,
    fun r run' hrun' => (hwithin r run' hrun').2, ?_, ?_⟩
  · intro k row' hrow'
    rcases move_row_cases h hrow' with ⟨row, hrow, hmoved⟩ | ⟨-, -, task, rfl⟩
    · exact hmoved.step.sound (hi.safe.rows k row hrow)
    · exact rowSound_fresh task
  · intro r run' hrun'
    rcases hruns.cases r run' hrun' with
      ⟨run, hrun, htokens, hcost, hid⟩ | ⟨-, manifest, rfl, hdigest⟩
    · obtain ⟨m, hm⟩ := hi.safe.manifest r run hrun
      obtain ⟨row, hrow, hdigest⟩ := Option.map_eq_some_iff.mp hm.2.2
      refine ⟨m, htokens.trans hm.1, hcost.trans hm.2.1, ?_⟩
      rw [hid, move_manifest h hrow]
      exact congrArg some hdigest
    · exact ⟨manifest, rfl, rfl, hdigest⟩

theorem move_closed_rows (h : Move prim w w') {run : RunRow}
    (hrun : w.tables.runs.get? r = some run)
    (hclosed : ∀ k row, k.1 = r → w.tables.tasks.get? k = some row →
      row.status.isTerminal = true) (hk : k.1 = r) :
    w'.tables.tasks.get? k = w.tables.tasks.get? k := by
  cases hrow' : w'.tables.tasks.get? k with
  | some row' =>
    rcases move_row_cases h hrow' with ⟨row, hrow, hmoved⟩ | ⟨hfree, -⟩
    · rw [hrow, hmoved.step.terminal (hclosed k row hk hrow)]
    · rw [hk, hrun] at hfree
      cases hfree
  | none =>
    cases hrow : w.tables.tasks.get? k with
    | none => rfl
    | some row =>
      obtain ⟨row', hrow'', -⟩ := move_row h hrow
      rw [hrow'] at hrow''
      cases hrow''

theorem resultSafe_move (hi : BudgetInv w) (h : Move prim w w') : ResultSafe w'.tables := by
  have hclosed : ∀ {r run}, w.tables.runs.get? r = some run →
      run.resultDocument.isSome → ∀ k row, k.1 = r →
        w.tables.tasks.get? k = some row → row.status.isTerminal = true := by
    rintro r run hrun hsome k row rfl hrow
    exact hi.results.terminal k row run hrow hrun hsome
  refine ⟨?_, ?_⟩
  · intro k row' run' hrow' hrun' hsome
    obtain ⟨result, hresult⟩ := Option.isSome_iff_exists.mp hsome
    rcases move_result h hrun' hresult with
      ⟨run, hrun, hold⟩ | ⟨htasks, hterminal, -⟩
    · have hrows := hclosed hrun (by rw [hold]; rfl)
      rw [move_closed_rows h hrun hrows rfl] at hrow'
      exact hrows k row' rfl hrow'
    · rw [htasks] at hrow'
      exact hterminal _ (mem_runRows hrow')
  · intro r run' result hrun' hresult
    rcases move_result h hrun' hresult with
      ⟨run, hrun, hold⟩ | ⟨htasks, -, run, resultId, createdAt, rfl⟩
    · have hsame : ∀ k : String × String, k.1 = r →
          w'.tables.tasks.get? k = w.tables.tasks.get? k :=
        fun k hk => move_closed_rows h hrun (hclosed hrun (by rw [hold]; rfl)) hk
      rw [usage_congr hsame, usage_congr hsame]
      exact hi.results.usage r run result hrun hold
    · have hsame : ∀ k : String × String, k.1 = r →
          w'.tables.tasks.get? k = w.tables.tasks.get? k :=
        fun k _ => by rw [htasks]
      rw [usage_congr hsame, usage_congr hsame]
      exact ⟨sum_runRows w.tables r (·.chargedTokens),
        sum_runRows w.tables r (·.chargedCost)⟩

theorem budgetInv_move (w w' : World) (hi : BudgetInv w) (h : Move prim w w') :
    BudgetInv w' :=
  ⟨budgetSafe_move hi h, resultSafe_move hi h, tasksOwned_move hi.owned h⟩

end Moves

theorem budgetInv_empty (issued : List LeaseClaim) (started : List StartRecord) :
    BudgetInv ⟨{}, issued, started⟩ := by
  refine ⟨⟨?_, ?_, ?_, ?_⟩, ⟨?_, ?_⟩, ?_⟩
  · intro r run hrun; cases hrun
  · intro r run hrun; cases hrun
  · intro k row hrow; cases hrow
  · intro r run hrun; cases hrun
  · intro k row run hrow; cases hrow
  · intro r run result hrun; cases hrun
  · intro k row hrow; cases hrow

/-! ## Every interleaving -/

section Runs

variable {ι W E : Type} [DecidableEq ι] (prim : Primitives W E)

theorem budgetInv_after (maker : Session) (storeId : String)
    (sessions : ι → Session) (actions : List (TeamAction ι W E)) :
    BudgetInv ((initialSystem prim maker storeId sessions).after prim actions).world :=
  after_induction (s := initialSystem prim maker storeId sessions) budgetInv_move
    (budgetInv_empty [] []) actions

theorem finalizeRun_stored {ses : Session} {db : TeamDb} {runId resultId : String}
    {now clock : ℤ} {result : TeamRunResult}
    (h : (finalizeRun prim ses db runId resultId now clock).answer = .ok result) :
    ∃ run, (finalizeRun prim ses db runId resultId now
      clock).db.tables.runs.get? runId = some run ∧ run.resultDocument = some result := by
  generalize hout : finalizeRun prim ses db runId resultId now clock = out at h ⊢
  rcases timed_cases hout with ⟨-, err, herr⟩ | hrest
  · rw [herr] at h
    cases h
  · rcases transaction_cases hrest.symm with
      ⟨hdb, hanswer⟩ | ⟨answer, t', hbody, hok, ht⟩
    · have hbody := hanswer result h
      rw [hdb]
      unfold finalizeBody at hbody
      split at hbody
      · cases hbody
      next run manifest hcontext =>
      split at hbody
      · next result' hstored =>
          split at hbody
          · cases hbody
          cases hbody
          exact ⟨run, (context_eq_ok hcontext).1, hstored⟩
      · dsimp only at hbody
        split at hbody
        · cases hbody
        split at hbody <;> cases hbody
    · obtain rfl : answer = result := by
        rw [hok] at h
        exact Except.ok.inj h
      rw [ht]
      unfold finalizeBody at hbody
      split at hbody
      · cases hbody
      next run manifest hcontext =>
      split at hbody
      · split at hbody <;> cases hbody
      dsimp only at hbody
      split at hbody
      · cases hbody
      split at hbody
      · cases hbody
      cases hbody
      dsimp only
      rw [Table.get?_modify_self, (context_eq_ok hcontext).1]
      exact ⟨_, rfl, rfl⟩

/-- **Team budgets.**  Whatever the workers, clocks and gates do, in every
interleaving of the coordinators' operations: what the tasks of a run reserve
and are charged stays within the limits of its manifest, only leased and started
tasks reserve, only terminal tasks are charged, and the usage that
`finalize_run` reports is the sum of the charges and so within the limits. -/
theorem team_budget_safe (maker : Session) (storeId : String)
    (sessions : ι → Session) (actions : List (TeamAction ι W E)) (i : ι) :
    let s := (initialSystem prim maker storeId sessions).after prim actions
    BudgetSafe s.db.tables ∧
    ∀ runId resultId now clock result,
      let out := finalizeRun prim (s.sessions i) s.db runId resultId now clock
      out.answer = .ok result →
        ∃ run, out.db.tables.runs.get? runId = some run ∧
          result.usageTokens = usage out.db.tables runId (·.chargedTokens) ∧
          result.usageCostMicrousd = usage out.db.tables runId (·.chargedCost) ∧
          result.usageTokens ≤ run.maxTokens ∧
          result.usageCostMicrousd ≤ run.maxCost := by
  intro s
  refine ⟨(budgetInv_after prim maker storeId sessions actions).safe, ?_⟩
  intro runId resultId now clock result out hok
  obtain ⟨run, hrun, hstored⟩ := finalizeRun_stored prim hok
  -- the call is one more step of the system
  have hi := budgetInv_after prim maker storeId sessions
    (actions ++ [.finalizeRun i runId resultId now clock])
  rw [TeamSystem.after, List.foldl_append] at hi
  have hi' : BudgetInv ⟨out.db.tables, s.issued, s.started⟩ := hi
  obtain ⟨htokens, hcost⟩ := hi'.results.usage runId run result hrun hstored
  refine ⟨run, hrun, htokens, hcost, ?_, ?_⟩
  · rw [htokens]
    exact (usage_mono _ _ fun row => Nat.le_add_left _ _).trans
      (hi'.safe.tokens runId run hrun)
  · rw [hcost]
    exact (usage_mono _ _ fun row => Nat.le_add_left _ _).trans
      (hi'.safe.cost runId run hrun)

end Runs

/-! ## A run that is charged -/

def sampleDigest : String := String.ofList (List.replicate 64 'a')

/-- Digests that are not told apart, and a clock in microseconds. -/
def samplePrimitives : Primitives Unit Unit where
  semanticDigest := fun _ => sampleDigest
  bindingDigest := fun _ => "worker"
  claimHash := id
  claimDigest := fun _ hash _ => hash
  routeEvidence := fun _ => none
  epoch := id
  fromEpoch := id
  timeText := fun _ => ""
  stateDigest := fun _ _ => ""
  authMac := fun _ _ _ _ => ""
  eventDigest := fun _ _ _ => ""
  eventMac := fun _ _ _ => ""
  runDigest := fun _ _ _ => ""
  recursionLimit := 10

def openGates : Gates Unit Unit where
  manifestCurrent := fun _ _ => .ok ()
  claimCurrent := fun _ _ _ _ => .ok ""
  authorize := fun _ task _ _ _ => .ok ⟨"allow", task.recordDigest, "", "", ""⟩
  assertCurrent := fun _ _ _ _ _ _ => .ok ()

def sampleSession : Session :=
  { hmacKey := "", keyId := "key-1", sealId := 0, lastObserved := 0 }

def sampleManifest : AgentTeamManifest where
  id := "team-1"
  projectId := "project-1"
  createdAt := ⟨"", 0⟩
  recordDigest := sampleDigest
  authority := ⟨"t", "s", sampleDigest, sampleDigest, sampleDigest⟩
  roles := [
    { id := "role-1"
      principal := ⟨"PrincipalIdentity", "p", sampleDigest⟩
      membership := ⟨"MembershipBinding", "m", sampleDigest⟩
      actions := ["code.execute"]
      dataClasses := [.d0]
      toolIds := []
      zones := ["zone"]
      notAfter := ⟨"", 100⟩
      budget := ⟨10, 10, 60⟩
      delegatesTo := [] }]
  maxTasks := 1
  maxTotalTokens := 10
  maxCostMicrousd := 10
  deadline := ⟨"", 100⟩

def sampleTask : TeamTask where
  id := "task-1"
  teamId := "t"
  projectId := "project-1"
  runId := "run-1"
  createdAt := ⟨"", 0⟩
  recordDigest := sampleDigest
  roleId := "role-1"
  parentTaskId := none
  action := "code.execute"
  dataClass := .d0
  toolId := none
  zone := "zone"
  environmentId := "e"
  resource := ⟨"project", "r", sampleDigest⟩
  notAfter := ⟨"", 50⟩
  budget := ⟨10, 10, 60⟩
  input := ⟨"k", "i", sampleDigest⟩
  dependencies := []
  routeDecision := none

def sampleClaim : LeaseClaim :=
  ⟨"run-1", "task-1", sampleDigest, "worker", "token-1", 50, 1⟩

def sampleAuthorization : ExecutionAuthorization Unit where
  runId := "run-1"
  taskId := "task-1"
  taskDigest := sampleDigest
  claimDigest := "token-1"
  authorization := ⟨"allow", sampleDigest, "", "", ""⟩
  evidence := ()
  expiresAt := 50
  sealId := 0

/-- A task is claimed, begun and given up. -/
def sampleActions : List (TeamAction Unit Unit Unit) :=
  [.createRun () openGates (.manifest sampleManifest) "run-1" [.task sampleTask]
      1 1,
    .claimTask () openGates "run-1" "task-1" () 2 2 60 "token-1",
    .startEffect () openGates sampleClaim sampleAuthorization () 3 3,
    .markAmbiguous () sampleClaim 4 4]

def sampleSystem : TeamSystem Unit :=
  (initialSystem samplePrimitives sampleSession "store"
    fun _ => sampleSession).after samplePrimitives sampleActions

def sampleFinal : Outcome TeamRunResult :=
  finalizeRun samplePrimitives (sampleSystem.sessions ()) sampleSystem.db "run-1"
    "result-1" 5 5

/-- The started task was given up, so the run is charged all that it reserved. -/
theorem team_budget_safe_charged_run :
    ∃ result, sampleFinal.answer = .ok result ∧ result.usageTokens = 10 ∧
      ∃ run, sampleFinal.db.tables.runs.get? "run-1" = some run ∧
        result.usageTokens ≤ run.maxTokens := by
  have hsafe : ∀ result, sampleFinal.answer = .ok result →
      ∃ run, sampleFinal.db.tables.runs.get? "run-1" = some run ∧
        result.usageTokens ≤ run.maxTokens := by
    unfold sampleFinal sampleSystem
    intro result hok
    obtain ⟨run, hrun, -, -, hle, -⟩ := (team_budget_safe samplePrimitives
      sampleSession "store" (fun _ => sampleSession) sampleActions ()).2 "run-1"
        "result-1" 5 5 result hok
    exact ⟨run, hrun, hle⟩
  have hanswer : sampleFinal.answer.toOption.map (·.usageTokens) = some 10 := by
    generalize hfinal : sampleFinal = final
    delta sampleFinal sampleSystem TeamSystem.after TeamSystem.step createRun admitManifest
      admitTasks checkTask TeamRecord.validate TeamRecord.schemaOk
      AgentTeamManifest.schemaOk TeamRole.schemaOk TeamTask.schemaOk TaskBudget.schemaOk
      Binding.schemaOk at hfinal
    rw [matchesId_eq, matchesDigest_eq] at hfinal
    subst hfinal
    decide +kernel
  obtain ⟨result, hresult, husage⟩ := Option.map_eq_some_iff.mp hanswer
  have hok : sampleFinal.answer = .ok result := by
    match hout : sampleFinal.answer with
    | .error err => rw [hout] at hresult; cases hresult
    | .ok answer => rw [hout] at hresult; cases hresult; rfl
  exact ⟨result, hok, husage, hsafe result hok⟩

end Ecosystem.Teams
