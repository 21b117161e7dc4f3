import Ecosystem.Teams.Dependencies

/-!
# Every run can be closed

`cancel_run` leaves no pending and no leased task, and none comes back; an expiry past
every lease makes the started tasks ambiguous.  All tasks are terminal, and the record
that `finalize_run` builds passes its own validation.
-/

namespace Ecosystem.Teams

open Ecosystem.Lib Relation

/-! ## What rows keep ready for the end -/

/-- The columns that the end of a run reads. -/
structure RowClosable (row : TaskRow) : Prop where
  lease : row.status = .started → ∃ us, row.leaseExpiresUs = some us
  leased : row.status = .leased → ∃ us, row.leaseExpiresUs = some us
  digest : row.outcomeDigest.all matchesDigest = true
  outcome : row.status = .succeeded ∨ row.status = .failed →
    row.outcomeDigest.isSome = true

theorem rowClosable_of_status {row : TaskRow}
    (hdigest : row.outcomeDigest.all matchesDigest = true)
    (hstatus : row.status = .pending ∨ row.status = .cancelled ∨
      row.status = .ambiguous) : RowClosable row := by
  refine ⟨fun h => ?_, fun h => ?_, hdigest, fun h => ?_⟩
  · rw [h] at hstatus
    simp at hstatus
  · rw [h] at hstatus
    simp at hstatus
  · rcases h with h | h <;> rw [h] at hstatus <;> simp at hstatus

theorem rowClosable_fresh (task : TeamTask) : RowClosable (freshRow task) :=
  rowClosable_of_status rfl (.inl rfl)

theorem TaskEffectResult.matchesDigest (result : TaskEffectResult) :
    matchesDigest result.outcomeDigest = true := by
  obtain ⟨hlength, hall⟩ := result.outcome_ok
  have hbody : patternBody result.outcomeDigest = result.outcomeDigest.toList := by
    rw [patternBody, if_neg]
    intro hlast
    have hmem := List.mem_of_getLast? hlast
    have hbad := List.all_eq_true.mp hall '\n' hmem
    revert hbad
    decide
  rw [Teams.matchesDigest, hbody, hlength, hall]
  rfl

theorem RowStep.closable {row row' : TaskRow} (h : RowStep row row')
    (hrow : RowClosable row) : RowClosable row' := by
  cases h with
  | same => exact hrow
  | lease _ _ us =>
    refine ⟨fun h => ?_, fun _ => ⟨us, rfl⟩, hrow.digest, fun h => ?_⟩
    · cases h
    · rcases h with h | h <;> cases h
  | start hleased =>
    refine ⟨fun _ => hrow.leased hleased, fun h => ?_, hrow.digest, fun h => ?_⟩
    · cases h
    · rcases h with h | h <;> cases h
  | complete result =>
    refine ⟨fun h => ?_, fun h => ?_, result.matchesDigest, fun _ => rfl⟩
    · have hterminal := result.status_terminal
      rw [show result.status = .started from h] at hterminal
      cases hterminal
    · have hterminal := result.status_terminal
      rw [show result.status = .leased from h] at hterminal
      cases hterminal
  | charge _ hstatus =>
    refine rowClosable_of_status hrow.digest ?_
    rcases hstatus with rfl | rfl
    · exact .inr (.inr rfl)
    · exact .inr (.inl rfl)
  | release => exact rowClosable_of_status hrow.digest (.inl rfl)
  | cancel => exact rowClosable_of_status hrow.digest (.inr (.inl rfl))
  | flag => exact ⟨hrow.lease, hrow.leased, hrow.digest, hrow.outcome⟩

/-- The task waits for a worker or for its effect to begin. -/
def TaskRow.Idle (row : TaskRow) : Prop :=
  row.status = .pending ∨ row.status = .leased

theorem RowStep.idle {row row' : TaskRow} (h : RowStep row row')
    (hidle : row'.Idle) : row.Idle := by
  cases h with
  | same | flag => exact hidle
  | lease _ _ _ hpending => exact .inl hpending
  | start => rcases hidle with h | h <;> cases h
  | complete result =>
    have hterminal := result.status_terminal
    rcases hidle with h | h
    · rw [show result.status = .pending from h] at hterminal
      cases hterminal
    · rw [show result.status = .leased from h] at hterminal
      cases hterminal
  | charge _ hstatus =>
    rcases hstatus with rfl | rfl <;> rcases hidle with h | h <;> cases h
  | release hleased => exact .inr hleased
  | cancel hwaiting => exact hwaiting

theorem not_idle_requestCancel (row : TaskRow) : ¬ row.requestCancel.Idle := by
  unfold TaskRow.requestCancel
  split
  · rintro (h | h) <;> cases h
  · next hidle =>
      split
      · next hstarted =>
          rintro (h | h) <;> exact hidle (by first | exact .inl h | exact .inr h)
      · exact hidle

/-! ## The invariant -/

structure ClosingInv (w : World) : Prop where
  ids : ∀ k row, w.tables.tasks.get? k = some row →
    matchesId k.1 = true ∧ matchesId k.2 = true
  rows : ∀ k row, w.tables.tasks.get? k = some row → RowClosable row
  team : ∀ r run, w.tables.runs.get? r = some run →
    matchesId run.teamId = true ∧ matchesId run.projectId = true
  inhabited : ∀ r run, w.tables.runs.get? r = some run →
    ∃ taskId row, w.tables.tasks.get? (r, taskId) = some row
  cancelling : ∀ k row run, w.tables.tasks.get? k = some row →
    w.tables.runs.get? k.1 = some run → run.status = .cancelling → ¬ row.Idle

section Moves

variable {W E : Type} {prim : Primitives W E} {w w' : World}

/-- A run keeps its team, and its status unless it is cancelled or finalized; a
new run has admitted tasks. -/
theorem move_run (h : Move prim w w') {r : String} {run' : RunRow}
    (hrun' : w'.tables.runs.get? r = some run') :
    (∃ run, w.tables.runs.get? r = some run ∧ run'.teamId = run.teamId ∧
      run'.projectId = run.projectId ∧
      (run'.status = .cancelling → run.status = .cancelling ∨
        ∀ k row', k.1 = r → w'.tables.tasks.get? k = some row' → ¬ row'.Idle)) ∨
      ∃ manifest tasks, Admitted manifest r tasks ∧ run' = newRun manifest ∧
        ∀ task ∈ tasks, w'.tables.tasks.get? (r, task.id) = some (freshRow task) := by
  cases h with
  | @create t₁ t' manifest runId runs tasks hmanifest hinsert htasks hadmitted =>
    dsimp only at hrun' ⊢
    rw [(insertTasks_spec htasks).frame, Table.get?_insert? hinsert] at hrun'
    split at hrun'
    · next hr =>
        subst hr
        obtain rfl := Option.some.inj hrun'
        exact .inr ⟨manifest, tasks, hadmitted, rfl, (insertTasks_rows htasks).2⟩
    · rw [(insertManifest_spec hmanifest).1] at hrun'
      exact .inl ⟨run', hrun', rfl, rfl, .inl⟩
  | start _ _ hroute =>
    rw [(consumeRoute_spec hroute).1] at hrun'
    exact .inl ⟨run', hrun', rfl, rfl, .inl⟩
  | @cancel runId run runs hrun _ hruns =>
    subst hruns
    dsimp only [TeamTables.updateRun] at hrun'
    rw [Table.get?_modify] at hrun'
    split at hrun'
    · next hr =>
        subst hr
        rw [hrun] at hrun'
        obtain rfl := Option.some.inj hrun'
        refine .inl ⟨run, hrun, rfl, rfl, fun _ => .inr ?_⟩
        intro k row' hk hrow'
        rw [get?_updateRun] at hrow'
        obtain ⟨row, -, rfl⟩ := Option.map_eq_some_iff.mp hrow'
        rw [if_pos hk]
        exact not_idle_requestCancel row
    · exact .inl ⟨run', hrun', rfl, rfl, .inl⟩
  | @finalize runId run result _ _ hrun _ _ _ hresult =>
    dsimp only at hrun'
    rw [Table.get?_modify] at hrun'
    split at hrun'
    · next hr =>
        subst hr
        rw [hrun] at hrun'
        obtain rfl := Option.some.inj hrun'
        refine .inl ⟨run, hrun, rfl, rfl, fun hstatus => ?_⟩
        rw [hresult] at hstatus
        exact absurd (.inr hstatus) (summaryStatus_final _)
    · exact .inl ⟨run', hrun', rfl, rfl, .inl⟩
  | _ => exact .inl ⟨run', hrun', rfl, rfl, .inl⟩

theorem closingInv_move (w w' : World) (hi : ClosingInv w) (h : Move prim w w') :
    ClosingInv w' := by
  refine ⟨?_, ?_, ?_, ?_, ?_⟩
  · intro k row' hrow'
    rcases move_row_admitted h hrow' with
      ⟨row, hrow, -⟩ | ⟨-, manifest, tasks, task, ha, hmem, hid, -⟩
    · exact hi.ids k row hrow
    · rw [hid, ← ha.bound task hmem]
      exact ⟨ha.runIds task hmem, ha.ids task hmem⟩
  · intro k row' hrow'
    rcases move_row_cases h hrow' with ⟨row, hrow, hmoved⟩ | ⟨-, -, task, rfl⟩
    · exact hmoved.step.closable (hi.rows k row hrow)
    · exact rowClosable_fresh task
  · intro r run' hrun'
    rcases move_run h hrun' with
      ⟨run, hrun, hteam, hproject, -⟩ | ⟨manifest, tasks, ha, rfl, -⟩
    · rw [hteam, hproject]
      exact hi.team r run hrun
    · exact ⟨ha.team, ha.project⟩
  · intro r run' hrun'
    rcases move_run h hrun' with
      ⟨run, hrun, -, -, -⟩ | ⟨manifest, tasks, ha, -, hall⟩
    · obtain ⟨taskId, row, hrow⟩ := hi.inhabited r run hrun
      obtain ⟨row', hrow', -⟩ := move_row h hrow
      exact ⟨taskId, row', hrow'⟩
    · obtain ⟨task, hmem⟩ := List.exists_mem_of_ne_nil tasks ha.some
      exact ⟨task.id, freshRow task, hall task hmem⟩
  · intro k row' run' hrow' hrun' hstatus
    rcases move_run h hrun' with
      ⟨run, hrun, -, -, hcancelling⟩ | ⟨manifest, tasks, -, rfl, -⟩
    · rcases hcancelling hstatus with hold | hnew
      · rcases move_row_cases h hrow' with ⟨row, hrow, hmoved⟩ | ⟨hfree, -⟩
        · intro hidle
          exact hi.cancelling k row run hrow hrun hold (hmoved.step.idle hidle)
        · rw [hrun] at hfree
          cases hfree
      · exact hnew k row' rfl hrow'
    · cases hstatus

theorem closingInv_empty (issued : List LeaseClaim) (started : List StartRecord) :
    ClosingInv ⟨{}, issued, started⟩ := by
  refine ⟨?_, ?_, ?_, ?_, ?_⟩
  · intro k row hrow; cases hrow
  · intro k row hrow; cases hrow
  · intro r run hrun; cases hrun
  · intro r run hrun; cases hrun
  · intro k row run hrow; cases hrow

end Moves

/-! ## The record of a closed run -/

theorem sortedUnique_runRows (t : TeamTables) (r : String) :
    sortedUnique ((runRows t r).map Prod.fst) = true := by
  have hmap : (runRows t r).map Prod.fst =
      ((t.tasks.select fun k _ => k.1 = r).map (·.1.2)).insertionSort
        (· ≤ ·) := by
    rw [runRows, List.map_insertionSort (s := (· ≤ ·)) _ _ _
      fun a _ b _ => Iff.rfl, List.map_map]
    rfl
  have hnodup : ((t.tasks.select fun k _ => k.1 = r).map (·.1.2)).Nodup := by
    have hkeys : ((t.tasks.select fun k _ => k.1 = r).map Prod.fst).Nodup :=
      t.tasks.unique.sublist (List.filter_sublist.map _)
    rw [show ((t.tasks.select fun k _ => k.1 = r).map (·.1.2)) =
      (((t.tasks.select fun k _ => k.1 = r).map Prod.fst).map Prod.snd) by
        rw [List.map_map]; rfl]
    refine hkeys.map_on ?_
    intro a ha b hb hab
    obtain ⟨e, he, rfl⟩ := List.mem_map.mp ha
    obtain ⟨e', he', rfl⟩ := List.mem_map.mp hb
    have hr := (List.mem_filter.mp he).2
    have hr' := (List.mem_filter.mp he').2
    rw [decide_eq_true_eq] at hr hr'
    exact Prod.ext (hr.trans hr'.symm) hab
  rw [sortedUnique, hmap, Bool.and_eq_true, decide_eq_true_eq, decide_eq_true_eq]
  exact ⟨List.pairwise_insertionSort _ _,
    (List.perm_insertionSort _ _).nodup_iff.mpr hnodup⟩

theorem runRows_mem {t : TeamTables} {r : String} {e : String × TaskRow}
    (h : e ∈ runRows t r) : t.tasks.get? (r, e.1) = some e.2 := by
  rw [runRows, List.mem_insertionSort] at h
  obtain ⟨entry, hentry, rfl⟩ := List.mem_map.mp h
  obtain ⟨hmem, hr⟩ := List.mem_filter.mp hentry
  rw [decide_eq_true_eq] at hr
  rw [← hr]
  exact Table.mem_entries.mp hmem

section Results

variable {W E : Type} {prim : Primitives W E}

theorem validate_runResult
    (hdigest : ∀ record, matchesDigest (prim.semanticDigest record) = true)
    {t : TeamTables} {r resultId createdAt : String} {run : RunRow}
    (hresult : matchesId resultId = true) (hteam : matchesId run.teamId = true)
    (hproject : matchesId run.projectId = true) (hrun : matchesId r = true)
    (hrows : runRows t r ≠ [])
    (hids : ∀ e ∈ runRows t r, matchesId e.1 = true)
    (hterminal : ∀ e ∈ runRows t r, e.2.status.isTerminal = true)
    (hclosable : ∀ e ∈ runRows t r, RowClosable e.2) :
    (TeamRecord.result (sealResult prim
      (runResult run r resultId createdAt (runRows t r)))).validate
        prim.semanticDigest = .ok () := by
  have hstatus := summaryStatus_final ((runRows t r).map (·.2.status))
  rw [not_or] at hstatus
  have hschema : (TeamRecord.result (sealResult prim
      (runResult run r resultId createdAt (runRows t r)))).schemaOk = true := by
    have htasks : ((runRows t r).map taskResult).all TaskResult.schemaOk =
        true := by
      rw [List.all_map, List.all_eq_true]
      intro e he
      simp only [Function.comp_apply, taskResult, TaskResult.schemaOk,
        hids e he, hterminal e he, (hclosable e he).digest, Bool.and_self]
    simp only [TeamRecord.schemaOk, TeamRunResult.schemaOk, sealResult, runResult,
      hresult, hteam, hproject, hrun, hdigest, htasks, Bool.true_and,
      Bool.and_true, Bool.and_eq_true]
    exact ⟨⟨decide_eq_true hstatus.1, decide_eq_true hstatus.2⟩, by simpa using hrows⟩
  have herrors : (TeamRecord.result (sealResult prim
      (runResult run r resultId createdAt (runRows t r)))).semanticErrors = [] := by
    have hunique : sortedUnique ((runRows t r).map (·.1)) = true :=
      sortedUnique_runRows t r
    have houtcome : ((runRows t r).map taskResult).flatMap (fun task =>
        errorIf ((task.status = .succeeded || task.status = .failed) &&
          task.outcomeDigest.isNone)
          "TeamRunResult$.spec.tasks: completed task lacks outcome digest") =
        [] := by
      rw [List.flatMap_eq_nil_iff]
      intro task htask
      obtain ⟨e, he, rfl⟩ := List.mem_map.mp htask
      rw [errorIf, if_neg]
      rw [Bool.and_eq_true, Bool.or_eq_true, decide_eq_true_eq, decide_eq_true_eq]
      rintro ⟨hdone, hnone⟩
      have hsome := (hclosable e he).outcome hdone
      rw [Option.isNone_iff_eq_none] at hnone
      rw [show e.2.outcomeDigest = none from hnone] at hsome
      cases hsome
    simp only [TeamRecord.semanticErrors, resultErrors, sealResult, runResult,
      houtcome, List.map_map, Function.comp_def, taskResult]
    simp [errorIf, hunique]
  unfold TeamRecord.validate
  rw [hschema, herrors]
  simp [TeamRecord.recordDigest, TeamRecord.withDigest, sealResult, runResult]

/-! ## Committing in time -/

variable (prim) in
/-- The coordinator may commit at this time. -/
structure Ready (ses : Session) (db : TeamDb) (clock : ℤ) : Prop where
  holdsKey : Sealed prim ses db
  observed : ses.lastObserved ≤ clock
  stored : db.storeMeta.lastObservedUs ≤ prim.epoch clock

variable (prim) in
/-- What a commit at a time leaves. -/
def committed {α : Type} (ses : Session) (db : TeamDb) (clock : ℤ) (answer : α)
    (t' : TeamTables) : Outcome α :=
  let ses' := { ses with lastObserved := clock }
  ⟨.ok answer, ses', writeStateAuth prim ses' db t'⟩

theorem timed_committed {α : Type} {ses : Session} {db : TeamDb} {now clock : ℤ}
    (h : Ready prim ses db clock) (hnow : now ≤ clock)
    {body : ℤ → TeamTables → Except TeamError (α × Option TeamTables)}
    {answer : α} {t' : TeamTables}
    (hbody : body clock db.tables = .ok (answer, some t')) :
    (timed ses db now clock fun ses observed =>
      transaction prim ses db (body observed)) =
        committed prim ses db clock answer t' := by
  have hverified : verifyState prim { ses with lastObserved := clock } db = .ok () :=
    verifyState_eq_ok.mpr ⟨h.holdsKey.sameKey ⟨rfl, rfl⟩, h.stored⟩
  rw [timed, observedTime, if_neg (not_lt.mpr h.observed), if_neg (not_lt.mpr hnow)]
  simp only [transaction, hverified, hbody, committed]

theorem ready_committed {α : Type} {ses : Session} {db : TeamDb}
    {clock clock' : ℤ} (hepoch : Monotone prim.epoch)
    (h : Ready prim ses db clock) (hle : clock ≤ clock') (answer : α) (t' : TeamTables) :
    Ready prim (committed prim ses db clock answer t').session
      (committed prim ses db clock answer t').db clock' := by
  refine ⟨?_, hle, ?_⟩
  · have hsealed : Sealed prim { ses with lastObserved := clock } db :=
      h.holdsKey.sameKey ⟨rfl, rfl⟩
    exact sealed_writeStateAuth hsealed t'
  · dsimp only [committed, writeStateAuth, authenticate, StoreMeta.observe]
    rw [if_pos h.stored]
    exact hepoch hle

end Results

/-! ## Closing a run -/

theorem expire_terminal {row : TaskRow} {us : ℤ} (hrow : RowClosable row)
    (hidle : ¬ row.Idle) (hlease : row.status = .started → ∀ expires,
      row.leaseExpiresUs = some expires → expires ≤ us) :
    (row.expire us).status.isTerminal = true := by
  unfold TaskRow.expire
  split
  · rfl
  next hnot =>
  rw [if_neg fun h => hidle (.inr h.1)]
  cases hstatus : row.status with
  | pending => exact absurd (.inl hstatus) hidle
  | leased => exact absurd (.inr hstatus) hidle
  | started =>
    obtain ⟨expires, hexpires⟩ := hrow.lease hstatus
    refine absurd ⟨hstatus, ?_⟩ hnot
    rw [TaskRow.leaseOver, hexpires]
    exact decide_eq_true (hlease hstatus expires hexpires)
  | _ => rfl

section Systems

variable {ι W E : Type} [DecidableEq ι] {prim : Primitives W E}

variable {run : RunRow} {s : TeamSystem ι} {i : ι}

omit [DecidableEq ι] in
theorem context_of_inv {w : World} (hi : BudgetInv w) {r : String}
    (hrun : w.tables.runs.get? r = some run) :
    ∃ manifest, context w.tables r = .ok (run, manifest) := by
  obtain ⟨m, -, -, hdigest⟩ := hi.safe.manifest r run hrun
  obtain ⟨row, hrow, -⟩ := Option.map_eq_some_iff.mp hdigest
  exact ⟨row.document, by simp only [context, hrun, hrow]⟩

theorem leave_committed {α : Type} (hepoch : Monotone prim.epoch) {clock clock' : ℤ}
    (h : Ready prim (s.sessions i) s.db clock) (hle : clock ≤ clock') (answer : α)
    (t' : TeamTables) :
    let s' := s.leave i (committed prim (s.sessions i) s.db clock answer t')
    s'.db.tables = t' ∧ Ready prim (s'.sessions i) s'.db clock' := by
  refine ⟨rfl, ?_⟩
  dsimp only [TeamSystem.leave]
  rw [Function.update_self]
  exact ready_committed hepoch h hle answer t'

omit [DecidableEq ι] in
theorem finalizeRun_succeeds
    (hdigest : ∀ record, matchesDigest (prim.semanticDigest record) = true)
    (hclosing : ClosingInv s.world)
    (hbudget : BudgetInv s.world) {runId resultId : String}
    {now clock : ℤ}
    (hrun : s.db.tables.runs.get? runId = some run)
    (hopen : run.resultDocument = none)
    (hterminal : ∀ e ∈ runRows s.db.tables runId, e.2.status.isTerminal = true)
    (hready : Ready prim (s.sessions i) s.db clock) (hnow : now ≤ clock)
    (hresult : matchesId resultId = true) :
    s.error? prim (.finalizeRun i runId resultId now clock) = none := by
  obtain ⟨manifest, hcontext⟩ := context_of_inv hbudget hrun
  obtain ⟨taskId, row, hrow⟩ := hclosing.inhabited runId run hrun
  obtain ⟨hteam, hproject⟩ := hclosing.team runId run hrun
  have hrows : runRows s.db.tables runId ≠ [] :=
    List.ne_nil_of_mem (mem_runRows (k := (runId, taskId)) hrow)
  have hvalid := @validate_runResult _ _ _ hdigest _ _ _ (prim.timeText clock) _ hresult
    hteam hproject (hclosing.ids _ row hrow).1 hrows
    (fun e he => (hclosing.ids _ _ (runRows_mem he)).2) hterminal
    (fun e he => hclosing.rows _ _ (runRows_mem he))
  obtain ⟨answer, t', hbody⟩ : ∃ answer t', finalizeBody prim runId resultId
      clock s.db.tables = .ok (answer, some t') := by
    unfold finalizeBody
    rw [show context s.db.tables runId = _ from hcontext]
    dsimp only
    rw [hopen]
    dsimp only
    rw [if_neg, hvalid]
    · exact ⟨_, _, rfl⟩
    · rintro (hnil | hany)
      · exact hrows hnil
      · obtain ⟨e, he, hnot⟩ := List.any_eq_true.mp hany
        rw [hterminal e he] at hnot
        cases hnot
  have hcommitted : finalizeRun prim (s.sessions i) s.db runId resultId now clock =
      committed prim (s.sessions i) s.db clock answer t' :=
    timed_committed hready hnow hbody
  simp only [TeamSystem.error?, hcommitted, committed, Outcome.error?]

/-- A cancelling run ends with an expiry past its leases. -/
theorem expire_then_finalize (hepoch : Monotone prim.epoch)
    (hdigest : ∀ record, matchesDigest (prim.semanticDigest record) = true)
    (hclosing : ClosingInv s.world)
    (hbudget : BudgetInv s.world) {runId resultId : String}
    {now₂ clock₂ now₃ clock₃ : ℤ}
    (hrun : s.db.tables.runs.get? runId = some run)
    (hopen : run.resultDocument = none) (hstatus : run.status = .cancelling)
    (hready : Ready prim (s.sessions i) s.db clock₂) (hnow₂ : now₂ ≤ clock₂)
    (hle : clock₂ ≤ clock₃) (hnow₃ : now₃ ≤ clock₃)
    (hresult : matchesId resultId = true)
    (hleases : ∀ k row us, k.1 = runId → s.db.tables.tasks.get? k = some row →
      row.status = .started → row.leaseExpiresUs = some us →
        us ≤ prim.epoch clock₂) :
    s.error? prim (.expireLeases i runId now₂ clock₂) = none ∧
    (s.step prim (.expireLeases i runId now₂ clock₂)).error? prim
      (.finalizeRun i runId resultId now₃ clock₃) = none := by
  obtain ⟨manifest, hcontext⟩ := context_of_inv hbudget hrun
  obtain ⟨count, hbody⟩ : ∃ count, expireBody prim runId clock₂ s.db.tables =
      .ok (count, some (expireRows s.db.tables runId (prim.epoch clock₂))) := by
    rw [expireBody, show context s.db.tables runId = _ from hcontext]
    exact ⟨_, rfl⟩
  have hexpired : expireLeases prim (s.sessions i) s.db runId now₂ clock₂ =
      committed prim (s.sessions i) s.db clock₂ count
        (expireRows s.db.tables runId (prim.epoch clock₂)) :=
    timed_committed hready hnow₂ hbody
  refine ⟨by simp only [TeamSystem.error?, hexpired, committed, Outcome.error?], ?_⟩
  have hmoves := @step_moves _ _ _ _ prim s (.expireLeases i runId now₂ clock₂)
  obtain ⟨htables, hready'⟩ := leave_committed hepoch hready hle count
    (expireRows s.db.tables runId (prim.epoch clock₂))
  rw [← hexpired] at htables hready'
  have hrun' : (s.step prim (.expireLeases i runId now₂
      clock₂)).db.tables.runs.get? runId = some run := by
    rw [show (s.step prim (.expireLeases i runId now₂ clock₂)).db.tables = _
      from htables]
    exact hrun
  refine finalizeRun_succeeds hdigest
    (moves_induction closingInv_move hclosing hmoves)
    (moves_induction budgetInv_move hbudget hmoves) hrun' hopen ?_ hready' hnow₃
    hresult
  intro e he
  have hrow' := runRows_mem he
  rw [show (s.step prim (.expireLeases i runId now₂ clock₂)).db.tables = _
    from htables, expireRows, get?_updateRun] at hrow'
  obtain ⟨row, hrow, heq⟩ := Option.map_eq_some_iff.mp hrow'
  rw [if_pos rfl] at heq
  rw [← heq]
  exact expire_terminal (hclosing.rows _ row hrow)
    (hclosing.cancelling _ row run hrow hrun hstatus)
    fun hstarted us hus => hleases _ row us rfl hrow hstarted hus

variable (prim) in
/-- The times of the calls that close a run: they do not go back, also behind
the coordinator and the store, and the expiry is past every lease of the run. -/
structure ClosingTimes (s : TeamSystem ι) (i : ι) (runId : String)
    (clock₁ clock₂ clock₃ : ℤ) : Prop where
  observed : (s.sessions i).lastObserved ≤ clock₁
  stored : s.db.storeMeta.lastObservedUs ≤ prim.epoch clock₁
  first : clock₁ ≤ clock₂
  second : clock₂ ≤ clock₃
  leases : ∀ k row us, k.1 = runId → s.db.tables.tasks.get? k = some row →
    row.status = .leased ∨ row.status = .started →
      row.leaseExpiresUs = some us → us ≤ prim.epoch clock₂

variable (prim) in
/-- `cancel_run`, when the run is still active. -/
def TeamSystem.cancelActive (s : TeamSystem ι) (i : ι) (runId : String)
    (run : RunRow) (now clock : ℤ) : TeamSystem ι :=
  if run.status = .active then s.step prim (.cancelRun i runId now clock) else s

/-- **Closing a run.**  A run without a result is closed by a cancellation, an
expiry and `finalize_run`. -/
theorem run_closable (hepoch : Monotone prim.epoch)
    (hdigest : ∀ record, matchesDigest (prim.semanticDigest record) = true)
    (hclosing : ClosingInv s.world)
    (hbudget : BudgetInv s.world) (hfinal : ResultsFinal s.world)
    (hseal : Sealed prim (s.sessions i) s.db) {runId resultId : String}
    {now₁ clock₁ now₂ clock₂ now₃ clock₃ : ℤ}
    (hrun : s.db.tables.runs.get? runId = some run)
    (hopen : run.resultDocument = none)
    (htimes : ClosingTimes prim s i runId clock₁ clock₂ clock₃)
    (hnow₁ : now₁ ≤ clock₁) (hnow₂ : now₂ ≤ clock₂) (hnow₃ : now₃ ≤ clock₃)
    (hresult : matchesId resultId = true) :
    let s₁ := s.cancelActive prim i runId run now₁ clock₁
    let s₂ := s₁.step prim (.expireLeases i runId now₂ clock₂)
    (run.status = .active →
      s.error? prim (.cancelRun i runId now₁ clock₁) = none) ∧
    s₁.error? prim (.expireLeases i runId now₂ clock₂) = none ∧
    s₂.error? prim (.finalizeRun i runId resultId now₃ clock₃) = none := by
  have hready : Ready prim (s.sessions i) s.db clock₁ :=
    ⟨hseal, htimes.observed, htimes.stored⟩
  by_cases hactive : run.status = .active
  · obtain ⟨manifest, hcontext⟩ := context_of_inv hbudget hrun
    generalize ht₁ : TeamTables.updateRun { s.db.tables with
      runs := s.db.tables.runs.modify runId fun run =>
        { run with cancellationRequested := true, status := .cancelling } }
      runId TaskRow.requestCancel = t₁
    have hbody : cancelBody runId s.db.tables = .ok ((), some t₁) := by
      rw [cancelBody, show context s.db.tables runId = _ from hcontext, ← ht₁]
      dsimp only
      rw [if_neg (not_not.mpr hactive)]
    have hcancelled : cancelRun prim (s.sessions i) s.db runId now₁ clock₁ =
        committed prim (s.sessions i) s.db clock₁ () t₁ :=
      timed_committed hready hnow₁ hbody
    have hmoves := @step_moves _ _ _ _ prim s (.cancelRun i runId now₁ clock₁)
    obtain ⟨htables, hready'⟩ := leave_committed hepoch hready htimes.first () t₁
    rw [← hcancelled] at htables hready'
    have hrun' : (s.step prim (.cancelRun i runId now₁
        clock₁)).db.tables.runs.get? runId = some
          { run with cancellationRequested := true, status := .cancelling } := by
      rw [show (s.step prim (.cancelRun i runId now₁ clock₁)).db.tables = _
        from htables, ← ht₁]
      dsimp only [TeamTables.updateRun]
      rw [Table.get?_modify_self, hrun]
      rfl
    rw [TeamSystem.cancelActive, if_pos hactive]
    refine ⟨fun _ => ?_, expire_then_finalize hepoch hdigest
      (moves_induction closingInv_move hclosing hmoves)
      (moves_induction budgetInv_move hbudget hmoves) hrun' hopen rfl hready'
      hnow₂ htimes.second hnow₃ hresult ?_⟩
    · simp only [TeamSystem.error?, hcancelled, committed, Outcome.error?]
    · -- a started row of the cancelled run was started before, under its lease
      intro k row' us hk hrow' hstarted hus
      rw [show (s.step prim (.cancelRun i runId now₁ clock₁)).db.tables = _
        from htables, ← ht₁, get?_updateRun] at hrow'
      obtain ⟨row, hrow, rfl⟩ := Option.map_eq_some_iff.mp hrow'
      rw [if_pos hk] at hstarted hus
      unfold TaskRow.requestCancel at hstarted hus
      split at hus
      · next hidle =>
          rw [if_pos hidle] at hstarted
          cases hstarted
      · split at hus
        · next hrowStarted =>
            exact htimes.leases k row us hk hrow (.inr hrowStarted) hus
        · next hidle hnot =>
            rw [if_neg hidle, if_neg hnot] at hstarted
            exact absurd hstarted hnot
  · have hstatus : run.status = .cancelling :=
      ((hfinal runId run hrun).mp hopen).resolve_left hactive
    rw [TeamSystem.cancelActive, if_neg hactive]
    refine ⟨fun h => absurd h hactive, expire_then_finalize hepoch hdigest hclosing
      hbudget hrun hopen hstatus ⟨hseal, htimes.observed.trans htimes.first,
        htimes.stored.trans (hepoch htimes.first)⟩ hnow₂ htimes.second hnow₃
      hresult ?_⟩
    intro k row us hk hrow hstarted hus
    exact htimes.leases k row us hk hrow (.inr hstarted) hus

/-! ## Dependencies and the end -/

/-- **Dependencies and closing.**  If a MAC tells keys apart, record digests are
64 hexadecimal digits and the epoch of a later time is not smaller then, in every
interleaving of the coordinators' operations: each dependency of a task that was
ever claimed has succeeded, and it has exactly one handoff to the task, with the
digest of the task's input, now and in the rest of the history; a result that
reports success reports it of every task; and a run without a result can be
closed by a coordinator with the key of the store. -/
theorem team_dependencies_and_closing (hmac : ∀ key key' keyId revision digest,
      prim.authMac key keyId revision digest =
        prim.authMac key' keyId revision digest → key = key')
    (hdigest : ∀ record, matchesDigest (prim.semanticDigest record) = true)
    (hepoch : Monotone prim.epoch) (maker : Session) (storeId : String)
    (sessions : ι → Session) (actions : List (TeamAction ι W E)) :
    let s := (initialSystem prim maker storeId sessions).after prim actions
    (∀ k row, s.db.tables.tasks.get? k = some row → 0 < row.attempt →
      ∀ dependency ∈ row.document.dependencies, ∃ handoff,
        handoff.2.artifactDigest = row.document.input.digest ∧
        ∀ more : List (TeamAction ι W E),
          DependencyMet (s.after prim more).db.tables k dependency handoff) ∧
    (∀ i runId resultId now clock result,
      let out := finalizeRun prim (s.sessions i) s.db runId resultId now clock
      out.answer = .ok result → result.status = .succeeded →
        ∀ k row, k.1 = runId → out.db.tables.tasks.get? k = some row →
          row.status = .succeeded) ∧
    ∀ i runId resultId run now₁ clock₁ now₂ clock₂ now₃ clock₃,
      s.db.tables.runs.get? runId = some run → run.resultDocument = none →
      maker.SameKey (s.sessions i) →
      ClosingTimes prim s i runId clock₁ clock₂ clock₃ →
      now₁ ≤ clock₁ → now₂ ≤ clock₂ → now₃ ≤ clock₃ →
      matchesId resultId = true →
        let s₁ := s.cancelActive prim i runId run now₁ clock₁
        let s₂ := s₁.step prim (.expireLeases i runId now₂ clock₂)
        (run.status = .active →
          s.error? prim (.cancelRun i runId now₁ clock₁) = none) ∧
        s₁.error? prim (.expireLeases i runId now₂ clock₂) = none ∧
        s₂.error? prim (.finalizeRun i runId resultId now₃ clock₃) = none := by
  intro s
  have hbudget : BudgetInv s.world :=
    budgetInv_after prim maker storeId sessions actions
  refine ⟨?_, ?_, ?_⟩
  · intro k row hrow hattempt dependency hmem
    have hi : DependencyInv s.world :=
      after_induction (s := initialSystem prim maker storeId sessions)
        dependencyInv_move (dependencyInv_empty [] []) actions
    obtain ⟨handoff, hmet, hartifact⟩ := hi.met k row hrow hattempt dependency hmem
    exact ⟨handoff, hartifact, fun more => after_induction
      (P := fun w => DependencyMet w.tables k dependency handoff)
      (fun _ _ hmet h => hmet.move h) hmet more⟩
  · intro i runId resultId now clock result out hok hstatus k row hk hrow
    obtain ⟨run, hrun, hstored⟩ := finalizeRun_stored prim hok
    have hi := @after_induction _ _ _ _ prim _ successTrue_move
      (initialSystem prim maker storeId sessions)
      ⟨budgetInv_empty [] [], fun _ _ _ hrun => by cases hrun⟩
      (actions ++ [.finalizeRun i runId resultId now clock])
    rw [TeamSystem.after, List.foldl_append] at hi
    have hi' : SuccessTrue ⟨out.db.tables, s.issued, s.started⟩ := hi.2
    exact hi' runId run result hrun hstored hstatus k row hk hrow
  · intro i runId resultId run now₁ clock₁ now₂ clock₂ now₃ clock₃ hrun hopen
      hkey htimes hnow₁ hnow₂ hnow₃ hresult
    have hseal : Sealed prim maker s.db :=
      sealed_after hmac actions (sealed_newStore maker storeId)
    have hclosing : ClosingInv s.world :=
      after_induction (s := initialSystem prim maker storeId sessions)
        closingInv_move (closingInv_empty [] []) actions
    have hfinal : ResultsFinal s.world :=
      after_induction resultsFinal_move (fun _ _ hrun => by cases hrun) actions
    exact run_closable hepoch hdigest hclosing hbudget hfinal
      (hseal.sameKey hkey) hrun hopen htimes hnow₁ hnow₂ hnow₃ hresult

end Systems

/-- The run whose task is started is cancelled, its lease expires, and it is
finalized. -/
theorem team_closing_started_run :
    Monotone keyedPrimitives.epoch ∧
    ∃ run, startedSystem.db.tables.runs.get? "run-1" = some run ∧
      run.status = .active ∧
      let s₁ := startedSystem.cancelActive keyedPrimitives () "run-1" run 60 60
      let s₂ := s₁.step keyedPrimitives (.expireLeases () "run-1" 60 60)
      s₂.error? keyedPrimitives (.finalizeRun () "run-1" "result-1" 60 60) =
        none := by
  have hepoch : Monotone keyedPrimitives.epoch := monotone_id
  have hdigest : ∀ record, matchesDigest (keyedPrimitives.semanticDigest record) = true :=
    fun _ => show matchesDigest sampleDigest = true by rfl
  obtain ⟨-, hruns, hleases, hkey, hid, hobserved, hstored⟩ := startedSystem_state
  have hsystem : startedSystem = (initialSystem keyedPrimitives sampleSession "store"
      fun _ => sampleSession).after keyedPrimitives (sampleActions.take 3) := rfl
  rw [hsystem] at hruns hleases hkey hid hobserved hstored ⊢
  obtain ⟨run, hrun, hopen⟩ := (Option.any_eq_true _ _).mp hruns
  rw [Bool.and_eq_true, decide_eq_true_eq, Option.isNone_iff_eq_none] at hopen
  refine ⟨hepoch, run, hrun, hopen.1, ?_⟩
  have hclosed := (team_dependencies_and_closing
    (fun _ _ _ _ _ h => h) hdigest hepoch sampleSession "store"
    (fun _ => sampleSession) (sampleActions.take 3)).2.2 () "run-1" "result-1" run
    60 60 60 60 60 60 hrun hopen.2 ⟨hkey, hid⟩
  refine (hclosed ⟨hobserved, hstored.trans hobserved, le_rfl, le_rfl, ?_⟩ le_rfl le_rfl le_rfl
    (by rfl)).2.2
  intro k row us _ hrow _ hus
  have hall := List.all_eq_true.mp hleases (k, row) (Table.mem_entries.mpr hrow)
  rw [hus] at hall
  exact of_decide_eq_true hall

end Ecosystem.Teams
