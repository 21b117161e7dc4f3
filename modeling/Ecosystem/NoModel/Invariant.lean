import Ecosystem.NoModel.Execution

/-!
# The invariant of no-model runs

A slot whose read is not recorded as started has not been read, no slot has been read
twice, and a completed slot has been read, between any two steps of an execution.
-/

namespace Ecosystem.NoModel

open Ecosystem.Lib
open Ecosystem.Runtime

/-! ## Phases -/

theorem requestId_inj {r : RunName} {i j : ℕ} (h : requestId r i = requestId r j) :
    i = j := by
  have hdigits : Nat.toDigits 10 i = Nat.toDigits 10 j :=
    String.ofList_injective ((String.append_right_inj _).mp h)
  rw [← Nat.ofDigitChars_ten_toDigits (n := i), hdigits, Nat.ofDigitChars_ten_toDigits]

theorem readPhase_concat (events : List RunEvent) (event : RunEvent) (id : String) :
    readPhase (events ++ [event]) id = nextPhase id (readPhase events id) event := by
  rw [readPhase, List.foldl_append, List.foldl_cons, List.foldl_nil, readPhase]

theorem readPhase_ne_cancelled {events : List RunEvent} {id : String} :
    readPhase events id ≠ some .cancelled := by
  induction events using List.reverseRecOn with
  | nil => exact nofun
  | append_singleton events event ih =>
    rw [readPhase_concat, nextPhase]
    split
    · cases event.spec.type <;> simp [phaseOf, ih]
    · exact ih

def NoModelChain.phase (chain : NoModelChain) (r : RunName) (i : ℕ) : Option Phase :=
  readPhase chain.events (requestId r i)

/-- The read may not have begun. -/
def unstarted : List (Option Phase) :=
  [none, some .requested, some .allowed, some .denied]

/-! ## The chain of a run -/

section Definitions

variable (cfg : ExecutionConfig)

/-- The row rebuilds the chain, which is the replay of its events. -/
structure Durable (r : RunName) (row : RunRow) (chain : NoModelChain) : Prop where
  loads : row.chain cfg.toJournalConfig r = .ok chain
  events : row.events.map (·.event) = chain.events
  replay : reduceRunEvents .initial (chain.events.map (·.spec)) = .ok chain.projection

def World.readCount (w : World) (r : RunName) (i : ℕ) : ℕ := w.reads.count (r, i)

/-- A run that has succeeded ends with its success, behind three completed reads. -/
def NoModelChain.Concluded (chain : NoModelChain) (r : RunName) : Prop :=
  ∃ before last, chain.events = before ++ [last] ∧
    last.spec.type = .noModelWorkflowSucceeded ∧
    ∀ i ∈ slotIndices, readPhase before (requestId r i) = some .completed

structure RunInv (w : World) (r : RunName) (chain : NoModelChain) : Prop where
  unread : ∀ i, chain.phase r i ∈ unstarted → w.readCount r i = 0
  once : ∀ i, w.readCount r i ≤ 1
  completed : ∀ i, chain.phase r i = some .completed → w.readCount r i = 1
  success : chain.projection.state = .succeeded → chain.Concluded r

structure Inv (w : World) : Prop where
  absent : ∀ r, w.journal.get? r = none → ∀ i, w.readCount r i = 0
  present : ∀ r row, w.journal.get? r = some row →
    ∃ chain, Durable cfg r row chain ∧ RunInv w r chain

/-- What an execution knows between two steps. -/
structure At (r : RunName) (chain : NoModelChain) (w : World) : Prop where
  inv : Inv cfg w
  row : ∃ row, w.journal.get? r = some row ∧ Durable cfg r row chain

end Definitions

variable {cfg : ExecutionConfig} {w : World} {r : RunName} {chain chain' : NoModelChain}
  {d : Draft} {now : ℤ}

theorem At.run (h : At cfg r chain w) : RunInv w r chain := by
  obtain ⟨row, hrow, hdurable⟩ := h.row
  obtain ⟨chain', hdurable', hrun⟩ := h.inv.present r row hrow
  have heq : chain = chain' :=
    Except.ok.inj (hdurable.loads.symm.trans hdurable'.loads)
  exact heq ▸ hrun

/-! ## Appending to a chain -/

structure Extends (chain : NoModelChain) (event : RunEvent) (chain' : NoModelChain) :
    Prop where
  live : chain.projection.state.isTerminal = false
  events : chain'.events = chain.events ++ [event]
  reduced : reduceRunEvent chain.projection event.spec = .ok chain'.projection

variable {event : RunEvent}

theorem extends_of_append {jcfg : JournalConfig} {note : EventNote}
    (h : chain.append jcfg r event note = .ok chain') : Extends chain event chain' := by
  unfold NoModelChain.append at h
  split at h
  · obtain ⟨next, hnext, h⟩ := bind_eq_ok.mp h
    cases h
    have happended := appended_of_append hnext
    exact ⟨happended.live, happended.events, happended.reduced⟩
  · cases h

theorem Extends.phase (h : Extends chain event chain') (i : ℕ) :
    chain'.phase r i = nextPhase (requestId r i) (chain.phase r i) event := by
  rw [NoModelChain.phase, h.events, readPhase_concat]
  rfl

theorem Extends.phase_quiet (h : Extends chain event chain')
    (hquiet : phaseOf event.spec.type = none) (i : ℕ) :
    chain'.phase r i = chain.phase r i := by
  rw [h.phase, nextPhase, hquiet]
  split <;> rfl

theorem Extends.phase_read {i : ℕ} {phase : Phase}
    (h : Extends chain event chain') (hid : event.spec.subjectId = .text (requestId r i))
    (hphase : phaseOf event.spec.type = some phase) :
    chain'.phase r i = some phase ∧ ∀ j, j ≠ i → chain'.phase r j = chain.phase r j := by
  refine ⟨?_, fun j hj => ?_⟩
  · rw [h.phase, nextPhase, if_pos hid, hphase]
    rfl
  · rw [h.phase, nextPhase, if_neg]
    rw [hid, FieldValue.text.injEq]
    exact fun heq => hj (requestId_inj heq).symm

theorem Extends.succeeded (h : Extends chain event chain')
    (hs : chain'.projection.state = .succeeded)
    (hadapter : event.spec.type ≠ .runSucceeded) :
    event.spec.type = .noModelWorkflowSucceeded := by
  have hlive := h.live
  have haccepted := accepted_of_reduce h.reduced
  generalize chain'.projection = next at haccepted hs
  cases haccepted with
  | workflowSucceeded _ _ ht => exact ht
  | runSucceeded _ _ ht => exact absurd ht hadapter
  | _ => simp_all [RunProjection.setTool, RunState.isTerminal]

/-! ## The row of an appended event -/

theorem durable_empty {row : RunRow} (hevents : row.events = [])
    (hhead : row.headDigest = none)
    (hmac : row.headMac = cfg.mac (.head r none)) : Durable cfg r row {} := by
  refine ⟨?_, by rw [hevents]; rfl, rfl⟩
  rw [RunRow.chain, hevents, hhead, hmac]
  exact if_pos ⟨rfl, rfl⟩

theorem extends_of_row_append {row row' : RunRow} {jcfg : JournalConfig}
    (hok : row.append jcfg r chain d now = .ok (row', chain')) :
    Extends chain (d.event jcfg r chain now) chain' := by
  unfold RunRow.append at hok
  dsimp only at hok
  split at hok
  · cases hok
  next next hnext =>
  split at hok
  · cases hok
  cases hok
  exact extends_of_append hnext

theorem Durable.append {row row' : RunRow} (h : Durable cfg r row chain)
    (hok : row.append cfg.toJournalConfig r chain d now = .ok (row', chain')) :
    Durable cfg r row' chain' ∧
      Extends chain (d.event cfg.toJournalConfig r chain now) chain' := by
  have hextends := extends_of_row_append hok
  have hloads := RunRow.chain_append h.loads hok
  refine ⟨⟨hloads, RunRow.events_of_chain hloads, ?_⟩, hextends⟩
  rw [hextends.events, List.map_append]
  exact foldlM_concat_eq_ok.mpr ⟨chain.projection, h.replay, hextends.reduced⟩

/-! ## Appending to the journal -/

structure Draft.Fits (d : Draft) (w : World) (r : RunName) (chain : NoModelChain) :
    Prop where
  adapter : d.type ≠ .runSucceeded
  success : d.type = .noModelWorkflowSucceeded →
    ∀ i ∈ slotIndices, chain.phase r i = some .completed
  read : ∀ i phase, d.subjectId = some (requestId r i) → phaseOf d.type = some phase →
    (some phase ∈ unstarted → w.readCount r i = 0) ∧
      (phase = .completed → w.readCount r i = 1)

theorem RunInv.append (h : RunInv w r chain)
    (hextends : Extends chain event chain') (hspec : event.spec = d.spec)
    (hfits : d.Fits w r chain) : RunInv w r chain' := by
  have htype : event.spec.type = d.type := by rw [hspec]; rfl
  have hid (i : ℕ) : event.spec.subjectId = .text (requestId r i) ↔
      d.subjectId = some (requestId r i) := by
    rw [hspec]
    exact FieldValue.ofOption_eq_text
  have hphases (i : ℕ) : chain'.phase r i = chain.phase r i ∨
      d.subjectId = some (requestId r i) ∧ phaseOf d.type = chain'.phase r i := by
    rw [hextends.phase, nextPhase, htype]
    split
    · next hsubject =>
        cases hphase : phaseOf d.type with
        | none => exact .inl rfl
        | some phase => exact .inr ⟨(hid i).mp hsubject, rfl⟩
    · exact .inl rfl
  refine ⟨fun i hi => ?_, h.once, fun i hi => ?_, fun hs => ?_⟩
  · rcases hphases i with hsame | ⟨hsubject, hphase⟩
    · exact h.unread i (hsame ▸ hi)
    · cases hnew : chain'.phase r i with
      | none =>
        refine h.unread i ?_
        rw [hnew] at hphase
        have : chain'.phase r i = chain.phase r i :=
          hextends.phase_quiet (by rw [htype, hphase]) i
        rw [← this, hnew]
        decide
      | some phase =>
        rw [hnew] at hi hphase
        exact (hfits.read i phase hsubject hphase).1 hi
  · rcases hphases i with hsame | ⟨hsubject, hphase⟩
    · exact h.completed i (hsame ▸ hi)
    · exact (hfits.read i .completed hsubject (hphase.trans hi)).2 rfl
  · have hsuccess := hextends.succeeded hs (by rw [htype]; exact hfits.adapter)
    exact ⟨chain.events, event, hextends.events, hsuccess, hfits.success (htype ▸ hsuccess)⟩

/-- **One event of a run.** -/
theorem At.append (h : At cfg r chain w) (hfits : d.Fits w r chain) {journal : Journal}
    (hok : w.journal.append cfg.toJournalConfig r chain d now = .ok (journal, chain')) :
    At cfg r chain' { w with journal := journal } ∧
      Extends chain (d.event cfg.toJournalConfig r chain now) chain' := by
  obtain ⟨row, hrow, hdurable⟩ := h.row
  unfold Journal.append at hok
  rw [hrow] at hok
  obtain ⟨⟨row', next⟩, happend, hok⟩ := bind_eq_ok.mp hok
  cases hok
  obtain ⟨hdurable', hextends⟩ := hdurable.append happend
  have hrun : RunInv w r chain' := h.run.append hextends rfl hfits
  have hget : (w.journal.modify r fun _ => row').get? r = some row' := by
    rw [Table.get?_modify_self, hrow]
    rfl
  refine ⟨⟨⟨?_, ?_⟩, row', hget, hdurable'⟩, hextends⟩
  · intro r' habsent i
    refine h.inv.absent r' ?_ i
    by_cases hr : r' = r
    · rw [hr, hget] at habsent
      cases habsent
    · rwa [Table.get?_modify_of_ne hr] at habsent
  · intro r' row₁ hrow₁
    by_cases hr : r' = r
    · subst hr
      rw [hget] at hrow₁
      cases hrow₁
      exact ⟨chain', hdurable', ⟨hrun.unread, hrun.once, hrun.completed, hrun.success⟩⟩
    · rw [Table.get?_modify_of_ne hr] at hrow₁
      obtain ⟨chain₁, hdurable₁, hrun₁⟩ := h.inv.present r' row₁ hrow₁
      exact ⟨chain₁, hdurable₁, ⟨hrun₁.unread, hrun₁.once, hrun₁.completed, hrun₁.success⟩⟩

/-! ## Beginning a run -/

/-- Nothing of a read is recorded. -/
def NoModelChain.Quiet (chain : NoModelChain) : Prop :=
  (∀ id, readPhase chain.events id = none) ∧ chain.projection.state ≠ .succeeded

def Draft.IsQuiet (d : Draft) : Prop :=
  phaseOf d.type = none ∧ d.type ≠ .runSucceeded ∧ d.type ≠ .noModelWorkflowSucceeded

theorem Durable.appendAll {drafts : List Draft} {row row' : RunRow}
    (hdrafts : ∀ d ∈ drafts, d.IsQuiet) (h : Durable cfg r row chain)
    (hquiet : chain.Quiet)
    (hok : drafts.foldlM (fun (x : RunRow × NoModelChain) d =>
      x.1.append cfg.toJournalConfig r x.2 d now) (row, chain) = .ok (row', chain')) :
    Durable cfg r row' chain' ∧ chain'.Quiet := by
  induction drafts generalizing row chain with
  | nil =>
    cases hok
    exact ⟨h, hquiet⟩
  | cons d drafts ih =>
    rw [List.foldlM_cons] at hok
    obtain ⟨⟨row₁, chain₁⟩, happend, hok⟩ := bind_eq_ok.mp hok
    obtain ⟨hdurable, hextends⟩ := h.append happend
    obtain ⟨hphase, hadapter, hsuccess⟩ := hdrafts d (List.mem_cons_self ..)
    refine ih (fun d hd => hdrafts d (List.mem_cons_of_mem _ hd)) hdurable ⟨?_, ?_⟩ hok
    · intro id
      rw [hextends.events, readPhase_concat, hquiet.1 id, nextPhase]
      change (if _ then (phaseOf d.type).orElse _ else none) = none
      rw [hphase]
      split <;> rfl
    · exact fun hs => hsuccess (hextends.succeeded hs hadapter)

theorem opening_quiet {plan : NoModelPlan} :
    ∀ d ∈ plan.opening cfg.toJournalConfig, d.IsQuiet := by
  simp only [NoModelPlan.opening, List.forall_mem_cons, List.not_mem_nil, false_implies,
    implies_true, and_true]
  refine ⟨?_, ?_, ?_, ?_, ?_⟩ <;> exact ⟨rfl, by simp, by simp⟩

theorem Inv.begin_ (h : Inv cfg w) {plan : NoModelPlan} {journal : Journal}
    {replayed : Bool} (hok : w.journal.begin_ cfg.toJournalConfig plan now =
      .ok (journal, chain, replayed)) :
    At cfg plan.runId chain { w with journal := journal } := by
  unfold Journal.begin_ at hok
  split at hok
  · next row hrow =>
      split at hok
      · cases hok
      split at hok
      · cases hok
      obtain ⟨chain', hloads, hok⟩ := bind_eq_ok.mp hok
      cases hok
      refine ⟨⟨h.absent, h.present⟩, row, hrow, ?_⟩
      obtain ⟨chain', hdurable, -⟩ := h.present _ row hrow
      have heq : chain = chain' :=
        Except.ok.inj (hloads.symm.trans hdurable.loads)
      exact heq ▸ hdurable
  · next habsent =>
      obtain ⟨⟨row, chain'⟩, hfold, hok⟩ := bind_eq_ok.mp hok
      cases hok
      obtain ⟨hdurable, hphases, hstate⟩ := Durable.appendAll
        opening_quiet (durable_empty rfl rfl rfl) ⟨fun _ => rfl, by decide⟩ hfold
      have hget (r : RunName) := Table.get?_insert (r := row) habsent r
      have hrun : RunInv w plan.runId chain := by
        refine ⟨fun i _ => h.absent _ habsent i, fun i => ?_, fun i hi => ?_,
          fun hs => absurd hs hstate⟩
        · rw [h.absent _ habsent i]
          exact Nat.zero_le 1
        · rw [NoModelChain.phase, hphases] at hi
          cases hi
      refine ⟨⟨?_, ?_⟩, row, (hget _).trans (if_pos rfl), hdurable⟩
      · intro r hr i
        refine h.absent r ?_ i
        replace hr := (hget r).symm.trans hr
        split at hr
        · cases hr
        exact hr
      · intro r row₁ hrow₁
        replace hrow₁ := (hget r).symm.trans hrow₁
        split at hrow₁
        · next hr =>
            cases hrow₁
            subst hr
            exact ⟨chain, hdurable, ⟨hrun.unread, hrun.once, hrun.completed, hrun.success⟩⟩
        · obtain ⟨chain₁, hdurable₁, hrun₁⟩ := h.present r row₁ hrow₁
          exact ⟨chain₁, hdurable₁,
            ⟨hrun₁.unread, hrun₁.once, hrun₁.completed, hrun₁.success⟩⟩

/-! ## Reading -/

theorem At.read {i : ℕ} (h : At cfg r chain w) (hphase : chain.phase r i = some .started)
    (hcount : w.readCount r i = 0) :
    At cfg r chain { w with reads := w.reads ++ [(r, i)] } ∧
      World.readCount { w with reads := w.reads ++ [(r, i)] } r i = 1 := by
  have hcounts (r' : RunName) (j : ℕ) :
      World.readCount { w with reads := w.reads ++ [(r, i)] } r' j =
        w.readCount r' j + if (r', j) = (r, i) then 1 else 0 := by
    rw [World.readCount, List.count_append, List.count_singleton, World.readCount]
    by_cases heq : (r', j) = (r, i)
    · rw [if_pos heq, heq, if_pos (beq_self_eq_true _)]
    · rw [if_neg heq, if_neg (by simpa using Ne.symm heq)]
  have hself : World.readCount { w with reads := w.reads ++ [(r, i)] } r i = 1 := by
    rw [hcounts, if_pos rfl, hcount]
  refine ⟨⟨⟨?_, ?_⟩, h.row⟩, hself⟩
  · intro r' habsent j
    rw [hcounts, h.inv.absent r' habsent j, if_neg]
    rintro heq
    obtain ⟨rfl, -⟩ := Prod.mk.inj heq
    obtain ⟨row, hrow, -⟩ := h.row
    rw [show w.journal.get? r' = none from habsent] at hrow
    cases hrow
  · intro r' row' hrow'
    by_cases hr : r' = r
    · subst hr
      obtain ⟨row, hrow, hdurable⟩ := h.row
      rw [show w.journal.get? r' = some row' from hrow'] at hrow
      cases hrow
      have hrun := h.run
      refine ⟨chain, hdurable, fun j hj => ?_, fun j => ?_, fun j hj => ?_, hrun.success⟩
      all_goals
        by_cases hji : j = i
        · subst hji
          first
            | exact hself.le
            | exact absurd (hphase ▸ hj) (by decide)
        · rw [hcounts, if_neg (fun heq => hji (Prod.mk.inj heq).2), Nat.add_zero]
          first
            | exact hrun.unread j hj
            | exact hrun.completed j hj
            | exact hrun.once j
    · obtain ⟨chain₁, hdurable₁, hrun₁⟩ := h.inv.present r' row' hrow'
      refine ⟨chain₁, hdurable₁, fun j hj => ?_, fun j => ?_, fun j hj => ?_, hrun₁.success⟩
      all_goals
        rw [hcounts, if_neg (fun heq => hr (Prod.mk.inj heq).1), Nat.add_zero]
        first
          | exact hrun₁.unread j hj
          | exact hrun₁.completed j hj
          | exact hrun₁.once j

theorem inv_empty : Inv cfg {} where
  absent _ _ _ := rfl
  present r row hrow := by
    cases hrow

end Ecosystem.NoModel
