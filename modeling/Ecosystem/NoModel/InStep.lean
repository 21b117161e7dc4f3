import Ecosystem.NoModel.Journal

/-!
# Memory and disk

`append` changes the chain of the caller before the database; when SQLite refuses, the
transaction is rolled back, and the chain keeps the event.  A `KeyError` of `_OUTCOMES`
leaves the transaction open, and the next `BEGIN` is refused.

A sitting is a process that has the journal open; `Fault` names the refused statement.
-/

namespace Ecosystem.NoModel

open Ecosystem.Lib
open Ecosystem.Runtime

/-! ## The connection -/

/-- The statement that SQLite refuses; the first is `BEGIN IMMEDIATE`, or the look-up
of a run. -/
inductive Fault
  | opening | insert | update | commit
deriving DecidableEq

/-- The committed rows, and whether an exception has left a transaction open in which
nothing is written. -/
structure Connection where
  journal : Journal
  inTransaction : Bool := false

/-- The keys of `_OUTCOMES`. -/
def recordedTypes : List EventType :=
  [.runReceived, .runValidated, .planCreated, .noModelPolicyAllowed,
    .noModelWorkflowStarted, .noModelReadRequested, .noModelReadAllowed,
    .noModelReadStarted, .noModelReadDenied, .noModelReadCompleted,
    .noModelReadFailed, .noModelWorkflowSucceeded, .runFailed]

section Operations

variable (cfg : JournalConfig)

/-- The event goes to the chain in memory. -/
def NoModelChain.offer (runId : RunName) (chain : NoModelChain) (d : Draft) (now : ℤ) :
    Except RuntimeStateError NoModelChain :=
  chain.append cfg runId (d.event cfg runId chain now) d.note

/-- `append` on a chain that `begin` has returned, with all that it leaves: the answer,
the connection and the chain of the caller. -/
def Connection.append (c : Connection) (runId : RunName) (chain : NoModelChain)
    (d : Draft) (now : ℤ) (fault : Option Fault) :
    Except Failure Unit × Connection × NoModelChain :=
  if c.inTransaction then
    -- `BEGIN` is refused, and `ROLLBACK` ends the transaction that was open
    (.error stateUnavailable, { c with inTransaction := false }, chain)
  else if fault = some .opening then
    -- `ROLLBACK` finds no transaction and raises
    (.error .system, c, chain)
  else if d.type ∉ recordedTypes then
    (.error .other, { c with inTransaction := true }, chain)
  else
    match chain.offer cfg runId d now with
    | .error _ => (.error stateUnavailable, c, chain)
    | .ok next =>
      if fault.isSome then (.error stateUnavailable, c, next)
      else
        match c.journal.append cfg runId chain d now with
        | .error e => (.error e, c, next)
        | .ok (journal, _) => (.ok (), { c with journal := journal }, next)

/-- `begin`: the answer and the connection. -/
def Connection.begin_ (c : Connection) (plan : NoModelPlan) (now : ℤ)
    (fault : Option Fault) : Except Failure NoModelChain × Connection :=
  if (c.journal.get? plan.runId).isNone ∧ c.inTransaction then
    (.error stateUnavailable, { c with inTransaction := false })
  else if fault = some .opening then (.error .system, c)
  else if (c.journal.get? plan.runId).isNone ∧ fault.isSome then
    (.error stateUnavailable, c)
  else
    match c.journal.begin_ cfg plan now with
    | .error e => (.error e, c)
    | .ok (journal, chain, _) => (.ok chain, { c with journal := journal })

/-! ## Sittings -/

/-- A chain that `begin` has returned. -/
structure Handle where
  runId : RunName
  chain : NoModelChain

structure Sitting where
  connection : Connection
  handles : List Handle := []

inductive Call
  | begin_ (plan : NoModelPlan) (now : ℤ) (fault : Option Fault)
  | append (handle : ℕ) (d : Draft) (now : ℤ) (fault : Option Fault)
  /-- The process ends, and another one opens the file. -/
  | reopen

def Sitting.step (s : Sitting) : Call → Sitting
  | .begin_ plan now fault =>
    match s.connection.begin_ cfg plan now fault with
    | (.error _, c) => { s with connection := c }
    | (.ok chain, c) =>
      { connection := c, handles := s.handles ++ [⟨plan.runId, chain⟩] }
  | .append i d now fault =>
    match s.handles[i]? with
    | none => s
    | some h =>
      let (_, c, chain) := s.connection.append cfg h.runId h.chain d now fault
      { connection := c, handles := s.handles.set i { h with chain := chain } }
  | .reopen => { connection := { journal := s.connection.journal } }

def Sitting.after (s : Sitting) (calls : List Call) : Sitting :=
  calls.foldl (Sitting.step cfg) s

end Operations

/-! ## In step -/

def RunRow.Numbered (row : RunRow) : Prop :=
  row.events.map (·.sequence) = List.range' 1 row.events.length

def Journal.Numbered (journal : Journal) : Prop :=
  ∀ r row, journal.get? r = some row → row.Numbered

section Definitions

variable (cfg : JournalConfig)

def Handle.InStep (journal : Journal) (h : Handle) : Prop :=
  ∃ row, journal.get? h.runId = some row ∧ row.chain cfg h.runId = .ok h.chain

/-- The chain is in step, and `append` answers on it as on the chain that reopening the
journal gives. -/
def Handle.Current (c : Connection) (h : Handle) : Prop :=
  ∃ row chain, c.journal.get? h.runId = some row ∧ row.chain cfg h.runId = .ok chain ∧
    h.chain = chain ∧
    ∀ d now fault, (c.append cfg h.runId h.chain d now fault).1 = .ok () ↔
      (({ journal := c.journal } : Connection).append cfg h.runId chain d now fault).1 =
        .ok ()

/-- No transaction is left open, and every chain is in step. -/
structure Sitting.Synced (s : Sitting) : Prop where
  idle : s.connection.inTransaction = false
  inStep : ∀ h ∈ s.handles, h.InStep cfg s.connection.journal

/-- No other chain of the run of this one has been given out. -/
def Sitting.Sole (s : Sitting) (i : ℕ) (h : Handle) : Prop :=
  ∀ j h', s.handles[j]? = some h' → j ≠ i → h'.runId ≠ h.runId

/-- A call that leaves memory and disk in step: where `BEGIN` is granted, the type of an
event is one that the journal records, and an event that the chain accepts is written
without a fault, to a run of which there is no other chain. -/
def Sitting.Meets (s : Sitting) : Call → Prop
  | .append i d now fault =>
    ∀ h, s.handles[i]? = some h → fault ≠ some .opening →
      d.type ∈ recordedTypes ∧
        ∀ next, h.chain.offer cfg h.runId d now = .ok next → fault = none ∧ s.Sole i h
  | .begin_ _ _ _ => True
  | .reopen => True

/-- Every call of the run meets the condition where it is made. -/
def Sitting.AllMeet (s : Sitting) : List Call → Prop
  | [] => True
  | call :: calls => s.Meets cfg call ∧ (s.step cfg call).AllMeet calls

end Definitions

/-! ## The numbers of the rows -/

section Numbers

variable {cfg : JournalConfig} {r : RunName} {row row' : RunRow}
  {chain chain' : NoModelChain} {d : Draft} {now : ℤ}

theorem RunRow.length_events (h : row.chain cfg r = .ok chain) :
    row.events.length = chain.events.length := by
  rw [← RunRow.events_of_chain h, List.length_map]

theorem RunRow.Numbered.free (h : row.Numbered) :
    row.events.any (·.sequence = row.events.length + 1) = false := by
  rw [List.any_eq_false]
  intro eventRow hmem htaken
  have hin : eventRow.sequence ∈ row.events.map (·.sequence) :=
    List.mem_map_of_mem hmem
  rw [h, List.mem_range'_1] at hin
  have := of_decide_eq_true htaken
  omega

theorem RunRow.append_of_offer (hnumbered : row.Numbered)
    (hchain : row.chain cfg r = .ok chain) (hoffer : chain.offer cfg r d now = .ok chain') :
    ∃ row', row.append cfg r chain d now = .ok (row', chain') ∧ row'.Numbered := by
  have hfree := hnumbered.free
  rw [RunRow.length_events hchain] at hfree
  rw [NoModelChain.offer] at hoffer
  unfold RunRow.append
  dsimp only
  rw [hoffer]
  refine ⟨_, if_neg (Bool.eq_false_iff.mp hfree), ?_⟩
  rw [RunRow.Numbered, List.map_append, hnumbered, List.length_append,
    List.length_singleton, List.range'_concat, RunRow.length_events hchain, one_mul,
    Nat.add_comm 1]
  rfl

theorem RunRow.offer_of_append (hok : row.append cfg r chain d now = .ok (row', chain')) :
    chain.offer cfg r d now = .ok chain' := by
  unfold RunRow.append at hok
  dsimp only at hok
  split at hok
  · cases hok
  next next hnext =>
  split at hok
  · cases hok
  cases hok
  exact hnext

structure RunRow.Kept (cfg : JournalConfig) (r : RunName) (row : RunRow)
    (chain : NoModelChain) : Prop where
  numbered : row.Numbered
  chain : row.chain cfg r = .ok chain

theorem RunRow.Kept.append (h : row.Kept cfg r chain)
    (hok : row.append cfg r chain d now = .ok (row', chain')) : row'.Kept cfg r chain' := by
  obtain ⟨row'', happend, hnumbered⟩ :=
    RunRow.append_of_offer h.numbered h.chain (RunRow.offer_of_append hok)
  rw [hok] at happend
  cases happend
  exact ⟨hnumbered, RunRow.chain_append h.chain hok⟩

theorem RunRow.Kept.appendAll {drafts : List Draft} (h : row.Kept cfg r chain)
    (hok : drafts.foldlM (fun (x : RunRow × NoModelChain) d =>
      x.1.append cfg r x.2 d now) (row, chain) = .ok (row', chain')) :
    row'.Kept cfg r chain' := by
  refine foldlM_history_induction (fun _ (x : RunRow × NoModelChain) =>
    x.1.Kept cfg r x.2) h ?_ drafts (row', chain') hok
  rintro - ⟨row₁, chain₁⟩ d ⟨row₂, chain₂⟩ - hkept happend
  exact hkept.append happend

end Numbers

/-! ## Calls -/

section Calls

variable {cfg : JournalConfig} {journal journal' : Journal} {c : Connection} {r : RunName}
  {chain next : NoModelChain} {d : Draft} {now : ℤ} {fault : Option Fault}

theorem Journal.append_of_offer (hnumbered : journal.Numbered)
    (hstep : Handle.InStep cfg journal ⟨r, chain⟩)
    (hoffer : chain.offer cfg r d now = .ok next) :
    ∃ journal', journal.append cfg r chain d now = .ok (journal', next) ∧
      journal'.Numbered ∧ Handle.InStep cfg journal' ⟨r, next⟩ ∧
      ∀ r' ≠ r, journal'.get? r' = journal.get? r' := by
  obtain ⟨row, hrow, hchain⟩ := hstep
  obtain ⟨row', happend, hnumbered'⟩ :=
    RunRow.append_of_offer (hnumbered r row hrow) hchain hoffer
  have hself : (journal.modify r fun _ => row').get? r = some row' := by
    rw [Table.get?_modify_self, show journal.get? r = some row from hrow]
    rfl
  refine ⟨journal.modify r fun _ => row', ?_, ?_, ⟨row', hself, ?_⟩, ?_⟩
  · unfold Journal.append
    rw [show journal.get? r = some row from hrow]
    dsimp only
    rw [happend]
    rfl
  · intro r' row₁ hrow₁
    by_cases hr : r' = r
    · subst hr
      rw [hself] at hrow₁
      cases hrow₁
      exact hnumbered'
    · rw [Table.get?_modify_of_ne hr] at hrow₁
      exact hnumbered r' row₁ hrow₁
  · exact RunRow.chain_append hchain happend
  · exact fun r' hr => Table.get?_modify_of_ne hr

theorem Journal.begin_spec {plan : NoModelPlan} {replayed : Bool}
    (hnumbered : journal.Numbered)
    (hok : journal.begin_ cfg plan now = .ok (journal', chain, replayed)) :
    journal'.Numbered ∧ Handle.InStep cfg journal' ⟨plan.runId, chain⟩ ∧
      ∀ r row, journal.get? r = some row → journal'.get? r = some row := by
  unfold Journal.begin_ at hok
  split at hok
  · next row hrow =>
      split at hok
      · cases hok
      split at hok
      · cases hok
      obtain ⟨chain', hchain, hok⟩ := bind_eq_ok.mp hok
      cases hok
      exact ⟨hnumbered, ⟨row, hrow, hchain⟩, fun _ _ hrow => hrow⟩
  · next habsent =>
      obtain ⟨⟨row, chain'⟩, hfold, hok⟩ := bind_eq_ok.mp hok
      cases hok
      have hnew : (plan.newRow cfg).Kept cfg plan.runId {} :=
        ⟨rfl, plan.chain_newRow⟩
      have hkept := hnew.appendAll hfold
      have hget (r : RunName) := Table.get?_insert (r := row) habsent r
      refine ⟨?_, ⟨row, (hget _).trans (if_pos rfl), hkept.chain⟩, ?_⟩
      · intro r row₁ hrow₁
        replace hrow₁ := (hget r).symm.trans hrow₁
        split at hrow₁
        · cases hrow₁
          exact hkept.numbered
        · exact hnumbered r row₁ hrow₁
      · intro r row₁ hrow₁
        refine (hget r).trans ((if_neg ?_).trans hrow₁)
        rintro rfl
        rw [show journal.get? plan.runId = some row₁ from hrow₁] at habsent
        cases habsent

theorem Connection.append_idle (hidle : c.inTransaction = false)
    (hnumbered : c.journal.Numbered) (hstep : Handle.InStep cfg c.journal ⟨r, chain⟩) :
    (fault = some .opening ∧ (c.append cfg r chain d now fault).2 = (c, chain)) ∨
    (fault ≠ some .opening ∧ d.type ∉ recordedTypes ∧
      (c.append cfg r chain d now fault).2 = ({ c with inTransaction := true }, chain)) ∨
    (fault ≠ some .opening ∧ d.type ∈ recordedTypes ∧
      (∃ e, chain.offer cfg r d now = .error e) ∧
      (c.append cfg r chain d now fault).2 = (c, chain)) ∨
    ∃ next, fault ≠ some .opening ∧ d.type ∈ recordedTypes ∧
      chain.offer cfg r d now = .ok next ∧
      (fault ≠ none ∧ (c.append cfg r chain d now fault).2 = (c, next) ∨
        fault = none ∧ ∃ journal, journal.Numbered ∧
          Handle.InStep cfg journal ⟨r, next⟩ ∧
          (∀ r' ≠ r, journal.get? r' = c.journal.get? r') ∧
          (c.append cfg r chain d now fault).2 = ({ c with journal := journal }, next)) := by
  unfold Connection.append
  rw [if_neg (by rw [hidle]; decide)]
  by_cases hopening : fault = some .opening
  · exact .inl ⟨hopening, by rw [if_pos hopening]⟩
  rw [if_neg hopening]
  by_cases htype : d.type ∈ recordedTypes
  swap
  · exact .inr (.inl ⟨hopening, htype, by rw [if_pos htype]⟩)
  rw [if_neg (not_not.mpr htype)]
  cases hoffer : chain.offer cfg r d now with
  | error e => exact .inr (.inr (.inl ⟨hopening, htype, ⟨e, rfl⟩, rfl⟩))
  | ok next =>
    refine .inr (.inr (.inr ⟨next, hopening, htype, rfl, ?_⟩))
    cases fault with
    | some fault => exact .inl ⟨Option.some_ne_none _, rfl⟩
    | none =>
      obtain ⟨journal, happend, hnumbered', hstep', hothers⟩ :=
        Journal.append_of_offer hnumbered hstep hoffer
      refine .inr ⟨rfl, journal, hnumbered', hstep', hothers, ?_⟩
      dsimp only
      rw [if_neg (by decide), happend]

/-- A call of `begin` on an idle connection gives a chain that is in step, or nothing. -/
theorem Connection.begin_idle {plan : NoModelPlan} (hidle : c.inTransaction = false)
    (hnumbered : c.journal.Numbered) :
    (∃ e, c.begin_ cfg plan now fault = (.error e, c)) ∨
    ∃ journal chain, c.begin_ cfg plan now fault =
        (.ok chain, { c with journal := journal }) ∧
      journal.Numbered ∧ Handle.InStep cfg journal ⟨plan.runId, chain⟩ ∧
      ∀ r row, c.journal.get? r = some row → journal.get? r = some row := by
  unfold Connection.begin_
  rw [if_neg (by rw [hidle]; simp)]
  split
  · exact .inl ⟨_, rfl⟩
  split
  · exact .inl ⟨_, rfl⟩
  cases hbegin : c.journal.begin_ cfg plan now with
  | error e => exact .inl ⟨e, rfl⟩
  | ok answer =>
    obtain ⟨journal, chain, replayed⟩ := answer
    exact .inr ⟨journal, chain, rfl, Journal.begin_spec hnumbered hbegin⟩

end Calls

/-! ## One call -/

section Step

variable {cfg : JournalConfig} {journal : Journal} {s : Sitting} {h : Handle} {i : ℕ}
  {r : RunName} {chain next : NoModelChain} {d : Draft} {now : ℤ} {fault : Option Fault}

theorem Handle.InStep.unique (h : Handle.InStep cfg journal ⟨r, chain⟩)
    (h' : Handle.InStep cfg journal ⟨r, next⟩) : chain = next := by
  obtain ⟨row, hrow, hchain⟩ := h
  obtain ⟨row', hrow', hchain'⟩ := h'
  rw [show journal.get? r = some row from hrow] at hrow'
  cases hrow'
  exact Except.ok.inj (hchain.symm.trans hchain')

theorem NoModelChain.ne_of_offer (h : chain.offer cfg r d now = .ok next) :
    chain ≠ next := by
  intro heq
  have hlength := congrArg List.length (events_of_append h)
  rw [← heq, List.length_append, List.length_singleton] at hlength
  omega

theorem Sitting.step_append (hget : s.handles[i]? = some h) :
    s.step cfg (.append i d now fault) =
      { connection := (s.connection.append cfg h.runId h.chain d now fault).2.1
        handles := s.handles.set i
          ⟨h.runId, (s.connection.append cfg h.runId h.chain d now fault).2.2⟩ } := by
  rw [Sitting.step, hget]

theorem Sitting.set_self (hget : s.handles[i]? = some h) :
    s.handles.set i ⟨h.runId, h.chain⟩ = s.handles := by
  obtain ⟨hi, hvalue⟩ := List.getElem?_eq_some_iff.mp hget
  rw [← hvalue]
  exact List.set_getElem_self hi

theorem Sitting.synced_begin {plan : NoModelPlan} (hnumbered : s.connection.journal.Numbered)
    (hsynced : s.Synced cfg) :
    (s.step cfg (.begin_ plan now fault)).Synced cfg ∧
      (s.step cfg (.begin_ plan now fault)).connection.journal.Numbered := by
  rw [Sitting.step]
  rcases Connection.begin_idle hsynced.idle hnumbered with
    ⟨e, heq⟩ | ⟨journal, chain, heq, hnumbered', hstep, hkept⟩
  · rw [heq]
    exact ⟨hsynced, hnumbered⟩
  · rw [heq]
    refine ⟨⟨hsynced.idle, ?_⟩, hnumbered'⟩
    intro h hmem
    rcases List.mem_append.mp hmem with hold | hnew
    · obtain ⟨row, hrow, hchain⟩ := hsynced.inStep h hold
      exact ⟨row, hkept _ row hrow, hchain⟩
    · rw [List.mem_singleton.mp hnew]
      exact hstep

theorem Sitting.not_inStep_of_ahead (hsynced : s.Synced cfg)
    (hget : s.handles[i]? = some h) (hoffer : h.chain.offer cfg h.runId d now = .ok next) :
    ¬ ∀ h' ∈ s.handles.set i ⟨h.runId, next⟩, h'.InStep cfg s.connection.journal := by
  intro hafter
  have hset : ⟨h.runId, next⟩ ∈ s.handles.set i ⟨h.runId, next⟩ :=
    List.mem_set (List.getElem?_eq_some_iff.mp hget).1 _
  have hbefore := hsynced.inStep h (List.mem_of_getElem? hget)
  exact NoModelChain.ne_of_offer hoffer (hbefore.unique (hafter _ hset))

theorem Sitting.synced_written (hsynced : s.Synced cfg) (hget : s.handles[i]? = some h)
    (hoffer : h.chain.offer cfg h.runId d now = .ok next)
    (hstep : Handle.InStep cfg journal ⟨h.runId, next⟩)
    (hothers : ∀ r ≠ h.runId, journal.get? r = s.connection.journal.get? r) :
    Sitting.Synced cfg
        { connection := { s.connection with journal := journal }
          handles := s.handles.set i ⟨h.runId, next⟩ } ↔ s.Sole i h := by
  have hbefore := hsynced.inStep h (List.mem_of_getElem? hget)
  constructor
  · intro hafter j h' hget' hj hrun
    have hkept : h' ∈ s.handles.set i ⟨h.runId, next⟩ :=
      List.mem_of_getElem? (i := j) ((List.getElem?_set_ne (Ne.symm hj)).trans hget')
    have hbefore' := hsynced.inStep h' (List.mem_of_getElem? hget')
    have hafter' := hafter.inStep h' hkept
    obtain ⟨r', chain'⟩ := h'
    obtain rfl : r' = h.runId := hrun
    have hold : h.chain = chain' := hbefore.unique hbefore'
    have hnew : next = chain' := hstep.unique hafter'
    exact NoModelChain.ne_of_offer hoffer (hold.trans hnew.symm)
  · intro hsole
    refine ⟨hsynced.idle, fun h' hmem' => ?_⟩
    obtain ⟨j, hget'⟩ := List.mem_iff_getElem?.mp hmem'
    by_cases hj : j = i
    · subst hj
      rw [List.getElem?_set_self (List.getElem?_eq_some_iff.mp hget).1] at hget'
      cases hget'
      exact hstep
    · rw [List.getElem?_set_ne (Ne.symm hj)] at hget'
      obtain ⟨row, hrow, hchain⟩ := hsynced.inStep h' (List.mem_of_getElem? hget')
      exact ⟨row, (hothers _ (hsole j h' hget' hj)).trans hrow, hchain⟩

theorem Sitting.synced_append (hnumbered : s.connection.journal.Numbered)
    (hsynced : s.Synced cfg) (hget : s.handles[i]? = some h) :
    ((s.step cfg (.append i d now fault)).Synced cfg ↔
        (fault ≠ some .opening → d.type ∈ recordedTypes ∧
          ∀ next, h.chain.offer cfg h.runId d now = .ok next → fault = none ∧ s.Sole i h)) ∧
      (s.step cfg (.append i d now fault)).connection.journal.Numbered := by
  have hstep := hsynced.inStep h (List.mem_of_getElem? hget)
  rw [Sitting.step_append hget]
  rcases @Connection.append_idle cfg _ _ _ d now fault hsynced.idle hnumbered hstep with
    ⟨hopening, heq⟩ | ⟨hopening, htype, heq⟩ | ⟨hopening, htype, ⟨e, hrefused⟩, heq⟩ |
      ⟨next, hopening, htype, hoffer, ⟨hfault, heq⟩ |
        ⟨rfl, journal, hnumbered', hstep', hothers, heq⟩⟩
  · rw [heq, Sitting.set_self hget]
    exact ⟨⟨fun _ hne => absurd hopening hne, fun _ => hsynced⟩, hnumbered⟩
  · rw [heq]
    refine ⟨⟨fun hafter => ?_, fun hcond => absurd (hcond hopening).1 htype⟩, hnumbered⟩
    have hidle := hafter.idle
    cases hidle
  · rw [heq, Sitting.set_self hget]
    refine ⟨⟨fun _ _ => ⟨htype, fun next hoffer => ?_⟩, fun _ => hsynced⟩, hnumbered⟩
    rw [hrefused] at hoffer
    cases hoffer
  · rw [heq]
    refine ⟨⟨fun hafter => ?_, fun hcond => ?_⟩, hnumbered⟩
    · exact absurd hafter.inStep (Sitting.not_inStep_of_ahead hsynced hget hoffer)
    · exact absurd ((hcond hopening).2 next hoffer).1 hfault
  · rw [heq, Sitting.synced_written hsynced hget hoffer hstep' hothers]
    refine ⟨⟨fun hsole _ => ⟨htype, fun _ _ => ⟨rfl, hsole⟩⟩, fun hcond => ?_⟩, hnumbered'⟩
    exact ((hcond hopening).2 next hoffer).2

theorem Handle.Current.inStep {c : Connection} (h' : h.Current cfg c) :
    h.InStep cfg c.journal := by
  obtain ⟨row, chain, hrow, hchain, heq, -⟩ := h'
  exact ⟨row, hrow, by rw [heq]; exact hchain⟩

/-- What the database refuses of an accepted event leaves the chain ahead of its rows. -/
theorem Sitting.not_current_of_refused (refused : Fault)
    (hnumbered : s.connection.journal.Numbered) (hsynced : s.Synced cfg)
    (hget : s.handles[i]? = some h) (hopening : refused ≠ .opening)
    (htype : d.type ∈ recordedTypes) (hoffer : h.chain.offer cfg h.runId d now = .ok next) :
    ¬ ∀ h' ∈ (s.step cfg (.append i d now (some refused))).handles,
      h'.Current cfg (s.step cfg (.append i d now (some refused))).connection := by
  have hstep := hsynced.inStep h (List.mem_of_getElem? hget)
  rw [Sitting.step_append hget]
  rcases Connection.append_idle hsynced.idle hnumbered hstep (d := d) with
    ⟨hfault, -⟩ | ⟨-, hunknown, -⟩ | ⟨-, -, ⟨e, hrefused⟩, -⟩ |
      ⟨next', -, -, hoffer', ⟨-, heq⟩ | ⟨hfault, -⟩⟩
  · exact absurd (Option.some.inj hfault) hopening
  · exact absurd htype hunknown
  · rw [hoffer] at hrefused
    cases hrefused
  · rw [heq]
    exact fun hcurrent => Sitting.not_inStep_of_ahead hsynced hget hoffer'
      fun h' hmem => (hcurrent h' hmem).inStep
  · cases hfault

/-- **One call from a sitting that is in step** leaves it in step exactly when it meets
the condition. -/
theorem Sitting.synced_step (hnumbered : s.connection.journal.Numbered)
    (hsynced : s.Synced cfg) (call : Call) :
    ((s.step cfg call).Synced cfg ↔ s.Meets cfg call) ∧
      (s.step cfg call).connection.journal.Numbered := by
  cases call with
  | reopen =>
    have hafter : (s.step cfg .reopen).Synced cfg :=
      ⟨rfl, fun _ hmem => absurd hmem List.not_mem_nil⟩
    exact ⟨iff_of_true hafter trivial, hnumbered⟩
  | begin_ plan now fault =>
    obtain ⟨hafter, hnumbered'⟩ := Sitting.synced_begin hnumbered hsynced
    exact ⟨iff_of_true hafter trivial, hnumbered'⟩
  | append i d now fault =>
    cases hget : s.handles[i]? with
    | none =>
      rw [Sitting.step, hget]
      refine ⟨iff_of_true hsynced fun h hget' => ?_, hnumbered⟩
      rw [hget] at hget'
      cases hget'
    | some h =>
      obtain ⟨hiff, hnumbered'⟩ := Sitting.synced_append hnumbered hsynced hget
        (d := d)
      refine ⟨hiff.trans ⟨fun hcond h' hget' => ?_, fun hmeets => hmeets h hget⟩,
        hnumbered'⟩
      rw [hget] at hget'
      cases hget'
      exact hcond

end Step

/-! ## Runs -/

section Runs

variable {cfg : JournalConfig} {s : Sitting}

theorem Sitting.Synced.current (h : s.Synced cfg) :
    ∀ handle ∈ s.handles, handle.Current cfg s.connection := by
  intro handle hmem
  obtain ⟨row, hrow, hchain⟩ := h.inStep handle hmem
  refine ⟨row, handle.chain, hrow, hchain, rfl, fun d now fault => ?_⟩
  have hreopened : s.connection = { journal := s.connection.journal } := by
    have hidle := h.idle
    generalize s.connection = c at hidle
    obtain ⟨journal, inTransaction⟩ := c
    cases hidle
    rfl
  rw [← hreopened]

/-- In step at the start, and behind every call exactly as long as the calls meet the
condition. -/
theorem Sitting.synced_run (calls : List Call)
    (hnumbered : s.connection.journal.Numbered) (hsynced : s.Synced cfg) :
    (∀ before, before <+: calls → (s.after cfg before).Synced cfg) ↔
      s.AllMeet cfg calls := by
  induction calls generalizing s with
  | nil =>
    refine iff_of_true (fun before hbefore => ?_) trivial
    rw [List.prefix_nil.mp hbefore]
    exact hsynced
  | cons call calls ih =>
    obtain ⟨hiff, hnumbered'⟩ := Sitting.synced_step hnumbered hsynced call
    constructor
    · intro hall
      have hstep : (s.step cfg call).Synced cfg :=
        hall [call] ⟨calls, rfl⟩
      refine ⟨hiff.mp hstep, (ih hnumbered' hstep).mp fun before hbefore => ?_⟩
      exact hall (call :: before) (List.cons_prefix_cons.mpr ⟨rfl, hbefore⟩)
    · rintro ⟨hmeets, hrest⟩ before hbefore
      have hstep := hiff.mpr hmeets
      rcases List.prefix_cons_iff.mp hbefore with rfl | ⟨before', rfl, hbefore'⟩
      · exact hsynced
      · exact (ih hnumbered' hstep).mpr hrest before' hbefore'

end Runs

/-- **Memory and disk keep in step exactly as long as nothing is refused behind the
chain.**  From any numbered journal, along any calls of `begin` and `append` and any
reopening, whatever SQLite refuses: no transaction is left open and every chain that
`begin` has returned is the replay of the durable rows of its run, behind every call, if
and only if each call meets the condition where it is made.  In every state so reached
`append` answers on each chain as it would after the journal is reopened. -/
theorem append_in_step_iff (cfg : JournalConfig) (journal : Journal)
    (hnumbered : journal.Numbered) (calls : List Call) :
    ((∀ before, before <+: calls →
        (Sitting.after cfg { connection := { journal := journal } } before).Synced cfg) ↔
      Sitting.AllMeet cfg { connection := { journal := journal } } calls) ∧
    (Sitting.AllMeet cfg { connection := { journal := journal } } calls →
      ∀ before, before <+: calls →
        ∀ h ∈ (Sitting.after cfg { connection := { journal := journal } } before).handles,
          h.Current cfg
            (Sitting.after cfg { connection := { journal := journal } } before).connection) := by
  have hopened : Sitting.Synced cfg { connection := { journal := journal } } :=
    ⟨rfl, fun _ hmem => absurd hmem List.not_mem_nil⟩
  have hrun := Sitting.synced_run calls hnumbered hopened
  exact ⟨hrun, fun hmeet before hbefore => (hrun.mpr hmeet before hbefore).current⟩

/-! ## A refused commit -/

def sampleDigest (c : Char) : String := String.ofList (List.replicate 64 c)

def sampleJournalConfig : JournalConfig where
  eventDigest _ _ := sampleDigest 'a'
  eventKey _ n := String.ofList (List.replicate n 'k')
  planDigest _ := sampleDigest 'b'
  mac _ := "mac"

def sampleRun : RunName := ⟨"run-1", by decide⟩

def samplePlan : NoModelPlan where
  id := "plan-1"
  runId := sampleRun
  scopeSlots := [⟨"slot-1", sampleDigest 'a'⟩, ⟨"slot-2", sampleDigest 'b'⟩,
    ⟨"slot-3", sampleDigest 'c'⟩]
  maxDurationSeconds := 60
  maxInputBytes := 1000

def sampleOpened : Sitting := { connection := { journal := .empty } }

def sampleBegun : Sitting :=
  sampleOpened.step sampleJournalConfig (.begin_ samplePlan 0 none)

def sampleFailure (fault : Option Fault) : Call :=
  .append 0 { type := .runFailed, producer := .runtime } 1 fault

theorem sampleBegun_accepts :
    (sampleBegun.handles.map fun h =>
      (h.chain.offer sampleJournalConfig h.runId
        { type := .runFailed, producer := .runtime } 1).toBool) = [true] := by
  decide +kernel

theorem sampleOpened_numbered : sampleOpened.connection.journal.Numbered :=
  fun _ _ hrow => by cases hrow

theorem sampleBegun_synced :
    sampleBegun.Synced sampleJournalConfig ∧ sampleBegun.connection.journal.Numbered := by
  have hopened : sampleOpened.Synced sampleJournalConfig :=
    ⟨rfl, fun _ hmem => absurd hmem List.not_mem_nil⟩
  rw [sampleBegun]
  exact Sitting.synced_begin sampleOpened_numbered hopened

theorem sampleOpened_after (call : Call) :
    sampleOpened.after sampleJournalConfig [.begin_ samplePlan 0 none, call] =
      sampleBegun.step sampleJournalConfig call := by
  rw [Sitting.after, List.foldl_cons, List.foldl_cons, List.foldl_nil, sampleBegun]

theorem append_in_step_iff_sample :
    sampleOpened.AllMeet sampleJournalConfig [.begin_ samplePlan 0 none, sampleFailure none] ∧
      ∀ h ∈ (sampleOpened.after sampleJournalConfig
          [.begin_ samplePlan 0 none, sampleFailure none]).handles,
        h.Current sampleJournalConfig (sampleOpened.after sampleJournalConfig
          [.begin_ samplePlan 0 none, sampleFailure none]).connection := by
  have hmeets : sampleBegun.Meets sampleJournalConfig (sampleFailure none) := by
    intro h _ _
    refine ⟨by decide, fun _ _ => ⟨rfl, fun j h' hget' hj => ?_⟩⟩
    have hlength := congrArg List.length sampleBegun_accepts
    rw [List.length_map, List.length_singleton] at hlength
    have hlt := (List.getElem?_eq_some_iff.mp hget').1
    omega
  have hall : sampleOpened.AllMeet sampleJournalConfig
      [.begin_ samplePlan 0 none, sampleFailure none] := by
    rw [Sitting.AllMeet, Sitting.AllMeet, ← sampleBegun]
    exact ⟨trivial, hmeets, trivial⟩
  exact ⟨hall, (append_in_step_iff sampleJournalConfig .empty sampleOpened_numbered
    [.begin_ samplePlan 0 none, sampleFailure none]).2 hall _ (List.prefix_refl _)⟩

/-- The chain keeps the event of a refused commit. -/
theorem append_ahead_of_rows :
    ¬ ∀ h ∈ (sampleOpened.after sampleJournalConfig
        [.begin_ samplePlan 0 none, sampleFailure (some .commit)]).handles,
      h.Current sampleJournalConfig (sampleOpened.after sampleJournalConfig
        [.begin_ samplePlan 0 none, sampleFailure (some .commit)]).connection := by
  obtain ⟨h, hhandles, haccepts⟩ := List.map_eq_singleton_iff.mp sampleBegun_accepts
  have hget : sampleBegun.handles[0]? = some h := by
    rw [hhandles]
    rfl
  rw [sampleOpened_after, sampleFailure]
  cases hoffer : h.chain.offer sampleJournalConfig h.runId
      { type := .runFailed, producer := .runtime } 1 with
  | error e =>
    rw [hoffer] at haccepts
    cases haccepts
  | ok next =>
    exact Sitting.not_current_of_refused .commit sampleBegun_synced.2 sampleBegun_synced.1
      hget (by decide) (by decide) hoffer

end Ecosystem.NoModel
