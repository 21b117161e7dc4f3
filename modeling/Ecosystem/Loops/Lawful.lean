import Ecosystem.Loops.Journal

/-!
# What the engine relies on in a journal

`JournalOps` lists the calls that `BoundedLoopEngine` makes.  `LawfulJournal` says what
an accepted call does to the stored checkpoint (`view`) and to the event chain
(`history`) of each run.
-/

namespace Ecosystem.Loops

open Ecosystem.Lib

structure JournalOps (σ : Type) where
  create : σ → String → LoopDefinition → Except LoopError (LoopCheckpoint × σ)
  load : σ → String → Except LoopError LoopCheckpoint
  requestCancel : σ → String → Except LoopError σ
  setKillSwitch : σ → Bool → σ
  stopReason : σ → String → Except LoopError (Option String)
  transition : σ → TransitionRequest → Except LoopError (TransitionAnswer × σ)

/-- The outcomes of an accepted `create`. -/
inductive Created {σ : Type} (definitionDigest : LoopDefinition → String)
    (view : σ → String → Option LoopCheckpoint)
    (history : σ → String → List LoopEvent)
    (s : σ) (runId : String) (definition : LoopDefinition) :
    LoopCheckpoint → σ → Prop
  | fresh (s' : σ) (hfree : view s runId = none)
      (hview : view s' = Function.update (view s) runId
        (some (initialCheckpoint definitionDigest runId definition)))
      (hhist : history s' = Function.update (history s) runId []) :
      Created definitionDigest view history s runId definition
        (initialCheckpoint definitionDigest runId definition) s'
  | known (cp : LoopCheckpoint) (hview : view s runId = some cp)
      (hdef : cp.definitionDigest = definitionDigest definition) :
      Created definitionDigest view history s runId definition cp s

/-- The outcomes of an accepted `transition`. -/
inductive Transitioned {σ : Type} (semanticDigest : LoopEvent → String)
    (view : σ → String → Option LoopCheckpoint)
    (history : σ → String → List LoopEvent)
    (s : σ) (req : TransitionRequest) : TransitionAnswer → σ → Prop
  | lost (cp : LoopCheckpoint)
      (hview : view s req.expected.runId = some cp) (hne : cp ≠ req.expected)
      (hterminal : cp.state.isTerminal = true) :
      Transitioned semanticDigest view history s req (.settled cp) s
  | committed (answer : TransitionAnswer) (s' : σ)
      (hcurrent : view s req.expected.runId = some req.expected)
      (hallowed : transitionAllowed req.expected.state req.target = true)
      (husage : req.expected.usage ≤ req.candidateUsage)
      (hanswer : answer = .settled (req.next semanticDigest) ∨
        answer = .reload)
      (hview : view s' = Function.update (view s) req.expected.runId
        (some (req.next semanticDigest)))
      (hhist : history s' = Function.update (history s) req.expected.runId
        (history s req.expected.runId ++ [req.event])) :
      Transitioned semanticDigest view history s req answer s'

structure LawfulJournal {σ : Type} (ops : JournalOps σ)
    (definitionDigest : LoopDefinition → String)
    (semanticDigest : LoopEvent → String) where
  view : σ → String → Option LoopCheckpoint
  history : σ → String → List LoopEvent
  create_ok : ∀ s runId definition cp s', ops.create s runId definition = .ok (cp, s') →
      Created definitionDigest view history s runId definition cp s'
  load_ok : ∀ s runId cp, ops.load s runId = .ok cp → view s runId = some cp
  cancel_ok : ∀ s runId s', ops.requestCancel s runId = .ok s' →
    view s' = view s ∧ history s' = history s
  kill_ok : ∀ s enabled, view (ops.setKillSwitch s enabled) = view s ∧
    history (ops.setKillSwitch s enabled) = history s
  transition_ok : ∀ s req answer s', ops.transition s req = .ok (answer, s') →
      Transitioned semanticDigest view history s req answer s'

theorem TransitionRequest.allowed_of_not_refused {req : TransitionRequest}
    (h : req.refused = none) :
    transitionAllowed req.expected.state req.target = true ∧
      req.expected.usage ≤ req.candidateUsage := by
  unfold TransitionRequest.refused at h
  split at h
  · cases h
  next hallowed =>
  split at h
  · cases h
  split at h
  · cases h
  split at h
  · cases h
  next husage =>
  exact ⟨by simpa using hallowed, not_not.mp husage⟩

section Instances

variable (definitionDigest : LoopDefinition → String)
  (semanticDigest : LoopEvent → String)

/-! ## The in-memory journal is lawful -/

def inMemoryOps : JournalOps InMemoryLoopJournal where
  create := InMemoryLoopJournal.create definitionDigest
  load := InMemoryLoopJournal.load
  requestCancel := InMemoryLoopJournal.requestCancel
  setKillSwitch := InMemoryLoopJournal.setKillSwitch
  stopReason := InMemoryLoopJournal.stopReason
  transition := InMemoryLoopJournal.transition semanticDigest

namespace InMemoryLoopJournal

def view (j : InMemoryLoopJournal) (runId : String) : Option LoopCheckpoint :=
  j.checkpoints.lookup runId

def history (j : InMemoryLoopJournal) (runId : String) : List LoopEvent :=
  (j.events.lookup runId).getD []

variable {definitionDigest semanticDigest} {j j' : InMemoryLoopJournal}

variable {runId : String}

theorem view_write {cp : LoopCheckpoint} {events : Dict String (List LoopEvent)} :
    ({ j with checkpoints := j.checkpoints.insert runId cp
              events := events } : InMemoryLoopJournal).view =
      Function.update j.view runId (some cp) := by
  funext r
  rw [view, Dict.lookup_insert_ite, Function.update_apply]
  rfl

theorem history_write {events : List LoopEvent}
    {checkpoints : Dict String LoopCheckpoint} :
    ({ j with checkpoints := checkpoints
              events := j.events.insert runId events } :
        InMemoryLoopJournal).history =
      Function.update j.history runId events := by
  funext r
  rw [history, Dict.lookup_insert_ite, Function.update_apply]
  split <;> rfl

theorem create_created {definition : LoopDefinition} {cp : LoopCheckpoint}
    (h : j.create definitionDigest runId definition = .ok (cp, j')) :
    Created definitionDigest view history j runId definition cp j' := by
  simp only [create] at h
  split at h
  · cases h
  split at h
  · next existing hexisting =>
      split at h
      · cases h
      next hdef =>
      cases h
      exact .known cp hexisting (not_not.mp hdef)
  · next hfree =>
      cases h
      exact .fresh _ hfree view_write history_write

theorem transition_transitioned {req : TransitionRequest} {answer : TransitionAnswer}
    (h : j.transition semanticDigest req = .ok (answer, j')) :
    Transitioned semanticDigest view history j req answer j' := by
  unfold transition at h
  split at h
  · cases h
  next current hcurrent =>
  split at h
  · next hne =>
      split at h
      · next hterminal =>
          cases h
          exact .lost current hcurrent hne hterminal
      · cases h
  · next heq =>
      rw [not_not.mp heq] at hcurrent
      split at h
      · cases h
      next hrefused =>
      split at h
      · cases h
      cases h
      obtain ⟨hallowed, husage⟩ :=
        TransitionRequest.allowed_of_not_refused hrefused
      exact .committed _ _ hcurrent hallowed husage (.inl rfl)
        view_write history_write

end InMemoryLoopJournal

def inMemoryLawful :
    LawfulJournal (inMemoryOps definitionDigest semanticDigest)
      definitionDigest semanticDigest where
  view := InMemoryLoopJournal.view
  history := InMemoryLoopJournal.history
  create_ok := fun _ _ _ _ _ h => InMemoryLoopJournal.create_created h
  load_ok := by
    intro s runId cp h
    simp only [inMemoryOps, InMemoryLoopJournal.load] at h
    split at h
    · next hcp => cases h; exact hcp
    · cases h
  cancel_ok := by
    intro s runId s' h
    simp only [inMemoryOps, InMemoryLoopJournal.requestCancel] at h
    split at h
    · cases h
    cases h; exact ⟨rfl, rfl⟩
  kill_ok := fun _ _ => ⟨rfl, rfl⟩
  transition_ok := fun _ _ _ _ h => InMemoryLoopJournal.transition_transitioned h

/-! ## The SQLite journal is lawful -/

def sqliteOps : JournalOps SQLiteLoopJournal where
  create := SQLiteLoopJournal.create definitionDigest semanticDigest
  load := SQLiteLoopJournal.load semanticDigest
  requestCancel := SQLiteLoopJournal.requestCancel
  setKillSwitch := SQLiteLoopJournal.setKillSwitch
  stopReason := SQLiteLoopJournal.stopReason
  transition := SQLiteLoopJournal.transition semanticDigest

namespace SQLiteLoopJournal

def view (j : SQLiteLoopJournal) (runId : String) : Option LoopCheckpoint :=
  (j.runs.lookup runId).map (·.checkpoint)

def history (j : SQLiteLoopJournal) (runId : String) : List LoopEvent :=
  (j.eventRows runId).map (·.event)

variable {definitionDigest semanticDigest} {j j' : SQLiteLoopJournal}

variable {runId : String} {row : LoopRunRow}

theorem read_ok {cp : LoopCheckpoint} (h : j.read semanticDigest runId = .ok cp) :
    j.view runId = some cp ∧ verify semanticDigest (j.eventRows runId) cp = .ok () := by
  unfold read at h
  split at h
  · cases h
  next row hrow =>
  obtain ⟨cp', hcp, h⟩ := bind_eq_ok.mp h
  obtain ⟨⟨⟩, hverify, h⟩ := bind_eq_ok.mp h
  cases h
  unfold checkpoint at hcp
  split at hcp
  · cases hcp
  cases hcp
  exact ⟨by simp [view, hrow], hverify⟩

theorem view_writeRun : (j.writeRun runId row).view =
      Function.update j.view runId (some row.checkpoint) := by
  funext r
  rw [view, writeRun, Dict.lookup_insert_ite, Function.update_apply]
  split <;> rfl

theorem view_writeEvent {rows : List LoopEventRow} :
    (j.writeEvent runId row rows).view =
      Function.update j.view runId (some row.checkpoint) := by
  funext r
  rw [view, writeEvent, Dict.lookup_insert_ite, Function.update_apply]
  split <;> rfl

theorem history_writeEvent {rows : List LoopEventRow} :
    (j.writeEvent runId row rows).history =
      Function.update j.history runId (rows.map (·.event)) := by
  funext r
  rw [history, eventRows, writeEvent, Dict.lookup_insert_ite, Function.update_apply]
  split <;> rfl

theorem history_eq_nil (h : j.runs.lookup runId = none) : j.history runId = [] := by
  have hevents : j.events.lookup runId = none := by
    rw [Finmap.lookup_eq_none] at h ⊢
    exact fun hmem => h (j.foreign_key runId hmem)
  rw [history, eventRows, hevents]
  rfl

theorem create_created {definition : LoopDefinition} {cp : LoopCheckpoint}
    (h : j.create definitionDigest semanticDigest runId definition = .ok (cp, j')) :
    Created definitionDigest view history j runId definition cp j' := by
  simp only [create] at h
  split at h
  · cases h
  split at h
  · next hfree =>
      cases h
      refine .fresh _ (by simp [view, hfree]) view_writeRun ?_
      rw [Function.update_eq_self_iff.mpr (history_eq_nil hfree).symm]
      rfl
  · split at h
    · cases h
    next existing hread =>
    split at h
    · cases h
    next hdef =>
    cases h
    exact .known cp (read_ok hread).1 (not_not.mp hdef)

theorem transition_transitioned {req : TransitionRequest} {answer : TransitionAnswer}
    (h : j.transition semanticDigest req = .ok (answer, j')) :
    Transitioned semanticDigest view history j req answer j' := by
  unfold transition at h
  split at h
  · next row current hrow hread =>
      have hcurrent := (read_ok hread).1
      split at h
      · next hne =>
          split at h
          · next hterminal =>
              cases h
              exact .lost current hcurrent hne hterminal
          · cases h
      · next heq =>
          rw [not_not.mp heq] at hcurrent
          split at h
          · cases h
          next hrefused =>
          split at h
          · cases h
          cases h
          obtain ⟨hallowed, husage⟩ :=
            TransitionRequest.allowed_of_not_refused hrefused
          refine .committed _ _ hcurrent hallowed husage (.inr rfl)
            view_writeEvent ?_
          rw [history_writeEvent, List.map_append]
          rfl
  · cases h
  · cases h

end SQLiteLoopJournal

def sqliteLawful :
    LawfulJournal (sqliteOps definitionDigest semanticDigest)
      definitionDigest semanticDigest where
  view := SQLiteLoopJournal.view
  history := SQLiteLoopJournal.history
  create_ok := fun _ _ _ _ _ h => SQLiteLoopJournal.create_created h
  load_ok := fun _ _ _ h => (SQLiteLoopJournal.read_ok h).1
  cancel_ok := by
    intro s runId s' h
    simp only [sqliteOps, SQLiteLoopJournal.requestCancel] at h
    split at h
    · cases h
    next row hrow =>
    cases h
    refine ⟨?_, rfl⟩
    rw [SQLiteLoopJournal.view_writeRun, Function.update_eq_self_iff]
    simp [SQLiteLoopJournal.view, hrow]
  kill_ok := fun _ _ => ⟨rfl, rfl⟩
  transition_ok := fun _ _ _ _ h => SQLiteLoopJournal.transition_transitioned h

end Instances

end Ecosystem.Loops
