import Ecosystem.Loops.Engine

/-!
# The invariant of engines over one journal

Limits are checked before a reservation, charged by the transition that commits it, and
the iteration is charged later, possibly by another engine.  `CheckpointInv` relates a
stored checkpoint to the budget that is left, `RequestInv` says which usage an engine
asks for, and `EngineInv` what a thread knows while others move.
-/

namespace Ecosystem.Loops

open Ecosystem.Lib

/-! ## Checkpoints and requests -/

structure WithinBudget (budget : LoopBudget) (usage : LoopUsage) : Prop where
  attempts : usage.attempts ≤ budget.maxAttempts
  iterations : usage.iterations ≤ budget.maxIterations
  iterations_le_attempts : usage.iterations ≤ usage.attempts
  tokens : usage.tokens ≤ budget.maxTokens
  costMicrousd : usage.costMicrousd ≤ budget.maxCostMicrousd
  storageBytes : usage.storageBytes ≤ budget.maxStorageBytes

/-- A running attempt still owes its iteration. -/
structure CheckpointInv (budget : LoopBudget) (cp : LoopCheckpoint) : Prop where
  within : WithinBudget budget cp.usage
  running : cp.state = .running →
    cp.usage.iterations < cp.usage.attempts ∧
      cp.usage.iterations < budget.maxIterations

structure AttemptFits (budget : LoopBudget) (usage : LoopUsage) : Prop where
  attempts : usage.attempts < budget.maxAttempts
  iterations : usage.iterations < budget.maxIterations
  tokens : usage.tokens + budget.reserveTokensPerAttempt ≤ budget.maxTokens
  costMicrousd : usage.costMicrousd + budget.reserveCostMicrousdPerAttempt ≤
    budget.maxCostMicrousd
  storageBytes : usage.storageBytes + budget.reserveStorageBytesPerAttempt ≤
    budget.maxStorageBytes

/-- The transitions that an engine asks for. -/
inductive RequestInv (budget : LoopBudget) (req : TransitionRequest) : Then → Prop
  | reserve (htarget : req.target = .running)
      (husage : req.usage = some (reservedUsage budget req.expected.usage))
      (hfits : AttemptFits budget req.expected.usage) :
      RequestInv budget req .execute
  | gating (attempt : AttemptResult) (htarget : req.target = .gating)
      (husage : req.usage = some { req.expected.usage with
        iterations := req.expected.usage.iterations + 1 }) :
      RequestInv budget req (.gate attempt)
  | plain (k : Then) (hrunning : req.target ≠ .running) (husage : req.usage = none)
      (hk : k = .finish ∨ k = .loop) : RequestInv budget req k

theorem withinBudget_zero (budget : LoopBudget) : WithinBudget budget {} := by
  constructor <;> exact Nat.zero_le _

theorem checkpointInv_initial (definitionDigest : LoopDefinition → String)
    (runId : String) (definition : LoopDefinition) (budget : LoopBudget) :
    CheckpointInv budget (initialCheckpoint definitionDigest runId definition) where
  within := withinBudget_zero budget
  running := fun h => by cases h

section Commit

variable {budget : LoopBudget} {req : TransitionRequest} {k : Then}

theorem expected_running_of_gating
    (h : transitionAllowed req.expected.state req.target = true)
    (htarget : req.target = .gating) : req.expected.state = .running := by
  rw [htarget] at h
  cases hs : req.expected.state <;> rw [hs] at h <;>
    first | rfl | simp [transitionAllowed, transitions] at h

theorem checkpointInv_next {semanticDigest : LoopEvent → String}
    (hcp : CheckpointInv budget req.expected) (hreq : RequestInv budget req k)
    (hallowed : transitionAllowed req.expected.state req.target = true) :
    CheckpointInv budget (req.next semanticDigest) := by
  have hw := hcp.within
  cases hreq with
  | reserve htarget husage hfits =>
    have hcand : req.candidateUsage = reservedUsage budget req.expected.usage := by
      simp [TransitionRequest.candidateUsage, husage]
    constructor
    · change WithinBudget budget req.candidateUsage
      rw [hcand]
      exact ⟨hfits.attempts, hw.iterations,
        Nat.le_succ_of_le hw.iterations_le_attempts, hfits.tokens,
        hfits.costMicrousd, hfits.storageBytes⟩
    · intro _
      change req.candidateUsage.iterations < req.candidateUsage.attempts ∧ _
      rw [show (req.next semanticDigest).usage = req.candidateUsage from rfl, hcand]
      exact ⟨Nat.lt_succ_of_le hw.iterations_le_attempts, hfits.iterations⟩
  | gating attempt htarget husage =>
    have hrun := hcp.running (expected_running_of_gating hallowed htarget)
    have hcand : req.candidateUsage = { req.expected.usage with
        iterations := req.expected.usage.iterations + 1 } := by
      simp [TransitionRequest.candidateUsage, husage]
    constructor
    · change WithinBudget budget req.candidateUsage
      rw [hcand]
      exact ⟨hw.attempts, hrun.2, hrun.1, hw.tokens, hw.costMicrousd, hw.storageBytes⟩
    · intro hs
      rw [show (req.next semanticDigest).state = req.target from rfl, htarget] at hs
      cases hs
  | plain _ hrunning husage =>
    have hcand : req.candidateUsage = req.expected.usage := by
      simp [TransitionRequest.candidateUsage, husage]
    constructor
    · change WithinBudget budget req.candidateUsage
      rw [hcand]
      exact hw
    · intro hs
      exact absurd hs hrunning

end Commit

/-! ## The event chain of a run -/

/-- The chain of a stored checkpoint: usage never decreases, and only the last
event can have entered a terminal state. -/
structure ChainInv (cp : LoopCheckpoint) (events : List LoopEvent) : Prop where
  ordered : events.Pairwise fun a b => a.usage ≤ b.usage
  below : ∀ ev ∈ events, ev.usage ≤ cp.usage
  open_before : ∀ ev ∈ events.dropLast, ev.target.isTerminal = false
  last : ∀ ev, events.getLast? = some ev → ev.target = cp.state

theorem chainInv_nil (cp : LoopCheckpoint) : ChainInv cp [] where
  ordered := List.Pairwise.nil
  below := by simp
  open_before := by simp
  last := by simp

theorem mem_dropLast_or_getLast {α : Type} {xs : List α} {x : α} (h : x ∈ xs) :
    x ∈ xs.dropLast ∨ xs.getLast? = some x := by
  rcases List.eq_nil_or_concat xs with rfl | ⟨front, y, rfl⟩
  · cases h
  · rw [List.concat_eq_append] at h ⊢
    rcases List.mem_append.mp h with h | h
    · exact .inl (by simpa using h)
    · rw [List.mem_singleton.mp h]
      exact .inr (by simp)

theorem chainInv_next {semanticDigest : LoopEvent → String}
    {req : TransitionRequest} {events : List LoopEvent}
    (h : ChainInv req.expected events)
    (hallowed : transitionAllowed req.expected.state req.target = true)
    (husage : req.expected.usage ≤ req.candidateUsage) :
    ChainInv (req.next semanticDigest) (events ++ [req.event]) where
  ordered := by
    rw [List.pairwise_append]
    refine ⟨h.ordered, List.pairwise_singleton _ _, ?_⟩
    intro a ha b hb
    rw [List.mem_singleton.mp hb]
    exact LoopUsage.le_trans (h.below a ha) husage
  below := by
    intro ev hev
    rcases List.mem_append.mp hev with hev | hev
    · exact LoopUsage.le_trans (h.below ev hev) husage
    · rw [List.mem_singleton.mp hev]
      exact LoopUsage.le_refl _
  open_before := by
    intro ev hev
    rw [List.dropLast_concat] at hev
    rcases mem_dropLast_or_getLast hev with hev | hlast
    · exact h.open_before ev hev
    · rw [h.last ev hlast]
      exact not_terminal_of_transitionAllowed hallowed
  last := by
    intro ev hev
    obtain rfl : req.event = ev := by simpa using hev
    rfl

/-! ## What one step does to the journal -/

section System

variable {σ ι : Type} [DecidableEq ι] {ops : JournalOps σ}
  {definitionDigest : LoopDefinition → String}
  {semanticDigest : LoopEvent → String}
  (law : LawfulJournal ops definitionDigest semanticDigest)

/-- The changes of view and history that a thread at `pc` can make. -/
inductive JournalMove (definition : LoopDefinition) (runId : String) (pc : Pc)
    (j j' : σ) : Prop
  | same (hview : law.view j' = law.view j)
      (hhist : law.history j' = law.history j)
  | fresh (hfree : law.view j runId = none)
      (hview : law.view j' = Function.update (law.view j) runId
        (some (initialCheckpoint definitionDigest runId definition)))
      (hhist : law.history j' = Function.update (law.history j) runId [])
  | commit (req : TransitionRequest) (k : Then) (hpc : pc = .transition req k)
      (hcurrent : law.view j req.expected.runId = some req.expected)
      (hallowed : transitionAllowed req.expected.state req.target = true)
      (husage : req.expected.usage ≤ req.candidateUsage)
      (hview : law.view j' = Function.update (law.view j) req.expected.runId
        (some (req.next semanticDigest)))
      (hhist : law.history j' = Function.update (law.history j)
        req.expected.runId (law.history j req.expected.runId ++ [req.event]))

theorem advance_journalMove (definition : LoopDefinition) (j : σ) (en : Engine)
    (answers : Surroundings) :
    JournalMove law definition en.runId en.pc j
      (advancePc ops definitionDigest definition j en answers).2 := by
  unfold advancePc
  split
  case h_3 k hpc =>
    cases hcreate : ops.create j en.runId definition with
    | error err => exact .same rfl rfl
    | ok result =>
      rcases result with ⟨cp, j'⟩
      cases law.create_ok _ _ _ _ _ hcreate with
      | fresh _ hfree hview hhist => exact .fresh hfree hview hhist
      | known => exact .same rfl rfl
  case h_7 req k hpc =>
    cases htrans : ops.transition j req with
    | error err => exact .same rfl rfl
    | ok result =>
      rcases result with ⟨answer, j'⟩
      cases law.transition_ok _ _ _ _ htrans with
      | lost => exact .same rfl rfl
      | committed _ _ hcurrent hallowed husage _ hview hhist =>
        exact .commit req k hpc hcurrent hallowed husage hview hhist
  case h_8 req k hpc =>
    cases ops.load j req.expected.runId <;> exact .same rfl rfl
  case h_15 hpc =>
    cases ops.load j en.runId <;> exact .same rfl rfl
  all_goals exact .same rfl rfl

/-- The stored checkpoint of a run is only ever replaced by a later one of the
same definition. -/
theorem JournalMove.view_mono {law : LawfulJournal ops definitionDigest semanticDigest}
    {definition : LoopDefinition} {runId : String} {pc : Pc} {j j' : σ}
    (h : JournalMove law definition runId pc j j') {r : String}
    {cp : LoopCheckpoint} (hcp : law.view j r = some cp) :
    ∃ cp', law.view j' r = some cp' ∧ cp.usage ≤ cp'.usage ∧
      cp'.definitionDigest = cp.definitionDigest ∧
      (∀ ev ∈ law.history j r, ev ∈ law.history j' r) := by
  cases h with
  | same hview hhist =>
    exact ⟨cp, by rw [hview]; exact hcp, LoopUsage.le_refl _, rfl,
      by rw [hhist]; exact fun _ h => h⟩
  | fresh hfree hview hhist =>
    have hr : r ≠ runId := by
      rintro rfl
      rw [hfree] at hcp
      cases hcp
    exact ⟨cp, by rw [hview, Function.update_of_ne hr]; exact hcp, LoopUsage.le_refl _, rfl,
      by rw [hhist, Function.update_of_ne hr]; exact fun _ h => h⟩
  | commit req k _ hcurrent _ husage hview hhist =>
    by_cases hr : r = req.expected.runId
    · subst hr
      rw [hcurrent] at hcp
      obtain rfl := Option.some.inj hcp
      refine ⟨req.next semanticDigest, by rw [hview, Function.update_self], husage, rfl, ?_⟩
      rw [hhist, Function.update_self]
      exact fun _ h => List.mem_append_left _ h
    · exact ⟨cp, by rw [hview, Function.update_of_ne hr]; exact hcp,
        LoopUsage.le_refl _, rfl,
        by rw [hhist, Function.update_of_ne hr]; exact fun _ h => h⟩

/-! ## What a thread knows -/

/-- The checkpoint that a thread holds. -/
def Pc.held : Pc → Option LoopCheckpoint
  | .startStop cp _ | .budgetStop cp | .budgetClock cp | .execute cp
  | .attemptStop cp _ | .attemptClock cp _ | .gate cp _ | .gateStop cp _
  | .gateClock cp _ => some cp
  | .transition req _ => some req.expected
  | .idle | .done _ | .create _ | .reload _ _ | .recoverLoad => none

def Anchored (definition : LoopDefinition) (j : σ) (runId : String) (attempts : ℕ) :
    Prop :=
  ∃ cp, law.view j runId = some cp ∧ attempts ≤ cp.usage.attempts ∧
    cp.definitionDigest = definitionDigest definition

/-- The checkpoint in the hands of a thread is one of its run and definition,
and the stored one is not behind it. -/
structure Grips (definition : LoopDefinition) (j : σ) (runId : String)
    (cp : LoopCheckpoint) : Prop where
  run : cp.runId = runId
  digest : cp.definitionDigest = definitionDigest definition
  anchored : Anchored law definition j runId cp.usage.attempts

/-- How the executor calls of the current `run` relate to the attempts of the
checkpoint in hand.  A terminal checkpoint in hand is a lost race; it cannot be
moved any more. -/
def CallsInv (budget : LoopBudget) (pc : Pc) (calls : ℕ) : Prop :=
  match pc with
  | .create _ | .startStop _ _ | .recoverLoad => calls = 0
  | .budgetStop cp | .budgetClock cp =>
    calls ≤ budget.maxAttempts ∧ calls ≤ cp.usage.attempts
  | .transition req .execute | .reload req .execute =>
    calls ≤ req.expected.usage.attempts
  | .transition req _ => calls ≤ budget.maxAttempts ∧
      (req.expected.state.isTerminal = false → calls ≤ req.expected.usage.attempts)
  | .reload req _ => calls ≤ budget.maxAttempts ∧
      calls ≤ req.candidateUsage.attempts
  | .execute cp => calls < budget.maxAttempts ∧
      (cp.state.isTerminal = false → calls < cp.usage.attempts)
  | .attemptStop cp _ | .attemptClock cp _ | .gate cp _ | .gateStop cp _
  | .gateClock cp _ => calls ≤ budget.maxAttempts ∧
      (cp.state.isTerminal = false → calls ≤ cp.usage.attempts)
  | .idle | .done _ => calls ≤ budget.maxAttempts

structure EngineInv (definition : LoopDefinition) (j : σ) (en : Engine) : Prop where
  held : ∀ cp, en.pc.held = some cp → Grips law definition j en.runId cp
  request : ∀ req k, en.pc = .transition req k →
    RequestInv definition.budget req k
  reload : ∀ req k, en.pc = .reload req k →
    RequestInv definition.budget req k ∧ req.expected.runId = en.runId ∧
      Anchored law definition j en.runId req.candidateUsage.attempts
  start : ∀ k, en.pc = .create k ∨ (∃ cp, en.pc = .startStop cp k) →
    k = .finish ∨ k = .loop
  calls : CallsInv definition.budget en.pc en.calls

variable {law} in
theorem Anchored.mono {definition definition' : LoopDefinition} {runId : String}
    {pc : Pc} {j j' : σ} {r : String} {n : ℕ} (h : Anchored law definition j r n)
    (hmove : JournalMove law definition' runId pc j j') :
    Anchored law definition j' r n := by
  obtain ⟨cp, hcp, hn, hdef⟩ := h
  obtain ⟨cp', hcp', hle, hdef', -⟩ := hmove.view_mono hcp
  exact ⟨cp', hcp', hn.trans hle.attempts, hdef'.trans hdef⟩

variable {law} in
theorem EngineInv.mono {definition definition' : LoopDefinition}
    {runId : String} {pc : Pc} {j j' : σ} {en : Engine}
    (h : EngineInv law definition j en)
    (hmove : JournalMove law definition' runId pc j j') :
    EngineInv law definition j' en where
  held := fun cp hcp =>
    have hg := h.held cp hcp
    ⟨hg.run, hg.digest, hg.anchored.mono hmove⟩
  request := h.request
  reload := fun req k hpc =>
    have ⟨hreq, hrun, hanchor⟩ := h.reload req k hpc
    ⟨hreq, hrun, hanchor.mono hmove⟩
  start := h.start
  calls := h.calls

/-! ## One step of a thread -/

section Thread

variable {law} {definition : LoopDefinition} {j j' : σ} {runId : String}
  {calls : ℕ}

theorem engineInv_free {pc : Pc} (hfree : pc.isFree = true)
    (hcalls : calls ≤ definition.budget.maxAttempts) :
    EngineInv law definition j ⟨runId, pc, calls⟩ := by
  cases pc with
  | idle | done result => exact ⟨by simp [Pc.held], by simp, by simp, by simp, hcalls⟩
  | _ => cases hfree

theorem engineInv_recover : EngineInv law definition j ⟨runId, .recoverLoad, 0⟩ :=
  ⟨by simp [Pc.held], by simp, by simp, by simp, rfl⟩

theorem engineInv_create {k : Then} (hk : k = .finish ∨ k = .loop) :
    EngineInv law definition j ⟨runId, .create k, 0⟩ where
  held := by simp [Pc.held]
  request := by simp
  reload := by simp
  start := by
    rintro k' (hpc | ⟨cp, hpc⟩)
    · cases hpc
      exact hk
    · cases hpc
  calls := rfl

theorem engineInv_transition {req : TransitionRequest} {k : Then}
    (hgrips : Grips law definition j runId req.expected)
    (hreq : RequestInv definition.budget req k)
    (hcalls : CallsInv definition.budget (.transition req k) calls) :
    EngineInv law definition j ⟨runId, .transition req k, calls⟩ where
  held := by
    intro cp hcp
    obtain rfl : req.expected = cp := by simpa [Pc.held] using hcp
    exact hgrips
  request := by
    intro req' k' hpc
    cases hpc
    exact hreq
  reload := by simp
  start := by simp
  calls := hcalls

theorem engineInv_plain {req : TransitionRequest} {k : Then}
    (hgrips : Grips law definition j runId req.expected)
    (htarget : req.target ≠ .running) (husage : req.usage = none)
    (hk : k = .finish ∨ k = .loop) (hcalls : calls ≤ definition.budget.maxAttempts ∧
      (req.expected.state.isTerminal = false → calls ≤ req.expected.usage.attempts)) :
    EngineInv law definition j ⟨runId, .transition req k, calls⟩ := by
  refine engineInv_transition hgrips (.plain k htarget husage hk) ?_
  rcases hk with rfl | rfl <;> exact hcalls

variable {cp : LoopCheckpoint}

theorem engineInv_holding {pc : Pc} (hheld : pc.held = some cp)
    (hplain : ∀ req k, pc ≠ .transition req k)
    (hstart : ∀ cp k, pc = .startStop cp k → k = .finish ∨ k = .loop)
    (hgrips : Grips law definition j runId cp)
    (hcalls : CallsInv definition.budget pc calls) :
    EngineInv law definition j ⟨runId, pc, calls⟩ where
  held := by
    intro cp' hcp
    obtain rfl : cp = cp' := Option.some.inj (hheld.symm.trans hcp)
    exact hgrips
  request := fun req k hpc => absurd hpc (hplain req k)
  reload := by
    intro req k hpc
    rw [show pc = .reload req k from hpc] at hheld
    cases hheld
  start := by
    rintro k (hpc | ⟨cp', hpc⟩)
    · rw [show pc = .create k from hpc] at hheld
      cases hheld
    · exact hstart cp' k hpc
  calls := hcalls

/-- What a thread has to have counted before it goes on with a checkpoint. -/
def ResumeCalls (budget : LoopBudget) (k : Then) (cp : LoopCheckpoint)
    (calls : ℕ) : Prop :=
  match k with
  | .finish => calls ≤ budget.maxAttempts
  | .loop | .gate _ => calls ≤ budget.maxAttempts ∧
      (cp.state.isTerminal = false → calls ≤ cp.usage.attempts)
  | .execute => calls < budget.maxAttempts ∧
      (cp.state.isTerminal = false → calls < cp.usage.attempts)

theorem engineInv_resume {k : Then} (hgrips : Grips law definition j runId cp)
    (hcalls : ResumeCalls definition.budget k cp calls) :
    EngineInv law definition j ⟨runId, resume k cp, calls⟩ := by
  cases k with
  | finish => exact engineInv_free rfl hcalls
  | execute | gate attempt =>
    exact engineInv_holding rfl (fun _ _ h => by cases h)
      (fun _ _ h => by cases h) hgrips hcalls
  | loop =>
    rw [resume, loopHead]
    split
    · exact engineInv_free rfl hcalls.1
    · next hterminal =>
        split
        · exact engineInv_holding rfl (fun _ _ h => by cases h)
            (fun _ _ h => by cases h) hgrips
            ⟨hcalls.1, hcalls.2 (by simpa using hterminal)⟩
        · exact engineInv_free rfl hcalls.1

theorem engineInv_afterStop {k : Then} {goOn : Pc}
    {answer : Except LoopError (Option String)}
    (hgrips : Grips law definition j runId cp) (hk : k = .finish ∨ k = .loop)
    (hcalls : calls ≤ definition.budget.maxAttempts ∧
      (cp.state.isTerminal = false → calls ≤ cp.usage.attempts))
    (hgoOn : EngineInv law definition j ⟨runId, goOn, calls⟩) :
    EngineInv law definition j ⟨runId, afterStop cp k answer goOn, calls⟩ := by
  unfold afterStop
  split
  · exact engineInv_free rfl hcalls.1
  · exact engineInv_plain hgrips (fun h => by cases h) rfl hk hcalls
  · exact hgoOn

theorem engineInv_afterClock {goOn : ℤ → Pc} {answer : ClockAnswer}
    (hcalls : calls ≤ definition.budget.maxAttempts)
    (hgoOn : ∀ now, EngineInv law definition j ⟨runId, goOn now, calls⟩) :
    EngineInv law definition j ⟨runId, afterClock answer goOn, calls⟩ := by
  unfold afterClock
  split
  · exact hgoOn _
  · exact engineInv_free rfl hcalls
  · exact engineInv_free rfl hcalls

theorem engineInv_beforeDeadline {goOn : Pc} {now : ℤ}
    (hgrips : Grips law definition j runId cp)
    (hcalls : calls ≤ definition.budget.maxAttempts ∧
      (cp.state.isTerminal = false → calls ≤ cp.usage.attempts))
    (hgoOn : EngineInv law definition j ⟨runId, goOn, calls⟩) :
    EngineInv law definition j
      ⟨runId, beforeDeadline definition.budget cp goOn now, calls⟩ := by
  unfold beforeDeadline
  split
  · exact engineInv_plain hgrips (fun h => by cases h) rfl (.inl rfl) hcalls
  · exact hgoOn

/-- The checks of the budget leave room for the attempt they let through. -/
theorem engineInv_budgetDecision {now : ℤ} (hgrips : Grips law definition j runId cp)
    (hcalls : calls ≤ definition.budget.maxAttempts ∧ calls ≤ cp.usage.attempts) :
    EngineInv law definition j ⟨runId, budgetDecision definition.budget cp now, calls⟩ := by
  have hexhausted : ∀ reason, EngineInv law definition j
      ⟨runId, .transition (terminalRequest cp .exhausted reason) .finish,
        calls⟩ := fun reason =>
    engineInv_plain hgrips (fun h => by cases h) rfl (.inl rfl)
      ⟨hcalls.1, fun _ => hcalls.2⟩
  unfold budgetDecision
  split
  · exact hexhausted _
  split
  · exact hexhausted _
  next hattempts =>
  split
  · exact hexhausted _
  next hiterations =>
  split
  · exact hexhausted _
  next htokens =>
  split
  · exact hexhausted _
  next hcost =>
  split
  · exact hexhausted _
  · next hstorage =>
      refine engineInv_transition hgrips
        (.reserve rfl rfl ?_) hcalls.2
      exact ⟨not_le.mp hattempts, not_le.mp hiterations, not_lt.mp htokens, not_lt.mp hcost,
        not_lt.mp hstorage⟩

theorem engineInv_attemptDecision {attempt : AttemptResult}
    (hgrips : Grips law definition j runId cp)
    (hcalls : calls ≤ definition.budget.maxAttempts ∧
      (cp.state.isTerminal = false → calls ≤ cp.usage.attempts)) :
    EngineInv law definition j
      ⟨runId, attemptDecision definition.retry cp attempt, calls⟩ := by
  unfold attemptDecision
  split
  · split
    · exact engineInv_plain hgrips (fun h => by cases h) rfl (.inl rfl) hcalls
    · exact engineInv_plain hgrips (fun h => by cases h) rfl (.inr rfl) hcalls
  · exact engineInv_plain hgrips (fun h => by cases h) rfl (.inl rfl) hcalls
  · exact engineInv_transition hgrips (.gating attempt rfl rfl) hcalls

theorem engineInv_gateDecision {outcome : GateOutcome}
    (hgrips : Grips law definition j runId cp)
    (hcalls : calls ≤ definition.budget.maxAttempts ∧
      (cp.state.isTerminal = false → calls ≤ cp.usage.attempts)) :
    EngineInv law definition j
      ⟨runId, gateDecision definition.retry cp outcome, calls⟩ := by
  unfold gateDecision
  split
  · exact engineInv_plain hgrips (fun h => by cases h) rfl (.inl rfl) hcalls
  · split
    · exact engineInv_plain hgrips (fun h => by cases h) rfl (.inl rfl) hcalls
    · split
      · exact engineInv_plain hgrips (fun h => by cases h) rfl (.inl rfl) hcalls
      · exact engineInv_plain hgrips (fun h => by cases h) rfl (.inr rfl) hcalls

theorem grips_of_view {n : ℕ} (hstored : ∀ r cp, law.view j r = some cp → cp.runId = r)
    (hview : law.view j runId = some cp) (hanchor : Anchored law definition j runId n) :
    Grips law definition j runId cp ∧ n ≤ cp.usage.attempts := by
  obtain ⟨cp', hcp', hn, hdef⟩ := hanchor
  obtain rfl : cp = cp' := Option.some.inj (hview.symm.trans hcp')
  exact ⟨⟨hstored _ _ hview, hdef, cp, hview, Nat.le_refl _, hdef⟩, hn⟩

theorem candidate_attempts_of_execute {budget : LoopBudget}
    {req : TransitionRequest} (h : RequestInv budget req .execute) :
    req.expected.usage.attempts < budget.maxAttempts ∧
      req.candidateUsage.attempts = req.expected.usage.attempts + 1 := by
  cases h with
  | reserve _ husage hfits =>
    exact ⟨hfits.attempts, by
      simp [TransitionRequest.candidateUsage, husage, reservedUsage]⟩
  | plain _ _ _ hk => rcases hk with hk | hk <;> cases hk

/-- A call of `run` never invokes its executor more often than the budget
allows. -/
theorem EngineInv.calls_le {en : Engine} (h : EngineInv law definition j en) :
    en.calls ≤ definition.budget.maxAttempts := by
  have hcalls := h.calls
  have hzero : en.calls = 0 → en.calls ≤ definition.budget.maxAttempts :=
    fun h => by omega
  cases hpc : en.pc with
  | idle | done result => rw [hpc] at hcalls; exact hcalls
  | create k | startStop cp k | recoverLoad => rw [hpc] at hcalls; exact hzero hcalls
  | execute cp => rw [hpc] at hcalls; exact hcalls.1.le
  | transition req k =>
    rw [hpc] at hcalls
    cases k with
    | execute =>
      have := (candidate_attempts_of_execute (h.request req _ hpc)).1
      exact hcalls.trans this.le
    | _ => exact hcalls.1
  | reload req k =>
    rw [hpc] at hcalls
    cases k with
    | execute =>
      have := (candidate_attempts_of_execute (h.reload req _ hpc).1).1
      exact hcalls.trans this.le
    | _ => exact hcalls.1
  | _ => rw [hpc] at hcalls; exact hcalls.1

theorem resumeCalls_of_commit {budget : LoopBudget} {req : TransitionRequest}
    {k : Then} (hreq : RequestInv budget req k)
    (hopen : req.expected.state.isTerminal = false)
    (husage : req.expected.usage ≤ req.candidateUsage)
    (hcp : req.candidateUsage.attempts ≤ cp.usage.attempts)
    (hcalls : CallsInv budget (.transition req k) calls) :
    ResumeCalls budget k cp calls := by
  have hle := husage.attempts
  cases k with
  | finish => exact hcalls.1
  | loop | gate attempt => exact ⟨hcalls.1, fun _ => by have := hcalls.2 hopen; omega⟩
  | execute =>
    obtain ⟨hlt, hcand⟩ := candidate_attempts_of_execute hreq
    have hc : calls ≤ req.expected.usage.attempts := hcalls
    exact ⟨by omega, fun _ => by omega⟩

theorem resumeCalls_of_lost {budget : LoopBudget} {req : TransitionRequest}
    {k : Then} (hreq : RequestInv budget req k) (hterminal : cp.state.isTerminal = true)
    (hcalls : CallsInv budget (.transition req k) calls) :
    ResumeCalls budget k cp calls := by
  have hnot : cp.state.isTerminal = false → ∀ {P : Prop}, P := by
    intro h
    rw [hterminal] at h
    cases h
  cases k with
  | finish => exact hcalls.1
  | loop | gate attempt => exact ⟨hcalls.1, fun h => hnot h⟩
  | execute =>
    have hc : calls ≤ req.expected.usage.attempts := hcalls
    exact ⟨by have := (candidate_attempts_of_execute hreq).1; omega, fun h => hnot h⟩

end Thread

end System

end Ecosystem.Loops
