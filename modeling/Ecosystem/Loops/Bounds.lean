import Ecosystem.Loops.Invariant

/-!
# Loop budgets and termination

The invariant of every interleaving and its consequences: every checkpoint is within the
budget of its definition, the event chain is ordered and closed by at most one terminal
event, and a call of `run` is over after a number of its own steps.
-/

namespace Ecosystem.Loops

open Ecosystem.Lib

section System

variable {σ ι : Type} {ops : JournalOps σ}
  {definitionDigest : LoopDefinition → String}
  {semanticDigest : LoopEvent → String}
  (law : LawfulJournal ops definitionDigest semanticDigest)
  (definitions : ι → LoopDefinition)

/-! ## The thread that moves -/

section Thread

variable {law} {definition : LoopDefinition} {j : σ} {en : Engine}
  {answers : Surroundings}

theorem engineInv_transition_step {req : TransitionRequest} {k : Then}
    {answer : TransitionAnswer} {j' : σ}
    (hstored : ∀ r cp, law.view j r = some cp → cp.runId = r)
    (hi : EngineInv law definition j en) (hpc : en.pc = .transition req k)
    (h : ops.transition j req = .ok (answer, j')) :
    EngineInv law definition j' ⟨en.runId, afterTransition req k answer, en.calls⟩ := by
  have hgrips := hi.held req.expected (by rw [hpc]; rfl)
  have hreq := hi.request req k hpc
  have hcalls := hi.calls
  rw [hpc] at hcalls
  cases law.transition_ok _ _ _ _ h with
  | lost cp hview hne hterminal =>
    rw [hgrips.run] at hview
    exact engineInv_resume (grips_of_view hstored hview hgrips.anchored).1
      (resumeCalls_of_lost hreq hterminal hcalls)
  | committed _ _ hcurrent hallowed husage hanswer hview hhist =>
    have hopen := not_terminal_of_transitionAllowed hallowed
    have hnext : law.view j' en.runId = some (req.next semanticDigest) := by
      rw [hview, ← hgrips.run, Function.update_self]
    have hanchor : Anchored law definition j' en.runId
        req.candidateUsage.attempts :=
      ⟨_, hnext, Nat.le_refl _, hgrips.digest⟩
    rcases hanswer with rfl | rfl
    · exact engineInv_resume ⟨hgrips.run, hgrips.digest, hanchor⟩
        (resumeCalls_of_commit hreq hopen husage (Nat.le_refl _) hcalls)
    · change EngineInv law definition j' ⟨en.runId, .reload req k, en.calls⟩
      refine ⟨by simp [Pc.held], by simp, ?_, by simp, ?_⟩
      · intro req' k' hpc'
        cases hpc'
        exact ⟨hreq, hgrips.run, hanchor⟩
      · have hle := husage.attempts
        cases k with
        | execute => exact hcalls
        | _ => exact ⟨hcalls.1, (hcalls.2 hopen).trans hle⟩

theorem engineInv_reload_step {req : TransitionRequest} {k : Then} {cp : LoopCheckpoint}
    (hstored : ∀ r cp, law.view j r = some cp → cp.runId = r)
    (hi : EngineInv law definition j en) (hpc : en.pc = .reload req k)
    (h : ops.load j req.expected.runId = .ok cp) :
    EngineInv law definition j ⟨en.runId, resume k cp, en.calls⟩ := by
  obtain ⟨hreq, hrun, hanchor⟩ := hi.reload req k hpc
  have hview := law.load_ok _ _ _ h
  rw [hrun] at hview
  obtain ⟨hgrips, hle⟩ := grips_of_view hstored hview hanchor
  refine engineInv_resume hgrips ?_
  have hcalls := hi.calls
  rw [hpc] at hcalls
  cases k with
  | finish => exact hcalls.1
  | loop | gate attempt => exact ⟨hcalls.1, fun _ => hcalls.2.trans hle⟩
  | execute =>
    obtain ⟨hlt, hcand⟩ := candidate_attempts_of_execute hreq
    have hc : en.calls ≤ req.expected.usage.attempts := hcalls
    exact ⟨by omega, fun _ => by omega⟩

theorem engineInv_step (hstored : ∀ r cp, law.view j r = some cp → cp.runId = r)
    (hi : EngineInv law definition j en) :
    EngineInv law definition
      (advancePc ops definitionDigest definition j en answers).2
      { en with
        pc := (advancePc ops definitionDigest definition j en answers).1
        calls := en.calls + (invocation en.pc).toList.length } := by
  have hcalls := hi.calls
  unfold advancePc
  cases hpc : en.pc with
  | idle => exact engineInv_free rfl (by rw [hpc] at hcalls; exact hcalls)
  | done result =>
    exact engineInv_free rfl (by rw [hpc] at hcalls; exact hcalls)
  | create k =>
    rw [hpc] at hcalls
    have hzero : en.calls = 0 := hcalls
    dsimp only [invocation, Option.toList_none, List.length_nil]
    rw [hzero]
    have hk := hi.start k (.inl hpc)
    cases hcreate : ops.create j en.runId definition with
    | error err => exact engineInv_free rfl (Nat.zero_le _)
    | ok result =>
      rcases result with ⟨cp, j'⟩
      have hgrips : Grips law definition j' en.runId cp := by
        cases law.create_ok _ _ _ _ _ hcreate with
        | fresh _ _ hview =>
          exact ⟨rfl, rfl, _, by rw [hview, Function.update_self], Nat.le_refl _, rfl⟩
        | known _ hview hdef =>
          exact ⟨hstored _ _ hview, hdef, cp, hview, Nat.le_refl _, hdef⟩
      dsimp only
      unfold afterCreate
      split
      · exact engineInv_holding rfl (fun _ _ h => by cases h)
          (fun _ _ h => by cases h; exact hk) hgrips rfl
      · refine engineInv_resume hgrips ?_
        rcases hk with rfl | rfl
        · exact Nat.zero_le _
        · exact ⟨Nat.zero_le _, fun _ => Nat.zero_le _⟩
  | startStop cp k =>
    rw [hpc] at hcalls
    have hzero : en.calls = 0 := hcalls
    dsimp only [invocation, Option.toList_none, List.length_nil]
    rw [hzero]
    have hgrips := hi.held cp (by rw [hpc]; rfl)
    have hk := hi.start k (.inr ⟨cp, hpc⟩)
    exact engineInv_afterStop hgrips hk
      ⟨Nat.zero_le _, fun _ => Nat.zero_le _⟩
      (engineInv_plain hgrips (fun h => by cases h) rfl hk
        ⟨Nat.zero_le _, fun _ => Nat.zero_le _⟩)
  | budgetStop cp =>
    rw [hpc] at hcalls
    have hgrips := hi.held cp (by rw [hpc]; rfl)
    exact engineInv_afterStop hgrips (.inl rfl)
      ⟨hcalls.1, fun _ => hcalls.2⟩
      (engineInv_holding rfl (fun _ _ h => by cases h)
        (fun _ _ h => by cases h) hgrips hcalls)
  | budgetClock cp =>
    rw [hpc] at hcalls
    have hgrips := hi.held cp (by rw [hpc]; rfl)
    exact engineInv_afterClock hcalls.1
      fun now => engineInv_budgetDecision hgrips hcalls
  | transition req k =>
    dsimp only [invocation, Option.toList_none, List.length_nil]
    cases htrans : ops.transition j req with
    | error err => exact engineInv_free rfl hi.calls_le
    | ok result =>
      rcases result with ⟨answer, j'⟩
      exact engineInv_transition_step hstored hi hpc htrans
  | reload req k =>
    dsimp only [invocation, Option.toList_none, List.length_nil]
    cases hload : ops.load j req.expected.runId with
    | error err => exact engineInv_free rfl hi.calls_le
    | ok cp => exact engineInv_reload_step hstored hi hpc hload
  | execute cp =>
    rw [hpc] at hcalls
    have hgrips := hi.held cp (by rw [hpc]; rfl)
    have hcounted : en.calls + 1 ≤ definition.budget.maxAttempts ∧
        (cp.state.isTerminal = false → en.calls + 1 ≤ cp.usage.attempts) :=
      hcalls
    dsimp only [invocation, Option.toList_some, List.length_singleton]
    cases answers.executor with
    | result attempt =>
      exact engineInv_holding rfl (fun _ _ h => by cases h)
        (fun _ _ h => by cases h) hgrips hcounted
    | _ =>
      exact engineInv_plain hgrips (fun h => by cases h) rfl (.inl rfl)
        hcounted
  | attemptStop cp attempt | gateStop cp outcome =>
    rw [hpc] at hcalls
    have hgrips := hi.held cp (by rw [hpc]; rfl)
    exact engineInv_afterStop hgrips (.inl rfl) hcalls
      (engineInv_holding rfl (fun _ _ h => by cases h)
        (fun _ _ h => by cases h) hgrips hcalls)
  | attemptClock cp attempt =>
    rw [hpc] at hcalls
    have hgrips := hi.held cp (by rw [hpc]; rfl)
    exact engineInv_afterClock hcalls.1 fun now =>
      engineInv_beforeDeadline hgrips hcalls
        (engineInv_attemptDecision hgrips hcalls)
  | gate cp attempt =>
    rw [hpc] at hcalls
    have hgrips := hi.held cp (by rw [hpc]; rfl)
    dsimp only [invocation, Option.toList_none, List.length_nil]
    cases answers.gate with
    | outcome outcome =>
      exact engineInv_holding rfl (fun _ _ h => by cases h)
        (fun _ _ h => by cases h) hgrips hcalls
    | _ =>
      exact engineInv_plain hgrips (fun h => by cases h) rfl (.inl rfl) hcalls
  | gateClock cp outcome =>
    rw [hpc] at hcalls
    have hgrips := hi.held cp (by rw [hpc]; rfl)
    exact engineInv_afterClock hcalls.1 fun now =>
      engineInv_beforeDeadline hgrips hcalls
        (engineInv_gateDecision hgrips hcalls)
  | recoverLoad =>
    rw [hpc] at hcalls
    have hzero : en.calls = 0 := hcalls
    dsimp only [invocation, Option.toList_none, List.length_nil]
    rw [hzero]
    cases hload : ops.load j en.runId with
    | error err => exact engineInv_free rfl (Nat.zero_le _)
    | ok cp =>
      have hview := law.load_ok _ _ _ hload
      dsimp only
      unfold recoverDecision
      split
      · exact engineInv_free rfl (Nat.zero_le _)
      next hdef =>
      split
      · exact engineInv_create (.inl rfl)
      split
      · exact engineInv_free rfl (Nat.zero_le _)
      · exact engineInv_plain
          ⟨hstored _ _ hview, not_not.mp hdef, cp, hview, Nat.le_refl _, not_not.mp hdef⟩
          (fun h => by cases h) rfl (.inl rfl)
          ⟨Nat.zero_le _, fun _ => Nat.zero_le _⟩

end Thread

/-! ## The journal -/

/-- Every stored checkpoint is filed under its run, belongs to one of the
engines' definitions, respects that budget and has its chain. -/
structure JournalInv (j : σ) : Prop where
  runs : ∀ r cp, law.view j r = some cp → cp.runId = r
  owned : ∀ r cp, law.view j r = some cp →
    ∃ e, cp.definitionDigest = definitionDigest (definitions e)
  budgets : ∀ r cp e, law.view j r = some cp →
    cp.definitionDigest = definitionDigest (definitions e) →
      CheckpointInv (definitions e).budget cp
  chains : ∀ r cp, law.view j r = some cp → ChainInv cp (law.history j r)

variable {law definitions}

/-- Two engines whose definitions have the same digest have one definition. -/
def DigestSeparates (definitionDigest : LoopDefinition → String)
    (definitions : ι → LoopDefinition) : Prop :=
  ∀ e e', definitionDigest (definitions e) = definitionDigest (definitions e') →
    definitions e = definitions e'

variable {e : ι} {s : LoopSystem σ ι}

theorem journalInv_move {j j' : σ} {en : Engine}
    (hsep : DigestSeparates definitionDigest definitions)
    (hi : JournalInv law definitions j) (he : EngineInv law (definitions e) j en)
    (h : JournalMove law (definitions e) en.runId en.pc j j') :
    JournalInv law definitions j' := by
  cases h with
  | same hview hhist =>
    exact ⟨by rw [hview]; exact hi.runs, by rw [hview]; exact hi.owned,
      by rw [hview]; exact hi.budgets, by rw [hview, hhist]; exact hi.chains⟩
  | fresh hfree hview hhist =>
    refine ⟨?_, ?_, ?_, ?_⟩
    · intro r cp hcp
      rw [hview, Function.update_apply] at hcp
      split at hcp
      · next hr => cases hcp; exact hr.symm
      · exact hi.runs r cp hcp
    · intro r cp hcp
      rw [hview, Function.update_apply] at hcp
      split at hcp
      · cases hcp; exact ⟨e, rfl⟩
      · exact hi.owned r cp hcp
    · intro r cp e' hcp hdef
      rw [hview, Function.update_apply] at hcp
      split at hcp
      · cases hcp; exact checkpointInv_initial _ _ _ _
      · exact hi.budgets r cp e' hcp hdef
    · intro r cp hcp
      rw [hview, Function.update_apply] at hcp
      split at hcp
      · next hr =>
          cases hcp
          rw [hhist, Function.update_apply, if_pos hr]
          exact chainInv_nil _
      · next hr =>
          rw [hhist, Function.update_of_ne hr]
          exact hi.chains r cp hcp
  | commit req k hpc hcurrent hallowed husage hview hhist =>
    have hgrips := he.held req.expected (by rw [hpc]; rfl)
    have hreq := he.request req k hpc
    have hinv := hi.budgets _ _ e hcurrent hgrips.digest
    refine ⟨?_, ?_, ?_, ?_⟩
    · intro r cp hcp
      rw [hview, Function.update_apply] at hcp
      split at hcp
      · next hr => cases hcp; exact hr.symm
      · exact hi.runs r cp hcp
    · intro r cp hcp
      rw [hview, Function.update_apply] at hcp
      split at hcp
      · cases hcp; exact ⟨e, hgrips.digest⟩
      · exact hi.owned r cp hcp
    · intro r cp e' hcp hdef
      rw [hview, Function.update_apply] at hcp
      split at hcp
      · cases hcp
        rw [← hsep e e' (hgrips.digest.symm.trans hdef)]
        exact checkpointInv_next hinv hreq hallowed
      · exact hi.budgets r cp e' hcp hdef
    · intro r cp hcp
      rw [hview, Function.update_apply] at hcp
      split at hcp
      · next hr =>
          cases hcp
          rw [hhist, Function.update_apply, if_pos hr]
          exact chainInv_next (hi.chains _ _ hcurrent) hallowed husage
      · next hr =>
          rw [hhist, Function.update_of_ne hr]
          exact hi.chains r cp hcp

/-! ## The system -/

variable [DecidableEq ι]

variable (law definitions) in
structure SystemInv (s : LoopSystem σ ι) : Prop where
  journal : JournalInv law definitions s.journal
  engines : ∀ e, EngineInv law (definitions e) s.journal (s.engines e)

theorem engines_update {P : ι → Engine → Prop} {engines : ι → Engine}
    {en : Engine} (h : ∀ e', e' ≠ e → P e' (engines e')) (he : P e en) :
    ∀ e', P e' (Function.update engines e en e') := by
  intro e'
  by_cases hee : e' = e
  · subst hee
    rw [Function.update_self]
    exact he
  · rw [Function.update_of_ne hee]
    exact h e' hee

theorem systemInv_enter {runId : String} {pc : Pc} (hi : SystemInv law definitions s)
    (hpc : EngineInv law (definitions e) s.journal ⟨runId, pc, 0⟩) :
    SystemInv law definitions (s.enter e runId pc) := by
  unfold LoopSystem.enter
  split
  · exact ⟨hi.journal, engines_update (fun e' _ => hi.engines e') hpc⟩
  · exact hi

theorem engineInv_runEntry {definition : LoopDefinition} {j : σ}
    {runId : String} {independent : Bool} :
    EngineInv law definition j ⟨runId, runEntry definition independent, 0⟩ := by
  unfold runEntry
  split
  · exact engineInv_free rfl (Nat.zero_le _)
  · split
    · exact engineInv_free rfl (Nat.zero_le _)
    · split
      · exact engineInv_free rfl (Nat.zero_le _)
      · exact engineInv_create (.inr rfl)

omit [DecidableEq ι] in
theorem systemInv_journal {j' : σ} (hi : SystemInv law definitions s)
    (hview : law.view j' = law.view s.journal)
    (hhist : law.history j' = law.history s.journal) :
    SystemInv law definitions { s with journal := j' } := by
  refine ⟨⟨by rw [hview]; exact hi.journal.runs, by rw [hview]; exact hi.journal.owned,
    by rw [hview]; exact hi.journal.budgets,
    by rw [hview, hhist]; exact hi.journal.chains⟩, fun e => ?_⟩
  exact (hi.engines e).mono
    (@JournalMove.same _ _ _ _ _ (definitions e) "" .idle _ _ hview hhist)

theorem systemInv_step (hsep : DigestSeparates definitionDigest definitions)
    (hi : SystemInv law definitions s) (action : LoopAction ι) :
    SystemInv law definitions
      (s.step ops definitionDigest definitions semanticDigest action) := by
  cases action with
  | callRun e runId independent => exact systemInv_enter hi engineInv_runEntry
  | callStart e runId => exact systemInv_enter hi (engineInv_create (.inl rfl))
  | callRecover e runId => exact systemInv_enter hi engineInv_recover
  | advance e answers =>
    have hmove := advance_journalMove law (definitions e) s.journal
      (s.engines e) answers
    exact ⟨journalInv_move hsep hi.journal (hi.engines e) hmove,
      engines_update (fun e' _ => (hi.engines e').mono hmove)
        (engineInv_step hi.journal.runs (hi.engines e))⟩
  | crash e =>
    refine ⟨hi.journal, engines_update (fun e' _ => hi.engines e') ?_⟩
    have hcalls := (hi.engines e).calls_le
    exact engineInv_free rfl hcalls
  | requestCancel runId =>
    dsimp only [LoopSystem.step]
    split
    · next j' hcancel =>
        obtain ⟨hview, hhist⟩ := law.cancel_ok _ _ _ hcancel
        exact systemInv_journal hi hview hhist
    · exact hi
  | setKillSwitch enabled =>
    obtain ⟨hview, hhist⟩ := law.kill_ok s.journal enabled
    exact systemInv_journal hi hview hhist

/-- A journal that stores nothing yet, and engines outside any call. -/
structure Initial (law : LawfulJournal ops definitionDigest semanticDigest)
    (s : LoopSystem σ ι) : Prop where
  view : ∀ r, law.view s.journal r = none
  engines : ∀ e, s.engines e = {}
  reserved : s.reserved = []
  invoked : s.invoked = []

omit [DecidableEq ι] in
theorem systemInv_initial (h : Initial law s) : SystemInv law definitions s := by
  have hnone : ∀ r cp, law.view s.journal r ≠ some cp := by
    intro r cp hcp
    rw [h.view] at hcp
    cases hcp
  refine ⟨⟨fun r cp hcp => absurd hcp (hnone r cp), fun r cp hcp => absurd hcp (hnone r cp),
    fun r cp e hcp => absurd hcp (hnone r cp),
    fun r cp hcp => absurd hcp (hnone r cp)⟩, fun e => ?_⟩
  rw [h.engines e]
  exact engineInv_free rfl (Nat.zero_le _)

theorem systemInv_after (hsep : DigestSeparates definitionDigest definitions)
    (hi : SystemInv law definitions s) (actions : List (LoopAction ι)) :
    SystemInv law definitions
      (s.after ops definitionDigest definitions semanticDigest actions) := by
  induction actions generalizing s with
  | nil => exact hi
  | cons action actions ih => exact ih (systemInv_step hsep hi action)

/-! ## Termination

Every own step of a call lowers `remaining`.  An iteration costs less than one
attempt is worth, because the reservation that it commits is paid for by the
attempt that it uses up. -/

def attemptWorth : ℕ := 30

/-- The steps left behind a reservation.  With a terminal checkpoint in hand no
further iteration follows. -/
def remainingBehind (budget : LoopBudget) (cp : LoopCheckpoint) (rank : ℕ) : ℕ :=
  if cp.state.isTerminal then rank
  else attemptWorth * (budget.maxAttempts - cp.usage.attempts + 1) + rank

/-- An upper bound on the own steps that a call still takes. -/
def remaining (budget : LoopBudget) : Pc → ℕ
  | .idle | .done _ => 0
  | .recoverLoad => attemptWorth * (budget.maxAttempts + 1) + 26
  | .create _ => attemptWorth * (budget.maxAttempts + 1) + 25
  | .startStop cp _ =>
    attemptWorth * (budget.maxAttempts - cp.usage.attempts + 1) + 24
  | .budgetStop cp => attemptWorth * (budget.maxAttempts - cp.usage.attempts) + 22
  | .budgetClock cp => attemptWorth * (budget.maxAttempts - cp.usage.attempts) + 21
  | .transition req .execute =>
    attemptWorth * (budget.maxAttempts - req.expected.usage.attempts) + 20
  | .reload req .execute =>
    attemptWorth * (budget.maxAttempts - req.expected.usage.attempts) + 19
  | .execute cp => remainingBehind budget cp 16
  | .attemptStop cp _ => remainingBehind budget cp 15
  | .attemptClock cp _ => remainingBehind budget cp 14
  | .transition req (.gate _) => remainingBehind budget req.expected 13
  | .reload req (.gate _) =>
    attemptWorth * (budget.maxAttempts - req.candidateUsage.attempts + 1) + 12
  | .gate cp _ => remainingBehind budget cp 11
  | .gateStop cp _ => remainingBehind budget cp 10
  | .gateClock cp _ => remainingBehind budget cp 9
  | .transition req .loop => remainingBehind budget req.expected 8
  | .reload req .loop =>
    attemptWorth * (budget.maxAttempts - req.candidateUsage.attempts + 1) + 7
  | .transition _ .finish => 2
  | .reload _ .finish => 1

/-- The own steps after which a call is over. -/
def runBound (budget : LoopBudget) : ℕ :=
  attemptWorth * (budget.maxAttempts + 1) + 26

section Measure

variable {budget : LoopBudget} {cp : LoopCheckpoint} {rank : ℕ}

theorem rank_le_remainingBehind : rank ≤ remainingBehind budget cp rank := by
  unfold remainingBehind
  split
  · exact Nat.le_refl _
  · exact Nat.le_add_left _ _

theorem remainingBehind_lt {rank' : ℕ} (h : rank < rank') :
    remainingBehind budget cp rank < remainingBehind budget cp rank' := by
  unfold remainingBehind
  split
  · exact h
  · exact Nat.add_lt_add_left h _

theorem remainingBehind_le {attempts : ℕ} (h : attempts ≤ cp.usage.attempts) :
    remainingBehind budget cp rank ≤
      attemptWorth * (budget.maxAttempts - attempts + 1) + rank := by
  unfold remainingBehind attemptWorth
  split
  · omega
  omega

theorem remaining_loopHead_lt {attempts : ℕ} (h : attempts ≤ cp.usage.attempts) :
    remaining budget (loopHead cp) <
      attemptWorth * (budget.maxAttempts - attempts + 1) + 7 := by
  unfold loopHead
  split
  · simp [remaining, attemptWorth]
  · split
    · simp only [remaining, attemptWorth]
      omega
    · simp [raised, remaining, attemptWorth]

theorem remaining_le_runBound (pc : Pc) : remaining budget pc ≤ runBound budget := by
  have hbehind : ∀ cp rank, rank ≤ 26 →
      remainingBehind budget cp rank ≤ runBound budget := by
    intro cp rank hrank
    have := @remainingBehind_le budget cp rank _ (Nat.zero_le _)
    rw [Nat.sub_zero] at this
    unfold runBound
    omega
  cases pc with
  | transition req k =>
    cases k <;> simp only [remaining] <;>
      first
      | exact hbehind _ _ (by decide)
      | (simp only [runBound, attemptWorth]; omega)
  | reload req k =>
    cases k <;> simp only [remaining, runBound, attemptWorth] <;> omega
  | execute cp | attemptStop cp _ | attemptClock cp _ | gate cp _ | gateStop cp _
  | gateClock cp _ => exact hbehind _ _ (by decide)
  | _ => simp only [remaining, runBound, attemptWorth]; omega

theorem remaining_resume_reload_lt {req : TransitionRequest} {k : Then}
    (hreq : RequestInv budget req k)
    (hcp : req.candidateUsage.attempts ≤ cp.usage.attempts) :
    remaining budget (resume k cp) < remaining budget (.reload req k) := by
  cases k with
  | finish => exact Nat.zero_lt_one
  | loop => exact remaining_loopHead_lt hcp
  | gate attempt =>
    calc remaining budget (.gate cp attempt)
        ≤ attemptWorth *
            (budget.maxAttempts - req.candidateUsage.attempts + 1) + 11 :=
          remainingBehind_le hcp
      _ < remaining budget (.reload req (.gate attempt)) :=
          Nat.lt_succ_self _
  | execute =>
    obtain ⟨hlt, hcand⟩ := candidate_attempts_of_execute hreq
    calc remaining budget (.execute cp)
        ≤ attemptWorth *
            (budget.maxAttempts - req.candidateUsage.attempts + 1) + 16 :=
          remainingBehind_le hcp
      _ < remaining budget (.reload req .execute) := by
          simp only [remaining, attemptWorth]
          omega

theorem remaining_reload_lt {req : TransitionRequest} {k : Then}
    (hopen : req.expected.state.isTerminal = false)
    (husage : req.expected.usage ≤ req.candidateUsage) :
    remaining budget (.reload req k) < remaining budget (.transition req k) := by
  have hle := husage.attempts
  have hbehind : ∀ rank, remainingBehind budget req.expected rank =
      attemptWorth * (budget.maxAttempts - req.expected.usage.attempts + 1) +
        rank := by
    intro rank
    simp [remainingBehind, hopen]
  cases k with
  | finish => exact Nat.one_lt_two
  | execute => exact Nat.lt_succ_self _
  | loop | gate attempt =>
    simp only [remaining, hbehind, attemptWorth]
    omega

theorem remaining_resume_lost_lt {req : TransitionRequest} {k : Then}
    (hterminal : cp.state.isTerminal = true) :
    remaining budget (resume k cp) < remaining budget (.transition req k) := by
  have hbehind : ∀ rank, remainingBehind budget cp rank = rank := by
    intro rank
    simp [remainingBehind, hterminal]
  cases k with
  | finish => exact Nat.zero_lt_two
  | loop =>
    have hhead : loopHead cp = .done (.ok cp) := by simp [loopHead, hterminal]
    have hrank : 8 ≤ remainingBehind budget req.expected 8 :=
      rank_le_remainingBehind
    simp only [resume, hhead, remaining]
    omega
  | gate attempt =>
    have hrank : 13 ≤ remainingBehind budget req.expected 13 :=
      rank_le_remainingBehind
    simp only [resume, remaining, hbehind]
    omega
  | execute =>
    simp only [resume, remaining, hbehind]
    omega

variable {bound : ℕ}

theorem remaining_afterStop_lt {answer : Except LoopError (Option String)}
    {goOn : Pc} (hbound : 2 < bound) (hgoOn : remaining budget goOn < bound) :
    remaining budget (afterStop cp .finish answer goOn) < bound := by
  unfold afterStop
  split
  · exact Nat.zero_lt_of_lt hbound
  · exact hbound
  · exact hgoOn

theorem remaining_afterClock_lt {answer : ClockAnswer} {goOn : ℤ → Pc} (hbound : 0 < bound)
    (hgoOn : ∀ now, remaining budget (goOn now) < bound) :
    remaining budget (afterClock answer goOn) < bound := by
  unfold afterClock
  split
  · exact hgoOn _
  · exact hbound
  · exact hbound

theorem remaining_beforeDeadline_lt {goOn : Pc} {now : ℤ}
    (hbound : 2 < bound) (hgoOn : remaining budget goOn < bound) :
    remaining budget (beforeDeadline budget cp goOn now) < bound := by
  unfold beforeDeadline
  split
  · exact hbound
  · exact hgoOn

theorem remaining_budgetDecision_lt {now : ℤ} :
    remaining budget (budgetDecision budget cp now) <
      remaining budget (.budgetClock cp) := by
  have hfinish : ∀ req, remaining budget (.transition req .finish) <
      remaining budget (.budgetClock cp) := by
    intro req
    simp only [remaining]
    omega
  unfold budgetDecision
  repeat' split
  all_goals first
    | exact hfinish _
    | exact Nat.lt_succ_self _

theorem remaining_attemptDecision_lt {retry : RetryPolicy} {attempt : AttemptResult} :
    remaining budget (attemptDecision retry cp attempt) <
      remaining budget (.attemptClock cp attempt) := by
  have hfinish : 2 < remainingBehind budget cp 14 :=
    Nat.lt_of_lt_of_le (by decide) rank_le_remainingBehind
  unfold attemptDecision
  split
  · split
    · exact hfinish
    · exact remainingBehind_lt (by decide)
  · exact hfinish
  · exact remainingBehind_lt (by decide)

theorem remaining_gateDecision_lt {retry : RetryPolicy} {outcome : GateOutcome} :
    remaining budget (gateDecision retry cp outcome) <
      remaining budget (.gateClock cp outcome) := by
  have hfinish : 2 < remainingBehind budget cp 9 :=
    Nat.lt_of_lt_of_le (by decide) rank_le_remainingBehind
  unfold gateDecision
  split
  · exact hfinish
  · split
    · exact hfinish
    · split
      · exact hfinish
      · exact remainingBehind_lt (by decide)

end Measure

theorem remaining_afterCreate_lt {budget : LoopBudget} {k : Then}
    {cp : LoopCheckpoint} (hk : k = .finish ∨ k = .loop) :
    remaining budget (afterCreate k cp) < remaining budget (.create k) := by
  unfold afterCreate
  split
  · simp only [remaining, attemptWorth]
    omega
  · rcases hk with rfl | rfl
    · exact Nat.succ_pos _
    · have := @remaining_loopHead_lt budget cp _ (Nat.zero_le _)
      rw [Nat.sub_zero] at this
      exact this.trans (Nat.add_lt_add_left (by decide) _)

/-- **Every own step of a call brings it closer to its end.** -/
theorem remaining_step {definition : LoopDefinition} {j : σ} {en : Engine}
    {answers : Surroundings} (hstored : ∀ r cp, law.view j r = some cp → cp.runId = r)
    (hi : EngineInv law definition j en) (hbusy : en.pc.isFree = false) :
    remaining definition.budget (advancePc ops definitionDigest definition j en answers).1 <
      remaining definition.budget en.pc := by
  unfold advancePc
  cases hpc : en.pc with
  | idle | done result => rw [hpc] at hbusy; cases hbusy
  | create k =>
    dsimp only
    cases ops.create j en.runId definition with
    | error err => exact Nat.succ_pos _
    | ok result => exact remaining_afterCreate_lt (hi.start k (.inl hpc))
  | startStop cp k =>
    have hmove : ∀ req, req.expected = cp →
        remaining definition.budget (.transition req k) <
          remaining definition.budget (.startStop cp k) := by
      intro req hreq
      rcases hi.start k (.inr ⟨cp, hpc⟩) with rfl | rfl
      · simp only [remaining]
        omega
      · subst hreq
        exact (remainingBehind_le (Nat.le_refl _)).trans_lt
          (Nat.add_lt_add_left (by decide) _)
    dsimp only
    unfold afterStop
    split
    · exact Nat.succ_pos _
    · exact hmove _ rfl
    · exact hmove _ rfl
  | budgetStop cp =>
    exact remaining_afterStop_lt (Nat.lt_add_left _ (by decide))
      (Nat.lt_succ_self _)
  | budgetClock cp =>
    exact remaining_afterClock_lt (Nat.succ_pos _)
      fun now => remaining_budgetDecision_lt
  | transition req k =>
    have hreq := hi.request req k hpc
    have hrun := (hi.held req.expected (by rw [hpc]; rfl)).run
    dsimp only
    cases htrans : ops.transition j req with
    | error err =>
      have := @remaining_resume_lost_lt definition.budget
        { req.expected with state := .failed } req k rfl
      exact Nat.zero_lt_of_lt this
    | ok result =>
      rcases result with ⟨answer, j'⟩
      cases law.transition_ok _ _ _ _ htrans with
      | lost cp _ _ hterminal => exact remaining_resume_lost_lt hterminal
      | committed _ _ _ hallowed husage hanswer _ _ =>
        have hopen := not_terminal_of_transitionAllowed hallowed
        rcases hanswer with rfl | rfl
        · exact (remaining_resume_reload_lt hreq (Nat.le_refl _)).trans
            (remaining_reload_lt hopen husage)
        · exact remaining_reload_lt hopen husage
  | reload req k =>
    obtain ⟨hreq, hrun, hanchor⟩ := hi.reload req k hpc
    dsimp only
    cases hload : ops.load j req.expected.runId with
    | error err =>
      have := @remaining_resume_reload_lt _ (req.next semanticDigest) _ _ hreq
        (Nat.le_refl _)
      exact Nat.zero_lt_of_lt this
    | ok cp =>
      have hview := law.load_ok _ _ _ hload
      rw [hrun] at hview
      exact remaining_resume_reload_lt hreq
        (grips_of_view hstored hview hanchor).2
  | execute cp =>
    have hfinish : 2 < remainingBehind definition.budget cp 16 :=
      Nat.lt_of_lt_of_le (by decide) rank_le_remainingBehind
    dsimp only
    cases answers.executor with
    | result attempt => exact remainingBehind_lt (by decide)
    | _ => exact hfinish
  | attemptStop cp attempt | gateStop cp outcome =>
    exact remaining_afterStop_lt
      (Nat.lt_of_lt_of_le (by decide) rank_le_remainingBehind)
      (remainingBehind_lt (by decide))
  | attemptClock cp attempt =>
    exact remaining_afterClock_lt
      (Nat.lt_of_lt_of_le (by decide) rank_le_remainingBehind)
      fun now => remaining_beforeDeadline_lt
        (Nat.lt_of_lt_of_le (by decide) rank_le_remainingBehind)
        remaining_attemptDecision_lt
  | gate cp attempt =>
    have hfinish : 2 < remainingBehind definition.budget cp 11 :=
      Nat.lt_of_lt_of_le (by decide) rank_le_remainingBehind
    dsimp only
    cases answers.gate with
    | outcome outcome => exact remainingBehind_lt (by decide)
    | _ => exact hfinish
  | gateClock cp outcome =>
    exact remaining_afterClock_lt
      (Nat.lt_of_lt_of_le (by decide) rank_le_remainingBehind)
      fun now => remaining_beforeDeadline_lt
        (Nat.lt_of_lt_of_le (by decide) rank_le_remainingBehind)
        remaining_gateDecision_lt
  | recoverLoad =>
    dsimp only
    cases ops.load j en.runId with
    | error err => exact Nat.succ_pos _
    | ok cp =>
      dsimp only
      unfold recoverDecision
      split
      · exact Nat.succ_pos _
      · split
        · exact Nat.lt_succ_self _
        · split
          · exact Nat.succ_pos _
          · simp only [remaining, attemptWorth]
            omega

def LoopAction.isStepOf (e : ι) : LoopAction ι → Bool
  | .advance e' _ => e' = e
  | _ => false

def ownSteps (e : ι) (actions : List (LoopAction ι)) : ℕ :=
  actions.countP (LoopAction.isStepOf e)

/-- While an engine is inside a call, only its own steps and a crash move it. -/
theorem engine_step_other {action : LoopAction ι} (hbusy : (s.engines e).pc.isFree = false)
    (hother : action.isStepOf e = false) :
    ((s.step ops definitionDigest definitions semanticDigest action).engines e) =
        s.engines e ∨
      ((s.step ops definitionDigest definitions semanticDigest action).engines
        e).pc.isFree = true := by
  have henter : ∀ e' runId pc, (s.enter e' runId pc).engines e = s.engines e := by
    intro e' runId pc
    unfold LoopSystem.enter
    split
    · next hfree =>
        have hne : e ≠ e' := by
          rintro rfl
          rw [hbusy] at hfree
          cases hfree
        exact Function.update_of_ne hne _ _
    · rfl
  cases action with
  | callRun e' runId independent | callStart e' runId | callRecover e' runId =>
    exact .inl (henter _ _ _)
  | advance e' answers =>
    have hne : e ≠ e' := by
      rintro rfl
      simp [LoopAction.isStepOf] at hother
    exact .inl (Function.update_of_ne hne _ _)
  | crash e' =>
    by_cases hee : e = e'
    · subst hee
      refine .inr ?_
      dsimp only [LoopSystem.step]
      rw [Function.update_self]
      rfl
    · exact .inl (Function.update_of_ne hee _ _)
  | requestCancel runId =>
    refine .inl ?_
    dsimp only [LoopSystem.step]
    split <;> rfl
  | setKillSwitch enabled => exact .inl rfl

theorem remaining_pos {budget : LoopBudget} {pc : Pc} (h : pc.isFree = false) :
    0 < remaining budget pc := by
  have hbehind : ∀ cp rank, 0 < rank → 0 < remainingBehind budget cp rank :=
    fun cp rank h => h.trans_le rank_le_remainingBehind
  cases pc with
  | idle | done result => cases h
  | transition req k =>
    cases k <;> first | exact hbehind _ _ (by decide) | exact Nat.succ_pos _
  | reload req k => cases k <;> exact Nat.succ_pos _
  | _ => first | exact hbehind _ _ (by decide) | exact Nat.succ_pos _

/-- Whatever the others do, a call is over once the engine has made as many own
steps as were left. -/
theorem call_ends (hsep : DigestSeparates definitionDigest definitions)
    (actions : List (LoopAction ι)) (hi : SystemInv law definitions s)
    (h : remaining (definitions e).budget (s.engines e).pc ≤ ownSteps e actions) :
    ∃ before, before <+: actions ∧
      ((s.after ops definitionDigest definitions semanticDigest before).engines
        e).pc.isFree = true := by
  induction actions generalizing s with
  | nil =>
    refine ⟨[], List.prefix_rfl, ?_⟩
    cases hfree : (s.engines e).pc.isFree with
    | true => exact hfree
    | false =>
      have := @remaining_pos ((definitions e).budget) _ hfree
      simp only [ownSteps, List.countP_nil] at h
      omega
  | cons action actions ih =>
    cases hfree : (s.engines e).pc.isFree with
    | true => exact ⟨[], List.nil_prefix, hfree⟩
    | false =>
      have hnext := systemInv_step hsep hi action
      have hgoOn : remaining (definitions e).budget
          ((s.step ops definitionDigest definitions semanticDigest
            action).engines e).pc ≤ ownSteps e actions ∨
          ((s.step ops definitionDigest definitions semanticDigest
            action).engines e).pc.isFree = true := by
        cases hown : action.isStepOf e with
        | true =>
          cases action with
          | advance e' answers =>
            obtain rfl : e' = e := by
              simpa [LoopAction.isStepOf] using hown
            have hlt := @remaining_step _ _ _ _ _ _ _ _ answers hi.journal.runs
              (hi.engines e') hfree
            refine .inl ?_
            dsimp only [LoopSystem.step]
            rw [Function.update_self]
            simp only [ownSteps, List.countP_cons, hown, if_true] at h ⊢
            omega
          | _ => cases hown
        | false =>
          rcases engine_step_other hfree hown with hsame | hfree'
          · refine .inl ?_
            rw [hsame]
            simpa [ownSteps, List.countP_cons, hown] using h
          · exact .inr hfree'
      rcases hgoOn with hle | hfree'
      · obtain ⟨before, hbefore, hend⟩ := ih hnext hle
        exact ⟨action :: before, List.cons_prefix_cons.mpr ⟨rfl, hbefore⟩, hend⟩
      · exact ⟨[action], List.cons_prefix_cons.mpr ⟨rfl, List.nil_prefix⟩, hfree'⟩

/-! ## The bounds of every interleaving -/

variable (law definitions) in
/-- What holds in every state of engines over a journal. -/
structure LoopBounds (s : LoopSystem σ ι) : Prop where
  /-- the definition of a stored run is that of some engine -/
  owned : ∀ r cp, law.view s.journal r = some cp →
    ∃ e, cp.definitionDigest = definitionDigest (definitions e)
  /-- every stored checkpoint is within the budget of its definition -/
  within : ∀ r cp e, law.view s.journal r = some cp →
    cp.definitionDigest = definitionDigest (definitions e) →
      WithinBudget (definitions e).budget cp.usage
  /-- the usage counters do not decrease along the event chain -/
  ordered : ∀ r cp, law.view s.journal r = some cp →
    (law.history s.journal r).Pairwise fun a b => a.usage ≤ b.usage
  /-- only the last event can enter a terminal state -/
  one_terminal : ∀ r cp, law.view s.journal r = some cp →
    ∀ ev ∈ (law.history s.journal r).dropLast, ev.target.isTerminal = false
  /-- a call of `run` has used at most `max_attempts` executor calls -/
  calls : ∀ e, (s.engines e).calls ≤ (definitions e).budget.maxAttempts
  /-- a call is over after finitely many own steps, whatever else happens -/
  ends : ∀ e actions, runBound (definitions e).budget ≤ ownSteps e actions →
    ∃ before, before <+: actions ∧
      ((s.after ops definitionDigest definitions semanticDigest before).engines
        e).pc.isFree = true

theorem loopBounds_of_inv (hsep : DigestSeparates definitionDigest definitions)
    (hi : SystemInv law definitions s) : LoopBounds law definitions s where
  owned := hi.journal.owned
  within := fun r cp e hcp hdef => (hi.journal.budgets r cp e hcp hdef).within
  ordered := fun r cp hcp => (hi.journal.chains r cp hcp).ordered
  one_terminal := fun r cp hcp => (hi.journal.chains r cp hcp).open_before
  calls := fun e => (hi.engines e).calls_le
  ends := fun _ actions h =>
    call_ends hsep actions hi ((remaining_le_runBound _).trans h)

end System

/-- **Loop budgets and termination.**  For every family of engines, every
sequence of their steps with calls, crashes, cancellations and kill switches in
between, and every answer of clocks, executors and gates, over either journal:
every stored checkpoint is within its budget, the event chain is ordered and
ends with at most one terminal event, and a call of `run` is over after
`runBound` own steps with at most `max_attempts` executor calls. -/
theorem loop_budget_bounds {ι : Type} [DecidableEq ι]
    (definitionDigest : LoopDefinition → String)
    (semanticDigest : LoopEvent → String) (definitions : ι → LoopDefinition)
    (hsep : DigestSeparates definitionDigest definitions)
    (actions : List (LoopAction ι)) :
    LoopBounds (inMemoryLawful definitionDigest semanticDigest) definitions
      (LoopSystem.after (inMemoryOps definitionDigest semanticDigest)
        definitionDigest definitions semanticDigest { journal := {} } actions) ∧
    LoopBounds (sqliteLawful definitionDigest semanticDigest) definitions
      (LoopSystem.after (sqliteOps definitionDigest semanticDigest)
        definitionDigest definitions semanticDigest
        { journal := SQLiteLoopJournal.empty } actions) :=
  ⟨loopBounds_of_inv hsep (systemInv_after hsep
      (systemInv_initial ⟨fun _ => rfl, fun _ => rfl, rfl, rfl⟩) actions),
    loopBounds_of_inv hsep (systemInv_after hsep
      (systemInv_initial ⟨fun _ => rfl, fun _ => rfl, rfl, rfl⟩) actions)⟩

/-- A definition with two attempts, as two engines share it. -/
def sampleDefinition : LoopDefinition where
  loopId := "loop-1"
  version := "1"
  objectiveDigest := String.ofList (List.replicate 64 'a')
  gateDigest := String.ofList (List.replicate 64 'b')
  profile := "sample"
  sideEffectMode := .noEffect
  deterministic := true
  executable := true
  budget :=
    { maxAttempts := 2
      maxIterations := 2
      deadline := 100
      maxTokens := 10
      maxCostMicrousd := 0
      maxStorageBytes := 0
      reserveTokensPerAttempt := 5
      attempts_pos := by decide
      iterations_pos := by decide
      tokens_fit := by decide
      cost_fits := by decide
      storage_fits := by decide }
  retry := { stagnant_pos := by decide, codes_safe := by simp }
  loopId_ok := by decide
  version_ok := by decide
  digests_ok := by decide
  profile_ok := by decide
  outline_ok := by decide

/-- The digests of a journal whose records are not told apart. -/
def sampleDigests {α : Type} : α → String :=
  fun _ => String.ofList (List.replicate 64 'c')

/-- One engine up to the reservation of its first attempt; it crashes there and the
other engine comes in. -/
def reservedActions : List (LoopAction Bool) :=
  [.callRun true "run-1" true, .advance true {}, .advance true {}, .advance true {},
    .advance true {}, .advance true { clock := .instant 0 }, .advance true {},
    .crash true, .callRecover false "run-1"]

theorem loop_budget_bounds_shared_definition :
    (((LoopSystem.after (inMemoryOps sampleDigests sampleDigests) sampleDigests
        (fun _ : Bool => sampleDefinition) sampleDigests { journal := {} }
        reservedActions).journal.checkpoints.lookup "run-1").map (·.usage) =
      some { attempts := 1, tokens := 5 }) ∧
    DigestSeparates sampleDigests (fun _ : Bool => sampleDefinition) ∧
    LoopBounds (inMemoryLawful sampleDigests sampleDigests)
      (fun _ : Bool => sampleDefinition)
      (LoopSystem.after (inMemoryOps sampleDigests sampleDigests) sampleDigests
        (fun _ : Bool => sampleDefinition) sampleDigests { journal := {} }
        reservedActions) :=
  ⟨by decide +kernel, fun _ _ _ => rfl, (loop_budget_bounds sampleDigests sampleDigests
      (fun _ : Bool => sampleDefinition) (fun _ _ _ => rfl) _).1⟩

end Ecosystem.Loops
