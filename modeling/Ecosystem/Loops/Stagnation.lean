import Ecosystem.Loops.Bounds

/-!
# The stagnation counter

A gate decision is recorded by the transition that carries its progress digest; so the
counter of a stored checkpoint counts the trailing run of equal digests of its event
chain.  Between the commit of an attempt and the second read of a SQLite transition
other engines can only end the run (`HostInv.sole`).
-/

namespace Ecosystem.Loops

open Ecosystem.Lib

/-! ## Trailing runs -/

section TrailingRuns

variable {α : Type} {xs : List α} {x : α} {n bound : ℕ}

/-- The list ends with `n` copies of `x`, and with no more. -/
def EndsWith (xs : List α) (x : α) (n : ℕ) : Prop :=
  ∃ front, xs = front ++ List.replicate n x ∧ front.getLast? ≠ some x

theorem EndsWith.again (h : EndsWith xs x n) : EndsWith (xs ++ [x]) x (n + 1) := by
  obtain ⟨front, rfl, hfront⟩ := h
  exact ⟨front, by rw [List.replicate_succ', List.append_assoc], hfront⟩

theorem endsWith_new (h : xs.getLast? ≠ some x) : EndsWith (xs ++ [x]) x 1 :=
  ⟨xs, rfl, h⟩

theorem EndsWith.getLast? (h : EndsWith xs x (n + 1)) : xs.getLast? = some x := by
  obtain ⟨front, rfl, -⟩ := h
  rw [List.replicate_succ', ← List.append_assoc, List.getLast?_concat]

theorem EndsWith.suffix_le {m : ℕ} (h : EndsWith xs x n)
    (hsuffix : List.replicate m x <:+ xs) : m ≤ n := by
  obtain ⟨front, rfl, hfront⟩ := h
  by_contra hlt
  obtain ⟨k, rfl⟩ : ∃ k, m = k + 1 + n := ⟨m - n - 1, by omega⟩
  rw [List.replicate_add, List.suffix_append_inj_of_length_eq rfl] at hsuffix
  obtain ⟨more, rfl⟩ := hsuffix.1
  apply hfront
  rw [List.replicate_succ', ← List.append_assoc, List.getLast?_concat]

theorem runs_concat (hruns : ∀ m y, List.replicate m y <:+: xs → m ≤ bound)
    (hend : EndsWith (xs ++ [x]) x n) (hn : n ≤ bound) :
    ∀ m y, List.replicate m y <:+: xs ++ [x] → m ≤ bound := by
  intro m y hrun
  rcases List.infix_concat_iff.mp hrun with hsuffix | hinside
  · cases m with
    | zero => exact Nat.zero_le _
    | succ m =>
      obtain ⟨front, hfront⟩ := hsuffix
      rw [List.replicate_succ', ← List.append_assoc] at hfront
      obtain ⟨-, hlast⟩ := List.append_inj' hfront rfl
      cases hlast
      exact (hend.suffix_le ⟨front, by
        rw [List.replicate_succ', ← List.append_assoc]; exact hfront⟩).trans hn
  · exact hruns m y hinside

end TrailingRuns

/-! ## Gate decisions -/

def LoopEvent.isDecision (ev : LoopEvent) : Bool :=
  ev.source = .gating && ev.evidenceDigest.isSome

def decisions (events : List LoopEvent) : List String :=
  events.filterMap fun ev => if ev.isDecision then ev.progressDigest else none

/-- The transitions of an engine, as far as they concern progress: they take digest and
counter over and record no gate decision, or they record the verdict on a checkpoint at
the gate. -/
inductive ProgressRequest (retry : RetryPolicy) (req : TransitionRequest) : Prop
  | carry (hprogress : req.progressDigest = none)
      (hstagnant : req.stagnantIterations = none)
      (hquiet : req.evidenceDigest = none ∨ req.expected.state ≠ .gating)
  | verdict (outcome : GateOutcome)
      (hstate : req.expected.state = .gating ∨ req.expected.state.isTerminal = true)
      (hprogress : req.progressDigest = some outcome.progressDigest)
      (hstagnant : req.stagnantIterations = some (nextStagnant req.expected outcome))
      (hevidence : req.evidenceDigest = some outcome.evidenceDigest)
      (hlimit : req.target.isTerminal = false →
        nextStagnant req.expected outcome < retry.maxStagnantIterations)

/-- What the counter of a stored checkpoint says of its chain. -/
structure StagnationInv (retry : RetryPolicy) (cp : LoopCheckpoint)
    (events : List LoopEvent) : Prop where
  silent : cp.lastProgressDigest = none → decisions events = []
  counted : ∀ d, cp.lastProgressDigest = some d → ∃ n : ℕ,
    cp.stagnantIterations = n ∧ EndsWith (decisions events) d (n + 1)
  limited : ∀ n d, List.replicate n d <:+: decisions events →
    n ≤ retry.maxStagnantIterations + 1
  open_below : cp.state.isTerminal = false →
    cp.stagnantIterations < retry.maxStagnantIterations

theorem stagnationInv_initial (definitionDigest : LoopDefinition → String)
    (runId : String) (definition : LoopDefinition) (retry : RetryPolicy) :
    StagnationInv retry (initialCheckpoint definitionDigest runId definition) [] where
  silent := fun _ => rfl
  counted := fun d hd => by cases hd
  limited := by
    intro n d hrun
    have hlength := hrun.length_le
    rw [List.length_replicate] at hlength
    exact hlength.trans (Nat.zero_le _)
  open_below := fun _ => by
    have hpos := retry.stagnant_pos
    show (0 : ℤ) < retry.maxStagnantIterations
    omega

theorem decisions_concat (events : List LoopEvent) (ev : LoopEvent) :
    decisions (events ++ [ev]) =
      decisions events ++ (if ev.isDecision then ev.progressDigest else none).toList := by
  rw [decisions, List.filterMap_append]
  by_cases hdecision : ev.isDecision = true
  · cases hprogress : ev.progressDigest <;> simp [decisions, hdecision, hprogress]
  · simp [decisions, hdecision]

section Commit

variable {retry : RetryPolicy} {req : TransitionRequest} {events : List LoopEvent}
  {semanticDigest : LoopEvent → String}

/-- **A committed transition keeps the count.** -/
theorem stagnationInv_next (h : StagnationInv retry req.expected events)
    (hreq : ProgressRequest retry req)
    (hallowed : transitionAllowed req.expected.state req.target = true) :
    StagnationInv retry (req.next semanticDigest) (events ++ [req.event]) := by
  have hopen := not_terminal_of_transitionAllowed hallowed
  cases hreq with
  | carry hprogress hstagnant hquiet =>
    have hdecision : req.event.isDecision = false := by
      rcases hquiet with hevidence | hstate
      · simp [LoopEvent.isDecision, TransitionRequest.event, hevidence]
      · simp [LoopEvent.isDecision, TransitionRequest.event, hstate]
    have hlast : (req.next semanticDigest).lastProgressDigest =
        req.expected.lastProgressDigest := by
      simp [TransitionRequest.next, hprogress]
    have hcount : (req.next semanticDigest).stagnantIterations =
        req.expected.stagnantIterations := by
      simp [TransitionRequest.next, hstagnant]
    have hsame : decisions (events ++ [req.event]) = decisions events := by
      rw [decisions_concat, hdecision]
      exact List.append_nil _
    refine ⟨?_, ?_, ?_, fun _ => ?_⟩
    · rw [hlast, hsame]
      exact h.silent
    · rw [hlast, hcount, hsame]
      exact h.counted
    · rw [hsame]
      exact h.limited
    · rw [hcount]
      exact h.open_below hopen
  | verdict outcome hstate hprogress hstagnant hevidence hlimit =>
    have hgating : req.expected.state = .gating := by
      rcases hstate with hgating | hterminal
      · exact hgating
      · rw [hopen] at hterminal
        cases hterminal
    have hdecision : req.event.isDecision = true := by
      simp [LoopEvent.isDecision, TransitionRequest.event, hgating, hevidence]
    have hlast : (req.next semanticDigest).lastProgressDigest =
        some outcome.progressDigest := by
      simp [TransitionRequest.next, hprogress]
    have hcount : (req.next semanticDigest).stagnantIterations =
        nextStagnant req.expected outcome := by
      simp [TransitionRequest.next, hstagnant]
    have hmore : decisions (events ++ [req.event]) =
        decisions events ++ [outcome.progressDigest] := by
      rw [decisions_concat, if_pos hdecision]
      simp [TransitionRequest.event, hprogress]
    have hbelow := h.open_below hopen
    -- the new trailing run, one longer than the old one or begun anew
    obtain ⟨n, hn, hend⟩ : ∃ n : ℕ, nextStagnant req.expected outcome = n ∧
        EndsWith (decisions events ++ [outcome.progressDigest])
          outcome.progressDigest (n + 1) := by
      unfold nextStagnant
      by_cases hsame : req.expected.lastProgressDigest = some outcome.progressDigest
      · obtain ⟨n, hn, hend⟩ := h.counted _ hsame
        rw [if_pos hsame, hn]
        exact ⟨n + 1, by omega, hend.again⟩
      · rw [if_neg hsame]
        refine ⟨0, rfl, endsWith_new ?_⟩
        cases hprevious : req.expected.lastProgressDigest with
        | none =>
          rw [h.silent hprevious]
          simp
        | some d =>
          obtain ⟨n, -, hend⟩ := h.counted d hprevious
          rw [hend.getLast?, ← hprevious]
          exact hsame
    have hn_le : n ≤ retry.maxStagnantIterations := by
      have hstep : nextStagnant req.expected outcome ≤ req.expected.stagnantIterations + 1 ∨
            nextStagnant req.expected outcome = 0 := by
        unfold nextStagnant
        split
        · exact .inl le_rfl
        · exact .inr rfl
      rcases hstep with hstep | hstep <;> omega
    refine ⟨?_, ?_, ?_, ?_⟩
    · rw [hlast]
      exact fun hnone => by cases hnone
    · rw [hlast, hcount, hmore]
      rintro d hd
      obtain rfl : outcome.progressDigest = d := Option.some.inj hd
      exact ⟨n, hn, hend⟩
    · rw [hmore]
      exact runs_concat h.limited hend (by omega)
    · rw [hcount]
      exact hlimit

end Commit

/-! ## The phases of a call -/

/-- The attempt of the checkpoint is under way, or the run is over. -/
def LoopCheckpoint.InState (cp : LoopCheckpoint) (state : LoopState) : Prop :=
  cp.state = state ∨ cp.state.isTerminal = true

/-- The state of the checkpoint in hand, and the shape of what is asked for. -/
def Pc.InPhase (retry : RetryPolicy) : Pc → Prop
  | .startStop cp _ => cp.state = .new
  | .budgetStop cp | .budgetClock cp => cp.state = .ready ∨ cp.state = .retryWait
  | .execute cp | .attemptStop cp _ | .attemptClock cp _ => cp.InState .running
  | .gate cp _ | .gateStop cp _ | .gateClock cp _ => cp.InState .gating
  | .transition req _ => ProgressRequest retry req
  | .idle | .done _ | .create _ | .reload _ _ | .recoverLoad => True

section Phases

variable (semanticDigest : LoopEvent → String)

/-- The checkpoint that the thread may move on without ending its run. -/
def Pc.hosted : Pc → Option LoopCheckpoint
  | .reload req .execute | .reload req (.gate _) => some (req.next semanticDigest)
  | .execute cp | .attemptStop cp _ | .attemptClock cp _ | .gate cp _ | .gateStop cp _
  | .gateClock cp _ => some cp
  | .transition req _ => if req.target.isTerminal then none else some req.expected
  | .idle | .done _ | .create _ | .startStop _ _ | .budgetStop _ | .budgetClock _
  | .reload _ .finish | .reload _ .loop | .recoverLoad => none

/-- The thread has the attempt of the checkpoint in hand. -/
def Pc.Hosts (pc : Pc) (cp : LoopCheckpoint) : Prop :=
  pc.hosted semanticDigest = some cp ∧ (cp.state = .running ∨ cp.state = .gating)

/-- A place that a step without a transition leads to: its phase is right, and the
checkpoints that it hosts satisfy `P`. -/
structure Follows (retry : RetryPolicy) (P : LoopCheckpoint → Prop) (pc : Pc) : Prop where
  phase : pc.InPhase retry
  hosts : ∀ cp, pc.Hosts semanticDigest cp → P cp
  settled : ∀ req k, pc ≠ .reload req k

variable {semanticDigest} {retry : RetryPolicy} {P : LoopCheckpoint → Prop}
  {cp : LoopCheckpoint}

theorem follows_bare {pc : Pc} (hphase : pc.InPhase retry)
    (hhosted : pc.hosted semanticDigest = none) (hsettled : ∀ req k, pc ≠ .reload req k) :
    Follows semanticDigest retry P pc := by
  refine ⟨hphase, fun cp h => ?_, hsettled⟩
  have hsome := h.1
  rw [hhosted] at hsome
  cases hsome

theorem follows_free {pc : Pc} (hfree : pc.isFree = true) :
    Follows semanticDigest retry P pc := by
  cases pc with
  | idle | done result => exact follows_bare trivial rfl fun _ _ h => by cases h
  | _ => cases hfree

variable {k : Then}

theorem follows_terminal {state : LoopState} {reason : String}
    (hstate : state.isTerminal = true) :
    Follows semanticDigest retry P (.transition (terminalRequest cp state reason) k) :=
  follows_bare (.carry rfl rfl (.inl rfl)) (if_pos hstate) fun _ _ h => by cases h

theorem follows_request {req : TransitionRequest} (hreq : ProgressRequest retry req)
    (hP : req.expected.state = .running ∨ req.expected.state = .gating → P req.expected) :
    Follows semanticDigest retry P (.transition req k) := by
  refine ⟨hreq, fun cp' h => ?_, fun _ _ h => by cases h⟩
  obtain ⟨hhosted, hactive⟩ := h
  rw [Pc.hosted] at hhosted
  split at hhosted
  · cases hhosted
  cases hhosted
  exact hP hactive

theorem follows_loopHead : Follows semanticDigest retry P (loopHead cp) := by
  unfold loopHead
  split
  · exact follows_free rfl
  · split
    · next hwaiting => exact follows_bare hwaiting rfl fun _ _ h => by cases h
    · exact follows_free rfl

theorem follows_afterStop {goOn : Pc}
    {answer : Except LoopError (Option String)} (hgoOn : Follows semanticDigest retry P goOn) :
    Follows semanticDigest retry P (afterStop cp k answer goOn) := by
  unfold afterStop
  split
  · exact follows_free rfl
  · exact follows_terminal rfl
  · exact hgoOn

theorem follows_afterClock {goOn : ℤ → Pc} {answer : ClockAnswer}
    (hgoOn : ∀ now, Follows semanticDigest retry P (goOn now)) :
    Follows semanticDigest retry P (afterClock answer goOn) := by
  unfold afterClock
  split
  · exact hgoOn _
  · exact follows_free rfl
  · exact follows_free rfl

theorem follows_beforeDeadline {budget : LoopBudget} {goOn : Pc} {now : ℤ}
    (hgoOn : Follows semanticDigest retry P goOn) :
    Follows semanticDigest retry P (beforeDeadline budget cp goOn now) := by
  unfold beforeDeadline
  split
  · exact follows_terminal rfl
  · exact hgoOn

theorem follows_budgetDecision {budget : LoopBudget} {now : ℤ}
    (hwaiting : cp.state = .ready ∨ cp.state = .retryWait) :
    Follows semanticDigest retry P (budgetDecision budget cp now) := by
  unfold budgetDecision
  repeat' split
  all_goals first
    | exact follows_terminal rfl
    | skip
  refine follows_request (.carry rfl rfl (.inl rfl)) fun hactive => ?_
  have hactive : cp.state = .running ∨ cp.state = .gating := hactive
  rcases hwaiting with hstate | hstate <;> rw [hstate] at hactive <;>
    rcases hactive with hactive | hactive <;> cases hactive

theorem LoopCheckpoint.InState.ne {state other : LoopState} (h : cp.InState state)
    (hne : state ≠ other) (hopen : other.isTerminal = false) : cp.state ≠ other := by
  rintro rfl
  rcases h with hstate | hterminal
  · exact hne hstate.symm
  · rw [hopen] at hterminal
    cases hterminal

theorem follows_attemptDecision {attempt : AttemptResult} (hstate : cp.InState .running)
    (hP : cp.state = .running ∨ cp.state = .gating → P cp) :
    Follows semanticDigest retry P (attemptDecision retry cp attempt) := by
  have hquiet : cp.state ≠ .gating := hstate.ne (by decide) rfl
  unfold attemptDecision
  split
  · split
    · exact follows_terminal rfl
    · exact follows_request (.carry rfl rfl (.inr hquiet)) hP
  · exact follows_terminal rfl
  · exact follows_request (.carry rfl rfl (.inr hquiet)) hP

theorem follows_gateDecision {outcome : GateOutcome} (hstate : cp.InState .gating)
    (hP : cp.state = .running ∨ cp.state = .gating → P cp) :
    Follows semanticDigest retry P (gateDecision retry cp outcome) := by
  have hverdict : ∀ (target : LoopState) (reason : String) (k : Then),
      (target.isTerminal = false →
        nextStagnant cp outcome < retry.maxStagnantIterations) →
      Follows semanticDigest retry P
        (.transition (verdictRequest cp outcome target reason) k) :=
    fun target reason k hlimit =>
      follows_request (.verdict outcome hstate rfl rfl rfl hlimit) hP
  unfold gateDecision
  split
  · exact hverdict _ _ _ fun h => by cases h
  · split
    · exact hverdict _ _ _ fun h => by cases h
    · split
      · exact hverdict _ _ _ fun h => by cases h
      · next hbelow => exact hverdict _ _ _ fun _ => not_le.mp hbelow

theorem follows_recoverDecision {digest : String} :
    Follows semanticDigest retry P (recoverDecision digest cp) := by
  unfold recoverDecision
  split
  · exact follows_free rfl
  · split
    · exact follows_bare trivial rfl fun _ _ h => by cases h
    · split
      · exact follows_free rfl
      · exact follows_terminal rfl

theorem follows_resume (hexecute : k = .execute → cp.InState .running)
    (hgate : ∀ attempt, k = .gate attempt → cp.InState .gating)
    (hP : cp.state.isTerminal = false → k ≠ .finish → k ≠ .loop → P cp) :
    Follows semanticDigest retry P (resume k cp) := by
  have hheld : k ≠ .finish → k ≠ .loop → ∀ cp', some cp = some cp' ∧
      (cp'.state = .running ∨ cp'.state = .gating) → P cp' := by
    rintro hfinish hloop cp' ⟨heq, hactive⟩
    obtain rfl := Option.some.inj heq
    refine hP ?_ hfinish hloop
    rcases hactive with hstate | hstate <;> rw [hstate] <;> rfl
  cases k with
  | finish => exact follows_free rfl
  | loop => exact follows_loopHead
  | execute =>
    exact ⟨hexecute rfl, hheld (fun h => by cases h) (fun h => by cases h),
      fun _ _ h => by cases h⟩
  | gate attempt =>
    exact ⟨hgate attempt rfl, hheld (fun h => by cases h) (fun h => by cases h),
      fun _ _ h => by cases h⟩

end Phases

/-! ## One engine hosts an attempt -/

section System

variable {σ ι : Type} {ops : JournalOps σ}
  {definitionDigest : LoopDefinition → String}
  {semanticDigest : LoopEvent → String}
  (law : LawfulJournal ops definitionDigest semanticDigest)
  (definitions : ι → LoopDefinition)

/-- What the threads know of the attempts under way. -/
structure HostInv (s : LoopSystem σ ι) : Prop where
  phase : ∀ e, (s.engines e).pc.InPhase (definitions e).retry
  behind : ∀ e cp, (s.engines e).pc.Hosts semanticDigest cp →
    ∃ row, law.view s.journal cp.runId = some row ∧ cp.sequence ≤ row.sequence
  sole : ∀ e e' cp, (s.engines e).pc.Hosts semanticDigest cp →
    (s.engines e').pc.Hosts semanticDigest cp → e = e'
  /-- behind a commit the row shows it still, or a terminal state -/
  read : ∀ e req k, (s.engines e).pc = .reload req k →
    (s.engines e).pc.Hosts semanticDigest (req.next semanticDigest) →
      ∃ row, law.view s.journal req.expected.runId = some row ∧
        (row = req.next semanticDigest ∨ row.state.isTerminal = true)

/-- What the own step of a thread leads to. -/
structure HostStep (retry : RetryPolicy) (pc : Pc) (j : σ) (pc' : Pc) (j' : σ) :
    Prop where
  phase : pc'.InPhase retry
  hosts : ∀ cp, pc'.Hosts semanticDigest cp → pc.Hosts semanticDigest cp ∨
    ∃ req : TransitionRequest, law.view j req.expected.runId = some req.expected ∧
      cp = req.next semanticDigest ∧ law.view j' req.expected.runId = some cp
  read : ∀ req k, pc' = .reload req k →
    law.view j' req.expected.runId = some (req.next semanticDigest)

variable {law definitions} {s : LoopSystem σ ι} {e : ι} {answers : Surroundings}

theorem state_next_of_request {budget : LoopBudget} {req : TransitionRequest} {k : Then}
    (hreq : RequestInv budget req k) :
    (k = .execute → (req.next semanticDigest).state = .running) ∧
      ∀ attempt, k = .gate attempt → (req.next semanticDigest).state = .gating := by
  cases hreq with
  | reserve htarget => exact ⟨fun _ => htarget, fun _ h => (by cases h)⟩
  | gating attempt htarget => exact ⟨fun h => (by cases h), fun _ _ => htarget⟩
  | plain _ _ _ hk =>
    rcases hk with rfl | rfl
    · exact ⟨fun h => (by cases h), fun _ h => (by cases h)⟩
    · exact ⟨fun h => (by cases h), fun _ h => (by cases h)⟩

theorem hosts_reload {budget : LoopBudget} {req : TransitionRequest} {k : Then}
    (hreq : RequestInv budget req k) (hfinish : k ≠ .finish) (hloop : k ≠ .loop) :
    (Pc.reload req k).Hosts semanticDigest (req.next semanticDigest) := by
  have hstate := @state_next_of_request semanticDigest _ _ _ hreq
  cases k with
  | finish => exact absurd rfl hfinish
  | loop => exact absurd rfl hloop
  | execute => exact ⟨rfl, .inl (hstate.1 rfl)⟩
  | gate attempt => exact ⟨rfl, .inr (hstate.2 attempt rfl)⟩

theorem Follows.hostStep {retry : RetryPolicy} {pc pc' : Pc} {j j' : σ}
    (h : Follows semanticDigest retry (fun cp => pc.Hosts semanticDigest cp) pc') :
    HostStep law retry pc j pc' j' :=
  ⟨h.phase, fun cp hcp => .inl (h.hosts cp hcp), fun req k hpc => absurd hpc (h.settled req k)⟩

variable {j' : σ}

theorem hostStep_transition {req : TransitionRequest} {k : Then}
    {answer : TransitionAnswer} (hsys : SystemInv law definitions s)
    (hpc : (s.engines e).pc = .transition req k)
    (htrans : ops.transition s.journal req = .ok (answer, j')) :
    HostStep law (definitions e).retry (.transition req k) s.journal
      (afterTransition req k answer) j' := by
  have hreq := (hsys.engines e).request req k hpc
  cases law.transition_ok _ _ _ _ htrans with
  | lost cp hview _ hterminal =>
    refine Follows.hostStep (follows_resume (fun _ => .inr hterminal)
      (fun _ _ => .inr hterminal) fun hopen => ?_)
    rw [hterminal] at hopen
    cases hopen
  | committed _ _ hcurrent _ _ hanswer hview _ =>
    have hrow : law.view j' req.expected.runId = some (req.next semanticDigest) := by
      rw [hview, Function.update_self]
    have hstate := @state_next_of_request semanticDigest _ _ _ hreq
    rcases hanswer with rfl | rfl
    · have hfollows : Follows semanticDigest (definitions e).retry
          (fun cp => cp = req.next semanticDigest)
          (resume k (req.next semanticDigest)) :=
        follows_resume (fun hk => .inl (hstate.1 hk))
          (fun attempt hk => .inl (hstate.2 attempt hk)) fun _ _ _ => rfl
      refine ⟨hfollows.phase, fun cp hcp => .inr ?_,
        fun req' k' hpc' => absurd hpc' (hfollows.settled req' k')⟩
      obtain rfl := hfollows.hosts cp hcp
      exact ⟨req, hcurrent, rfl, hrow⟩
    · refine ⟨trivial, fun cp hcp => .inr ?_, fun req' k' hpc' => ?_⟩
      · have heq : cp = req.next semanticDigest := by
          have hhosted := hcp.1
          cases k <;> cases hhosted <;> rfl
        exact ⟨req, hcurrent, heq, by rw [heq]; exact hrow⟩
      · cases hpc'
        exact hrow

theorem hostStep_reload {req : TransitionRequest} {k : Then} {cp : LoopCheckpoint}
    (hsys : SystemInv law definitions s) (hi : HostInv law definitions s)
    (hpc : (s.engines e).pc = .reload req k)
    (hload : ops.load s.journal req.expected.runId = .ok cp) :
    HostStep law (definitions e).retry (.reload req k) s.journal (resume k cp)
      s.journal := by
  have hreq := ((hsys.engines e).reload req k hpc).1
  have hstate := @state_next_of_request semanticDigest _ _ _ hreq
  have hrow : k ≠ .finish → k ≠ .loop →
      cp = req.next semanticDigest ∨ cp.state.isTerminal = true := by
    intro hfinish hloop
    have hhosts := @hosts_reload semanticDigest _ _ _ hreq hfinish hloop
    obtain ⟨row, hview, hcase⟩ := hi.read e req k hpc (by rw [hpc]; exact hhosts)
    obtain rfl : cp = row :=
      Option.some.inj ((law.load_ok _ _ _ hload).symm.trans hview)
    exact hcase
  refine Follows.hostStep (follows_resume ?_ ?_ ?_)
  · rintro rfl
    rcases hrow (fun h => by cases h) (fun h => by cases h) with rfl | hterminal
    · exact .inl (hstate.1 rfl)
    · exact .inr hterminal
  · rintro attempt rfl
    rcases hrow (fun h => by cases h) (fun h => by cases h) with rfl | hterminal
    · exact .inl (hstate.2 attempt rfl)
    · exact .inr hterminal
  · intro hopen hfinish hloop
    rcases hrow hfinish hloop with rfl | hterminal
    · exact hosts_reload hreq hfinish hloop
    · rw [hopen] at hterminal
      cases hterminal

/-- **The own step of a thread**, one case for each place of the call. -/
theorem hostStep_advance (hsys : SystemInv law definitions s)
    (hi : HostInv law definitions s) :
    HostStep law (definitions e).retry (s.engines e).pc s.journal
      (advancePc ops definitionDigest (definitions e) s.journal (s.engines e) answers).1
      (advancePc ops definitionDigest (definitions e) s.journal (s.engines e)
        answers).2 := by
  have hphase := hi.phase e
  have hstart := (hsys.engines e).start
  unfold advancePc
  cases hpc : (s.engines e).pc with
  | idle | done result => exact (follows_free rfl).hostStep
  | create k =>
    dsimp only
    cases ops.create s.journal (s.engines e).runId (definitions e) with
    | error err => exact (follows_free rfl).hostStep
    | ok result =>
      obtain ⟨cp, j'⟩ := result
      dsimp only [afterCreate]
      split
      · next hnew =>
          exact Follows.hostStep (follows_bare hnew rfl fun _ _ h => by cases h)
      · rcases hstart k (.inl hpc) with rfl | rfl
        · exact (follows_free rfl).hostStep
        · exact follows_loopHead.hostStep
  | startStop cp k =>
    rw [hpc] at hphase
    refine (follows_afterStop (follows_request (.carry rfl rfl (.inl rfl)) ?_)).hostStep
    intro hactive
    have hactive : cp.state = .running ∨ cp.state = .gating := hactive
    rw [show cp.state = .new from hphase] at hactive
    rcases hactive with hactive | hactive <;> cases hactive
  | budgetStop cp =>
    rw [hpc] at hphase
    refine Follows.hostStep (follows_afterStop ?_)
    exact follows_bare hphase rfl fun _ _ h => by cases h
  | budgetClock cp =>
    rw [hpc] at hphase
    exact (follows_afterClock fun now => follows_budgetDecision hphase).hostStep
  | transition req k =>
    dsimp only
    cases htrans : ops.transition s.journal req with
    | error err => exact (follows_free rfl).hostStep
    | ok result =>
      obtain ⟨answer, j'⟩ := result
      exact hostStep_transition hsys hpc htrans
  | reload req k =>
    dsimp only
    cases hload : ops.load s.journal req.expected.runId with
    | error err => exact (follows_free rfl).hostStep
    | ok cp => exact hostStep_reload hsys hi hpc hload
  | execute cp =>
    rw [hpc] at hphase
    dsimp only
    cases answers.executor with
    | result attempt =>
      exact Follows.hostStep ⟨hphase, fun _ h => h, fun _ _ h => by cases h⟩
    | _ => exact (follows_terminal rfl).hostStep
  | attemptStop cp attempt | gateStop cp outcome =>
    rw [hpc] at hphase
    refine Follows.hostStep (follows_afterStop ?_)
    exact ⟨hphase, fun _ h => h, fun _ _ h => by cases h⟩
  | attemptClock cp attempt =>
    rw [hpc] at hphase
    exact (follows_afterClock fun now => follows_beforeDeadline
      (follows_attemptDecision hphase fun hactive => ⟨rfl, hactive⟩)).hostStep
  | gate cp attempt =>
    rw [hpc] at hphase
    dsimp only
    cases answers.gate with
    | outcome outcome =>
      exact Follows.hostStep ⟨hphase, fun _ h => h, fun _ _ h => by cases h⟩
    | _ => exact (follows_terminal rfl).hostStep
  | gateClock cp outcome =>
    rw [hpc] at hphase
    exact (follows_afterClock fun now => follows_beforeDeadline
      (follows_gateDecision hphase fun hactive => ⟨rfl, hactive⟩)).hostStep
  | recoverLoad =>
    dsimp only
    cases ops.load s.journal (s.engines e).runId with
    | error err => exact (follows_free rfl).hostStep
    | ok cp => exact follows_recoverDecision.hostStep

/-! ## Every step -/

theorem JournalMove.sequence_mono {definition : LoopDefinition} {runId r : String}
    {pc : Pc} {j j' : σ} {row : LoopCheckpoint}
    (h : JournalMove law definition runId pc j j') (hrow : law.view j r = some row) :
    ∃ row', law.view j' r = some row' ∧ row.sequence ≤ row'.sequence := by
  cases h with
  | same hview => exact ⟨row, by rw [hview]; exact hrow, le_rfl⟩
  | fresh hfree hview =>
    have hr : r ≠ runId := by
      rintro rfl
      rw [hfree] at hrow
      cases hrow
    exact ⟨row, by rw [hview, Function.update_of_ne hr]; exact hrow, le_rfl⟩
  | commit req k _ hcurrent _ _ hview =>
    by_cases hr : r = req.expected.runId
    · subst hr
      obtain rfl : req.expected = row := Option.some.inj (hcurrent.symm.trans hrow)
      exact ⟨req.next semanticDigest, by rw [hview, Function.update_self], Nat.le_succ _⟩
    · exact ⟨row, by rw [hview, Function.update_of_ne hr]; exact hrow, le_rfl⟩

/-- Another thread that is about to read its row again: whoever else moves the run ends
it. -/
theorem HostInv.read_other {e' : ι} (hi : HostInv law definitions s)
    (hne : e' ≠ e) (hmove : JournalMove law (definitions e) (s.engines e).runId
      (s.engines e).pc s.journal j')
    {req : TransitionRequest} {k : Then} (hpc : (s.engines e').pc = .reload req k)
    (hhosts : (s.engines e').pc.Hosts semanticDigest (req.next semanticDigest)) :
    ∃ row, law.view j' req.expected.runId = some row ∧
      (row = req.next semanticDigest ∨ row.state.isTerminal = true) := by
  obtain ⟨row, hrow, hcase⟩ := hi.read e' req k hpc hhosts
  cases hmove with
  | same hview => exact ⟨row, by rw [hview]; exact hrow, hcase⟩
  | fresh hfree hview =>
    have hr : req.expected.runId ≠ (s.engines e).runId := by
      intro hr
      rw [hr, hfree] at hrow
      cases hrow
    exact ⟨row, by rw [hview, Function.update_of_ne hr]; exact hrow, hcase⟩
  | commit req' k' hpc' hcurrent hallowed _ hview =>
    by_cases hr : req.expected.runId = req'.expected.runId
    · rw [hr] at hrow ⊢
      obtain rfl : req'.expected = row := Option.some.inj (hcurrent.symm.trans hrow)
      refine ⟨req'.next semanticDigest, by rw [hview, Function.update_self], .inr ?_⟩
      show req'.target.isTerminal = true
      rcases hcase with hcase | hterminal
      · -- the mover would host the attempt too, were it to keep the run going
        by_contra hopen
        have hhosts' : (s.engines e).pc.Hosts semanticDigest
            (req.next semanticDigest) := by
          rw [hpc']
          exact ⟨by rw [Pc.hosted, if_neg hopen, hcase], hhosts.2⟩
        exact hne (hi.sole e' e _ hhosts hhosts')
      · rw [not_terminal_of_transitionAllowed hallowed] at hterminal
        cases hterminal
    · exact ⟨row, by rw [hview, Function.update_of_ne hr]; exact hrow, hcase⟩

variable [DecidableEq ι]

theorem hostInv_advance (hsys : SystemInv law definitions s)
    (hi : HostInv law definitions s) :
    HostInv law definitions
      (s.step ops definitionDigest definitions semanticDigest (.advance e answers)) := by
  have hmove := advance_journalMove law (definitions e) s.journal (s.engines e) answers
  have hstep := @hostStep_advance _ _ _ _ _ law definitions s e answers hsys hi
  dsimp only [LoopSystem.step]
  generalize (advancePc ops definitionDigest (definitions e) s.journal (s.engines e)
    answers) = next at hmove hstep
  obtain ⟨pc', j'⟩ := next
  dsimp only at hmove hstep ⊢
  have hbehind : ∀ e' cp, (s.engines e').pc.Hosts semanticDigest cp →
      ∃ row, law.view j' cp.runId = some row ∧ cp.sequence ≤ row.sequence := by
    intro e' cp hcp
    obtain ⟨row, hrow, hle⟩ := hi.behind e' cp hcp
    obtain ⟨row', hrow', hle'⟩ := hmove.sequence_mono hrow
    exact ⟨row', hrow', hle.trans hle'⟩
  -- what has just been written is in no other hands
  have hsole : ∀ e' cp, pc'.Hosts semanticDigest cp →
      (s.engines e').pc.Hosts semanticDigest cp → e = e' := by
    intro e' cp hcp hcp'
    rcases hstep.hosts cp hcp with hold | ⟨req, hcurrent, rfl, -⟩
    · exact hi.sole e e' cp hold hcp'
    · obtain ⟨row, hrow, hle⟩ := hi.behind e' _ hcp'
      have hrow : law.view s.journal req.expected.runId = some row := hrow
      rw [hcurrent] at hrow
      obtain rfl := Option.some.inj hrow
      exact absurd hle (Nat.not_succ_le_self _)
  refine ⟨?_, ?_, ?_, ?_⟩
  · exact engines_update (P := fun e' en => en.pc.InPhase (definitions e').retry)
      (fun e' _ => hi.phase e') hstep.phase
  · refine engines_update (P := fun _ en => ∀ cp, en.pc.Hosts semanticDigest cp →
      ∃ row, law.view j' cp.runId = some row ∧ cp.sequence ≤ row.sequence)
      (fun e' _ => hbehind e') fun cp hcp => ?_
    rcases hstep.hosts cp hcp with hold | ⟨req, hcurrent, rfl, hrow⟩
    · exact hbehind e cp hold
    · exact ⟨_, hrow, le_rfl⟩
  · intro e₁ e₂ cp h₁ h₂
    dsimp only at h₁ h₂
    by_cases he₁ : e₁ = e
    · subst he₁
      rw [Function.update_self] at h₁
      by_cases he₂ : e₂ = e₁
      · exact he₂.symm
      · rw [Function.update_of_ne he₂] at h₂
        exact hsole e₂ cp h₁ h₂
    · rw [Function.update_of_ne he₁] at h₁
      by_cases he₂ : e₂ = e
      · subst he₂
        rw [Function.update_self] at h₂
        exact (hsole e₁ cp h₂ h₁).symm
      · rw [Function.update_of_ne he₂] at h₂
        exact hi.sole e₁ e₂ cp h₁ h₂
  · intro e' req k hpc hhosts
    dsimp only at hpc hhosts
    by_cases he' : e' = e
    · subst he'
      rw [Function.update_self] at hpc
      exact ⟨_, hstep.read req k hpc, .inl rfl⟩
    · rw [Function.update_of_ne he'] at hpc hhosts
      exact hi.read_other he' hmove hpc hhosts

theorem hostInv_update {en : Engine} (hi : HostInv law definitions s)
    (hen : Follows semanticDigest (definitions e).retry (fun _ => False) en.pc) :
    HostInv law definitions { s with engines := Function.update s.engines e en } := by
  have hnone : ∀ e' cp, (Function.update s.engines e en e').pc.Hosts semanticDigest cp →
      (s.engines e').pc.Hosts semanticDigest cp := by
    intro e' cp hcp
    by_cases he' : e' = e
    · subst he'
      rw [Function.update_self] at hcp
      exact absurd (hen.hosts cp hcp) id
    · rwa [Function.update_of_ne he'] at hcp
  refine ⟨?_, fun e' cp hcp => hi.behind e' cp (hnone e' cp hcp),
    fun e₁ e₂ cp h₁ h₂ => hi.sole e₁ e₂ cp (hnone e₁ cp h₁) (hnone e₂ cp h₂), ?_⟩
  · exact engines_update (P := fun e' en => en.pc.InPhase (definitions e').retry)
      (fun e' _ => hi.phase e') hen.phase
  · intro e' req k hpc hhosts
    dsimp only at hpc hhosts
    by_cases he' : e' = e
    · subst he'
      rw [Function.update_self] at hpc
      exact absurd hpc (hen.settled req k)
    · rw [Function.update_of_ne he'] at hpc hhosts
      exact hi.read e' req k hpc hhosts

theorem hostInv_enter {runId : String} {pc : Pc} (hi : HostInv law definitions s)
    (hpc : Follows semanticDigest (definitions e).retry (fun _ => False) pc) :
    HostInv law definitions (s.enter e runId pc) := by
  unfold LoopSystem.enter
  split
  · exact hostInv_update hi hpc
  · exact hi

omit [DecidableEq ι] in
theorem hostInv_journal (hi : HostInv law definitions s)
    (hview : law.view j' = law.view s.journal) :
    HostInv law definitions { s with journal := j' } := by
  refine ⟨hi.phase, ?_, hi.sole, ?_⟩
  · dsimp only
    rw [hview]
    exact hi.behind
  · dsimp only
    rw [hview]
    exact hi.read

theorem hostInv_step (hsys : SystemInv law definitions s)
    (hi : HostInv law definitions s) (action : LoopAction ι) :
    HostInv law definitions
      (s.step ops definitionDigest definitions semanticDigest action) := by
  have hcreate : ∀ (e : ι) (k : Then),
      Follows semanticDigest (definitions e).retry (fun _ => False) (.create k) :=
    fun e k => follows_bare trivial rfl fun _ _ h => by cases h
  cases action with
  | callRun e runId independent =>
    refine hostInv_enter hi ?_
    unfold runEntry
    split
    · exact follows_free rfl
    · split
      · exact follows_free rfl
      · split
        · exact follows_free rfl
        · exact hcreate e _
  | callStart e runId => exact hostInv_enter hi (hcreate e _)
  | callRecover e runId =>
    exact hostInv_enter hi (follows_bare trivial rfl fun _ _ h => by cases h)
  | advance e answers => exact hostInv_advance hsys hi
  | crash e => exact hostInv_update hi (follows_free rfl)
  | requestCancel runId =>
    dsimp only [LoopSystem.step]
    split
    · next j' hcancel => exact hostInv_journal hi (law.cancel_ok _ _ _ hcancel).1
    · exact hi
  | setKillSwitch enabled => exact hostInv_journal hi (law.kill_ok s.journal enabled).1

omit [DecidableEq ι] in
theorem hostInv_initial (h : Initial law s) : HostInv law definitions s := by
  have hnone : ∀ e cp, ¬ (s.engines e).pc.Hosts semanticDigest cp := by
    intro e cp hcp
    rw [h.engines e] at hcp
    cases hcp.1
  refine ⟨fun e => ?_, fun e cp hcp => absurd hcp (hnone e cp),
    fun e _ cp hcp => absurd hcp (hnone e cp), fun e req k _ hcp => absurd hcp (hnone e _)⟩
  rw [h.engines e]
  exact trivial

/-! ## The counters of a journal -/

variable (law definitions) in
/-- The counter of every stored checkpoint, under the policy of each engine that shares
its definition. -/
def Counted (j : σ) : Prop :=
  ∀ r cp e, law.view j r = some cp → cp.definitionDigest = definitionDigest (definitions e) →
    StagnationInv (definitions e).retry cp (law.history j r)

omit [DecidableEq ι] in
theorem counted_move (hsep : DigestSeparates definitionDigest definitions)
    (hsys : SystemInv law definitions s) (hi : HostInv law definitions s)
    (hcounted : Counted law definitions s.journal)
    (hmove : JournalMove law (definitions e) (s.engines e).runId (s.engines e).pc
      s.journal j') : Counted law definitions j' := by
  cases hmove with
  | same hview hhist =>
    intro r cp e' hcp
    rw [hview] at hcp
    rw [hhist]
    exact hcounted r cp e' hcp
  | fresh hfree hview hhist =>
    intro r cp e' hcp hdef
    rw [hview, Function.update_apply] at hcp
    rw [hhist, Function.update_apply]
    split at hcp
    · next hr =>
        cases hcp
        rw [if_pos hr]
        exact stagnationInv_initial _ _ _ _
    · next hr =>
        rw [if_neg hr]
        exact hcounted r cp e' hcp hdef
  | commit req k hpc hcurrent hallowed _ hview hhist =>
    intro r cp e' hcp hdef
    rw [hview, Function.update_apply] at hcp
    rw [hhist, Function.update_apply]
    split at hcp
    · next hr =>
        cases hcp
        rw [if_pos hr]
        have hgrips := (hsys.engines e).held req.expected (by rw [hpc]; rfl)
        have hphase := hi.phase e
        rw [hpc] at hphase
        rw [← hsep e e' (hgrips.digest.symm.trans hdef)]
        exact stagnationInv_next (hcounted _ _ e hcurrent hgrips.digest) hphase hallowed
    · next hr =>
        rw [if_neg hr]
        exact hcounted r cp e' hcp hdef

theorem counted_step (hsep : DigestSeparates definitionDigest definitions)
    (hsys : SystemInv law definitions s) (hi : HostInv law definitions s)
    (hcounted : Counted law definitions s.journal) (action : LoopAction ι) :
    Counted law definitions
      (s.step ops definitionDigest definitions semanticDigest action).journal := by
  have hsame : ∀ j', law.view j' = law.view s.journal →
      law.history j' = law.history s.journal → Counted law definitions j' := by
    intro j' hview hhist r cp e
    rw [hview, hhist]
    exact hcounted r cp e
  have henter : ∀ (e : ι) (runId : String) (pc : Pc), (s.enter e runId pc).journal =
      s.journal := by
    intro e runId pc
    unfold LoopSystem.enter
    split <;> rfl
  cases action with
  | callRun e runId independent | callStart e runId | callRecover e runId =>
    rw [LoopSystem.step, henter]
    exact hcounted
  | advance e answers =>
    exact counted_move hsep hsys hi hcounted
      (advance_journalMove law (definitions e) s.journal (s.engines e) answers)
  | crash e => exact hcounted
  | requestCancel runId =>
    dsimp only [LoopSystem.step]
    split
    · next j' hcancel =>
        obtain ⟨hview, hhist⟩ := law.cancel_ok _ _ _ hcancel
        exact hsame j' hview hhist
    · exact hcounted
  | setKillSwitch enabled =>
    obtain ⟨hview, hhist⟩ := law.kill_ok s.journal enabled
    exact hsame _ hview hhist

/-- **The invariants hold behind every run of the system.** -/
theorem counted_after (hsep : DigestSeparates definitionDigest definitions)
    (hsys : SystemInv law definitions s) (hi : HostInv law definitions s)
    (hcounted : Counted law definitions s.journal) (actions : List (LoopAction ι)) :
    Counted law definitions
      (s.after ops definitionDigest definitions semanticDigest actions).journal := by
  induction actions generalizing s with
  | nil => exact hcounted
  | cons action actions ih =>
    exact ih (systemInv_step hsep hsys action) (hostInv_step hsys hi action)
      (counted_step hsep hsys hi hcounted action)

variable (law definitions) in
/-- What the counters of the stored checkpoints measure. -/
structure StagnationMeasured (s : LoopSystem σ ι) : Prop where
  /-- one less than the maximal trailing run of equal digests -/
  counted : ∀ r cp d, law.view s.journal r = some cp → cp.lastProgressDigest = some d →
    ∃ (n : ℕ) (front : List String), cp.stagnantIterations = n ∧
      decisions (law.history s.journal r) = front ++ List.replicate (n + 1) d ∧
        front.getLast? ≠ some d
  owned : ∀ r cp, law.view s.journal r = some cp →
    ∃ e, cp.definitionDigest = definitionDigest (definitions e)
  limited : ∀ r cp e, law.view s.journal r = some cp →
    cp.definitionDigest = definitionDigest (definitions e) →
      ∀ n d, List.replicate n d <:+: decisions (law.history s.journal r) →
        n ≤ (definitions e).retry.maxStagnantIterations + 1

theorem stagnationMeasured_after (hsep : DigestSeparates definitionDigest definitions)
    (hinit : Initial law s) (actions : List (LoopAction ι)) :
    StagnationMeasured law definitions
      (s.after ops definitionDigest definitions semanticDigest actions) := by
  have hsys : SystemInv law definitions s := systemInv_initial hinit
  have hempty : Counted law definitions s.journal := by
    intro r cp e hcp
    rw [hinit.view] at hcp
    cases hcp
  have hafter := systemInv_after hsep hsys actions
  have hcounted := counted_after hsep hsys (hostInv_initial hinit) hempty actions
  refine ⟨fun r cp d hcp hd => ?_, hafter.journal.owned,
    fun r cp e hcp hdef => (hcounted r cp e hcp hdef).limited⟩
  obtain ⟨e, hdef⟩ := hafter.journal.owned r cp hcp
  obtain ⟨n, hn, front, hfront⟩ := (hcounted r cp e hcp hdef).counted d hd
  exact ⟨n, front, hn, hfront⟩

end System

/-- **The stagnation counter measures the trailing run of equal progress.**  For every
family of engines over either journal, every sequence of their steps with crashes,
recoveries, cancellations and kill switches in between, and every answer of clocks,
executors and gates: in every stored checkpoint with a progress digest the counter is one
less than the length of the maximal trailing run of equal digests among the gate decisions
of its chain, and no chain holds a longer run of equal digests than
`max_stagnant_iterations + 1`. -/
theorem stagnation_measures_trailing_run {ι : Type} [DecidableEq ι]
    (definitionDigest : LoopDefinition → String)
    (semanticDigest : LoopEvent → String) (definitions : ι → LoopDefinition)
    (hsep : DigestSeparates definitionDigest definitions)
    (actions : List (LoopAction ι)) :
    StagnationMeasured (inMemoryLawful definitionDigest semanticDigest) definitions
      (LoopSystem.after (inMemoryOps definitionDigest semanticDigest)
        definitionDigest definitions semanticDigest { journal := {} } actions) ∧
    StagnationMeasured (sqliteLawful definitionDigest semanticDigest) definitions
      (LoopSystem.after (sqliteOps definitionDigest semanticDigest)
        definitionDigest definitions semanticDigest
        { journal := SQLiteLoopJournal.empty } actions) :=
  ⟨stagnationMeasured_after hsep ⟨fun _ => rfl, fun _ => rfl, rfl, rfl⟩ actions,
    stagnationMeasured_after hsep ⟨fun _ => rfl, fun _ => rfl, rfl, rfl⟩ actions⟩

theorem sampleDigests_ok : matchesDigest (String.ofList (List.replicate 64 'a')) = true ∧
    matchesDigest (String.ofList (List.replicate 64 'b')) = true := by
  decide

def sampleAttempt : AttemptResult where
  outcome := .candidate
  reasonCode := "ECO_OK"
  candidateDigest := String.ofList (List.replicate 64 'a')
  evidenceDigest := String.ofList (List.replicate 64 'b')
  code_ok := by decide
  digests_ok := sampleDigests_ok

def sampleOutcome : GateOutcome where
  outcome := .fail
  reasonCode := "ECO_AGAIN"
  progressDigest := String.ofList (List.replicate 64 'd')
  evidenceDigest := String.ofList (List.replicate 64 'b')
  code_ok := by decide
  digests_ok := by decide

theorem again_safe : ∀ code ∈ ({"ECO_AGAIN"} : Finset String), matchesCode code = true := by
  intro code hcode
  rw [Finset.mem_singleton.mp hcode]
  decide

/-- The sample with a second attempt behind a failed gate. -/
def patientDefinition : LoopDefinition :=
  { sampleDefinition with
    retry :=
      { sampleDefinition.retry with
        allowedReasonCodes := {"ECO_AGAIN"}
        codes_safe := again_safe } }

/-- One round of the loop, from the stop reason to the recorded verdict of the gate. -/
def sampleRound : List (LoopAction Bool) :=
  [.advance true {}, .advance true { clock := .instant 0 }, .advance true {},
    .advance true { executor := .result sampleAttempt }, .advance true {},
    .advance true { clock := .instant 0 }, .advance true {},
    .advance true { gate := .outcome sampleOutcome }, .advance true {},
    .advance true { clock := .instant 0 }, .advance true {}]

/-- One engine up to the second verdict, which finds the progress of the first. -/
def gatedActions : List (LoopAction Bool) :=
  [.callRun true "run-1" true, .advance true {}, .advance true {}, .advance true {}] ++
    sampleRound ++ sampleRound

/-- The journal behind the verdicts. -/
def gatedJournal : InMemoryLoopJournal :=
  (LoopSystem.after (inMemoryOps sampleDigests sampleDigests) sampleDigests
    (fun _ : Bool => patientDefinition) sampleDigests { journal := {} } gatedActions).journal

theorem gatedJournal_state :
    decisions (gatedJournal.history "run-1") =
        [sampleOutcome.progressDigest, sampleOutcome.progressDigest] ∧
      (gatedJournal.checkpoints.lookup "run-1").map (·.stagnantIterations) = some 1 := by
  decide +kernel

theorem stagnation_measures_trailing_run_sample :
    decisions (gatedJournal.history "run-1") =
        [sampleOutcome.progressDigest, sampleOutcome.progressDigest] ∧
      (gatedJournal.checkpoints.lookup "run-1").map (·.stagnantIterations) = some 1 ∧
      StagnationMeasured (inMemoryLawful sampleDigests sampleDigests)
        (fun _ : Bool => patientDefinition)
        (LoopSystem.after (inMemoryOps sampleDigests sampleDigests) sampleDigests
          (fun _ => patientDefinition) sampleDigests { journal := {} } gatedActions) :=
  ⟨gatedJournal_state.1, gatedJournal_state.2, (stagnation_measures_trailing_run sampleDigests
    sampleDigests (fun _ : Bool => patientDefinition) (fun _ _ _ => rfl) gatedActions).1⟩

end Ecosystem.Loops
