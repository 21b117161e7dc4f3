import Ecosystem.Loops.Bounds

/-!
# Who may invoke the executor

A lost race against a terminal checkpoint is answered with that checkpoint, and the
SQLite journal reads the row again after its commit; `run` hands what it gets to the
executor either way.  Where no reservation meets a terminal checkpoint and nobody ends a
run between a reservation and its invocation (`CleanRun`), the executor is safe.
-/

namespace Ecosystem.Loops

open Ecosystem.Lib

section System

variable {σ ι : Type} {ops : JournalOps σ}
  {definitionDigest : LoopDefinition → String}
  {semanticDigest : LoopEvent → String}
  (law : LawfulJournal ops definitionDigest semanticDigest)
  (definitions : ι → LoopDefinition)

/-! ## The property and the condition -/

def invocationsOf (r : String) (invoked : List (ι × LoopCheckpoint)) :
    List (ι × LoopCheckpoint) :=
  invoked.filter fun x => x.2.runId = r

/-- The run for which the thread has a reservation that it has not yet passed to
its executor. -/
def Pc.attempting : Pc → Option String
  | .reload req .execute => some req.expected.runId
  | .execute cp => some cp.runId
  | _ => none

/-- Every invocation of an executor belongs to an attempt reserved by the same
engine through a committed transition to `running`, and to that one only; and
an engine about to invoke its executor does so on a run that is not over. -/
structure ExecutorSafe (s : LoopSystem σ ι) : Prop where
  running : ∀ x ∈ s.invoked, x.2.state = .running
  reserved : ∀ x ∈ s.invoked, x ∈ s.reserved ∧
    ∃ ev ∈ law.history s.journal x.2.runId, ev.target = .running ∧
      (ev.source = .ready ∨ ev.source = .retryWait) ∧ ev.usage = x.2.usage
  unended : ∀ e cp, (s.engines e).pc = .execute cp →
    ∀ cur, law.view s.journal cp.runId = some cur → cur.state.isTerminal = false
  distinct : ∀ r, ((invocationsOf r s.invoked).map
    fun x => x.2.usage.attempts).Nodup
  bounded : ∀ x ∈ s.invoked, (invocationsOf x.2.runId s.invoked).length ≤
    (definitions x.1).budget.maxAttempts

/-- The compare-and-set of a reservation does not meet a terminal checkpoint,
and a run is not ended while another engine stands between its reservation and
its executor. -/
def CleanStep (s : LoopSystem σ ι) : LoopAction ι → Prop
  | .advance e _ => ∀ req k, (s.engines e).pc = .transition req k →
      (k = .execute → ∀ cur, law.view s.journal req.expected.runId = some cur →
          cur.state.isTerminal = false) ∧
      (req.target.isTerminal = true →
        law.view s.journal req.expected.runId = some req.expected →
          ∀ e', e' ≠ e →
            (s.engines e').pc.attempting ≠ some req.expected.runId)
  | _ => True

def CleanRun [DecidableEq ι] (s : LoopSystem σ ι) : List (LoopAction ι) → Prop
  | [] => True
  | action :: actions => CleanStep law s action ∧
      CleanRun (s.step ops definitionDigest definitions semanticDigest action)
        actions

/-! ## Ownership of an attempt -/

def LoopState.isActive : LoopState → Bool
  | .running | .gating => true
  | _ => false

theorem LoopState.isActive_iff {st : LoopState} :
    st.isActive = true ↔ st = .running ∨ st = .gating := by
  cases st <;> simp [LoopState.isActive]

theorem LoopState.not_active_of_terminal {st : LoopState}
    (h : st.isTerminal = true) : st.isActive = false := by
  cases st <;> first | rfl | cases h

def Owns (reserved : List (ι × LoopCheckpoint)) (e : ι) (cp : LoopCheckpoint) :
    Prop :=
  ∃ x ∈ reserved, x.1 = e ∧ x.2.runId = cp.runId ∧
    x.2.usage.attempts = cp.usage.attempts

/-- What the journal still shows of a reservation. -/
structure ReservedInv (j : σ) (x : ι × LoopCheckpoint) : Prop where
  running : x.2.state = .running
  digest : x.2.definitionDigest = definitionDigest (definitions x.1)
  attempts_pos : 1 ≤ x.2.usage.attempts
  stored : ∃ cur, law.view j x.2.runId = some cur ∧
    x.2.usage.attempts ≤ cur.usage.attempts ∧
      cur.definitionDigest = x.2.definitionDigest
  logged : ∃ ev ∈ law.history j x.2.runId, ev.target = .running ∧
    (ev.source = .ready ∨ ev.source = .retryWait) ∧ ev.usage = x.2.usage

/-- What a thread at `pc` owns.  A thread that may move an attempt on has
reserved it; a thread about to execute has not yet done so for this attempt, and
its run is not over; and behind the commit of an attempt the row shows it still,
or a terminal state. -/
structure PcOwnership (j : σ) (reserved invoked : List (ι × LoopCheckpoint))
    (e : ι) (pc : Pc) : Prop where
  held : ∀ cp, pc.held = some cp → cp.state.isActive = true →
    (∀ req k, pc = .transition req k → req.target.isTerminal = false) →
      Owns reserved e cp
  execute : ∀ cp, pc = .execute cp → (e, cp) ∈ reserved ∧ (e, cp) ∉ invoked
  reload : ∀ req k, pc = .reload req k → req.target.isActive = true →
    Owns reserved e (req.next semanticDigest) ∧
    ∃ cur, law.view j req.expected.runId = some cur ∧
      (cur = req.next semanticDigest ∨ cur.state.isTerminal = true)
  reloadExecute : ∀ req, pc = .reload req .execute →
    (e, req.next semanticDigest) ∈ reserved ∧
      (e, req.next semanticDigest) ∉ invoked
  unended : ∀ r, pc.attempting = some r →
    ∀ cur, law.view j r = some cur → cur.state.isTerminal = false

structure OwnershipInv (s : LoopSystem σ ι) : Prop where
  reserved : ∀ x ∈ s.reserved, ReservedInv law definitions s.journal x
  ordered : s.reserved.Pairwise fun a b => a.2.runId = b.2.runId →
    a.2.usage.attempts < b.2.usage.attempts
  invoked : ∀ x ∈ s.invoked, x ∈ s.reserved
  invoked_nodup : s.invoked.Nodup
  engines : ∀ e, PcOwnership law s.journal s.reserved s.invoked e (s.engines e).pc

variable {law definitions} {s : LoopSystem σ ι}

theorem reserved_unique {reserved : List (ι × LoopCheckpoint)}
    (hordered : reserved.Pairwise fun a b => a.2.runId = b.2.runId →
      a.2.usage.attempts < b.2.usage.attempts)
    {x y : ι × LoopCheckpoint} (hx : x ∈ reserved) (hy : y ∈ reserved)
    (hrun : x.2.runId = y.2.runId)
    (hattempts : x.2.usage.attempts = y.2.usage.attempts) : x = y := by
  have hsame : reserved.Pairwise fun a b => a.2.runId = b.2.runId →
      a.2.usage.attempts = b.2.usage.attempts → a = b :=
    hordered.imp fun h hr heq => absurd heq (h hr).ne
  have hflip : reserved.Pairwise (flip fun a b => a.2.runId = b.2.runId →
      a.2.usage.attempts = b.2.usage.attempts → a = b) :=
    hordered.imp fun h hr heq => absurd heq.symm (h hr.symm).ne
  exact hsame.forall_of_forall_of_flip (fun _ _ _ _ => rfl) hflip hx hy hrun
    hattempts

variable {cp : LoopCheckpoint} {pc : Pc} {req : TransitionRequest} {budget : LoopBudget}
  {answers : Surroundings}

theorem OwnershipInv.owner_unique (hi : OwnershipInv law definitions s)
    {e e' : ι} (h : Owns s.reserved e cp) (h' : Owns s.reserved e' cp) : e = e' := by
  obtain ⟨x, hx, rfl, hrun, hattempts⟩ := h
  obtain ⟨y, hy, rfl, hrun', hattempts'⟩ := h'
  rw [reserved_unique hi.ordered hx hy (hrun.trans hrun'.symm)
    (hattempts.trans hattempts'.symm)]

theorem Owns.mono {reserved more : List (ι × LoopCheckpoint)} {e : ι}
    (h : Owns reserved e cp) :
    Owns (reserved ++ more) e cp := by
  obtain ⟨x, hx, hrest⟩ := h
  exact ⟨x, List.mem_append_left _ hx, hrest⟩

theorem ReservedInv.mono {j j' : σ} {x : ι × LoopCheckpoint}
    {definition : LoopDefinition} {runId : String} (h : ReservedInv law definitions j x)
    (hmove : JournalMove law definition runId pc j j') :
    ReservedInv law definitions j' x := by
  obtain ⟨cur, hcur, hle, hdef⟩ := h.stored
  obtain ⟨cur', hcur', hle', hdef', hhist⟩ := hmove.view_mono hcur
  obtain ⟨ev, hev, hrest⟩ := h.logged
  exact ⟨h.running, h.digest, h.attempts_pos,
    ⟨cur', hcur', hle.trans hle'.attempts, hdef'.trans hdef⟩,
    ⟨ev, hhist ev hev, hrest⟩⟩

theorem attempting_cases {r : String} (h : pc.attempting = some r) :
    (∃ req, pc = .reload req .execute ∧ req.expected.runId = r) ∨
      ∃ cp, pc = .execute cp ∧ cp.runId = r := by
  cases pc with
  | reload req k =>
    cases k with
    | execute => exact .inl ⟨req, rfl, Option.some.inj h⟩
    | _ => cases h
  | execute cp => exact .inr ⟨cp, rfl, Option.some.inj h⟩
  | _ => cases h

/-! ## What a thread owns after its own step -/

section Thread

variable {j : σ} {reserved invoked : List (ι × LoopCheckpoint)} {e : ι}

theorem pcOwnership_empty {pc : Pc} (hheld : pc.held = none)
    (hreload : ∀ req k, pc ≠ .reload req k) :
    PcOwnership law j reserved invoked e pc where
  held := fun cp hcp => by rw [hheld] at hcp; cases hcp
  execute := fun cp hpc => by rw [hpc] at hheld; cases hheld
  reload := fun req k hpc => absurd hpc (hreload req k)
  reloadExecute := fun req hpc => absurd hpc (hreload req _)
  unended := fun r hr => by
    rcases attempting_cases hr with ⟨req, rfl, -⟩ | ⟨cp, rfl, -⟩
    · exact absurd rfl (hreload req _)
    · cases hheld

variable {cp : LoopCheckpoint} {k : Then}

theorem pcOwnership_holding {pc : Pc}
    (hheld : pc.held = some cp) (hexecute : ∀ cp, pc ≠ .execute cp)
    (howns : cp.state.isActive = true →
      (∀ req k, pc = .transition req k → req.target.isTerminal = false) →
        Owns reserved e cp) :
    PcOwnership law j reserved invoked e pc where
  held := fun cp' hcp => by
    obtain rfl : cp = cp' := Option.some.inj (hheld.symm.trans hcp)
    exact howns
  execute := fun cp hpc => absurd hpc (hexecute cp)
  reload := fun req k hpc => by rw [hpc] at hheld; cases hheld
  reloadExecute := fun req hpc => by rw [hpc] at hheld; cases hheld
  unended := fun r hr => by
    rcases attempting_cases hr with ⟨req, rfl, -⟩ | ⟨cp, rfl, -⟩
    · cases hheld
    · exact absurd rfl (hexecute cp)

theorem pcOwnership_terminal {req : TransitionRequest}
    (hterminal : req.target.isTerminal = true) :
    PcOwnership law j reserved invoked e (.transition req k) :=
  pcOwnership_holding rfl (fun _ h => by cases h) fun _ hreq => by
    rw [hreq req k rfl] at hterminal
    cases hterminal

theorem pcOwnership_resume
    (hexecute : k = .execute → (e, cp) ∈ reserved ∧ (e, cp) ∉ invoked ∧
      ∀ cur, law.view j cp.runId = some cur → cur.state.isTerminal = false)
    (howns : cp.state.isActive = true → k ≠ .loop → Owns reserved e cp) :
    PcOwnership law j reserved invoked e (resume k cp) := by
  cases k with
  | finish => exact pcOwnership_empty rfl fun _ _ h => by cases h
  | gate attempt =>
    exact pcOwnership_holding rfl (fun _ h => by cases h)
      fun hactive _ => howns hactive (fun h => by cases h)
  | execute =>
    refine ⟨fun cp' hcp hactive _ => ?_, fun cp' hpc => ?_,
      fun _ _ hpc => (by cases hpc), fun _ hpc => (by cases hpc), ?_⟩
    · obtain rfl : cp = cp' := Option.some.inj hcp
      exact howns hactive (fun h => by cases h)
    · cases hpc
      exact ⟨(hexecute rfl).1, (hexecute rfl).2.1⟩
    · intro r hr
      obtain rfl : cp.runId = r := Option.some.inj hr
      exact (hexecute rfl).2.2
  | loop =>
    rw [resume, loopHead]
    split
    · exact pcOwnership_empty rfl fun _ _ h => by cases h
    split
    · next hwait =>
        refine pcOwnership_holding rfl (fun _ h => by cases h) ?_
        intro hactive
        rcases hwait with hwait | hwait <;> rw [hwait] at hactive <;>
          cases hactive
    · exact pcOwnership_empty rfl fun _ _ h => by cases h

theorem pcOwnership_afterStop {goOn : Pc} {answer : Except LoopError (Option String)}
    (hgoOn : PcOwnership law j reserved invoked e goOn) :
    PcOwnership law j reserved invoked e (afterStop cp k answer goOn) := by
  unfold afterStop
  split
  · exact pcOwnership_empty rfl fun _ _ h => by cases h
  · exact pcOwnership_terminal rfl
  · exact hgoOn

theorem pcOwnership_afterClock {answer : ClockAnswer} {goOn : ℤ → Pc}
    (hgoOn : ∀ now, PcOwnership law j reserved invoked e (goOn now)) :
    PcOwnership law j reserved invoked e (afterClock answer goOn) := by
  unfold afterClock
  split
  · exact hgoOn _
  · exact pcOwnership_empty rfl fun _ _ h => by cases h
  · exact pcOwnership_empty rfl fun _ _ h => by cases h

theorem pcOwnership_beforeDeadline {budget : LoopBudget}
    {goOn : Pc} {now : ℤ} (hgoOn : PcOwnership law j reserved invoked e goOn) :
    PcOwnership law j reserved invoked e (beforeDeadline budget cp goOn now) := by
  unfold beforeDeadline
  split
  · exact pcOwnership_terminal rfl
  · exact hgoOn

theorem pcOwnership_request {req : TransitionRequest}
    (howns : req.expected.state.isActive = true → Owns reserved e req.expected) :
    PcOwnership law j reserved invoked e (.transition req k) :=
  pcOwnership_holding rfl (fun _ h => by cases h) fun hactive _ => howns hactive

theorem pcOwnership_budgetDecision {budget : LoopBudget}
    {now : ℤ} (howns : cp.state.isActive = true → Owns reserved e cp) :
    PcOwnership law j reserved invoked e (budgetDecision budget cp now) := by
  unfold budgetDecision
  repeat' split
  all_goals exact pcOwnership_request howns

theorem pcOwnership_attemptDecision {retry : RetryPolicy} {attempt : AttemptResult}
    (howns : cp.state.isActive = true → Owns reserved e cp) :
    PcOwnership law j reserved invoked e (attemptDecision retry cp attempt) := by
  unfold attemptDecision
  repeat' split
  all_goals exact pcOwnership_request howns

theorem pcOwnership_gateDecision {retry : RetryPolicy} {outcome : GateOutcome}
    (howns : cp.state.isActive = true → Owns reserved e cp) :
    PcOwnership law j reserved invoked e (gateDecision retry cp outcome) := by
  unfold gateDecision
  repeat' split
  all_goals exact pcOwnership_request howns

end Thread

/-! ## The other threads -/

/-- A step of one thread takes nothing from the others.  Between the commit of
an attempt and the read of its row, only its owner could move it on; whoever
else moves it ends the run. -/
theorem pcOwnership_other {j' : σ} {e e' : ι} {definition : LoopDefinition}
    {added addedInvoked : List (ι × LoopCheckpoint)}
    (hi : OwnershipInv law definitions s) (hne : e' ≠ e)
    (hadded : ∀ x ∈ addedInvoked, x.1 = e)
    (hmove : JournalMove law definition (s.engines e).runId (s.engines e).pc s.journal j')
    (hclean : ∀ req k, (s.engines e).pc = .transition req k → req.target.isTerminal = true →
        law.view s.journal req.expected.runId = some req.expected →
          pc.attempting ≠ some req.expected.runId)
    (h : PcOwnership law s.journal s.reserved s.invoked e' pc) :
    PcOwnership law j' (s.reserved ++ added) (s.invoked ++ addedInvoked) e' pc := by
  have hfresh : ∀ cp, (e', cp) ∉ s.invoked →
      (e', cp) ∉ s.invoked ++ addedInvoked := by
    intro cp hcp hmem
    rcases List.mem_append.mp hmem with hmem | hmem
    · exact hcp hmem
    · exact hne (hadded _ hmem)
  refine ⟨fun cp hcp hactive hreq => (h.held cp hcp hactive hreq).mono, ?_, ?_, ?_, ?_⟩
  · intro cp hpc
    obtain ⟨hres, hinv⟩ := h.execute cp hpc
    exact ⟨List.mem_append_left _ hres, hfresh cp hinv⟩
  · intro req k hpc hactive
    obtain ⟨howns, cur, hcur, hcase⟩ := h.reload req k hpc hactive
    refine ⟨howns.mono, ?_⟩
    cases hmove with
    | same hview => exact ⟨cur, by rw [hview]; exact hcur, hcase⟩
    | fresh hfree hview =>
      have hr : req.expected.runId ≠ (s.engines e).runId := by
        intro hr
        rw [hr, hfree] at hcur
        cases hcur
      exact ⟨cur, by rw [hview, Function.update_of_ne hr]; exact hcur, hcase⟩
    | commit req' k' hpc' hcurrent hallowed _ hview =>
      by_cases hr : req.expected.runId = req'.expected.runId
      · rw [hr] at hcur ⊢
        obtain rfl : req'.expected = cur :=
          Option.some.inj (hcurrent.symm.trans hcur)
        refine ⟨req'.next semanticDigest, by rw [hview, Function.update_self], .inr ?_⟩
        rcases hcase with hcase | hterminal
        · -- the mover would own the attempt too, were it to keep the run going
          cases hopen : req'.target.isTerminal with
          | true => exact hopen
          | false =>
            have howns' := (hi.engines e).held req'.expected
              (by rw [hpc']; rfl) (by rw [hcase]; exact hactive)
              (fun _ _ heq => by
                rw [hpc'] at heq
                cases heq
                exact hopen)
            rw [hcase] at howns'
            exact absurd (hi.owner_unique howns howns') hne
        · rw [not_terminal_of_transitionAllowed hallowed] at hterminal
          cases hterminal
      · exact ⟨cur, by rw [hview, Function.update_of_ne hr]; exact hcur, hcase⟩
  · intro req hpc
    obtain ⟨hres, hinv⟩ := h.reloadExecute req hpc
    exact ⟨List.mem_append_left _ hres, hfresh _ hinv⟩
  · intro r hr cur hcur
    cases hmove with
    | same hview => exact h.unended r hr cur (by rw [← hview]; exact hcur)
    | fresh _ hview =>
      rw [hview, Function.update_apply] at hcur
      split at hcur
      · cases hcur; rfl
      · exact h.unended r hr cur hcur
    | commit req' k' hpc' hcurrent _ _ hview =>
      rw [hview, Function.update_apply] at hcur
      split at hcur
      · next heq =>
          cases hcur
          cases hopen : req'.target.isTerminal with
          | false => exact hopen
          | true =>
            rw [heq] at hr
            exact absurd hr (hclean req' k' hpc' hopen hcurrent)
      · exact h.unended r hr cur hcur

/-! ## The thread that moves -/

variable {e : ι}

theorem OwnershipInv.owns_held (hi : OwnershipInv law definitions s)
    {cp : LoopCheckpoint} (hheld : (s.engines e).pc.held = some cp)
    (hplain : ∀ req k, (s.engines e).pc ≠ .transition req k)
    (hactive : cp.state.isActive = true) : Owns s.reserved e cp :=
  (hi.engines e).held cp hheld hactive fun req k hpc => absurd hpc (hplain req k)

theorem target_running_of_execute (hreq : RequestInv budget req .execute) :
    req.target = .running := by
  cases hreq with
  | reserve htarget => exact htarget
  | plain _ _ _ hk => rcases hk with hk | hk <;> cases hk

theorem reservation_of_committed {answer : TransitionAnswer} {j j' : σ}
    (hreq : RequestInv budget req .execute)
    (htrans : ops.transition j req = .ok (answer, j'))
    (hanswer : answer = .settled (req.next semanticDigest) ∨ answer = .reload) :
    reservation ops semanticDigest j (.transition req .execute) =
      some (req.next semanticDigest) := by
  have htarget := target_running_of_execute hreq
  have hopen : (req.next semanticDigest).state.isTerminal = false := by
    change req.target.isTerminal = false
    rw [htarget]
    rfl
  rcases hanswer with rfl | rfl
  · simp [reservation, htrans, hopen]
  · simp [reservation, htrans]

theorem owns_next_of_committed {k : Then} {added : List (ι × LoopCheckpoint)}
    (hi : OwnershipInv law definitions s) (hpc : (s.engines e).pc = .transition req k)
    (hreq : RequestInv budget req k)
    (hallowed : transitionAllowed req.expected.state req.target = true)
    (hadded : k = .execute → (e, req.next semanticDigest) ∈ added)
    (hactive : req.target.isActive = true) :
    Owns (s.reserved ++ added) e (req.next semanticDigest) := by
  have hexpected : req.target = .gating → req.candidateUsage.attempts =
      req.expected.usage.attempts →
        Owns (s.reserved ++ added) e (req.next semanticDigest) := by
    intro htarget hattempts
    have hrunning := expected_running_of_gating hallowed htarget
    have howns := (hi.engines e).held req.expected (by rw [hpc]; rfl)
      (by rw [hrunning]; rfl)
      (fun _ _ heq => by
        rw [hpc] at heq
        cases heq
        rw [htarget]
        rfl)
    obtain ⟨x, hx, hxe, hrun, hx'⟩ := howns
    exact ⟨x, List.mem_append_left _ hx, hxe, hrun, hx'.trans hattempts.symm⟩
  cases hreq with
  | reserve => exact ⟨_, List.mem_append_right _ (hadded rfl), rfl, rfl, rfl⟩
  | gating attempt htarget husage =>
    exact hexpected htarget (by
      simp [TransitionRequest.candidateUsage, husage])
  | plain _ hrunning husage _ =>
    have htarget := (LoopState.isActive_iff.mp hactive).resolve_left hrunning
    exact hexpected htarget (by
      simp [TransitionRequest.candidateUsage, husage])

theorem pcOwnership_transition_step {k : Then} {answer : TransitionAnswer} {j' : σ}
    (hsys : SystemInv law definitions s) (hi : OwnershipInv law definitions s)
    (hpc : (s.engines e).pc = .transition req k) (hclean : k = .execute → ∀ cur,
      law.view s.journal req.expected.runId = some cur → cur.state.isTerminal = false)
    (htrans : ops.transition s.journal req = .ok (answer, j')) :
    PcOwnership law j' (s.reserved ++ (reservation ops semanticDigest s.journal
        (.transition req k)).toList.map (e, ·)) s.invoked e
      (afterTransition req k answer) := by
  have hreq := (hsys.engines e).request req k hpc
  cases law.transition_ok _ _ _ _ htrans with
  | lost cp hview _ hterminal =>
    have hk : k ≠ .execute := by
      rintro rfl
      rw [hclean rfl cp hview] at hterminal
      cases hterminal
    refine pcOwnership_resume (fun h => absurd h hk) ?_
    intro hactive _
    rw [LoopState.not_active_of_terminal hterminal] at hactive
    cases hactive
  | committed _ _ hcurrent hallowed husage hanswer hview _ =>
    have hadded : k = .execute → (e, req.next semanticDigest) ∈
        (reservation ops semanticDigest s.journal
          (.transition req k)).toList.map (e, ·) := by
      rintro rfl
      rw [reservation_of_committed hreq htrans hanswer]
      simp
    have howns := owns_next_of_committed
      hi hpc hreq hallowed hadded
    have hrunning : k = .execute → ∀ cur, law.view j' req.expected.runId = some cur →
          cur.state.isTerminal = false := by
      rintro rfl cur hcur
      rw [hview, Function.update_self] at hcur
      obtain rfl := Option.some.inj hcur
      change req.target.isTerminal = false
      rw [target_running_of_execute hreq]
      rfl
    have hnew : k = .execute →
        (e, req.next semanticDigest) ∉ s.invoked := by
      rintro rfl hinvoked
      -- an invoked attempt is not above the stored one
      obtain ⟨cur, hcur, hle, -⟩ :=
        (hi.reserved _ (hi.invoked _ hinvoked)).stored
      obtain rfl : req.expected = cur :=
        Option.some.inj (hcurrent.symm.trans hcur)
      have := (candidate_attempts_of_execute hreq).2
      have hle' : req.candidateUsage.attempts ≤ req.expected.usage.attempts := hle
      omega
    rcases hanswer with rfl | rfl
    · refine pcOwnership_resume (fun hk =>
        ⟨List.mem_append_right _ (hadded hk), hnew hk, hrunning hk⟩) ?_
      exact fun hactive _ => howns hactive
    · refine ⟨fun cp hcp => (by cases hcp), fun cp hpc' => (by cases hpc'), ?_, ?_, ?_⟩
      · intro req' k' hpc' hactive
        cases hpc'
        exact ⟨howns hactive, _, by rw [hview, Function.update_self], .inl rfl⟩
      · intro req' hpc'
        cases hpc'
        exact ⟨List.mem_append_right _ (hadded rfl), hnew rfl⟩
      · intro r hr
        obtain ⟨req', hpc', rfl⟩ | ⟨cp, hpc', -⟩ := attempting_cases hr
        · cases hpc'
          exact hrunning rfl
        · cases hpc'

theorem pcOwnership_reload_step {k : Then}
    (hsys : SystemInv law definitions s) (hi : OwnershipInv law definitions s)
    (hpc : (s.engines e).pc = .reload req k)
    (hload : ops.load s.journal req.expected.runId = .ok cp) :
    PcOwnership law s.journal s.reserved s.invoked e (resume k cp) := by
  have hreq := ((hsys.engines e).reload req k hpc).1
  have hview := law.load_ok _ _ _ hload
  have hcase : req.target.isActive = true →
      Owns s.reserved e (req.next semanticDigest) ∧
        (cp = req.next semanticDigest ∨ cp.state.isTerminal = true) := by
    intro hactive
    obtain ⟨howns, cur, hcur, hcase⟩ :=
      (hi.engines e).reload req k hpc hactive
    obtain rfl : cp = cur := Option.some.inj (hview.symm.trans hcur)
    exact ⟨howns, hcase⟩
  cases hreq with
  | reserve htarget =>
    obtain ⟨howns, hcase⟩ := hcase (by rw [htarget]; rfl)
    have hopen := (hi.engines e).unended req.expected.runId
      (by rw [hpc]; rfl)
    rcases hcase with rfl | hterminal
    · obtain ⟨hres, hinv⟩ := (hi.engines e).reloadExecute req hpc
      exact pcOwnership_resume (fun _ => ⟨hres, hinv, hopen⟩)
        fun _ _ => howns
    · rw [hopen cp hview] at hterminal
      cases hterminal
  | gating attempt htarget =>
    obtain ⟨howns, hcase⟩ := hcase (by rw [htarget]; rfl)
    refine pcOwnership_resume (fun h => by cases h) fun hactive _ => ?_
    rcases hcase with rfl | hterminal
    · exact howns
    · rw [LoopState.not_active_of_terminal hterminal] at hactive
      cases hactive
  | plain _ _ _ hk =>
    rcases hk with rfl | rfl
    · exact pcOwnership_empty rfl fun _ _ h => by cases h
    · exact pcOwnership_resume (fun h => by cases h) fun _ h => absurd rfl h

/-- **Every clean step of a thread keeps what the thread owns.** -/
theorem pcOwnership_step (hsys : SystemInv law definitions s)
    (hi : OwnershipInv law definitions s) (hclean : CleanStep law s (.advance e answers)) :
    PcOwnership law (advancePc ops definitionDigest (definitions e) s.journal (s.engines e)
        answers).2 (s.reserved ++ (reservation ops semanticDigest s.journal
        (s.engines e).pc).toList.map (e, ·))
      (s.invoked ++ (invocation (s.engines e).pc).toList.map (e, ·)) e
      (advancePc ops definitionDigest (definitions e) s.journal (s.engines e)
        answers).1 := by
  have hempty : ∀ {pc : Pc} {j reserved invoked}, pc.isFree = true →
      PcOwnership law j reserved invoked e pc := by
    intro pc j reserved invoked hfree
    cases pc with
    | idle | done result => exact pcOwnership_empty rfl fun _ _ h => by cases h
    | _ => cases hfree
  have howned := fun cp => @OwnershipInv.owns_held _ _ _ _ _ _ _ _ e hi cp
  unfold advancePc
  cases hpc : (s.engines e).pc with
  | idle | done result => exact hempty rfl
  | create k =>
    dsimp only [reservation, invocation, Option.toList_none, List.map_nil]
    cases hcreate : ops.create s.journal (s.engines e).runId (definitions e) with
    | error err => exact hempty rfl
    | ok result =>
      rcases result with ⟨cp, j'⟩
      dsimp only
      unfold afterCreate
      split
      · next hnew =>
          refine pcOwnership_holding rfl (fun _ h => by cases h) ?_
          intro hactive
          rw [hnew] at hactive
          cases hactive
      · rcases (hsys.engines e).start k (.inl hpc) with rfl | rfl
        · exact hempty rfl
        · exact pcOwnership_resume (fun h => by cases h)
            fun _ h => absurd rfl h
  | startStop cp k =>
    have howns := howned cp (by rw [hpc]; rfl) (by rw [hpc]; simp)
    dsimp only [reservation, invocation, Option.toList_none, List.map_nil]
    exact pcOwnership_afterStop
      (pcOwnership_request fun hactive => (howns hactive).mono)
  | budgetStop cp | attemptStop cp attempt | gateStop cp outcome =>
    have howns := howned cp (by rw [hpc]; rfl) (by rw [hpc]; simp)
    dsimp only [reservation, invocation, Option.toList_none, List.map_nil]
    exact pcOwnership_afterStop (pcOwnership_holding rfl
      (fun _ h => by cases h) fun hactive _ => (howns hactive).mono)
  | budgetClock cp =>
    have howns := howned cp (by rw [hpc]; rfl) (by rw [hpc]; simp)
    dsimp only [reservation, invocation, Option.toList_none, List.map_nil]
    exact pcOwnership_afterClock fun now =>
      pcOwnership_budgetDecision fun hactive => (howns hactive).mono
  | transition req k =>
    simp only [invocation, Option.toList_none, List.map_nil, List.append_nil]
    cases htrans : ops.transition s.journal req with
    | error err => exact hempty rfl
    | ok result =>
      rcases result with ⟨answer, j'⟩
      exact pcOwnership_transition_step hsys hi hpc (hclean req k hpc).1
        htrans
  | reload req k =>
    simp only [reservation, invocation, Option.toList_none, List.map_nil, List.append_nil]
    cases hload : ops.load s.journal req.expected.runId with
    | error err => exact hempty rfl
    | ok cp => exact pcOwnership_reload_step hsys hi hpc hload
  | execute cp =>
    have howns : Owns s.reserved e cp :=
      ⟨_, ((hi.engines e).execute cp hpc).1, rfl, rfl, rfl⟩
    dsimp only
    cases answers.executor with
    | result attempt =>
      exact pcOwnership_holding rfl (fun _ h => by cases h)
        fun _ _ => howns.mono
    | _ => exact pcOwnership_request fun _ => howns.mono
  | attemptClock cp attempt =>
    have howns := howned cp (by rw [hpc]; rfl) (by rw [hpc]; simp)
    dsimp only [reservation, invocation, Option.toList_none, List.map_nil]
    exact pcOwnership_afterClock fun now => pcOwnership_beforeDeadline
      (pcOwnership_attemptDecision fun hactive => (howns hactive).mono)
  | gate cp attempt =>
    have howns := howned cp (by rw [hpc]; rfl) (by rw [hpc]; simp)
    dsimp only [reservation, invocation, Option.toList_none, List.map_nil]
    cases answers.gate with
    | outcome outcome =>
      exact pcOwnership_holding rfl (fun _ h => by cases h)
        fun hactive _ => (howns hactive).mono
    | _ => exact pcOwnership_request fun hactive => (howns hactive).mono
  | gateClock cp outcome =>
    have howns := howned cp (by rw [hpc]; rfl) (by rw [hpc]; simp)
    dsimp only [reservation, invocation, Option.toList_none, List.map_nil]
    exact pcOwnership_afterClock fun now => pcOwnership_beforeDeadline
      (pcOwnership_gateDecision fun hactive => (howns hactive).mono)
  | recoverLoad =>
    dsimp only [reservation, invocation, Option.toList_none, List.map_nil]
    cases hload : ops.load s.journal (s.engines e).runId with
    | error err => exact hempty rfl
    | ok cp =>
      dsimp only
      unfold recoverDecision
      split
      · exact hempty rfl
      · split
        · exact pcOwnership_empty rfl fun _ _ h => by cases h
        · split
          · exact hempty rfl
          · exact pcOwnership_terminal rfl

/-! ## Every step of a clean run -/

theorem reservation_committed
    (h : reservation ops semanticDigest s.journal (s.engines e).pc = some cp) :
    ∃ req, (s.engines e).pc = .transition req .execute ∧ cp = req.next semanticDigest ∧
      law.view s.journal req.expected.runId = some req.expected ∧
      transitionAllowed req.expected.state req.target = true ∧
      law.view (advancePc ops definitionDigest (definitions e) s.journal
        (s.engines e) answers).2 req.expected.runId = some cp ∧
      req.event ∈ law.history (advancePc ops definitionDigest (definitions e)
        s.journal (s.engines e) answers).2 req.expected.runId := by
  unfold reservation at h
  split at h
  · next req hpc =>
      refine ⟨req, hpc, ?_⟩
      have hnext : ∀ answer j', ops.transition s.journal req = .ok (answer, j') →
          (advancePc ops definitionDigest (definitions e) s.journal
            (s.engines e) answers).2 = j' := by
        intro answer j' htrans
        simp only [advancePc, hpc, htrans]
      have hcommit : ∀ j', cp = req.next semanticDigest →
          law.view s.journal req.expected.runId = some req.expected →
          law.view j' = Function.update (law.view s.journal)
            req.expected.runId (some (req.next semanticDigest)) →
          law.history j' = Function.update (law.history s.journal)
            req.expected.runId
              (law.history s.journal req.expected.runId ++ [req.event]) →
          law.view j' req.expected.runId = some cp ∧
            req.event ∈ law.history j' req.expected.runId := by
        intro j' hcp _ hview hhist
        rw [hview, hhist, Function.update_self, Function.update_self, hcp]
        exact ⟨rfl, List.mem_append_right _ (List.mem_singleton_self _)⟩
      split at h
      · next cp' j' htrans =>
          rw [hnext _ _ htrans]
          cases law.transition_ok _ _ _ _ htrans with
          | lost _ _ _ hterminal => rw [if_pos hterminal] at h; cases h
          | committed _ _ hcurrent hallowed _ hanswer hview hhist =>
            obtain rfl : cp' = req.next semanticDigest := by
              rcases hanswer with hanswer | hanswer
              · exact TransitionAnswer.settled.inj hanswer
              · cases hanswer
            have hcp : cp = req.next semanticDigest := by
              split at h
              · cases h
              exact (Option.some.inj h).symm
            exact ⟨hcp, hcurrent, hallowed, hcommit j' hcp hcurrent hview hhist⟩
      · next j' htrans =>
          rw [hnext _ _ htrans]
          have hcp := (Option.some.inj h).symm
          cases law.transition_ok _ _ _ _ htrans with
          | committed _ _ hcurrent hallowed _ _ hview hhist =>
            exact ⟨hcp, hcurrent, hallowed, hcommit j' hcp hcurrent hview hhist⟩
      · cases h
  · cases h

theorem waiting_of_running_allowed {source : LoopState}
    (h : transitionAllowed source .running = true) :
    source = .ready ∨ source = .retryWait := by
  cases source <;> simp_all [transitionAllowed, transitions]

/-- What the step reserves is stored, logged, and above all that was reserved
before. -/
theorem reservedInv_new {cp : LoopCheckpoint} {answers : Surroundings}
    (hsys : SystemInv law definitions s) (hi : OwnershipInv law definitions s)
    (h : reservation ops semanticDigest s.journal (s.engines e).pc = some cp) :
    ReservedInv law definitions
      (advancePc ops definitionDigest (definitions e) s.journal (s.engines e)
        answers).2 (e, cp) ∧ ∀ x ∈ s.reserved, x.2.runId = cp.runId →
      x.2.usage.attempts < cp.usage.attempts := by
  obtain ⟨req, hpc, rfl, hcurrent, hallowed, hview, hlogged⟩ :=
    reservation_committed h
  have hreq := (hsys.engines e).request req .execute hpc
  have hgrips := (hsys.engines e).held req.expected (by rw [hpc]; rfl)
  have htarget := target_running_of_execute hreq
  have hcand := (candidate_attempts_of_execute hreq).2
  refine ⟨⟨htarget, hgrips.digest, ?_, ⟨_, hview, Nat.le_refl _, rfl⟩,
    ⟨req.event, hlogged, htarget, ?_, rfl⟩⟩, ?_⟩
  · change 1 ≤ req.candidateUsage.attempts
    omega
  · rw [htarget] at hallowed
    exact waiting_of_running_allowed hallowed
  · intro x hx hrun
    obtain ⟨cur, hcur, hle, -⟩ := (hi.reserved x hx).stored
    have hcur' : law.view s.journal req.expected.runId = some cur := by
      rw [← hcur, hrun]
      rfl
    obtain rfl : req.expected = cur :=
      Option.some.inj (hcurrent.symm.trans hcur')
    change x.2.usage.attempts < req.candidateUsage.attempts
    omega

variable [DecidableEq ι]

theorem ownershipInv_advance (hsys : SystemInv law definitions s)
    (hi : OwnershipInv law definitions s) (hclean : CleanStep law s (.advance e answers)) :
    OwnershipInv law definitions (s.step ops definitionDigest definitions semanticDigest
        (.advance e answers)) := by
  have hmove := advance_journalMove law (definitions e) s.journal (s.engines e)
    answers
  have hnew : ∀ x ∈ (reservation ops semanticDigest s.journal
      (s.engines e).pc).toList.map (e, ·), ∃ cp, x = (e, cp) ∧
        reservation ops semanticDigest s.journal (s.engines e).pc = some cp := by
    intro x hx
    obtain ⟨cp, hcp, rfl⟩ := List.mem_map.mp hx
    exact ⟨cp, rfl, by simpa using hcp⟩
  have hcall : ∀ x ∈ (invocation (s.engines e).pc).toList.map (e, ·),
      ∃ cp, x = (e, cp) ∧ (s.engines e).pc = .execute cp := by
    intro x hx
    obtain ⟨cp, hcp, rfl⟩ := List.mem_map.mp hx
    refine ⟨cp, rfl, ?_⟩
    unfold invocation at hcp
    split at hcp
    · next cp' hpc =>
        obtain rfl : cp = cp' := by simpa using hcp
        exact hpc
    · simp at hcp
  refine ⟨?_, ?_, ?_, ?_, ?_⟩
  · intro x hx
    rcases List.mem_append.mp hx with hx | hx
    · exact (hi.reserved x hx).mono hmove
    · obtain ⟨cp, rfl, hres⟩ := hnew x hx
      exact (reservedInv_new hsys hi hres).1
  · refine List.pairwise_append.mpr ⟨hi.ordered, ?_, ?_⟩
    · cases reservation ops semanticDigest s.journal (s.engines e).pc <;> simp
    · intro x hx y hy
      obtain ⟨cp, rfl, hres⟩ := hnew y hy
      exact (@reservedInv_new _ _ _ _ _ _ _ _ _ _ answers hsys hi hres).2 x hx
  · intro x hx
    rcases List.mem_append.mp hx with hx | hx
    · exact List.mem_append_left _ (hi.invoked x hx)
    · obtain ⟨cp, rfl, hpc⟩ := hcall x hx
      exact List.mem_append_left _ ((hi.engines e).execute cp hpc).1
  · refine List.nodup_append.mpr ⟨hi.invoked_nodup, ?_, ?_⟩
    · cases invocation (s.engines e).pc <;> simp
    · rintro x hx y hy rfl
      obtain ⟨cp, rfl, hpc⟩ := hcall x hy
      exact ((hi.engines e).execute cp hpc).2 hx
  · refine engines_update (P := fun e' en => PcOwnership law _ _ _ e' en.pc)
      (fun e' hne => ?_) (pcOwnership_step hsys hi hclean)
    refine pcOwnership_other hi hne ?_ hmove ?_ (hi.engines e')
    · intro x hx
      obtain ⟨cp, rfl, -⟩ := hcall x hx
      rfl
    · intro req k hpc hterminal hcurrent
      exact (hclean req k hpc).2 hterminal hcurrent e' hne

theorem ownershipInv_enter {runId : String} (hi : OwnershipInv law definitions s)
    (hpc : PcOwnership law s.journal s.reserved s.invoked e pc) :
    OwnershipInv law definitions (s.enter e runId pc) := by
  unfold LoopSystem.enter
  split
  · exact ⟨hi.reserved, hi.ordered, hi.invoked, hi.invoked_nodup,
      engines_update (P := fun e' en => PcOwnership law _ _ _ e' en.pc)
        (fun e' _ => hi.engines e') hpc⟩
  · exact hi

omit [DecidableEq ι] in
theorem ownershipInv_journal {j' : σ} (hi : OwnershipInv law definitions s)
    (hview : law.view j' = law.view s.journal)
    (hhist : law.history j' = law.history s.journal) :
    OwnershipInv law definitions { s with journal := j' } := by
  refine ⟨fun x hx => ?_, hi.ordered, hi.invoked, hi.invoked_nodup, fun e => ?_⟩
  · exact (hi.reserved x hx).mono (@JournalMove.same _ _ _ _ _ (definitions x.1) "" .idle
    _ _ hview hhist)
  · have he := hi.engines e
    exact ⟨he.held, he.execute, by rw [hview]; exact he.reload,
      he.reloadExecute, by rw [hview]; exact he.unended⟩

theorem ownershipInv_step (hsys : SystemInv law definitions s)
    (hi : OwnershipInv law definitions s) {action : LoopAction ι}
    (hclean : CleanStep law s action) :
    OwnershipInv law definitions
      (s.step ops definitionDigest definitions semanticDigest action) := by
  cases action with
  | callRun e runId independent =>
    refine ownershipInv_enter hi ?_
    unfold runEntry
    repeat' split
    all_goals exact pcOwnership_empty rfl fun _ _ h => by cases h
  | callStart e runId | callRecover e runId =>
    exact ownershipInv_enter hi
      (pcOwnership_empty rfl fun _ _ h => by cases h)
  | advance e answers => exact ownershipInv_advance hsys hi hclean
  | crash e =>
    exact ⟨hi.reserved, hi.ordered, hi.invoked, hi.invoked_nodup,
      engines_update (P := fun e' en => PcOwnership law _ _ _ e' en.pc)
        (fun e' _ => hi.engines e')
        (pcOwnership_empty rfl fun _ _ h => by cases h)⟩
  | requestCancel runId =>
    dsimp only [LoopSystem.step]
    split
    · next j' hcancel =>
        obtain ⟨hview, hhist⟩ := law.cancel_ok _ _ _ hcancel
        exact ownershipInv_journal hi hview hhist
    · exact hi
  | setKillSwitch enabled =>
    obtain ⟨hview, hhist⟩ := law.kill_ok s.journal enabled
    exact ownershipInv_journal hi hview hhist

omit [DecidableEq ι] in
theorem ownershipInv_initial (h : Initial law s) :
    OwnershipInv law definitions s where
  reserved := by simp [h.reserved]
  ordered := by simp [h.reserved]
  invoked := by simp [h.invoked]
  invoked_nodup := by simp [h.invoked]
  engines := fun e => by
    rw [h.engines e]
    exact pcOwnership_empty rfl fun _ _ h => by cases h

theorem ownershipInv_after (hsep : DigestSeparates definitionDigest definitions)
    {actions : List (LoopAction ι)} (hsys : SystemInv law definitions s)
    (hi : OwnershipInv law definitions s) (hclean : CleanRun law definitions s actions) :
    OwnershipInv law definitions
      (s.after ops definitionDigest definitions semanticDigest actions) := by
  induction actions generalizing s with
  | nil => exact hi
  | cons action actions ih =>
    exact ih (systemInv_step hsep hsys action)
      (ownershipInv_step hsys hi hclean.1) hclean.2

/-! ## Safety of the executors -/

omit [DecidableEq ι] in
theorem invoked_attempts_mem (hsys : SystemInv law definitions s)
    (hi : OwnershipInv law definitions s) {x y : ι × LoopCheckpoint}
    (hx : x ∈ s.invoked) (hy : y ∈ s.invoked) (hrun : y.2.runId = x.2.runId) :
    y.2.usage.attempts ∈ List.range' 1 (definitions x.1).budget.maxAttempts := by
  have hresx := hi.reserved x (hi.invoked x hx)
  have hresy := hi.reserved y (hi.invoked y hy)
  obtain ⟨cur, hcur, -, hdef⟩ := hresx.stored
  obtain ⟨cur', hcur', hle, -⟩ := hresy.stored
  rw [hrun] at hcur'
  obtain rfl : cur = cur' := Option.some.inj (hcur.symm.trans hcur')
  have hwithin := (hsys.journal.budgets _ cur x.1 hcur
    (hdef.trans hresx.digest)).within.attempts
  have hpos := hresy.attempts_pos
  rw [List.mem_range'_1]
  omega

omit [DecidableEq ι] in
theorem executorSafe_of_inv (hsys : SystemInv law definitions s)
    (hi : OwnershipInv law definitions s) :
    ExecutorSafe law definitions s := by
  have hdistinct : ∀ r, ((invocationsOf r s.invoked).map
      fun x => x.2.usage.attempts).Nodup := by
    intro r
    refine List.Nodup.map_on ?_ (hi.invoked_nodup.filter _)
    intro x hx y hy hattempts
    obtain ⟨hx, hxr⟩ := List.mem_filter.mp hx
    obtain ⟨hy, hyr⟩ := List.mem_filter.mp hy
    exact reserved_unique hi.ordered (hi.invoked x hx) (hi.invoked y hy)
      ((of_decide_eq_true hxr).trans (of_decide_eq_true hyr).symm) hattempts
  refine ⟨fun x hx => (hi.reserved x (hi.invoked x hx)).running,
    fun x hx => ⟨hi.invoked x hx, (hi.reserved x (hi.invoked x hx)).logged⟩,
    ?_, hdistinct, ?_⟩
  · intro e cp hpc
    exact (hi.engines e).unended cp.runId (by rw [hpc]; rfl)
  · intro x hx
    have hsub : (invocationsOf x.2.runId s.invoked).map
        (fun x => x.2.usage.attempts) ⊆
          List.range' 1 (definitions x.1).budget.maxAttempts := by
      intro n hn
      obtain ⟨y, hy, rfl⟩ := List.mem_map.mp hn
      obtain ⟨hy, hyr⟩ := List.mem_filter.mp hy
      exact invoked_attempts_mem hsys hi hx hy (of_decide_eq_true hyr)
    have hle := ((hdistinct x.2.runId).subperm hsub).length_le
    simpa using hle

/-! ## The condition can be computed -/

instance decidableOpen (o : Option LoopCheckpoint) :
    Decidable (∀ cur, o = some cur → cur.state.isTerminal = false) :=
  match o with
  | none => isTrue fun _ h => by cases h
  | some cp => decidable_of_iff (cp.state.isTerminal = false) (by simp)

instance decidableCleanStep [Fintype ι] (s : LoopSystem σ ι) :
    (action : LoopAction ι) → Decidable (CleanStep law s action)
  | .advance e _ =>
    match hpc : (s.engines e).pc with
    | .transition req k =>
      decidable_of_iff
        ((k = .execute → ∀ cur, law.view s.journal req.expected.runId = some cur →
              cur.state.isTerminal = false) ∧
          (req.target.isTerminal = true →
            law.view s.journal req.expected.runId = some req.expected →
              ∀ e', e' ≠ e →
                (s.engines e').pc.attempting ≠ some req.expected.runId))
        (by simp [CleanStep, hpc])
    | .idle | .done _ | .create _ | .startStop _ _ | .budgetStop _
    | .budgetClock _ | .reload _ _ | .execute _ | .attemptStop _ _
    | .attemptClock _ _ | .gate _ _ | .gateStop _ _ | .gateClock _ _
    | .recoverLoad => isTrue (by simp [CleanStep, hpc])
  | .callRun _ _ _ | .callStart _ _ | .callRecover _ _ | .crash _
  | .requestCancel _ | .setKillSwitch _ => isTrue trivial

instance decidableCleanRun [Fintype ι] :
    (s : LoopSystem σ ι) → (actions : List (LoopAction ι)) →
      Decidable (CleanRun law definitions s actions)
  | _, [] => isTrue trivial
  | s, action :: actions =>
    @instDecidableAnd _ _ (decidableCleanStep s action)
      (decidableCleanRun _ actions)

end System

/-- **Executor safety.**  For every number of engines of one definition over
either journal, and every sequence of their steps with calls of `run`, `start`
and `recover`, crashes, cancellations and kill switches in between: if no
reservation meets a terminal checkpoint and no run is ended between a
reservation and its invocation, then the executor is safe. -/
theorem executor_safe_of_clean {ι : Type} [DecidableEq ι]
    (definitionDigest : LoopDefinition → String)
    (semanticDigest : LoopEvent → String) (definition : LoopDefinition)
    (actions : List (LoopAction ι)) :
    (CleanRun (inMemoryLawful definitionDigest semanticDigest)
        (fun _ => definition) { journal := {} } actions →
      ExecutorSafe (inMemoryLawful definitionDigest semanticDigest)
        (fun _ => definition)
        (LoopSystem.after (inMemoryOps definitionDigest semanticDigest)
          definitionDigest (fun _ => definition) semanticDigest
          { journal := {} } actions)) ∧
    (CleanRun (sqliteLawful definitionDigest semanticDigest)
        (fun _ => definition) { journal := SQLiteLoopJournal.empty } actions →
      ExecutorSafe (sqliteLawful definitionDigest semanticDigest)
        (fun _ => definition)
        (LoopSystem.after (sqliteOps definitionDigest semanticDigest)
          definitionDigest (fun _ => definition) semanticDigest
          { journal := SQLiteLoopJournal.empty } actions)) := by
  have hsep : DigestSeparates definitionDigest fun _ : ι => definition :=
    fun _ _ _ => rfl
  constructor
  · intro hclean
    have hinit : Initial (inMemoryLawful definitionDigest semanticDigest)
        ({ journal := {} } : LoopSystem InMemoryLoopJournal ι) :=
      ⟨fun _ => rfl, fun _ => rfl, rfl, rfl⟩
    exact executorSafe_of_inv (systemInv_after hsep (systemInv_initial hinit) _)
      (ownershipInv_after hsep (systemInv_initial hinit)
        (ownershipInv_initial hinit) hclean)
  · intro hclean
    have hinit : Initial (sqliteLawful definitionDigest semanticDigest)
        ({ journal := SQLiteLoopJournal.empty } :
          LoopSystem SQLiteLoopJournal ι) :=
      ⟨fun _ => rfl, fun _ => rfl, rfl, rfl⟩
    exact executorSafe_of_inv (systemInv_after hsep (systemInv_initial hinit) _)
      (ownershipInv_after hsep (systemInv_initial hinit)
        (ownershipInv_initial hinit) hclean)

/-- One engine up to its first executor call, while another one starts. -/
def cleanActions : List (LoopAction Bool) :=
  [.callRun true "run-1" true, .callStart false "run-1", .advance true {},
    .advance true {}, .advance true {}, .advance true {},
    .advance true { clock := .instant 0 }, .advance true {}, .advance false {},
    .advance true {}]

theorem executor_safe_of_clean_first_attempt :
    CleanRun (inMemoryLawful sampleDigests sampleDigests)
      (fun _ : Bool => sampleDefinition) { journal := {} } cleanActions ∧
    ExecutorSafe (inMemoryLawful sampleDigests sampleDigests)
      (fun _ : Bool => sampleDefinition)
      (LoopSystem.after (inMemoryOps sampleDigests sampleDigests) sampleDigests
        (fun _ => sampleDefinition) sampleDigests { journal := {} }
        cleanActions) :=
  ⟨by decide +kernel, (executor_safe_of_clean sampleDigests sampleDigests sampleDefinition
      cleanActions).1 (by decide +kernel)⟩

/-- The first engine has decided to reserve an attempt when a cancellation is
requested; the second one finds the request and cancels the run; the first one
loses the compare-and-set and takes the cancelled checkpoint for its own. -/
def lostRace : List (LoopAction Bool) :=
  [.callRun true "run-1" true, .advance true {}, .advance true {},
    .advance true {}, .advance true {},
    .advance true { clock := .instant 0 }, .requestCancel "run-1",
    .callRun false "run-1" true, .advance false {}, .advance false {},
    .advance false {}, .advance true {}, .advance true {}]

theorem terminal_run_invokes_executor :
    ¬ ∀ actions, ExecutorSafe (inMemoryLawful sampleDigests sampleDigests)
      (fun _ : Bool => sampleDefinition)
      (LoopSystem.after (inMemoryOps sampleDigests sampleDigests) sampleDigests
        (fun _ => sampleDefinition) sampleDigests { journal := {} }
        actions) := by
  intro h
  have hstate : ∃ x ∈ (LoopSystem.after
      (inMemoryOps sampleDigests sampleDigests) sampleDigests
      (fun _ : Bool => sampleDefinition) sampleDigests { journal := {} }
      lostRace).invoked, x.2.state = .cancelled := by
    decide
  obtain ⟨x, hx, hcancelled⟩ := hstate
  rw [(h lostRace).running x hx] at hcancelled
  cases hcancelled

end Ecosystem.Loops
