import Ecosystem.Runtime.Transitions

/-!
# Open operations and the end of a run

A terminal event is meant to find every operation closed.  The guard of `run.failed` and
`run.cancelled` looks for the phases `requested` and `allowed`; a no-model read has the
further phase `started`.
-/

namespace Ecosystem.Runtime

open Ecosystem.Lib

/-! ## Phases along a run -/

/-- No operation is recorded before the run is started, and outside the
no-model lifecycle no operation is ever `started`. -/
structure PhaseInv (p : RunProjection) : Prop where
  early : p.state.isEarly = true → p.toolStates = ∅ ∧ p.noModelStarted = false
  adapter : p.noModelStarted = false →
    ∀ k d, p.toolStates.lookup k ≠ some (.started, d)

theorem phaseInv_initial : PhaseInv RunProjection.initial := by
  refine ⟨fun _ => ⟨rfl, rfl⟩, ?_⟩
  intro _ k d h
  simp [RunProjection.initial] at h

theorem nextToolPhase_ne_started {t : EventType} {current : Phase} :
    nextToolPhase t current ≠ some .started := by
  unfold nextToolPhase
  split <;> simp

variable {p : RunProjection}

theorem RunProjection.lookup_setTool {key k : String} {phase : Phase} {digest : String} :
    (p.setTool key phase digest).toolStates.lookup k =
      if k = key then some (phase, digest) else p.toolStates.lookup k :=
  Dict.lookup_insert_ite

/-- Writing a phase other than `started` keeps the adapter half. -/
theorem no_started_setTool {key digest : String} {phase : Phase} (hphase : phase ≠ .started)
    (h : ∀ k d, p.toolStates.lookup k ≠ some (.started, d)) :
    ∀ k d, (p.setTool key phase digest).toolStates.lookup k ≠ some (.started, d) := by
  intro k d hk
  rw [RunProjection.lookup_setTool] at hk
  split at hk
  · simp only [Option.some.injEq, Prod.mk.injEq] at hk
    exact hphase hk.1
  · exact h k d hk

theorem phaseInv_step {p q : RunProjection} {e : EventSpec}
    (hi : PhaseInv p) (h : Accepted p e q) : PhaseInv q := by
  have empty : p.state.isEarly = true →
      p.toolStates = ∅ ∧ p.noModelStarted = false := hi.early
  cases h with
  | received h | validated h | planCreated h | policyAllowed h | noModelAllowed _ h =>
    exact ⟨fun _ => empty (by rw [h]; rfl), hi.adapter⟩
  | workflowStarted => exact ⟨fun hs => (by cases hs), fun hn => (by cases hn)⟩
  | readRequested _ _ h hn | readAdvanced _ _ _ _ h hn | readCompleted _ _ _ h hn =>
    exact ⟨fun hs => by simp [RunProjection.setTool, h, RunState.isEarly] at hs,
      fun hf => by simp [RunProjection.setTool, hn] at hf⟩
  | toolRequested _ _ h hn =>
    exact ⟨fun hs => by simp [RunProjection.setTool, h, RunState.isEarly] at hs,
      fun _ => no_started_setTool (by decide) (hi.adapter hn)⟩
  | toolAdvanced _ _ _ phase h hn _ _ hnext =>
    have hphase : phase ≠ .started := fun hc =>
      nextToolPhase_ne_started (hc ▸ hnext)
    exact ⟨fun hs => by simp [RunProjection.setTool, h, RunState.isEarly] at hs,
      fun _ => no_started_setTool hphase (hi.adapter hn)⟩
  | adapterCompleted h | adapterFailed h | budgetExhausted h =>
    exact ⟨fun hs => by simp [h, RunState.isEarly] at hs, hi.adapter⟩
  | artifactRecorded => exact hi
  | _ => exact ⟨fun hs => (by cases hs), hi.adapter⟩

theorem phaseInv_of_reduce {es : List EventSpec}
    (h : reduceRunEvents .initial es = .ok p) : PhaseInv p :=
  foldlM_history_induction (fun _ p => PhaseInv p) phaseInv_initial
    (fun _ _ _ _ _ hi hx => phaseInv_step hi (accepted_of_reduce hx)) es p h

/-! ## Operations only go forward -/

def Phase.rank : Phase → ℕ
  | .requested => 0
  | .allowed => 1
  | .started => 2
  | _ => 3

/-- Every operation keeps its digest, and its phase or goes on to a later one.  None goes
on from a closed phase. -/
def Forward (p q : RunProjection) : Prop :=
  ∀ k phase digest, p.toolStates.lookup k = some (phase, digest) →
    ∃ phase', q.toolStates.lookup k = some (phase', digest) ∧
      (phase' = phase ∨ phase.rank < phase'.rank)

variable {q : RunProjection} {e : EventSpec}

theorem forward_setTool {key digest : String} {phase : Phase}
    (h : ∀ current d, p.toolStates.lookup key = some (current, d) →
      d = digest ∧ current.rank < phase.rank) : Forward p (p.setTool key phase digest) := by
  intro k current d hk
  rw [RunProjection.lookup_setTool]
  split
  · next heq =>
      subst heq
      obtain ⟨rfl, hrank⟩ := h current d hk
      exact ⟨phase, rfl, .inr hrank⟩
  · exact ⟨current, hk, .inl rfl⟩

theorem forward_advance {key digest : String} {current phase : Phase}
    (hcur : p.toolStates.lookup key = some (current, digest))
    (hrank : current.rank < phase.rank) : Forward p (p.setTool key phase digest) := by
  apply forward_setTool
  intro c d hc
  rw [hcur] at hc
  cases hc
  exact ⟨rfl, hrank⟩

theorem forward_step (h : Accepted p e q) : Forward p q := by
  cases h with
  | readRequested _ _ _ _ _ _ hfree | toolRequested _ _ _ _ _ _ hfree =>
    exact forward_setTool fun c d hc => by simp [hfree] at hc
  | readCompleted slot digest _ _ _ _ hcur => exact forward_advance hcur (by decide)
  | readAdvanced slot digest current phase _ _ _ hcur hnext =>
    apply forward_advance hcur
    unfold nextReadPhase at hnext
    split at hnext <;> cases hnext <;> decide
  | toolAdvanced subject digest current phase _ _ _ hcur hnext =>
    apply forward_advance hcur
    unfold nextToolPhase at hnext
    split at hnext <;> cases hnext <;> decide
  | _ => exact fun k phase digest hk => ⟨phase, hk, .inl rfl⟩

theorem Accepted.open (h : Accepted p e q) : p.state.isTerminal = false := by
  cases h with
  | earlyFailed h | earlyCancelled h =>
    cases hs : p.state <;> first | rfl | (rw [hs] at h; cases h)
  | _ => simp [*, RunState.isTerminal]

theorem Forward.trans {r : RunProjection} (h : Forward p q) (h' : Forward q r) :
    Forward p r := by
  intro k phase digest hk
  obtain ⟨phase', hk', hle⟩ := h k phase digest hk
  obtain ⟨phase'', hk'', hle'⟩ := h' k phase' digest hk'
  refine ⟨phase'', hk'', ?_⟩
  rcases hle with rfl | hlt
  · exact hle'
  · rcases hle' with rfl | hlt'
    · exact .inr hlt
    · exact .inr (hlt.trans hlt')

/-- **Operations only go forward, and nothing follows an end.**  From any projection, a
sequence of events is refused, or none of them reopens an operation, ends it twice or
binds it to another digest, and a run in a terminal state takes no event. -/
theorem operations_go_forward (es : List EventSpec) (p : RunProjection) :
    (∃ err, reduceRunEvents p es = .error err) ∨ ∃ q, reduceRunEvents p es = .ok q ∧
      Forward p q ∧ (p.state.isTerminal = true → es = []) := by
  induction es generalizing p with
  | nil => exact .inr ⟨p, rfl, fun k phase digest hk => ⟨phase, hk, .inl rfl⟩, fun _ => rfl⟩
  | cons e es ih =>
    rw [reduceRunEvents, List.foldlM_cons]
    cases hstep : reduceRunEvent p e with
    | error err => exact .inl ⟨err, rfl⟩
    | ok p' =>
      have haccepted := accepted_of_reduce hstep
      refine (ih p').imp_right fun ⟨q, hq, hforward, _⟩ =>
        ⟨q, hq, (forward_step haccepted).trans hforward, fun hterminal => ?_⟩
      rw [haccepted.open] at hterminal
      cases hterminal

/-! ## What the end of a run leaves open -/

/-- Every recorded operation is completed, failed, denied or cancelled. -/
def AllClosed (p : RunProjection) : Prop :=
  ∀ k phase digest, p.toolStates.lookup k = some (phase, digest) →
    phase.isClosed = true

/-- The sequence ends with `run.failed` or `run.cancelled` while a read of the
projection before that event is `started`. -/
def InterruptsStartedRead (es : List EventSpec) : Prop :=
  ∃ before e q, es = before ++ [e] ∧ reduceRunEvents .initial before = .ok q ∧
    (e.type = .runFailed ∨ e.type = .runCancelled) ∧
    ∃ slot digest, q.toolStates.lookup slot = some (.started, digest)

theorem hasOpenTool_eq_false :
    p.hasOpenTool = false ↔ ∀ k phase digest, p.toolStates.lookup k = some (phase, digest) →
        phase ≠ .requested ∧ phase ≠ .allowed := by
  rw [RunProjection.hasOpenTool, Dict.anyValue_eq_false]
  constructor
  · intro h k phase digest hk
    have := h k (phase, digest) hk
    simpa using this
  · rintro h k ⟨phase, digest⟩ hk
    simpa using h k phase digest hk

theorem allClosed_of_tools_empty (h : p.toolStates = ∅) : AllClosed p := by
  intro k phase digest hk
  simp [h] at hk

/-- Behind the guard of a terminal event, closed means not `started`. -/
theorem allClosed_iff_no_started (h : p.hasOpenTool = false) :
    AllClosed p ↔ ∀ k d, p.toolStates.lookup k ≠ some (.started, d) := by
  constructor
  · intro hc k d hk
    cases hc k .started d hk
  · intro hs k phase digest hk
    have hopen := hasOpenTool_eq_false.mp h k phase digest hk
    cases phase with
    | requested => exact absurd rfl hopen.1
    | allowed => exact absurd rfl hopen.2
    | started => exact absurd hk (hs k digest)
    | _ => rfl

theorem allClosed_of_noModelSuccess (h : noModelSuccess p = true) : AllClosed p := by
  intro k phase digest hk
  simp only [noModelSuccess, Bool.and_eq_true, Bool.not_eq_true'] at h
  have := Dict.anyValue_eq_false.mp h.1.1.1.2 k (phase, digest) hk
  obtain rfl : phase = .completed := by simpa using this
  rfl

theorem terminal_step_closed_iff {q p : RunProjection} {e : EventSpec}
    (hi : PhaseInv q) (h : Accepted q e p) (ht : p.state.isTerminal = true) :
    AllClosed p ↔ ¬ ((e.type = .runFailed ∨ e.type = .runCancelled) ∧
      ∃ slot digest, q.toolStates.lookup slot = some (.started, digest)) := by
  have quiet : q.toolStates = ∅ → ¬ ∃ slot digest,
      q.toolStates.lookup slot = some (.started, digest) := by
    rintro he ⟨slot, digest, hk⟩
    simp [he] at hk
  cases h with
  | policyDenied h htype =>
    have he := (hi.early (by rw [h]; rfl)).1
    exact iff_of_true (allClosed_of_tools_empty he) (fun hc => quiet he hc.2)
  | workflowSucceeded _ _ htype hsuccess =>
    refine iff_of_true (allClosed_of_noModelSuccess hsuccess) ?_
    rintro ⟨hc | hc, -⟩
    · rw [htype] at hc; cases hc
    · rw [htype] at hc; cases hc
  | runSucceeded _ hn _ _ hclosed | runExhausted _ hn _ _ hclosed =>
    have hs := hi.adapter hn
    exact iff_of_true ((allClosed_iff_no_started hclosed).mpr hs)
      (fun ⟨_, slot, digest, hk⟩ => hs slot digest hk)
  | runFailed _ htype hclosed | runCancelled _ htype hclosed =>
    refine (allClosed_iff_no_started hclosed).trans ?_
    simp [htype]
  | earlyFailed h | earlyCancelled h =>
    have he := (hi.early h).1
    exact iff_of_true (allClosed_of_tools_empty he) (fun hc => quiet he hc.2)
  | readRequested _ _ h | toolRequested _ _ h =>
    simp [RunProjection.setTool, h, RunState.isTerminal] at ht
  | readAdvanced _ _ _ _ h | readCompleted _ _ _ h | toolAdvanced _ _ _ _ h =>
    simp [RunProjection.setTool, h, RunState.isTerminal] at ht
  | adapterCompleted h | adapterFailed h | artifactRecorded h | budgetExhausted h =>
    simp [h, RunState.isTerminal] at ht
  | _ => cases ht

/-- **Which ends of a run close every operation.**  An accepted sequence that
reaches a terminal state leaves every recorded operation closed if and only if
it does not end with `run.failed` or `run.cancelled` over a started read. -/
theorem terminal_closed_iff (es : List EventSpec) (p : RunProjection)
    (h : reduceRunEvents .initial es = .ok p) (ht : p.state.isTerminal = true) :
    AllClosed p ↔ ¬ InterruptsStartedRead es := by
  rcases List.eq_nil_or_concat es with rfl | ⟨before, e, rfl⟩
  · obtain rfl : RunProjection.initial = p := by
      simpa [reduceRunEvents, pure, Except.pure] using h
    cases ht
  · rw [List.concat_eq_append] at h ⊢
    obtain ⟨q, hq, hx⟩ := foldlM_concat_eq_ok.mp h
    rw [terminal_step_closed_iff (phaseInv_of_reduce hq) (accepted_of_reduce hx) ht]
    refine not_congr ⟨fun ⟨htype, hs⟩ => ⟨before, e, q, rfl, hq, htype, hs⟩, ?_⟩
    rintro ⟨before', e', q', heq, hq', htype, hs⟩
    obtain ⟨rfl, he⟩ := List.append_inj' heq rfl
    obtain rfl : e = e' := by simpa using he
    obtain rfl : q = q' := Except.ok.inj (hq.symm.trans hq')
    exact ⟨htype, hs⟩

/-! ## A run that ends over a started read -/

section Interrupted

def sampleDigest (c : Char) : String := String.ofList (List.replicate 64 c)

def plainEvent (type : EventType) (outcome : Outcome) : EventSpec :=
  { type := type, outcome := outcome }

def firstSlotEvent (type : EventType) (outcome : Outcome) : EventSpec :=
  { type := type
    outcome := outcome
    subjectId := .text "read-1"
    subjectDigest := .text (sampleDigest 'a')
    scopeSlot := .text "slot-1"
    entryDigest := .text (sampleDigest '1') }

/-- The planning of a no-model run, its start over three scope entries, and one
read up to its start. -/
def startedReadEvents : List EventSpec :=
  [plainEvent .runReceived .pending, plainEvent .runValidated .success,
   plainEvent .planCreated .success,
   { plainEvent .noModelPolicyAllowed .success with
      subjectDigest := .text (sampleDigest 'b') },
   { plainEvent .noModelWorkflowStarted .pending with
      subjectDigest := .text (sampleDigest 'b')
      scopeEntries := .list
        [.object (.text "slot-1") (.text (sampleDigest '1')),
         .object (.text "slot-2") (.text (sampleDigest '2')),
         .object (.text "slot-3") (.text (sampleDigest '3'))] },
   firstSlotEvent .noModelReadRequested .pending,
   firstSlotEvent .noModelReadAllowed .success,
   firstSlotEvent .noModelReadStarted .pending]

/-- The events of a run with a started read, then its failure, are all accepted
and the read is still `started` in the failed run. -/
theorem started_read_survives_failure :
    ¬ ∀ (es : List EventSpec) (p : RunProjection),
      reduceRunEvents .initial es = .ok p → p.state.isTerminal = true → AllClosed p := by
  intro hall
  have hrun : (reduceRunEvents .initial
      (startedReadEvents ++ [plainEvent .runFailed .failed])).toOption.map
        (fun p => (p.state, p.toolStates.lookup "slot-1")) =
      some (.failed, some (.started, sampleDigest 'a')) := by decide
  cases hp : reduceRunEvents .initial
      (startedReadEvents ++ [plainEvent .runFailed .failed]) with
  | error err => rw [hp] at hrun; cases hrun
  | ok p =>
    rw [hp] at hrun
    simp only [Except.toOption, Option.map_some, Option.some.injEq, Prod.mk.injEq] at hrun
    have hclosed := hall _ p hp (by rw [hrun.1]; rfl) "slot-1" .started
      (sampleDigest 'a') hrun.2
    cases hclosed

theorem terminal_closed_iff_failed_read :
    ∃ p, reduceRunEvents .initial
        (startedReadEvents ++ [{ firstSlotEvent .noModelReadFailed .failed with
              resultDigest := .text (sampleDigest 'c') },
           plainEvent .runFailed .failed]) = .ok p ∧
      p.state.isTerminal = true ∧
      (AllClosed p ↔ ¬ InterruptsStartedRead
        (startedReadEvents ++ [{ firstSlotEvent .noModelReadFailed .failed with
              resultDigest := .text (sampleDigest 'c') },
           plainEvent .runFailed .failed])) := by
  have hrun : ((reduceRunEvents .initial
      (startedReadEvents ++ [{ firstSlotEvent .noModelReadFailed .failed with
            resultDigest := .text (sampleDigest 'c') },
         plainEvent .runFailed .failed])).toOption.map
        fun p => p.state) = some .failed := by decide
  cases hp : reduceRunEvents .initial
      (startedReadEvents ++ [{ firstSlotEvent .noModelReadFailed .failed with
            resultDigest := .text (sampleDigest 'c') },
         plainEvent .runFailed .failed]) with
  | error err => rw [hp] at hrun; cases hrun
  | ok p =>
    rw [hp] at hrun
    have hterminal : p.state.isTerminal = true := by
      simp only [Except.toOption, Option.map_some, Option.some.injEq] at hrun
      rw [hrun]
      rfl
    exact ⟨p, rfl, hterminal, terminal_closed_iff _ p hp hterminal⟩

end Interrupted

end Ecosystem.Runtime
