import Ecosystem.Runtime.StateReducer

/-!
# What an accepted event can do

`Accepted p e q` has one constructor for each accepting branch of the cascade, with its
guards.  `accepted_of_reduce` proves the list complete, so an invariant of the reducer is
a case analysis over it.
-/

namespace Ecosystem.Runtime

open Ecosystem.Lib

/-- The states in which no operation can have been recorded yet. -/
def RunState.isEarly : RunState → Bool
  | .new | .received | .validated | .planned | .authorized => true
  | _ => false

/-- The event of a read names its subject and a slot whose scope entry it
repeats. -/
structure ReadBinding (p : RunProjection) (e : EventSpec)
    (slot digest : String) : Prop where
  isRead : e.type.isNoModelRead = true
  subject : ∃ s, e.subjectId = .text s
  digest_eq : e.subjectDigest = .text digest
  slot_eq : e.scopeSlot = .text slot
  entry : e.entryDigest = FieldValue.ofOption (p.noModelScopeEntries.lookup slot)

structure ToolBinding (e : EventSpec) (subject digest : String) : Prop where
  isTool : e.type.isTool = true
  subject_eq : e.subjectId = .text subject
  digest_eq : e.subjectDigest = .text digest

inductive Accepted (p : RunProjection) (e : EventSpec) : RunProjection → Prop
  | received (h : p.state = .new) (ht : e.type = .runReceived) :
      Accepted p e { p with state := .received }
  | validated (h : p.state = .received) (ht : e.type = .runValidated) :
      Accepted p e { p with state := .validated }
  | planCreated (h : p.state = .validated) (ht : e.type = .planCreated) :
      Accepted p e { p with state := .planned }
  | policyAllowed (h : p.state = .planned) (ht : e.type = .policyAllowed) :
      Accepted p e { p with state := .authorized }
  | policyDenied (h : p.state = .planned)
      (ht : e.type = .policyDenied ∨ e.type = .noModelPolicyDenied) :
      Accepted p e { p with state := .denied }
  | noModelAllowed (planDigest : String) (h : p.state = .planned)
      (ht : e.type = .noModelPolicyAllowed)
      (hd : e.subjectDigest = .text planDigest) :
      Accepted p e { p with
        state := .authorized
        noModelAuthorized := true
        noModelPlanDigest := some planDigest }
  | adapterStarted (h : p.state = .authorized) (ht : e.type = .adapterStarted)
      (hn : p.noModelAuthorized = false) :
      Accepted p e { p with state := .running }
  | workflowStarted (entries : List ScopeEntry) (scope : Dict String String)
      (h : p.state = .authorized) (ht : e.type = .noModelWorkflowStarted)
      (hn : p.noModelAuthorized = true)
      (hs : e.scopeEntries = .list entries)
      (hscope : readScopeEntries entries = .ok scope)
      (hkeys : scope.keys = scopeSlots) :
      Accepted p e { p with
        state := .running
        noModelScopeEntries := scope
        noModelStarted := true }
  | readRequested (slot digest : String) (h : p.state = .running)
      (hn : p.noModelStarted = true) (hb : ReadBinding p e slot digest)
      (ht : e.type = .noModelReadRequested)
      (hfree : p.toolStates.lookup slot = none) :
      Accepted p e (p.setTool slot .requested digest)
  | readAdvanced (slot digest : String) (current phase : Phase)
      (h : p.state = .running) (hn : p.noModelStarted = true)
      (hb : ReadBinding p e slot digest)
      (hcur : p.toolStates.lookup slot = some (current, digest))
      (hnext : nextReadPhase e.type current = some phase)
      (hopen : phase ≠ .completed) :
      Accepted p e (p.setTool slot phase digest)
  | readCompleted (slot digest : String) (evidence : String × HeadingCheck)
      (h : p.state = .running) (hn : p.noModelStarted = true)
      (hb : ReadBinding p e slot digest)
      (hcur : p.toolStates.lookup slot = some (.started, digest))
      (ht : e.type = .noModelReadCompleted)
      (hev : readEvidence e = some evidence) :
      Accepted p e { p.setTool slot .completed digest with
        noModelResults := p.noModelResults.insert slot evidence }
  | workflowSucceeded (h : p.state = .running) (hn : p.noModelStarted = true)
      (ht : e.type = .noModelWorkflowSucceeded) (hs : noModelSuccess p = true) :
      Accepted p e { p with state := .succeeded }
  | toolRequested (subject digest : String) (h : p.state = .running)
      (hn : p.noModelStarted = false) (hb : ToolBinding e subject digest)
      (ht : e.type = .toolRequested)
      (hfree : p.toolStates.lookup subject = none)
      (hflags : p.adapterCompleted = false ∧ p.adapterFailed = false ∧
        p.budgetExhausted = false) :
      Accepted p e (p.setTool subject .requested digest)
  | toolAdvanced (subject digest : String) (current phase : Phase)
      (h : p.state = .running) (hn : p.noModelStarted = false)
      (hb : ToolBinding e subject digest)
      (hcur : p.toolStates.lookup subject = some (current, digest))
      (hnext : nextToolPhase e.type current = some phase) :
      Accepted p e (p.setTool subject phase digest)
  | adapterCompleted (h : p.state = .running) (hn : p.noModelStarted = false)
      (ht : e.type = .adapterCompleted)
      (hflags : p.adapterCompleted = false ∧ p.adapterFailed = false ∧
        p.budgetExhausted = false)
      (hclosed : p.hasOpenTool = false) :
      Accepted p e { p with adapterCompleted := true }
  | adapterFailed (h : p.state = .running) (hn : p.noModelStarted = false)
      (ht : e.type = .adapterFailed)
      (hflags : p.adapterCompleted = false ∧ p.adapterFailed = false) :
      Accepted p e { p with adapterFailed := true }
  | artifactRecorded (h : p.state = .running) (hn : p.noModelStarted = false)
      (ht : e.type = .artifactRecorded)
      (hflags : p.adapterFailed = false ∧ p.budgetExhausted = false) :
      Accepted p e p
  | budgetExhausted (h : p.state = .running) (hn : p.noModelStarted = false)
      (ht : e.type = .budgetExhausted)
      (hflags : p.budgetExhausted = false ∧ p.adapterCompleted = false) :
      Accepted p e { p with budgetExhausted := true }
  | runSucceeded (h : p.state = .running) (hn : p.noModelStarted = false)
      (ht : e.type = .runSucceeded)
      (hflags : p.adapterCompleted = true ∧ p.adapterFailed = false ∧
        p.budgetExhausted = false)
      (hclosed : p.hasOpenTool = false) :
      Accepted p e { p with state := .succeeded }
  | runExhausted (h : p.state = .running) (hn : p.noModelStarted = false)
      (ht : e.type = .runExhausted) (hb : p.budgetExhausted = true)
      (hclosed : p.hasOpenTool = false) :
      Accepted p e { p with state := .exhausted }
  | runFailed (h : p.state = .running) (ht : e.type = .runFailed)
      (hclosed : p.hasOpenTool = false) :
      Accepted p e { p with state := .failed }
  | runCancelled (h : p.state = .running) (ht : e.type = .runCancelled)
      (hclosed : p.hasOpenTool = false) :
      Accepted p e { p with state := .cancelled }
  | earlyFailed (h : p.state.isEarly = true) (ht : e.type = .runFailed) :
      Accepted p e { p with state := .failed }
  | earlyCancelled (h : p.state.isEarly = true) (ht : e.type = .runCancelled) :
      Accepted p e { p with state := .cancelled }

/-! ## Completeness of the list -/

section Inversion

variable {p q : RunProjection} {e : EventSpec}

theorem refuse_ne_ok {code message : String} : refuse code message ≠ .ok q := by
  simp [refuse]

theorem notAllowed_ne_ok : notAllowed ≠ .ok q := refuse_ne_ok

theorem passed_guard {c : Prop} [Decidable c] {code message : String} {rest : Reduced}
    (h : (if c then refuse code message else rest) = .ok q) :
    ¬ c ∧ rest = .ok q := by
  split at h
  · exact absurd h refuse_ne_ok
  · next hc => exact ⟨hc, h⟩

theorem accepted_of_earlyEnd (hs : p.state.isEarly = true)
    (h : reduceEarlyEnd p e = .ok q) : Accepted p e q := by
  unfold reduceEarlyEnd at h
  split at h
  · next ht =>
      cases h
      exact .earlyFailed hs ht
  · next ht =>
      cases h
      exact .earlyCancelled hs ht
  · exact absurd h notAllowed_ne_ok

theorem accepted_of_workflowStarted (hs : p.state = .authorized)
    (ht : e.type = .noModelWorkflowStarted)
    (h : reduceWorkflowStarted p e = .ok q) : Accepted p e q := by
  unfold reduceWorkflowStarted at h
  obtain ⟨hauth, h⟩ := passed_guard h
  rw [not_or] at hauth
  split at h
  · exact absurd h refuse_ne_ok
  next entries hentries =>
  obtain ⟨-, h⟩ := passed_guard h
  split at h
  · cases h
  next scope hscope =>
  obtain ⟨hkeys, h⟩ := passed_guard h
  rw [not_or, not_not] at hkeys
  cases h
  exact .workflowStarted entries scope hs ht (by simpa using hauth.1)
    hentries hscope hkeys.1

variable {current : Phase}

theorem nextReadPhase_completed {t : EventType}
    (h : nextReadPhase t current = some .completed) :
    t = .noModelReadCompleted ∧ current = .started := by
  unfold nextReadPhase at h
  split at h <;> simp_all

theorem accepted_of_advanceRead {slot digest : String}
    (hs : p.state = .running) (hn : p.noModelStarted = true)
    (hb : ReadBinding p e slot digest)
    (hcur : p.toolStates.lookup slot = some (current, digest))
    (h : advanceRead p e slot digest current = .ok q) : Accepted p e q := by
  unfold advanceRead at h
  split at h
  · exact absurd h refuse_ne_ok
  · next hnext =>
      split at h
      · cases h
        exact .readAdvanced slot digest current .failed hs hn hb hcur hnext
          (by decide)
      · exact absurd h refuse_ne_ok
  · next hnext =>
      split at h
      · next evidence _ hev =>
          cases h
          obtain ⟨ht, rfl⟩ := nextReadPhase_completed hnext
          exact .readCompleted slot digest evidence hs hn hb hcur ht hev
      · exact absurd h refuse_ne_ok
      · exact absurd h refuse_ne_ok
  · next phase _ hcompleted hnext =>
      cases h
      exact .readAdvanced slot digest current phase hs hn hb hcur hnext
        (fun hc => hcompleted (hc ▸ rfl))

theorem accepted_of_noModelRead (hs : p.state = .running)
    (hn : p.noModelStarted = true) (ht : e.type.isNoModelRead = true)
    (h : reduceNoModelRead p e = .ok q) : Accepted p e q := by
  unfold reduceNoModelRead at h
  split at h
  · next s digest hsubject hdigest =>
      split at h
      · next slot hslot =>
          obtain ⟨hentry, h⟩ := passed_guard h
          have hb : ReadBinding p e slot digest :=
            ⟨ht, ⟨s, hsubject⟩, hdigest, hslot, (not_not.mp hentry).symm⟩
          split at h
          · next hfree =>
              split at h
              · next hreq =>
                  cases h
                  exact .readRequested slot digest hs hn hb hreq hfree
              · exact absurd h refuse_ne_ok
          · next current d hcur =>
              obtain ⟨-, h⟩ := passed_guard h
              obtain ⟨hd, h⟩ := passed_guard h
              rw [not_not.mp hd] at hcur
              exact accepted_of_advanceRead hs hn hb hcur h
      · exact absurd h refuse_ne_ok
  · exact absurd h refuse_ne_ok

theorem accepted_of_advanceTool {subject digest : String}
    (hs : p.state = .running) (hn : p.noModelStarted = false)
    (hb : ToolBinding e subject digest)
    (hcur : p.toolStates.lookup subject = some (current, digest))
    (h : advanceTool p e subject digest current = .ok q) : Accepted p e q := by
  unfold advanceTool at h
  split at h
  · exact absurd h refuse_ne_ok
  next phase hnext =>
  have hq : q = p.setTool subject phase digest := by
    split at h
    all_goals first
      | exact absurd h refuse_ne_ok
      | exact (Except.ok.inj h).symm
  rw [hq]
  exact .toolAdvanced subject digest current phase hs hn hb hcur hnext

theorem accepted_of_tool (hs : p.state = .running)
    (hn : p.noModelStarted = false) (ht : e.type.isTool = true)
    (h : reduceTool p e = .ok q) : Accepted p e q := by
  unfold reduceTool at h
  split at h
  · next subject digest hsubject hdigest =>
      have hb : ToolBinding e subject digest := ⟨ht, hsubject, hdigest⟩
      split at h
      · next hfree =>
          split at h
          · next hreq =>
              obtain ⟨hflags, h⟩ := passed_guard h
              cases h
              exact .toolRequested subject digest hs hn hb hreq hfree
                (by simpa [and_assoc] using hflags)
          · exact absurd h refuse_ne_ok
      · next current d hcur =>
          obtain ⟨-, h⟩ := passed_guard h
          obtain ⟨hd, h⟩ := passed_guard h
          rw [not_not.mp hd] at hcur
          exact accepted_of_advanceTool hs hn hb hcur h
  · exact absurd h refuse_ne_ok

/-- The shared branch.  A started no-model run reaches it with `run.failed` and
`run.cancelled` only. -/
theorem accepted_of_running (hs : p.state = .running) (hn : p.noModelStarted = false ∨
      e.type = .runFailed ∨ e.type = .runCancelled)
    (h : reduceRunning p e = .ok q) : Accepted p e q := by
  by_cases hf : e.type = .runFailed
  · rw [reduceRunning, hf] at h
    obtain ⟨hopen, h⟩ := passed_guard h
    cases h
    exact .runFailed hs hf (by simpa using hopen)
  by_cases hc : e.type = .runCancelled
  · rw [reduceRunning, hc] at h
    obtain ⟨hopen, h⟩ := passed_guard h
    cases h
    exact .runCancelled hs hc (by simpa using hopen)
  have hn : p.noModelStarted = false := by tauto
  unfold reduceRunning at h
  split at h
  case h_7 ht =>
    obtain ⟨hflags, h⟩ := passed_guard h
    cases h
    simp only [Bool.or_eq_true, not_or, Bool.not_eq_true] at hflags
    obtain ⟨⟨⟨hc, hf⟩, hb⟩, hopen⟩ := hflags
    exact .adapterCompleted hs hn ht ⟨hc, hf, hb⟩ hopen
  case h_8 ht =>
    obtain ⟨hflags, h⟩ := passed_guard h
    cases h
    exact .adapterFailed hs hn ht (by simpa using hflags)
  case h_9 ht =>
    obtain ⟨hflags, h⟩ := passed_guard h
    cases h
    exact .artifactRecorded hs hn ht (by simpa using hflags)
  case h_10 ht =>
    obtain ⟨hflags, h⟩ := passed_guard h
    cases h
    exact .budgetExhausted hs hn ht (by simpa using hflags)
  case h_11 ht =>
    obtain ⟨hflags, h⟩ := passed_guard h
    cases h
    simp only [Bool.or_eq_true, not_or, Bool.not_eq_true, Bool.not_eq_true',
      Bool.not_eq_false] at hflags
    obtain ⟨⟨⟨hc, hf⟩, hb⟩, hopen⟩ := hflags
    exact .runSucceeded hs hn ht ⟨hc, hf, hb⟩ hopen
  case h_12 ht =>
    obtain ⟨hb, h⟩ := passed_guard h
    obtain ⟨hopen, h⟩ := passed_guard h
    cases h
    exact .runExhausted hs hn ht (by simpa using hb) (by simpa using hopen)
  case h_13 ht => exact absurd ht hf
  case h_14 ht => exact absurd ht hc
  case h_15 => exact absurd h notAllowed_ne_ok
  all_goals
    next ht => exact accepted_of_tool hs hn (by rw [ht]; rfl) h

theorem accepted_of_noModelRunning (hs : p.state = .running) (hn : p.noModelStarted = true)
    (h : reduceNoModelRunning p e = .ok q) : Accepted p e q := by
  unfold reduceNoModelRunning at h
  obtain ⟨hforbidden, h⟩ := passed_guard h
  split at h
  · next hread => exact accepted_of_noModelRead hs hn hread h
  next hread =>
  split at h
  · next ht =>
      split at h
      · next hsuccess =>
          cases h
          exact .workflowSucceeded hs hn ht hsuccess
      · exact absurd h refuse_ne_ok
  · -- every type left is refused by the shared branch, but for two
    next ht =>
      cases htype : e.type with
      | runFailed => exact accepted_of_running hs (.inr (.inl htype)) h
      | runCancelled => exact accepted_of_running hs (.inr (.inr htype)) h
      | _ =>
        first
        | (rw [htype] at hforbidden; exact absurd rfl hforbidden)
        | (rw [htype] at hread; exact absurd rfl hread)
        | exact absurd htype ht
        | (rw [reduceRunning, htype] at h; exact absurd h notAllowed_ne_ok)

/-- **The transition table is complete.**  Every event that the reducer accepts
is one of the cases of `Accepted`. -/
theorem accepted_of_reduce (h : reduceRunEvent p e = .ok q) : Accepted p e q := by
  unfold reduceRunEvent at h
  cases hs : p.state with
  | new =>
    rw [hs] at h
    dsimp only at h
    split at h
    · next ht => cases h; exact .received hs ht
    · exact absurd h notAllowed_ne_ok
  | received =>
    rw [hs] at h
    dsimp only at h
    split at h
    · next ht => cases h; exact .validated hs ht
    · exact accepted_of_earlyEnd (by rw [hs]; rfl) h
  | validated =>
    rw [hs] at h
    dsimp only at h
    split at h
    · next ht => cases h; exact .planCreated hs ht
    · exact accepted_of_earlyEnd (by rw [hs]; rfl) h
  | planned =>
    rw [hs] at h
    dsimp only at h
    split at h
    · next ht => cases h; exact .policyAllowed hs ht
    · next ht => cases h; exact .policyDenied hs (.inl ht)
    · next ht =>
        split at h
        · next planDigest hd =>
            cases h
            exact .noModelAllowed planDigest hs ht hd
        · exact absurd h refuse_ne_ok
    · next ht => cases h; exact .policyDenied hs (.inr ht)
    · exact accepted_of_earlyEnd (by rw [hs]; rfl) h
  | authorized =>
    rw [hs] at h
    dsimp only at h
    split at h
    · next ht =>
        obtain ⟨hn, h⟩ := passed_guard h
        cases h
        exact .adapterStarted hs ht (by simpa using hn)
    · next ht => exact accepted_of_workflowStarted hs ht h
    · exact accepted_of_earlyEnd (by rw [hs]; rfl) h
  | running =>
    rw [hs] at h
    dsimp only at h
    split at h
    · next hn => exact accepted_of_noModelRunning hs hn h
    · next hn => exact accepted_of_running hs (.inl (by simpa using hn)) h
  | _ =>
    rw [hs] at h
    exact absurd h notAllowed_ne_ok

end Inversion

end Ecosystem.Runtime
