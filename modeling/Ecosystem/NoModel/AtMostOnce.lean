import Ecosystem.NoModel.Invariant

/-!
# No read is asked for twice

A slot is read only between the event that starts its read and the one that ends it, and
the start is recorded only for a slot that has not been read.  A restart that finds a
started read fails the run.
-/

namespace Ecosystem.NoModel

open Ecosystem.Lib Ecosystem.Lib.Prog
open Ecosystem.Runtime

/-! ## Steps that leave the world alone -/

def Idle {α : Type} (p : NoModelProg α) : Prop :=
  ∀ w, p.Safe (fun _ => True) ⟨(w = ·), fun _ => (w = ·), fun _ => (w = ·)⟩ w

section Idle

variable {α β : Type} {p : NoModelProg α} {k : α → NoModelProg β}

theorem idle_pure {value : α} : Idle (pure value) := fun _ => rfl

theorem Idle.bind (h : Idle p) (hk : ∀ value, Idle (k value)) : Idle (p >>= k) := by
  intro w
  refine safe_bind (h w) ?_
  rintro value _ rfl
  exact hk value w

theorem idle_consult {answer : Moment → α} : Idle (consult answer) := by
  intro w
  refine safe_act rfl ?_ ?_
  all_goals
    intro m _ w' _ h
    split at h <;> simp_all

theorem idle_currentTime {a : Attempt} {deadline : ℤ} : Idle (currentTime a deadline) := by
  intro w
  refine safe_act rfl ?_ ?_
  all_goals
    intro m _ w' _ h
    split at h <;> simp_all

end Idle

/-! ## Programs that keep the invariant -/

section Keeps

variable (cfg : ExecutionConfig)

/-- The invariant holds between the steps and when an exception leaves the program. -/
def Keeps {α : Type} (Q : α → World → Prop) (p : NoModelProg α) (w : World) : Prop :=
  p.Safe (fun _ => True) ⟨Inv cfg, Q, fun _ => Inv cfg⟩ w

end Keeps

variable {cfg : ExecutionConfig} {a : Attempt} {w : World} {r : RunName}
  {chain : NoModelChain} {α β : Type} {Q : α → World → Prop}

theorem keeps_bind {p : NoModelProg β} {k : β → NoModelProg α} (R : β → World → Prop)
    (h : Keeps cfg R p w) (hk : ∀ b w', R b w' → Keeps cfg Q (k b) w') :
    Keeps cfg Q (p >>= k) w :=
  safe_bind h hk

theorem keeps_mono {p : NoModelProg α} {Q' : α → World → Prop} (h : Keeps cfg Q p w)
    (hQ : ∀ a w', Q a w' → Q' a w') : Keeps cfg Q' p w :=
  h.mono (fun _ h => h) hQ fun _ _ h => h

theorem Idle.keeps {p : NoModelProg α} (h : Idle p) (hinv : Inv cfg w) :
    Keeps cfg (fun _ => (w = ·)) p w :=
  (h w).mono (fun _ hw => hw ▸ hinv) (fun _ _ hw => hw) fun _ _ hw => hw ▸ hinv

theorem keeps_guarded {p : NoModelProg α} {catchBroker : Bool} (R : World → Prop)
    (h : p.Safe (fun _ => True) ⟨Inv cfg, fun _ => R, fun _ => R⟩ w)
    (hR : ∀ w', R w' → Inv cfg w') :
    Keeps cfg (fun _ => R) (guarded catchBroker p) w := by
  refine safe_catch (safe_bind h fun _ _ hw => hw) ?_
  intro e w' hw
  split
  · exact hw
  · exact hw
  · exact hR w' hw

theorem Idle.keeps_guarded {p : NoModelProg α} {catchBroker : Bool} (h : Idle p)
    (hinv : Inv cfg w) : Keeps cfg (fun _ => (w = ·)) (guarded catchBroker p) w :=
  NoModel.keeps_guarded (w = ·)
    ((h w).mono (fun _ hw => hw ▸ hinv) (fun _ _ hw => hw) fun _ _ hw => hw)
    fun _ hw => hw ▸ hinv

theorem keeps_guarded_brokerRead {i : ℕ} {k : ReadResult → NoModelProg α}
    (hk : ∀ read, Idle (k read)) (hinv : Inv cfg w)
    (hinv' : Inv cfg { w with reads := w.reads ++ [(a.plan.runId, i)] }) :
    Keeps cfg (fun _ => ({ w with reads := w.reads ++ [(a.plan.runId, i)] } = ·))
      (guarded true (brokerRead a i >>= k)) w := by
  refine keeps_guarded _ ?_ fun _ hw => hw ▸ hinv'
  refine @Prog.safe_bind _ _ _ _ _ _ _ _ _ _
    (fun _ => ({ w with reads := w.reads ++ [(a.plan.runId, i)] } = ·)) ?_ ?_
  · refine safe_act hinv ?_ ?_
    all_goals
      intro m _ w' _ h
      dsimp only at h
      split at h <;> simp_all
  · rintro read _ rfl
    exact (hk read _).mono (fun _ hw => hw ▸ hinv') (fun _ _ hw => hw) fun _ _ hw => hw

theorem keeps_transaction {f : Moment → Journal → Except Failure (Journal × α)}
    (hinv : Inv cfg w) (hok : ∀ m journal answer, f m w.journal = .ok (journal, answer) →
      Q answer { w with journal := journal }) : Keeps cfg Q (transaction f) w := by
  refine safe_act hinv ?_ ?_
  · intro m answer w' _ h
    split at h
    · cases h
    split at h
    · next hf =>
        cases h
        exact hok m _ _ hf
    · cases h
  · intro m e w' _ h
    split at h
    · cases h
      exact hinv
    · split at h
      · cases h
      cases h
      exact hinv

/-! ## Recording -/

/-- What an event adds to a run. -/
structure Recorded (cfg : ExecutionConfig) (r : RunName) (d : Draft)
    (chain : NoModelChain) (w : World) (chain' : NoModelChain) (w' : World) : Prop where
  knows : At cfg r chain' w'
  reads : w'.reads = w.reads
  extended : ∃ event, event.spec = d.spec ∧ Extends chain event chain'

variable {d : Draft} {chain' : NoModelChain}

theorem keeps_append {time : Moment → ℤ} (h : At cfg a.plan.runId chain w)
    (hfits : d.Fits w a.plan.runId chain) :
    Keeps cfg (Recorded cfg a.plan.runId d chain w)
      (transaction fun m journal =>
        journal.append cfg.toJournalConfig a.plan.runId chain d (time m)) w := by
  refine keeps_transaction h.inv fun m journal chain' hok => ?_
  obtain ⟨hknows, hextends⟩ := h.append hfits hok
  exact ⟨hknows, rfl, _, rfl, hextends⟩

theorem keeps_record (h : At cfg a.plan.runId chain w)
    (hfits : d.Fits w a.plan.runId chain) :
    Keeps cfg (Recorded cfg a.plan.runId d chain w) (record cfg a chain d) w :=
  keeps_append h hfits

theorem Recorded.type {w' : World} (h : Recorded cfg r d chain w chain' w') :
    ∃ event, event.spec.type = d.type ∧ Extends chain event chain' := by
  obtain ⟨event, hspec, hextends⟩ := h.extended
  exact ⟨event, by rw [hspec]; rfl, hextends⟩

theorem Extends.ended {event : RunEvent} (h : Extends chain event chain') :
    (event.spec.type = .runFailed → chain'.projection.state = .failed) ∧
      (event.spec.type = .noModelWorkflowSucceeded →
        chain'.projection.state = .succeeded) := by
  have haccepted := accepted_of_reduce h.reduced
  generalize chain'.projection = next at haccepted
  cases haccepted with
  | readAdvanced _ _ current _ _ _ _ _ hnext
  | toolAdvanced _ _ current _ _ _ _ _ hnext =>
    constructor <;> intro ht <;> rw [ht] at hnext <;> cases current <;> cases hnext
  | _ => constructor <;> intro ht <;> simp_all

/-! ## Ends of a run -/

def Settled (cfg : ExecutionConfig) (r : RunName) (report : Report) (w : World) : Prop :=
  ∃ chain, At cfg r chain w ∧ chain.projection.state.isTerminal = true ∧
    (report.status = .succeeded ↔ chain.projection.state = .succeeded) ∧
    (report.readCount, report.totalBytes) = chain.completedSummary

theorem settled_of_failed {status : Status} {code : String} {replayed : Bool} {n : ℕ}
    (h : At cfg r chain w) (hstate : chain.projection.state = .failed)
    (hstatus : status ≠ .succeeded) :
    Settled cfg r (finish chain status code replayed n) w := by
  refine ⟨chain, h, by rw [hstate]; rfl, ⟨fun hs => absurd hs hstatus, fun hs => ?_⟩, rfl⟩
  rw [hstate] at hs
  cases hs

theorem fits_of_quiet (hphase : phaseOf d.type = none)
    (hadapter : d.type ≠ .runSucceeded) (hsuccess : d.type ≠ .noModelWorkflowSucceeded) :
    d.Fits w r chain where
  adapter := hadapter
  success hs := absurd hs hsuccess
  read _ _ _ hsome := by
    rw [hphase] at hsome
    cases hsome

theorem keeps_runFailed (hd : d.type = .runFailed) (h : At cfg a.plan.runId chain w) :
    Keeps cfg (fun chain' w' => At cfg a.plan.runId chain' w' ∧
      chain'.projection.state = .failed) (record cfg a chain d) w := by
  refine keeps_mono (keeps_record h (fits_of_quiet ?_ ?_ ?_)) ?_
  · rw [hd]; rfl
  · rw [hd]; decide
  · rw [hd]; decide
  · intro chain' w' hrecorded
    obtain ⟨event, htype, hextends⟩ := hrecorded.type
    exact ⟨hrecorded.knows, hextends.ended.1 (htype.trans hd)⟩

/-! ## The events of a read -/

/-- The reads of other slots stand as they did. -/
def SameElsewhere (r : RunName) (i : ℕ) (chain chain' : NoModelChain) : Prop :=
  ∀ j, j ≠ i → chain'.phase r j = chain.phase r j

theorem SameElsewhere.trans {i : ℕ} {chain chain' chain'' : NoModelChain}
    (h : SameElsewhere r i chain chain') (h' : SameElsewhere r i chain' chain'') :
    SameElsewhere r i chain chain'' :=
  fun j hj => (h' j hj).trans (h j hj)

/-- What the event of a phase leaves behind. -/
structure Reached (cfg : ExecutionConfig) (r : RunName) (i : ℕ) (phase : Phase)
    (chain : NoModelChain) (w : World) (chain' : NoModelChain) (w' : World) : Prop where
  knows : At cfg r chain' w'
  reads : w'.readCount r i = w.readCount r i
  phase : chain'.phase r i = some phase
  elsewhere : SameElsewhere r i chain chain'

/-- **An event of the read of an index.**  It is recorded as not started only if the slot
has not been read, and as completed only if it has. -/
theorem keeps_recordRead {i : ℕ} {phase : Phase}
    (hsubject : d.subjectId = some (requestId a.plan.runId i))
    (hphase : phaseOf d.type = some phase) (h : At cfg a.plan.runId chain w)
    (hunread : some phase ∈ unstarted → w.readCount a.plan.runId i = 0)
    (hread : phase = .completed → w.readCount a.plan.runId i = 1) :
    Keeps cfg (Reached cfg a.plan.runId i phase chain w) (record cfg a chain d) w := by
  have hfits : d.Fits w a.plan.runId chain := by
    refine ⟨fun ht => ?_, fun ht => ?_, fun j phase' hj hphase' => ?_⟩
    · rw [ht] at hphase
      cases hphase
    · rw [ht] at hphase
      cases hphase
    · obtain rfl : i = j := requestId_inj (Option.some.inj (hsubject.symm.trans hj))
      obtain rfl : phase = phase' := Option.some.inj (hphase.symm.trans hphase')
      exact ⟨hunread, hread⟩
  refine keeps_mono (keeps_record h hfits) fun chain' w' hrecorded => ?_
  obtain ⟨event, hspec, hextends⟩ := hrecorded.extended
  have hid : event.spec.subjectId = .text (requestId a.plan.runId i) := by
    rw [hspec]
    exact FieldValue.ofOption_eq_text.mpr hsubject
  have htype : phaseOf event.spec.type = some phase := by
    rw [hspec]
    exact hphase
  obtain ⟨hself, helse⟩ := hextends.phase_read hid htype
  exact ⟨hrecorded.knows, by rw [World.readCount, hrecorded.reads]; rfl, hself, helse⟩

/-! ## The read of a slot -/

section Slot

variable {s : Session} {i : ℕ} {request : ReadRequest} {marker : ScopeMarker}
  {p : Progress}

/-- The turn of a slot either ends the run or completes the read. -/
def Turned (cfg : ExecutionConfig) (r : RunName) (i : ℕ) (chain : NoModelChain) :
    Report ⊕ Progress → World → Prop
  | .inl report, w => Settled cfg r report w
  | .inr p, w => At cfg r p.chain w ∧ p.chain.phase r i = some .completed ∧
      SameElsewhere r i chain p.chain

theorem Turned.rebase {chain chain' : NoModelChain} {answer : Report ⊕ Progress}
    (helse : SameElsewhere r i chain chain') (h : Turned cfg r i chain' answer w) :
    Turned cfg r i chain answer w := by
  cases answer with
  | inl report => exact h
  | inr p => exact ⟨h.1, h.2.1, helse.trans h.2.2⟩

variable {phase : Phase} {replayed : Bool}

theorem keeps_closeRead {type : EventType} {producer : Producer}
    {resultDigest code : String} {status : Status} {n : ℕ}
    (hrequest : request.id = requestId a.plan.runId i)
    (hphase : phaseOf type = some phase) (hopen : phase ≠ .completed)
    (hstatus : status ≠ .succeeded) (h : At cfg a.plan.runId chain w)
    (hunread : some phase ∈ unstarted → w.readCount a.plan.runId i = 0) :
    Keeps cfg (Settled cfg a.plan.runId)
      (closeRead cfg a type producer request marker chain resultDigest code status replayed
        n) w := by
  refine keeps_bind _ (keeps_recordRead (i := i) ?_ hphase h hunread
    fun hc => absurd hc hopen) fun chain₁ w₁ hreached => ?_
  · exact congrArg some hrequest
  refine keeps_bind _ (keeps_runFailed rfl hreached.knows) fun chain₂ w₂ hfailed => ?_
  exact settled_of_failed hfailed.1 hfailed.2 hstatus

theorem keeps_failRead {producer : Producer} {code : String} {status : Status}
    {n : ℕ} (hrequest : request.id = requestId a.plan.runId i)
    (hstatus : status ≠ .succeeded) (h : At cfg a.plan.runId chain w) :
    Keeps cfg (Settled cfg a.plan.runId)
      (failRead cfg a .noModelReadFailed producer request marker chain code status replayed
        n) w :=
  keeps_closeRead hrequest rfl (by decide) hstatus h fun hu => absurd hu (by decide)

theorem keeps_denyRead {resultDigest code : String} {n : ℕ}
    (hrequest : request.id = requestId a.plan.runId i)
    (h : At cfg a.plan.runId chain w) (hunread : w.readCount a.plan.runId i = 0) :
    Keeps cfg (Settled cfg a.plan.runId)
      (closeRead cfg a .noModelReadDenied .policy request marker chain resultDigest code
        .blocked replayed n) w :=
  keeps_closeRead hrequest rfl (by decide) (by decide) h fun _ => hunread

/-- The authority for a slot ends the run, or the slot is as unread as it was. -/
def Authorized (cfg : ExecutionConfig) (r : RunName) (i : ℕ) (chain : NoModelChain) :
    Report ⊕ NoModelChain → World → Prop
  | .inl report, w => Settled cfg r report w
  | .inr chain', w => At cfg r chain' w ∧ w.readCount r i = 0 ∧
      SameElsewhere r i chain chain'

theorem keeps_authorizeRead (hrequest : request.id = requestId a.plan.runId i)
    (h : At cfg a.plan.runId p.chain w) (hunread : w.readCount a.plan.runId i = 0) :
    Keeps cfg (Authorized cfg a.plan.runId i p.chain)
      (authorizeRead cfg a s request marker phase p) w := by
  have hdeny (resultDigest code : String) :
      Keeps cfg (Authorized cfg a.plan.runId i p.chain) (do
        return .inl (← closeRead cfg a .noModelReadDenied .policy request marker p.chain
          resultDigest code .blocked s.replayed p.brokerReadCount)) w :=
    keeps_bind _ (keeps_denyRead hrequest h hunread) fun _ _ hsettled => hsettled
  refine keeps_bind _ (Idle.keeps_guarded
    (idle_currentTime.bind fun _ => idle_consult) h.inv) ?_
  rintro (e | decision) _ rfl
  · exact hdeny _ _
  dsimp only
  split
  · refine keeps_bind _ (Idle.keeps_guarded
      (idle_currentTime.bind fun _ => idle_consult) h.inv) ?_
    rintro (e | _) _ rfl
    · exact hdeny _ _
    dsimp only
    split
    · refine keeps_bind _ (keeps_recordRead (i := i) ?_ rfl h
        (fun _ => hunread) nofun) fun chain' w' hreached => ?_
      · exact congrArg some hrequest
      exact ⟨hreached.knows, hreached.reads.trans hunread, hreached.elsewhere⟩
    · exact ⟨h, hunread, fun _ _ => rfl⟩
  · exact hdeny _ _

theorem keeps_completeRead {read : ReadResult} {headingValid : Bool}
    (hrequest : request.id = requestId a.plan.runId i)
    (h : At cfg a.plan.runId p.chain w) (hread : w.readCount a.plan.runId i = 1) :
    Keeps cfg (Turned cfg a.plan.runId i p.chain)
      (completeRead cfg a s request marker p read headingValid) w := by
  unfold completeRead
  split
  · refine keeps_bind _ (keeps_failRead (i := i) hrequest (by decide) h)
      fun report w' hsettled => ?_
    exact hsettled
  · refine keeps_bind _ (idle_currentTime.keeps h.inv) ?_
    rintro _ _ rfl
    refine keeps_bind _ (keeps_recordRead (i := i) ?_ rfl h
      (fun hu => absurd hu (by decide)) fun _ => hread) fun chain' w' hreached => ?_
    · exact congrArg some hrequest
    exact ⟨hreached.knows, hreached.phase, hreached.elsewhere⟩

/-- **The read itself.**  The broker is asked behind the event that starts the read. -/
theorem keeps_performRead (hrequest : request.id = requestId a.plan.runId i)
    (h : At cfg a.plan.runId p.chain w) (hunread : w.readCount a.plan.runId i = 0) :
    Keeps cfg (Turned cfg a.plan.runId i p.chain)
      (performRead cfg a s i request marker p) w := by
  unfold performRead
  refine keeps_bind _ (idle_currentTime.keeps_guarded h.inv) ?_
  rintro (e | _) _ rfl
  · exact keeps_bind _ (keeps_failRead (i := i) hrequest (by decide) h)
      fun _ _ hsettled => hsettled
  refine keeps_bind _ (keeps_recordRead (i := i) ?_ rfl h
    (fun hu => absurd hu (by decide)) nofun) fun chain₁ w₁ hreached => ?_
  · exact congrArg some hrequest
  refine keeps_bind _ (idle_currentTime.keeps_guarded hreached.knows.inv) ?_
  rintro (e | _) _ rfl
  · exact keeps_bind _ (keeps_failRead (i := i) hrequest (by decide) hreached.knows)
      fun _ _ hsettled => hsettled
  -- the one step that reads: the slot is started and has not been read
  obtain ⟨hknows, hcount⟩ :=
    hreached.knows.read hreached.phase (hreached.reads.trans hunread)
  refine keeps_bind _ (keeps_guarded_brokerRead (fun read => idle_currentTime.bind fun _ =>
    idle_currentTime.bind fun _ => idle_consult.bind fun _ => idle_pure)
    hreached.knows.inv hknows.inv) ?_
  rintro (e | read) _ rfl
  · exact keeps_bind _ (keeps_failRead (i := i) hrequest (by decide) hknows)
      fun _ _ hsettled => hsettled
  · exact keeps_mono (keeps_completeRead hrequest hknows hcount)
      fun _ _ hturned => hturned.rebase hreached.elsewhere

theorem keeps_advanceRead (hrequest : request.id = requestId a.plan.runId i)
    (h : At cfg a.plan.runId p.chain w) (hunread : w.readCount a.plan.runId i = 0) :
    Keeps cfg (Turned cfg a.plan.runId i p.chain)
      (advanceRead cfg a s i request marker phase p) w := by
  refine keeps_bind _ (keeps_authorizeRead hrequest h hunread) ?_
  rintro (report | chain) w' hanswer
  · exact hanswer
  · obtain ⟨hknows, hunread', helse⟩ := hanswer
    exact keeps_mono (keeps_performRead (p := { p with chain := chain }) hrequest hknows
      hunread') fun _ _ hturned => hturned.rebase helse

theorem keeps_requestRead (hrequest : request.id = requestId a.plan.runId i)
    (h : At cfg a.plan.runId p.chain w) (hunread : w.readCount a.plan.runId i = 0) :
    Keeps cfg (Turned cfg a.plan.runId i p.chain)
      (requestRead cfg a s i request marker p) w := by
  refine keeps_bind _ (idle_currentTime.keeps_guarded h.inv) ?_
  rintro (e | _) _ rfl
  · refine keeps_bind _ (keeps_runFailed rfl h) fun chain w' hfailed => ?_
    exact settled_of_failed hfailed.1 hfailed.2 (by decide)
  · refine keeps_bind _ (keeps_recordRead (i := i) ?_ rfl h
      (fun _ => hunread) nofun) fun chain₁ w₁ hreached => ?_
    · exact congrArg some hrequest
    exact keeps_mono (keeps_advanceRead (p := { p with chain := chain₁ }) hrequest
      hreached.knows (hreached.reads.trans hunread))
      fun _ _ hturned => hturned.rebase hreached.elsewhere

/-- **The turn of a slot**, from the phase that the journal gives for it. -/
theorem keeps_readSlot {path : String} (h : At cfg a.plan.runId p.chain w) :
    Keeps cfg (Turned cfg a.plan.runId i p.chain) (readSlot cfg a s i path p) w := by
  unfold readSlot
  dsimp only
  split
  · exact h.inv
  next marker _ =>
  have hrun := h.run
  have hphase : readPhase p.chain.events (a.request cfg i path).id =
      p.chain.phase a.plan.runId i := rfl
  rw [hphase]
  cases hcurrent : p.chain.phase a.plan.runId i with
  | none => exact keeps_requestRead rfl h (hrun.unread i (by rw [hcurrent]; decide))
  | some phase =>
    cases phase with
    | cancelled => exact absurd hcurrent readPhase_ne_cancelled
    | requested | allowed =>
      exact keeps_advanceRead rfl h (hrun.unread i (by rw [hcurrent]; decide))
    | started =>
      exact keeps_bind _ (keeps_failRead (i := i) rfl (by decide) h)
        fun _ _ hsettled => hsettled
    | completed => exact ⟨h, hcurrent, fun _ _ => rfl⟩
    | denied | failed =>
      refine keeps_bind _ (keeps_runFailed rfl h) fun chain w' hfailed => ?_
      exact settled_of_failed hfailed.1 hfailed.2 (by decide)

end Slot

theorem keeps_readSlots {s : Session} {slots : List (ℕ × String)} {p : Progress}
    {done : List ℕ} (h : At cfg a.plan.runId p.chain w)
    (hdone : ∀ i ∈ done, p.chain.phase a.plan.runId i = some .completed) :
    Keeps cfg (fun answer w' => match answer with
        | .inl report => Settled cfg a.plan.runId report w'
        | .inr p' => At cfg a.plan.runId p'.chain w' ∧
            ∀ i ∈ done ++ slots.map (·.1), p'.chain.phase a.plan.runId i = some .completed)
      (readSlots cfg a s slots p) w := by
  induction slots generalizing p w done with
  | nil => exact ⟨h, by rwa [List.map_nil, List.append_nil]⟩
  | cons slot slots ih =>
    refine keeps_bind _ (keeps_readSlot (i := slot.1) h) ?_
    rintro (report | p') w' hturned
    · exact hturned
    · obtain ⟨hknows, hcompleted, helse⟩ := hturned
      refine keeps_mono (@ih _ _ (done ++ [slot.1]) hknows fun j hj => ?_)
        fun answer w'' hanswer => ?_
      · by_cases hji : j = slot.1
        · rw [hji, hcompleted]
        · rw [helse j hji]
          refine hdone j ((List.mem_append.mp hj).resolve_right ?_)
          rwa [List.mem_singleton]
      · cases answer with
        | inl report => exact hanswer
        | inr p'' =>
          rwa [List.append_assoc, List.singleton_append] at hanswer

/-! ## The execution -/

theorem keeps_success {time : Moment → ℤ} (h : At cfg a.plan.runId chain w)
    (hcompleted : ∀ i ∈ slotIndices, chain.phase a.plan.runId i = some .completed) :
    Keeps cfg (fun chain' w' => At cfg a.plan.runId chain' w' ∧
        chain'.projection.state = .succeeded)
      (transaction fun m journal => journal.append cfg.toJournalConfig a.plan.runId chain
        { type := .noModelWorkflowSucceeded, producer := .runtime } (time m)) w := by
  refine keeps_mono (keeps_append h ⟨nofun, fun _ => hcompleted, nofun⟩) ?_
  intro chain' w' hrecorded
  obtain ⟨event, htype, hextends⟩ := hrecorded.type
  exact ⟨hrecorded.knows, hextends.ended.2 htype⟩

theorem keeps_failRun {s : Session} {p : Progress} {code : String}
    {document : ResultDocument} (h : At cfg a.plan.runId p.chain w) :
    Keeps cfg (Settled cfg a.plan.runId) (failRun cfg a s p code document) w :=
  keeps_bind _ (keeps_runFailed rfl h) fun _ _ hfailed =>
    settled_of_failed hfailed.1 hfailed.2 (by decide)

theorem keeps_conclude {s : Session} {p : Progress} (h : At cfg a.plan.runId p.chain w)
    (hcompleted : ∀ i ∈ slotIndices, p.chain.phase a.plan.runId i = some .completed) :
    Keeps cfg (Settled cfg a.plan.runId) (conclude cfg a s p) w := by
  refine keeps_bind _ (idle_currentTime.keeps_guarded h.inv) ?_
  rintro (e | _) _ rfl
  · exact keeps_failRun h
  dsimp only
  split
  · refine keeps_bind _ (Idle.keeps_guarded (idle_currentTime.bind fun _ =>
      idle_consult.bind fun _ => idle_currentTime) h.inv) ?_
    rintro (e | _) _ rfl
    · exact keeps_failRun h
    refine keeps_bind _ (keeps_success h hcompleted) fun chain w' hsuccess => ?_
    exact ⟨chain, hsuccess.1, by rw [hsuccess.2]; rfl, ⟨fun _ => hsuccess.2, fun _ => rfl⟩,
      rfl⟩
  · exact keeps_failRun h

theorem keeps_executeOpened (h : Inv cfg w) :
    Keeps cfg (Settled cfg a.plan.runId) (executeOpened cfg a) w := by
  refine keeps_bind _ (idle_currentTime.keeps h) ?_
  rintro _ _ rfl
  refine keeps_bind (fun (answer : NoModelChain × Bool) w' =>
    At cfg a.plan.runId answer.1 w') ?_ ?_
  · exact keeps_transaction h fun m journal answer hok => h.begin_ hok
  rintro ⟨chain, replayed⟩ w₁ hknows
  dsimp only
  split
  · next hstate =>
      exact ⟨chain, hknows, by rw [hstate]; rfl, ⟨fun _ => hstate, fun _ => rfl⟩, rfl⟩
  · next hstate =>
      split
      · next hterminal =>
          exact ⟨chain, hknows, hterminal, ⟨nofun, fun hs => absurd hs hstate⟩, rfl⟩
      · refine keeps_bind _ (idle_consult.keeps hknows.inv) ?_
        rintro _ _ rfl
        refine keeps_bind _ (@keeps_readSlots _ _ _ _ _ _ [] hknows nofun) ?_
        rintro (report | p) w₂ hanswer
        · exact hanswer
        · exact keeps_conclude hanswer.1 hanswer.2

def Reported (cfg : ExecutionConfig) (r : RunName) (report : Report) (w : World) : Prop :=
  Inv cfg w ∧ (report.status = .blocked ∨ Settled cfg r report w)

theorem Settled.reported {report : Report} (h : Settled cfg r report w) :
    Reported cfg r report w := by
  have hsettled := h
  obtain ⟨chain, hknows, -⟩ := h
  exact ⟨hknows.inv, .inr hsettled⟩

theorem keeps_executeBody (h : Inv cfg w) :
    Keeps cfg (Reported cfg a.plan.runId) (executeBody cfg a) w := by
  refine keeps_bind _ (idle_consult.keeps h) ?_
  rintro _ _ rfl
  refine keeps_bind _ (idle_consult.keeps h) ?_
  rintro planning _ rfl
  split
  · refine keeps_bind _ (idle_currentTime.keeps h) ?_
    rintro _ _ rfl
    refine keeps_bind _ (idle_consult.keeps h) ?_
    rintro _ _ rfl
    exact keeps_mono (keeps_executeOpened h) fun _ _ hsettled => hsettled.reported
  · exact ⟨h, .inl rfl⟩

theorem keeps_execute (h : Inv cfg w) :
    Keeps cfg (Reported cfg a.plan.runId) (executeWikiHealthCheck cfg a) w := by
  refine safe_catch (keeps_executeBody h) fun e w' hinv => ?_
  split
  · exact hinv
  · exact ⟨hinv, .inl rfl⟩

/-! ## Runs -/

theorem Inv.run (h : Inv cfg w) (script : List Moment) :
    Inv cfg ((executeWikiHealthCheck cfg a).run script w).2 := by
  have hkeeps : Keeps cfg (Reported cfg a.plan.runId) (executeWikiHealthCheck cfg a) w :=
    keeps_execute h
  have hholds := @Safe.run _ _ _ _ _ _ _ _ hkeeps script fun _ _ => trivial
  cases hrun : (executeWikiHealthCheck cfg a).run script w with
  | mk ending w' =>
    rw [hrun] at hholds
    cases ending with
    | returned report => exact hholds.1
    | raised e | crashed => exact hholds

theorem inv_worldAfter (attempts : List (Attempt × List Moment)) :
    Inv cfg (worldAfter cfg attempts) := by
  unfold worldAfter
  induction attempts using List.reverseRecOn with
  | nil => exact inv_empty
  | append_singleton attempts attempt ih =>
    rw [List.foldl_append, List.foldl_cons, List.foldl_nil]
    exact ih.run attempt.2

/-- What a report says of the run is what the fold of its recorded events says. -/
theorem returned_reported {attempts : List (Attempt × List Moment)} {script : List Moment}
    {report : Report} {w' : World}
    (h : (executeWikiHealthCheck cfg a).run script (worldAfter cfg attempts) =
      (.returned report, w')) : Reported cfg a.plan.runId report w' := by
  have hkeeps : Keeps cfg (Reported cfg a.plan.runId) (executeWikiHealthCheck cfg a)
      (worldAfter cfg attempts) := keeps_execute (inv_worldAfter attempts)
  have hholds := @Safe.run _ _ _ _ _ _ _ _ hkeeps script fun _ _ => trivial
  rwa [h] at hholds

/-- A success of the reducer behind a recorded success is one of the no-model workflow. -/
theorem NoModelChain.Concluded.lifecycle (h : chain.Concluded r)
    (hreplay : reduceRunEvents .initial (chain.events.map (·.spec)) = .ok chain.projection)
    (hs : chain.projection.state = .succeeded) :
    NoModelLifecycle (chain.events.map (·.spec)) := by
  refine (lifecycle_of_reduce_succeeded hreplay hs).resolve_left fun hadapter => ?_
  obtain ⟨before, last, hevents, htype, -⟩ := h
  have hfree := hadapter.no_model_free last.spec (by rw [hevents]; simp)
  rw [htype] at hfree
  cases hfree

/-- **The reads of the no-model workflow are made at most once.**  Behind any executions,
of any runs, each cut short at any step: no slot of a run has been read twice; the journal
of every run rebuilds, to the fold of its recorded events; and a run that has succeeded
holds the four events of each of its three reads before its success, each of which was
made.  A report that is returned then agrees with that fold. -/
theorem no_model_reads_at_most_once (cfg : ExecutionConfig)
    (attempts : List (Attempt × List Moment)) :
    (∀ r i, (worldAfter cfg attempts).readCount r i ≤ 1) ∧
    (∀ r row, (worldAfter cfg attempts).journal.get? r = some row →
      ∃ chain, row.chain cfg.toJournalConfig r = .ok chain ∧
        row.events.map (·.event) = chain.events ∧
        reduceRunEvents .initial (chain.events.map (·.spec)) = .ok chain.projection ∧
        (chain.projection.state = .succeeded →
          NoModelLifecycle (chain.events.map (·.spec)) ∧ chain.Concluded r ∧
          ∀ i ∈ slotIndices, (worldAfter cfg attempts).readCount r i = 1)) ∧
    (∀ (a : Attempt) (script : List Moment) (report : Report) (w : World),
      (executeWikiHealthCheck cfg a).run script (worldAfter cfg attempts) =
        (.returned report, w) → report.status = .blocked ∨
      ∃ row chain, w.journal.get? a.plan.runId = some row ∧
        row.chain cfg.toJournalConfig a.plan.runId = .ok chain ∧
        reduceRunEvents .initial (row.events.map (·.event.spec)) = .ok chain.projection ∧
        chain.projection.state.isTerminal = true ∧
        (report.status = .succeeded ↔ chain.projection.state = .succeeded) ∧
        (report.readCount, report.totalBytes) = chain.completedSummary) := by
  have hinv := @inv_worldAfter cfg attempts
  refine ⟨fun r i => ?_, fun r row hrow => ?_, fun a script report w hrun => ?_⟩
  · cases hrow : (worldAfter cfg attempts).journal.get? r with
    | none => exact (hinv.absent r hrow i).le.trans (Nat.zero_le 1)
    | some row =>
      obtain ⟨chain, -, hrun⟩ := hinv.present r row hrow
      exact hrun.once i
  · obtain ⟨chain, hdurable, hrun⟩ := hinv.present r row hrow
    refine ⟨chain, hdurable.loads, hdurable.events, hdurable.replay, fun hs => ?_⟩
    have hconcluded := hrun.success hs
    refine ⟨hconcluded.lifecycle hdurable.replay hs, hconcluded, fun i hi => ?_⟩
    obtain ⟨before, last, hevents, htype, hcompleted⟩ := hconcluded
    refine hrun.completed i ?_
    rw [NoModelChain.phase, hevents, readPhase_concat, hcompleted i hi, nextPhase, htype]
    split <;> rfl
  · obtain ⟨-, hblocked | ⟨chain, hknows, hterminal, hstatus, hsummary⟩⟩ :=
      returned_reported hrun
    · exact .inl hblocked
    · obtain ⟨row, hrow, hdurable⟩ := hknows.row
      refine .inr ⟨row, chain, hrow, hdurable.loads, ?_, hterminal, hstatus, hsummary⟩
      have hreplay := hdurable.replay
      rwa [← hdurable.events, List.map_map] at hreplay

end Ecosystem.NoModel
