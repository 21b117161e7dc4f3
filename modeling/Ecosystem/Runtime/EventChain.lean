import Ecosystem.Lib.HashChain
import Ecosystem.Runtime.Lifecycles

/-!
# The in-process event chain

`RunEventChain.append` of `state.py`: the checks that an event passes before the reducer
sees it.  Instants are microseconds; the semantic digest of an event is a parameter.  The
record contract is the part of `run-event.schema.json` that a typed event can violate.
-/

namespace Ecosystem.Runtime

open Ecosystem.Lib

/-! ## Events -/

inductive Producer
  | runtime | policy | broker | adapter
deriving DecidableEq

structure EventMetadata where
  id : String
  runId : String
  sequence : ℕ
  occurredAt : ℤ
  producer : Producer
  producerIssuer : String
  previousEventDigest : Option String

structure RunEvent where
  metadata : EventMetadata
  spec : EventSpec

/-! ## The record contract -/

/-- `$` also matches in front of a final newline. -/
def dropFinalNewline (cs : List Char) : List Char :=
  if cs.getLast? = some '\n' then cs.dropLast else cs

/-- `^[A-Za-z0-9][A-Za-z0-9._:-]{0,127}$`. -/
def matchesId (s : String) : Bool :=
  match dropFinalNewline s.toList with
  | [] => false
  | c :: cs =>
    c.isAlphanum && cs.length ≤ 127 &&
      cs.all fun c => c.isAlphanum || c ∈ ['.', '_', ':', '-']

/-- `^[a-f0-9]{64}$`. -/
def matchesSha256 (s : String) : Bool :=
  let cs := dropFinalNewline s.toList
  cs.length = 64 && cs.all fun c => c.isDigit || ('a' ≤ c && c ≤ 'f')

/-- An optional property whose value has to satisfy `check`. -/
def FieldValue.optional (check : String → Bool) : FieldValue → Bool
  | .absent => true
  | .text s => check s
  | .other => false

def scopeEntryValid : ScopeEntry → Bool
  | .object (.text slot) (.text digest) => slot ∈ scopeSlots && matchesSha256 digest
  | _ => false

def scopeEntriesValid : ScopeEntries → Bool
  | .notList => true
  | .list entries => entries.length = 3 && entries.all scopeEntryValid

/-- `validate_record` on a run event. -/
def contractValid (event : RunEvent) : Bool :=
  let m := event.metadata
  let s := event.spec
  matchesId m.id && matchesId m.runId && 1 ≤ m.sequence &&
    matchesId m.producerIssuer &&
    m.previousEventDigest.all matchesSha256 &&
    s.subjectId.optional matchesId &&
    s.subjectDigest.optional matchesSha256 &&
    s.scopeSlot.optional (· ∈ scopeSlots) &&
    s.entryDigest.optional matchesSha256 &&
    s.contentDigest.optional matchesSha256 &&
    s.headingCheck.optional (fun v => v = "pass" ∨ v = "fail") &&
    scopeEntriesValid s.scopeEntries &&
    s.resultDigest.optional matchesSha256

/-! ## Appending -/

def eventSemantics : EventType → Outcome × List Producer
  | .runReceived => (.pending, [.runtime])
  | .runValidated => (.success, [.runtime])
  | .planCreated => (.success, [.runtime])
  | .policyAllowed => (.success, [.policy])
  | .policyDenied => (.denied, [.policy])
  | .noModelPolicyAllowed => (.success, [.policy])
  | .noModelPolicyDenied => (.denied, [.policy])
  | .adapterStarted => (.pending, [.adapter])
  | .adapterCompleted => (.success, [.adapter])
  | .adapterFailed => (.failed, [.adapter])
  | .noModelWorkflowStarted => (.pending, [.runtime])
  | .noModelReadRequested => (.pending, [.runtime])
  | .noModelReadAllowed => (.success, [.policy])
  | .noModelReadStarted => (.pending, [.runtime])
  | .noModelReadDenied => (.denied, [.policy])
  | .noModelReadCompleted => (.success, [.broker])
  | .noModelReadFailed => (.failed, [.runtime, .broker])
  | .noModelWorkflowSucceeded => (.success, [.runtime])
  | .toolRequested => (.pending, [.runtime])
  | .toolAllowed => (.success, [.policy])
  | .toolDenied => (.denied, [.policy])
  | .toolCancelled => (.cancelled, [.runtime])
  | .toolCompleted => (.success, [.broker])
  | .toolFailed => (.failed, [.broker])
  | .artifactRecorded => (.success, [.runtime, .broker, .adapter])
  | .budgetExhausted => (.exhausted, [.runtime])
  | .runSucceeded => (.success, [.runtime])
  | .runFailed => (.failed, [.runtime])
  | .runCancelled => (.cancelled, [.runtime])
  | .runExhausted => (.exhausted, [.runtime])

/-- What `RunEventChain.__init__` accepts: a named run, and for every producer a
named issuer and a capability token of its own. -/
structure ChainConfig (τ : Type) where
  runId : String
  runId_ne : runId ≠ ""
  issuer : Producer → String
  issuer_ne : ∀ p, issuer p ≠ ""
  token : Producer → τ
  token_injective : Function.Injective token

structure RunEventChain where
  events : List RunEvent := []
  eventIds : Finset String := ∅
  headDigest : Option String := none
  occurredAt : Option ℤ := none
  projection : RunProjection := .initial

section Append

variable {τ : Type} [DecidableEq τ] (cfg : ChainConfig τ)
  (semanticDigest : RunEvent → String)

/-- The checks of `append` before the reducer, in the order of the source. -/
def appendCheck (chain : RunEventChain) (event : RunEvent) (capability : τ) :
    Option RuntimeStateError :=
  let m := event.metadata
  if !contractValid event then
    some ⟨"ECO_EVENT_INVALID", "Run event contract is invalid"⟩
  else if chain.projection.state.isTerminal then
    some ⟨"ECO_RUN_TERMINAL", "No event may be appended after a terminal run state"⟩
  else if m.runId ≠ cfg.runId then
    some ⟨"ECO_EVENT_RUN_MISMATCH", "Event belongs to another run"⟩
  else if m.id ∈ chain.eventIds then
    some ⟨"ECO_EVENT_ID_REUSED", "Event identifier was already used"⟩
  else if m.sequence ≠ chain.events.length + 1 then
    some ⟨"ECO_EVENT_SEQUENCE", "Event sequence is not contiguous"⟩
  else if m.previousEventDigest ≠ chain.headDigest then
    some ⟨"ECO_EVENT_CHAIN_MISMATCH", "Event does not bind to the current event-chain head"⟩
  else if chain.occurredAt.any (fun last => m.occurredAt < last) then
    some ⟨"ECO_EVENT_TIME_REVERSED", "Event time moved backwards"⟩
  else if event.spec.outcome ≠ (eventSemantics event.spec.type).1 then
    some ⟨"ECO_EVENT_OUTCOME", "Event outcome is invalid for its type"⟩
  else if m.producer ∉ (eventSemantics event.spec.type).2 then
    some ⟨"ECO_EVENT_PRODUCER", "Producer cannot emit this event type"⟩
  else if capability ≠ cfg.token m.producer ∨
      m.producerIssuer ≠ cfg.issuer m.producer then
    some ⟨"ECO_EVENT_PRODUCER_UNTRUSTED",
      "Event producer does not hold the configured runtime capability"⟩
  else
    none

/-- Validate and atomically append; leave the chain unchanged on failure. -/
def append (chain : RunEventChain) (event : RunEvent) (capability : τ) :
    Except RuntimeStateError RunEventChain :=
  match appendCheck cfg chain event capability with
  | some err => .error err
  | none =>
    match reduceRunEvent chain.projection event.spec with
    | .error err => .error err
    | .ok projection =>
      .ok {
        events := chain.events ++ [event]
        eventIds := insert event.metadata.id chain.eventIds
        headDigest := some (semanticDigest event)
        occurredAt := some event.metadata.occurredAt
        projection := projection }

/-- One call of `append`, raising or not. -/
def callAppend (chain : RunEventChain) (call : RunEvent × τ) : RunEventChain :=
  match append cfg semanticDigest chain call.1 call.2 with
  | .ok chain' => chain'
  | .error _ => chain

def chainAfter (calls : List (RunEvent × τ)) : RunEventChain :=
  calls.foldl (callAppend cfg semanticDigest) {}

/-! ## Integrity of the chain -/

/-- What an accepted append passed, and what it leaves. -/
structure Appended (chain : RunEventChain) (event : RunEvent)
    (chain' : RunEventChain) : Prop where
  live : chain.projection.state.isTerminal = false
  run : event.metadata.runId = cfg.runId
  fresh : event.metadata.id ∉ chain.eventIds
  sequence : event.metadata.sequence = chain.events.length + 1
  previous : event.metadata.previousEventDigest = chain.headDigest
  time : ∀ last, chain.occurredAt = some last → last ≤ event.metadata.occurredAt
  reduced : reduceRunEvent chain.projection event.spec = .ok chain'.projection
  events : chain'.events = chain.events ++ [event]
  eventIds : chain'.eventIds = insert event.metadata.id chain.eventIds
  headDigest : chain'.headDigest = some (semanticDigest event)
  occurredAt : chain'.occurredAt = some event.metadata.occurredAt

variable {cfg semanticDigest}

theorem appended_of_append {chain chain' : RunEventChain} {event : RunEvent}
    {capability : τ} (h : append cfg semanticDigest chain event capability = .ok chain') :
    Appended cfg semanticDigest chain event chain' := by
  unfold append at h
  split at h
  · cases h
  next hcheck =>
  split at h
  · cases h
  next projection hreduce =>
  cases h
  simp only [appendCheck, ite_eq_iff, reduceCtorEq, and_false, false_or, and_true] at hcheck
  obtain ⟨-, hlive, hrun, hfresh, hseq, hprev, htime, -⟩ := hcheck
  exact
    { live := by simpa using hlive
      run := not_not.mp hrun
      fresh := hfresh
      sequence := not_not.mp hseq
      previous := not_not.mp hprev
      time := by
        intro last hlast
        simpa [hlast] using htime
      reduced := hreduce
      events := rfl
      eventIds := rfl
      headDigest := rfl
      occurredAt := rfl }

/-- The integrity of a chain: it is the replay of its events, every event names
its position and its predecessor, identifiers are used once, time does not go
back, and no event follows a terminal one. -/
structure ChainIntegrity (cfg : ChainConfig τ) (semanticDigest : RunEvent → String)
    (chain : RunEventChain) : Prop where
  replay : reduceRunEvents .initial (chain.events.map (·.spec)) = .ok chain.projection
  chained : Chained semanticDigest (·.metadata.sequence)
    (·.metadata.previousEventDigest) chain.events
  ids_nodup : (chain.events.map (·.metadata.id)).Nodup
  times : (chain.events.map (·.metadata.occurredAt)).Pairwise (· ≤ ·)
  one_run : ∀ e ∈ chain.events, e.metadata.runId = cfg.runId
  terminal_last : ForallSplit (fun before _ => ∃ q,
    reduceRunEvents .initial (before.map (·.spec)) = .ok q ∧
      q.state.isTerminal = false) chain.events

structure ChainBooks (semanticDigest : RunEvent → String)
    (chain : RunEventChain) : Prop where
  ids : ∀ id, id ∈ chain.eventIds ↔ id ∈ chain.events.map (·.metadata.id)
  head : chain.headDigest = chain.events.getLast?.map semanticDigest
  time : ∀ e ∈ chain.events, ∃ last, chain.occurredAt = some last ∧
    e.metadata.occurredAt ≤ last

omit [DecidableEq τ] in
theorem chainIntegrity_step {chain chain' : RunEventChain} {event : RunEvent}
    (hi : ChainIntegrity cfg semanticDigest chain) (hb : ChainBooks semanticDigest chain)
    (h : Appended cfg semanticDigest chain event chain') :
    ChainIntegrity cfg semanticDigest chain' ∧ ChainBooks semanticDigest chain' := by
  refine ⟨⟨?_, ?_, ?_, ?_, ?_, ?_⟩, ⟨?_, ?_, ?_⟩⟩
  · rw [h.events, List.map_append]
    exact foldlM_concat_eq_ok.mpr ⟨chain.projection, hi.replay, h.reduced⟩
  · rw [h.events, Chained, forallSplit_concat]
    exact ⟨hi.chained, h.sequence, h.previous.trans hb.head⟩
  · rw [h.events, List.map_append, List.nodup_append]
    refine ⟨hi.ids_nodup, by simp, ?_⟩
    intro a ha b hb' hab
    obtain rfl : b = event.metadata.id := by simpa using hb'
    exact h.fresh ((hb.ids _).mpr (hab ▸ ha))
  · rw [h.events, List.map_append, List.pairwise_append]
    refine ⟨hi.times, by simp, ?_⟩
    intro a ha b hb'
    obtain rfl : b = event.metadata.occurredAt := by simpa using hb'
    obtain ⟨e, he, rfl⟩ := List.mem_map.mp ha
    obtain ⟨last, hlast, hle⟩ := hb.time e he
    exact hle.trans (h.time last hlast)
  · rw [h.events]
    intro e he
    rcases List.mem_append.mp he with he | he
    · exact hi.one_run e he
    · rw [List.mem_singleton.mp he]
      exact h.run
  · rw [h.events, forallSplit_concat]
    exact ⟨hi.terminal_last, chain.projection, hi.replay, h.live⟩
  · intro id
    rw [h.eventIds, h.events, Finset.mem_insert, hb.ids]
    simp [or_comm]
  · rw [h.headDigest, h.events]
    simp
  · rw [h.events, h.occurredAt]
    intro e he
    refine ⟨event.metadata.occurredAt, rfl, ?_⟩
    rcases List.mem_append.mp he with he | he
    · obtain ⟨last, hlast, hle⟩ := hb.time e he
      exact hle.trans (h.time last hlast)
    · rw [List.mem_singleton.mp he]

theorem chainIntegrity_after (calls : List (RunEvent × τ)) :
    ChainIntegrity cfg semanticDigest (chainAfter cfg semanticDigest calls) ∧
      ChainBooks semanticDigest (chainAfter cfg semanticDigest calls) := by
  induction calls using List.reverseRecOn with
  | nil =>
    exact ⟨⟨rfl, forallSplit_nil, List.nodup_nil, List.Pairwise.nil, by simp [chainAfter],
      forallSplit_nil⟩, ⟨by simp [chainAfter], rfl, by simp [chainAfter]⟩⟩
  | append_singleton calls call ih =>
    rw [chainAfter, List.foldl_append]
    change ChainIntegrity cfg semanticDigest (callAppend cfg semanticDigest
        (chainAfter cfg semanticDigest calls) call) ∧
      ChainBooks semanticDigest (callAppend cfg semanticDigest
        (chainAfter cfg semanticDigest calls) call)
    unfold callAppend
    split
    · next chain' happend =>
        exact chainIntegrity_step ih.1 ih.2 (appended_of_append happend)
    · exact ih

variable (cfg semanticDigest)

/-- **Run success is sound.**  Every sequence of events that the reducer accepts
from the initial projection and that ends in `SUCCEEDED` is a complete adapter
or no-model lifecycle.  Every chain that any sequence of `append` calls leaves,
with raising calls among them, is such a replay of its events, and its events
are numbered, linked, distinct, ordered in time and closed by the terminal one. -/
theorem run_success_sound :
    (∀ es p, reduceRunEvents .initial es = .ok p → p.state = .succeeded →
      AdapterLifecycle es ∨ NoModelLifecycle es) ∧ (∀ calls : List (RunEvent × τ),
      ChainIntegrity cfg semanticDigest (chainAfter cfg semanticDigest calls) ∧
      ((chainAfter cfg semanticDigest calls).projection.state = .succeeded →
        AdapterLifecycle ((chainAfter cfg semanticDigest calls).events.map (·.spec)) ∨
        NoModelLifecycle ((chainAfter cfg semanticDigest calls).events.map (·.spec)))) := by
  refine ⟨fun es p => lifecycle_of_reduce_succeeded, ?_⟩
  intro calls
  have hi := (@chainIntegrity_after _ _ cfg semanticDigest calls).1
  exact ⟨hi, lifecycle_of_reduce_succeeded hi.replay⟩

/-- Without a tool, the adapter lifecycle succeeds. -/
example : (reduceRunEvents .initial
    [{ type := .runReceived, outcome := .pending }, { type := .runValidated, outcome := .success },
      { type := .planCreated, outcome := .success },
      { type := .policyAllowed, outcome := .success },
      { type := .adapterStarted, outcome := .pending, subjectId := .text "adapter" },
      { type := .adapterCompleted, outcome := .success, subjectId := .text "adapter" },
      { type := .runSucceeded, outcome := .success }]).toOption.map (·.state) =
    some .succeeded := by decide

/-- **A head digest pins the whole history.**  Two chains, of whatever calls under whatever
issuers and capabilities, have different heads, or the same events and projection, or
two events of theirs have one digest. -/
theorem head_pins_history (cfg' : ChainConfig τ) (calls calls' : List (RunEvent × τ)) :
    let chain := chainAfter cfg semanticDigest calls
    let chain' := chainAfter cfg' semanticDigest calls'
    chain.headDigest ≠ chain'.headDigest ∨
      (chain.events = chain'.events ∧ chain.projection = chain'.projection) ∨
      ∃ e ∈ chain.events, ∃ e' ∈ chain'.events,
        e ≠ e' ∧ semanticDigest e = semanticDigest e' := by
  intro chain chain'
  obtain ⟨hi, hb⟩ := @chainIntegrity_after _ _ cfg semanticDigest calls
  obtain ⟨hi', hb'⟩ := @chainIntegrity_after _ _ cfg' semanticDigest calls'
  by_cases hhead : chain.headDigest = chain'.headDigest
  · refine .inr (or_iff_not_imp_right.mpr fun hcollide => ?_)
    have heq : chain.events = chain'.events := by
      apply hi.chained.eq_of_getLast _ hi'.chained (hb.head.symm.trans (hhead.trans hb'.head))
      intro e he e' he' hdigest
      by_contra hne
      exact hcollide ⟨e, he, e', he', hne, hdigest⟩
    have hreplay := hi.replay
    rw [heq] at hreplay
    exact ⟨heq, Except.ok.inj (hreplay.symm.trans hi'.replay)⟩
  · exact .inl hhead

end Append

end Ecosystem.Runtime
