import Ecosystem.Runtime.EventChain
import Ecosystem.Lib.Table

/-!
# The journal of no-model runs

`NoModelJournal`: for each run a row with the digest of its plan, the head of its chain
and the events.  `begin` opens a run with five events, `append` adds one, and `_chain`
rebuilds the chain from the rows, which stand in the order of their numbers.

A producer stands for its capability token.  What an event carries beside the fields
that the chain checks is its `EventNote`.
-/

namespace Ecosystem.NoModel

open Ecosystem.Lib
open Ecosystem.Runtime

/-! ## Failures -/

/-- The exceptions that the execution tells apart: the four expected ones with a code,
an error of the operating system or of SQLite, and any other. -/
inductive Failure
  | policy (code : String)
  | broker (code : String)
  | store (code : String)
  | system
  | other

def stateInvalid : Failure := .store "ECO_NO_MODEL_STATE_INVALID"

def stateUnavailable : Failure := .store "ECO_NO_MODEL_STATE_UNAVAILABLE"

/-! ## Records -/

/-- The chain of a run refuses an empty identifier. -/
abbrev RunName := { s : String // s ≠ "" }

structure ScopeMarker where
  slot : String
  entryDigest : String

structure NoModelPlan where
  id : String
  runId : RunName
  scopeSlots : List ScopeMarker
  maxDurationSeconds : ℕ
  maxInputBytes : ℕ
  rest : String := ""

/-- `reasonCode` and `metrics.byteCount` of an event. -/
structure EventNote where
  reasonCode : Option String := none
  byteCount : Option ℕ := none

structure EventRow where
  sequence : ℕ
  event : RunEvent
  note : EventNote
  eventDigest : String
  eventMac : String

/-- The row of `no_model_runs` with its rows of `no_model_events`. -/
structure RunRow where
  planDigest : String
  planMac : String
  headDigest : Option String
  headMac : String
  events : List EventRow

abbrev Journal := Table RunName RunRow

/-- What `_mac` is taken of. -/
inductive MacDocument
  | plan (runId : RunName) (planDigest : String)
  | head (runId : RunName) (headDigest : Option String)
  | event (runId : RunName) (event : RunEvent) (note : EventNote)

structure JournalConfig where
  eventDigest : RunEvent → EventNote → String
  eventKey : RunName → ℕ → String
  planDigest : NoModelPlan → String
  mac : MacDocument → String

/-! ## The chain of a run -/

/-- `_producers`, with the producer as its own token. -/
def chainConfig (runId : RunName) : ChainConfig Producer where
  runId := runId.1
  runId_ne := runId.2
  issuer
    | .runtime => "no-model-runtime"
    | .policy => "no-model-policy"
    | .broker => "no-model-broker"
    | .adapter => "no-model-adapter-disabled"
  issuer_ne p := by cases p <;> decide
  token := id
  token_injective := Function.injective_id

structure NoModelChain extends RunEventChain where
  notes : List EventNote := []

def isReasonCode (code : String) : Bool :=
  let cs := dropFinalNewline code.toList
  "ECO_".toList.isPrefixOf cs && 5 ≤ cs.length &&
    cs.all fun c => c.isUpper || c.isDigit || c = '_'

section Operations

variable (cfg : JournalConfig)

/-- `RunEventChain.append` on an event with its note. -/
def NoModelChain.append (runId : RunName) (chain : NoModelChain) (event : RunEvent)
    (note : EventNote) : Except RuntimeStateError NoModelChain :=
  if note.reasonCode.all isReasonCode then do
    let next ← Runtime.append (chainConfig runId) (fun e => cfg.eventDigest e note)
      chain.toRunEventChain event event.metadata.producer
    return { toRunEventChain := next, notes := chain.notes ++ [note] }
  else .error ⟨"ECO_EVENT_INVALID", "Run event contract is invalid"⟩

/-- One turn of the loop of `_chain`. -/
def loadRow (runId : RunName) (chain : NoModelChain) (row : EventRow) :
    Except Failure NoModelChain :=
  if row.eventDigest = cfg.eventDigest row.event row.note ∧
      row.eventMac = cfg.mac (.event runId row.event row.note) then
    match chain.append cfg runId row.event row.note with
    | .ok next => .ok next
    | .error _ => .error stateInvalid
  else .error stateInvalid

def RunRow.chain (runId : RunName) (row : RunRow) : Except Failure NoModelChain := do
  let chain ← row.events.foldlM (loadRow cfg runId) {}
  if row.headMac = cfg.mac (.head runId row.headDigest) ∧
      row.headDigest = chain.headDigest then
    return chain
  else .error stateInvalid

/-! ## Appending -/

/-- The arguments of `append`. -/
structure Draft where
  type : EventType
  producer : Producer
  subjectId : Option String := none
  subjectDigest : Option String := none
  resultDigest : Option String := none
  reasonCode : Option String := none
  byteCount : Option ℕ := none
  scopeSlot : Option String := none
  entryDigest : Option String := none
  scopeEntries : Option (List ScopeMarker) := none
  contentDigest : Option String := none
  headingCheck : Option String := none

/-- `_OUTCOMES`; no other type is recorded. -/
def outcomeOf : EventType → Outcome
  | .runReceived => .pending
  | .runValidated => .success
  | .planCreated => .success
  | .noModelPolicyAllowed => .success
  | .noModelWorkflowStarted => .pending
  | .noModelReadRequested => .pending
  | .noModelReadAllowed => .success
  | .noModelReadStarted => .pending
  | .noModelReadDenied => .denied
  | .noModelReadCompleted => .success
  | .noModelReadFailed => .failed
  | .noModelWorkflowSucceeded => .success
  | .runFailed => .failed
  | _ => .pending

def ScopeMarker.entry (marker : ScopeMarker) : ScopeEntry :=
  .object (.text marker.slot) (.text marker.entryDigest)

def Draft.spec (d : Draft) : EventSpec where
  type := d.type
  outcome := outcomeOf d.type
  subjectId := .ofOption d.subjectId
  subjectDigest := .ofOption d.subjectDigest
  scopeSlot := .ofOption d.scopeSlot
  entryDigest := .ofOption d.entryDigest
  contentDigest := .ofOption d.contentDigest
  headingCheck := .ofOption d.headingCheck
  scopeEntries := d.scopeEntries.elim .notList fun entries =>
    .list (entries.map ScopeMarker.entry)
  resultDigest := .ofOption d.resultDigest

def Draft.note (d : Draft) : EventNote := ⟨d.reasonCode, d.byteCount⟩

/-- The event that `_append` composes. -/
def Draft.event (d : Draft) (runId : RunName) (chain : NoModelChain) (now : ℤ) :
    RunEvent where
  metadata :=
    { id := "nme-" ++
        String.ofList ((cfg.eventKey runId (chain.events.length + 1)).toList.take 40)
      runId := runId.1
      sequence := chain.events.length + 1
      occurredAt := now
      producer := d.producer
      producerIssuer := (chainConfig runId).issuer d.producer
      previousEventDigest := chain.headDigest }
  spec := d.spec

/-- The row that `_append` inserts. -/
def eventRow (runId : RunName) (event : RunEvent) (note : EventNote) : EventRow where
  sequence := event.metadata.sequence
  event := event
  note := note
  eventDigest := cfg.eventDigest event note
  eventMac := cfg.mac (.event runId event note)

/-- `_append`; a sequence number is a key. -/
def RunRow.append (runId : RunName) (row : RunRow) (chain : NoModelChain) (d : Draft)
    (now : ℤ) : Except Failure (RunRow × NoModelChain) :=
  let event := d.event cfg runId chain now
  match chain.append cfg runId event d.note with
  | .error _ => .error stateUnavailable
  | .ok next =>
    if row.events.any (·.sequence = event.metadata.sequence) then
      .error stateUnavailable
    else
      .ok ({ row with
        headDigest := next.headDigest
        headMac := cfg.mac (.head runId next.headDigest)
        events := row.events ++ [eventRow cfg runId event d.note] }, next)

/-- `append`, on a run that `begin` has found or opened. -/
def Journal.append (journal : Journal) (runId : RunName) (chain : NoModelChain)
    (d : Draft) (now : ℤ) : Except Failure (Journal × NoModelChain) :=
  match journal.get? runId with
  | none => .error stateUnavailable
  | some row => do
    let (row, chain) ← row.append cfg runId chain d now
    return (journal.modify runId fun _ => row, chain)

/-! ## Beginning a run -/

/-- The five events of a new run. -/
def NoModelPlan.opening (plan : NoModelPlan) : List Draft :=
  [{ type := .runReceived, producer := .runtime },
    { type := .runValidated, producer := .runtime },
    { type := .planCreated, producer := .runtime },
    { type := .noModelPolicyAllowed, producer := .policy, subjectId := some plan.id,
      subjectDigest := some (cfg.planDigest plan) },
    { type := .noModelWorkflowStarted, producer := .runtime,
      subjectDigest := some (cfg.planDigest plan),
      scopeEntries := some plan.scopeSlots }]

def NoModelPlan.newRow (plan : NoModelPlan) : RunRow where
  planDigest := cfg.planDigest plan
  planMac := cfg.mac (.plan plan.runId (cfg.planDigest plan))
  headDigest := none
  headMac := cfg.mac (.head plan.runId none)
  events := []

/-- `begin`; the answer tells whether the run was there. -/
def Journal.begin_ (journal : Journal) (plan : NoModelPlan) (now : ℤ) :
    Except Failure (Journal × NoModelChain × Bool) :=
  match journal.get? plan.runId with
  | some row =>
    if row.planDigest ≠ cfg.planDigest plan then
      .error (.store "ECO_NO_MODEL_REPLAY_CONFLICT")
    else if row.planMac ≠ cfg.mac (.plan plan.runId (cfg.planDigest plan)) then
      .error stateInvalid
    else do
      let chain ← row.chain cfg plan.runId
      return (journal, chain, true)
  | none => do
    let (row, chain) ← (plan.opening cfg).foldlM
      (fun (row, chain) d => row.append cfg plan.runId chain d now)
      (plan.newRow cfg, {})
    return (journal.insert plan.runId row, chain, false)

end Operations

/-! ## Queries -/

def phaseOf : EventType → Option Phase
  | .noModelReadRequested => some .requested
  | .noModelReadAllowed => some .allowed
  | .noModelReadStarted => some .started
  | .noModelReadDenied => some .denied
  | .noModelReadCompleted => some .completed
  | .noModelReadFailed => some .failed
  | _ => none

/-- One turn of the loop of `read_phase`. -/
def nextPhase (requestId : String) (phase : Option Phase) (event : RunEvent) :
    Option Phase :=
  if event.spec.subjectId = .text requestId then
    (phaseOf event.spec.type).orElse fun _ => phase
  else phase

def readPhase (events : List RunEvent) (requestId : String) : Option Phase :=
  events.foldl (nextPhase requestId) none

/-- `completed_summary`: the completed reads and their bytes. -/
def NoModelChain.completedSummary (chain : NoModelChain) : ℕ × ℕ :=
  let completed := (chain.events.zip chain.notes).filter fun e =>
    e.1.spec.type = .noModelReadCompleted
  (completed.length, (completed.map fun e => e.2.byteCount.getD 0).sum)

def FieldValue.text? : FieldValue → Option String
  | .text s => some s
  | _ => none

/-- `completed_observations`: the content digest and the heading check of each. -/
def NoModelChain.completedObservations (chain : NoModelChain) :
    List (Option String × Option String) :=
  (chain.events.filter fun e => e.spec.type = .noModelReadCompleted).map fun e =>
    (FieldValue.text? e.spec.contentDigest, FieldValue.text? e.spec.headingCheck)

/-! ## What is written is read -/

section Reading

variable {cfg : JournalConfig} {r : RunName} {row row' : RunRow}
  {chain chain' : NoModelChain} {d : Draft} {now : ℤ}

theorem events_of_append {event : RunEvent} {note : EventNote}
    (h : chain.append cfg r event note = .ok chain') :
    chain'.events = chain.events ++ [event] := by
  unfold NoModelChain.append at h
  split at h
  · obtain ⟨next, hnext, h⟩ := bind_eq_ok.mp h
    cases h
    exact (appended_of_append hnext).events
  · cases h

theorem loadRow_eq_ok {eventRow : EventRow}
    (h : loadRow cfg r chain eventRow = .ok chain') :
    chain.append cfg r eventRow.event eventRow.note = .ok chain' := by
  unfold loadRow at h
  split at h
  · split at h
    · next hnext =>
        cases h
        exact hnext
    · cases h
  · cases h

theorem RunRow.events_of_chain (h : row.chain cfg r = .ok chain) :
    row.events.map (·.event) = chain.events := by
  obtain ⟨loaded, hfold, hhead⟩ := bind_eq_ok.mp h
  split at hhead
  · cases hhead
    refine (foldlM_history_induction (fun rows (q : NoModelChain) =>
      q.events = rows.map (·.event)) rfl ?_ _ _ hfold).symm
    intro rows q eventRow next _ hq hload
    rw [events_of_append (loadRow_eq_ok hload), hq, List.map_append]
    rfl
  · cases hhead

theorem NoModelPlan.chain_newRow (plan : NoModelPlan) :
    (plan.newRow cfg).chain cfg plan.runId = .ok {} :=
  if_pos ⟨rfl, rfl⟩

/-- **What `_append` writes, `_chain` reads.** -/
theorem RunRow.chain_append (h : row.chain cfg r = .ok chain)
    (hok : row.append cfg r chain d now = .ok (row', chain')) :
    row'.chain cfg r = .ok chain' := by
  unfold RunRow.append at hok
  dsimp only at hok
  split at hok
  · cases hok
  next next hnext =>
  split at hok
  · cases hok
  cases hok
  obtain ⟨loaded, hfold, hhead⟩ := bind_eq_ok.mp h
  split at hhead
  · cases hhead
    refine bind_eq_ok.mpr ⟨chain', foldlM_concat_eq_ok.mpr ⟨chain, hfold, ?_⟩,
      if_pos ⟨rfl, rfl⟩⟩
    rw [loadRow, if_pos ⟨rfl, rfl⟩]
    dsimp only [eventRow]
    rw [hnext]
  · cases hhead

end Reading

end Ecosystem.NoModel
