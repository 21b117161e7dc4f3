import Ecosystem.Lib.Dict
import Ecosystem.Lib.Fold
import Ecosystem.Lib.HashChain
import Ecosystem.Loops.Contracts

/-!
# The two loop journals

`InMemoryLoopJournal` and `SQLiteLoopJournal` of `eco_loops/engine.py`.  A call is one
atomic step, but for the SQLite `transition`, which commits and then reads the row back
on a new connection: the atomic part answers `reload`, and the load is a step of its own.
-/

namespace Ecosystem.Loops

open Ecosystem.Lib

/-! ## Transitions as both journals record them -/

structure LoopEvent where
  runId : String
  sequence : ℕ
  source : LoopState
  target : LoopState
  definitionDigest : String
  reasonCode : String
  evidenceDigest : Option String
  previousEventDigest : Option String
  usage : LoopUsage
  progressDigest : Option String
  stagnantIterations : ℤ

/-- The arguments of `transition`. -/
structure TransitionRequest where
  expected : LoopCheckpoint
  target : LoopState
  usage : Option LoopUsage := none
  progressDigest : Option String := none
  stagnantIterations : Option ℤ := none
  reasonCode : String
  evidenceDigest : Option String := none

/-- What the atomic part of `transition` returns: a checkpoint, or the order to
read the row again. -/
inductive TransitionAnswer
  | settled (checkpoint : LoopCheckpoint)
  | reload

namespace TransitionRequest

/-- `usage or current.usage`. -/
def candidateUsage (req : TransitionRequest) : LoopUsage :=
  req.usage.getD req.expected.usage

def event (req : TransitionRequest) : LoopEvent where
  runId := req.expected.runId
  sequence := req.expected.sequence + 1
  source := req.expected.state
  target := req.target
  definitionDigest := req.expected.definitionDigest
  reasonCode := req.reasonCode
  evidenceDigest := req.evidenceDigest
  previousEventDigest := req.expected.headDigest
  usage := req.candidateUsage
  progressDigest := req.progressDigest <|> req.expected.lastProgressDigest
  stagnantIterations :=
    req.stagnantIterations.getD req.expected.stagnantIterations

def next (semanticDigest : LoopEvent → String) (req : TransitionRequest) :
    LoopCheckpoint where
  runId := req.expected.runId
  definitionDigest := req.expected.definitionDigest
  state := req.target
  sequence := req.expected.sequence + 1
  usage := req.candidateUsage
  lastProgressDigest := req.progressDigest <|> req.expected.lastProgressDigest
  stagnantIterations :=
    req.stagnantIterations.getD req.expected.stagnantIterations
  terminalReason := if req.target.isTerminal then some req.reasonCode else none
  headDigest := some (semanticDigest req.event)

/-- The checks that both journals run once the stored checkpoint is the
expected one. -/
def refused (req : TransitionRequest) : Option LoopError :=
  if !transitionAllowed req.expected.state req.target then
    some (.engine "ECO_LOOP_TRANSITION_DENIED" "loop state transition is closed")
  else if !"ECO_".toList.isPrefixOf req.reasonCode.toList then
    some (.engine "ECO_LOOP_EVENT_INVALID" "event reason code is unsafe")
  else if !req.evidenceDigest.all matchesDigest then
    some (.engine "ECO_LOOP_EVENT_INVALID" "event evidence digest is invalid")
  else if ¬ req.expected.usage ≤ req.candidateUsage then
    some (.engine "ECO_LOOP_USAGE_REVERSED" "loop usage cannot decrease")
  else
    none

end TransitionRequest

def runUnknown : LoopError :=
  .engine "ECO_LOOP_RUN_UNKNOWN" "loop run does not exist"

def definitionDrift : LoopError :=
  .engine "ECO_LOOP_DEFINITION_DRIFT" "run objective or gate changed"

def checkpointConflict : LoopError :=
  .engine "ECO_LOOP_CHECKPOINT_CONFLICT" "loop checkpoint changed concurrently"

section Journals

variable (definitionDigest : LoopDefinition → String)
  (semanticDigest : LoopEvent → String)

/-- The checkpoint that `create` writes for an unknown run. -/
def initialCheckpoint (runId : String) (definition : LoopDefinition) :
    LoopCheckpoint where
  runId := runId
  definitionDigest := definitionDigest definition
  state := .new
  sequence := 0
  usage := {}

/-! ## The in-memory journal -/

structure InMemoryLoopJournal where
  checkpoints : Dict String LoopCheckpoint := ∅
  events : Dict String (List LoopEvent) := ∅
  cancelled : Finset String := ∅
  killSwitch : Bool := false

namespace InMemoryLoopJournal

def create (j : InMemoryLoopJournal) (runId : String)
    (definition : LoopDefinition) :
    Except LoopError (LoopCheckpoint × InMemoryLoopJournal) :=
  let initial := initialCheckpoint definitionDigest runId definition
  match initial.invalid with
  | some err => .error err
  | none =>
    match j.checkpoints.lookup runId with
    | some existing =>
      if existing.definitionDigest ≠ definitionDigest definition then
        .error definitionDrift
      else
        .ok (existing, j)
    | none =>
      .ok (initial, { j with
        checkpoints := j.checkpoints.insert runId initial
        events := j.events.insert runId [] })

def load (j : InMemoryLoopJournal) (runId : String) :
    Except LoopError LoopCheckpoint :=
  match j.checkpoints.lookup runId with
  | some cp => .ok cp
  | none => .error runUnknown

/-- `events`; the name of the field is taken. -/
def eventsOf (j : InMemoryLoopJournal) (runId : String) :
    Except LoopError (List LoopEvent) :=
  match j.events.lookup runId with
  | some events => .ok events
  | none => .error runUnknown

def requestCancel (j : InMemoryLoopJournal) (runId : String) :
    Except LoopError InMemoryLoopJournal :=
  if runId ∉ j.checkpoints then .error runUnknown
  else .ok { j with cancelled := insert runId j.cancelled }

def setKillSwitch (j : InMemoryLoopJournal) (enabled : Bool) :
    InMemoryLoopJournal :=
  { j with killSwitch := enabled }

def stopReason (j : InMemoryLoopJournal) (runId : String) :
    Except LoopError (Option String) :=
  if j.killSwitch then .ok (some "ECO_LOOP_KILL_SWITCH")
  else if runId ∈ j.cancelled then .ok (some "ECO_LOOP_CANCELLED")
  else .ok none

def transition (j : InMemoryLoopJournal) (req : TransitionRequest) :
    Except LoopError (TransitionAnswer × InMemoryLoopJournal) :=
  match j.checkpoints.lookup req.expected.runId with
  | none => .error runUnknown
  | some current =>
    if current ≠ req.expected then
      if current.state.isTerminal then .ok (.settled current, j)
      else .error checkpointConflict
    else
      match req.refused with
      | some err => .error err
      | none =>
        -- the record is built, and checked, before anything is written
        match (req.next semanticDigest).invalid with
        | some err => .error err
        | none =>
          .ok (.settled (req.next semanticDigest), { j with
            checkpoints := j.checkpoints.insert req.expected.runId
              (req.next semanticDigest)
            events := j.events.insert req.expected.runId
              ((j.events.lookup req.expected.runId).getD [] ++ [req.event]) })

end InMemoryLoopJournal

/-! ## The SQLite journal -/

/-- A row of `loop_runs`; the columns of the checkpoint are not yet checked. -/
structure LoopRunRow where
  checkpoint : LoopCheckpoint
  cancelled : Bool := false

/-- A row of `loop_events`. -/
structure LoopEventRow where
  sequence : ℕ
  event : LoopEvent
  eventDigest : String

/-- The tables, with the foreign key of `loop_events` that SQLite enforces. -/
structure SQLiteLoopJournal where
  runs : Dict String LoopRunRow := ∅
  events : Dict String (List LoopEventRow) := ∅
  killSwitch : Bool := false
  foreign_key : ∀ runId, runId ∈ events → runId ∈ runs

namespace SQLiteLoopJournal

def empty : SQLiteLoopJournal where
  foreign_key := fun _ h => absurd h Finmap.notMem_empty

def writeRun (j : SQLiteLoopJournal) (runId : String) (row : LoopRunRow) :
    SQLiteLoopJournal where
  runs := j.runs.insert runId row
  events := j.events
  killSwitch := j.killSwitch
  foreign_key := fun r hr => Finmap.mem_insert.mpr (.inr (j.foreign_key r hr))

def writeEvent (j : SQLiteLoopJournal) (runId : String) (row : LoopRunRow)
    (eventRows : List LoopEventRow) : SQLiteLoopJournal where
  runs := j.runs.insert runId row
  events := j.events.insert runId eventRows
  killSwitch := j.killSwitch
  foreign_key := fun r hr => Finmap.mem_insert.mpr
    ((Finmap.mem_insert.mp hr).imp id (j.foreign_key r))

/-- `_checkpoint`: build the record from the row. -/
def checkpoint (row : LoopRunRow) : Except LoopError LoopCheckpoint :=
  match row.checkpoint.invalid with
  | some err => .error err
  | none => .ok row.checkpoint

def journalCorrupt (message : String) : LoopError :=
  .engine "ECO_LOOP_JOURNAL_CORRUPT" message

/-- One turn of the loop of `_verify`: the digest and state that the row has to
continue, and what it leaves for the next one. -/
def verifyRow (cp : LoopCheckpoint)
    (acc : ℕ × Option String × LoopState × Option LoopEvent)
    (row : LoopEventRow) :
    Except LoopError (ℕ × Option String × LoopState × Option LoopEvent) :=
  let (expectedSequence, previousDigest, previousState, _) := acc
  if row.sequence = expectedSequence ∧ row.event.sequence = expectedSequence ∧
      row.event.runId = cp.runId ∧
      row.event.definitionDigest = cp.definitionDigest ∧
      row.event.previousEventDigest = previousDigest ∧
      row.event.source = previousState ∧
      semanticDigest row.event = row.eventDigest then
    .ok (expectedSequence + 1, some row.eventDigest, row.event.target, some row.event)
  else
    .error (journalCorrupt "event chain verification failed")

def verifyHead (cp : LoopCheckpoint) (previousDigest : Option String)
    (last : LoopEvent) : Bool :=
  cp.headDigest = previousDigest && cp.state = last.target &&
    last.usage = cp.usage && last.progressDigest = cp.lastProgressDigest &&
    last.stagnantIterations = cp.stagnantIterations &&
    (!cp.state.isTerminal || cp.terminalReason = some last.reasonCode)

def verify (rows : List LoopEventRow) (cp : LoopCheckpoint) :
    Except LoopError Unit :=
  if rows.length ≠ cp.sequence then
    .error (journalCorrupt "event count does not match checkpoint")
  else
    match rows.foldlM (verifyRow semanticDigest cp) (1, none, .new, none) with
    | .error err => .error err
    | .ok (_, _, _, none) =>
      if cp.headDigest ≠ none ∨ cp.state ≠ .new then
        .error (journalCorrupt "empty checkpoint is inconsistent")
      else
        .ok ()
    | .ok (_, previousDigest, _, some last) =>
      if verifyHead cp previousDigest last then .ok ()
      else .error (journalCorrupt "checkpoint does not match event head")

/-- The rows of `loop_events` of one run, in the order of their sequence. -/
def eventRows (j : SQLiteLoopJournal) (runId : String) : List LoopEventRow :=
  (j.events.lookup runId).getD []

def read (j : SQLiteLoopJournal) (runId : String) :
    Except LoopError LoopCheckpoint := do
  match j.runs.lookup runId with
  | none => .error runUnknown
  | some row =>
    let cp ← checkpoint row
    verify semanticDigest (j.eventRows runId) cp
    .ok cp

def create (j : SQLiteLoopJournal) (runId : String)
    (definition : LoopDefinition) :
    Except LoopError (LoopCheckpoint × SQLiteLoopJournal) :=
  let initial := initialCheckpoint definitionDigest runId definition
  match initial.invalid with
  | some err => .error err
  | none =>
    match j.runs.lookup runId with
    | none =>
      .ok (initial, j.writeRun runId { checkpoint := initial })
    | some _ =>
      match j.read semanticDigest runId with
      | .error err => .error err
      | .ok existing =>
        if existing.definitionDigest ≠ definitionDigest definition then
          .error definitionDrift
        else
          .ok (existing, j)

def load (j : SQLiteLoopJournal) (runId : String) :
    Except LoopError LoopCheckpoint :=
  j.read semanticDigest runId

/-- `events`: the stored texts are what `canonical_json` wrote, so they load as
the events themselves. -/
def eventsOf (j : SQLiteLoopJournal) (runId : String) :
    Except LoopError (List LoopEvent) := do
  let _ ← j.read semanticDigest runId
  return (j.eventRows runId).map (·.event)

def requestCancel (j : SQLiteLoopJournal) (runId : String) :
    Except LoopError SQLiteLoopJournal :=
  match j.runs.lookup runId with
  | none => .error runUnknown
  | some row => .ok (j.writeRun runId { row with cancelled := true })

def setKillSwitch (j : SQLiteLoopJournal) (enabled : Bool) : SQLiteLoopJournal :=
  { j with killSwitch := enabled }

def stopReason (j : SQLiteLoopJournal) (runId : String) :
    Except LoopError (Option String) :=
  match j.runs.lookup runId with
  | none => .error runUnknown
  | some row =>
    if j.killSwitch then .ok (some "ECO_LOOP_KILL_SWITCH")
    else if row.cancelled then .ok (some "ECO_LOOP_CANCELLED")
    else .ok none

/-- The integers that SQLite can bind. -/
def bindable (n : ℤ) : Bool := -2 ^ 63 ≤ n && n < 2 ^ 63

/-- The integer columns that `transition` writes. -/
def columnsBindable (cp : LoopCheckpoint) : Bool :=
  bindable cp.sequence && bindable cp.usage.attempts &&
    bindable cp.usage.iterations && bindable cp.usage.tokens &&
    bindable cp.usage.costMicrousd && bindable cp.usage.storageBytes &&
    bindable cp.stagnantIterations

/-- The transaction of `transition`, up to its commit. -/
def transition (j : SQLiteLoopJournal) (req : TransitionRequest) :
    Except LoopError (TransitionAnswer × SQLiteLoopJournal) :=
  match j.runs.lookup req.expected.runId, j.read semanticDigest req.expected.runId with
  | some row, .ok current =>
    if current ≠ req.expected then
      if current.state.isTerminal then .ok (.settled current, j)
      else .error checkpointConflict
    else
      match req.refused with
      | some err => .error err
      | none =>
        if !columnsBindable (req.next semanticDigest) then
          .error .overflow
        else
          .ok (.reload, j.writeEvent req.expected.runId
            { row with checkpoint := req.next semanticDigest }
            (j.eventRows req.expected.runId ++ [⟨req.expected.sequence + 1, req.event,
                semanticDigest req.event⟩]))
  | _, .error err => .error err
  | none, _ => .error runUnknown

end SQLiteLoopJournal

end Journals

end Ecosystem.Loops
