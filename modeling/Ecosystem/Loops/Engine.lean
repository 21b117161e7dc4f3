import Ecosystem.Loops.Lawful

/-!
# The bounded loop engine as a step machine

`start`, `recover` and `run` of `BoundedLoopEngine`, cut at every point where they leave
the engine.  `Pc` is what the engine is about to do, with the local variables that it
still reads.  Any number of engines share a journal, and a system step lets one of them
do its next thing.  The clock, the executor and the gate may answer anything.
-/

namespace Ecosystem.Loops

open Ecosystem.Lib

/-! ## The surroundings of an engine -/

inductive ClockAnswer
  | instant (now : ℤ)
  | naive
  | raises

inductive ExecutorAnswer
  | contractError
  | exception
  | notAttemptResult
  | result (attempt : AttemptResult)

inductive GateAnswer
  | contractError
  | exception
  | notGateOutcome
  | outcome (outcome : GateOutcome)

/-- The answers waiting for the engine; a step reads at most one of them. -/
structure Surroundings where
  clock : ClockAnswer := .raises
  executor : ExecutorAnswer := .exception
  gate : GateAnswer := .exception

/-! ## Local state -/

/-- What the engine does with the checkpoint that a journal call returns. -/
inductive Then
  | finish
  | loop
  | execute
  | gate (attempt : AttemptResult)
deriving DecidableEq

inductive Pc
  | idle
  | done (result : Except LoopError LoopCheckpoint)
  | create (k : Then)
  | startStop (cp : LoopCheckpoint) (k : Then)
  | budgetStop (cp : LoopCheckpoint)
  | budgetClock (cp : LoopCheckpoint)
  | transition (req : TransitionRequest) (k : Then)
  | reload (req : TransitionRequest) (k : Then)
  | execute (cp : LoopCheckpoint)
  | attemptStop (cp : LoopCheckpoint) (attempt : AttemptResult)
  | attemptClock (cp : LoopCheckpoint) (attempt : AttemptResult)
  | gate (cp : LoopCheckpoint) (attempt : AttemptResult)
  | gateStop (cp : LoopCheckpoint) (outcome : GateOutcome)
  | gateClock (cp : LoopCheckpoint) (outcome : GateOutcome)
  | recoverLoad

/-- One thread of an engine: the run of the current call, the next thing to do,
and how often this call has invoked the executor. -/
structure Engine where
  runId : String := ""
  pc : Pc := .idle
  calls : ℕ := 0

def raised (code message : String) : Pc := .done (.error (.engine code message))

/-! ## The requests of the engine -/

/-- `_terminal`. -/
def terminalRequest (cp : LoopCheckpoint) (state : LoopState) (reason : String) :
    TransitionRequest :=
  { expected := cp, target := state, reasonCode := reason }

def readyRequest (cp : LoopCheckpoint) : TransitionRequest :=
  { expected := cp, target := .ready, reasonCode := "ECO_LOOP_READY" }

def reservedUsage (budget : LoopBudget) (usage : LoopUsage) : LoopUsage where
  attempts := usage.attempts + 1
  iterations := usage.iterations
  tokens := usage.tokens + budget.reserveTokensPerAttempt
  costMicrousd := usage.costMicrousd + budget.reserveCostMicrousdPerAttempt
  storageBytes := usage.storageBytes + budget.reserveStorageBytesPerAttempt

def reserveRequest (budget : LoopBudget) (cp : LoopCheckpoint) :
    TransitionRequest :=
  { expected := cp
    target := .running
    usage := some (reservedUsage budget cp.usage)
    reasonCode := "ECO_LOOP_ATTEMPT_RESERVED" }

def retryRequest (cp : LoopCheckpoint) (attempt : AttemptResult) :
    TransitionRequest :=
  { expected := cp
    target := .retryWait
    reasonCode := attempt.reasonCode
    evidenceDigest := some attempt.evidenceDigest }

def gatingRequest (cp : LoopCheckpoint) (attempt : AttemptResult) :
    TransitionRequest :=
  { expected := cp
    target := .gating
    usage := some { cp.usage with iterations := cp.usage.iterations + 1 }
    reasonCode := "ECO_LOOP_GATE_STARTED"
    evidenceDigest := some attempt.evidenceDigest }

def nextStagnant (cp : LoopCheckpoint) (outcome : GateOutcome) : ℤ :=
  if cp.lastProgressDigest = some outcome.progressDigest then
    cp.stagnantIterations + 1
  else 0

def verdictRequest (cp : LoopCheckpoint) (outcome : GateOutcome)
    (target : LoopState) (reason : String) : TransitionRequest :=
  { expected := cp
    target := target
    progressDigest := some outcome.progressDigest
    stagnantIterations := some (nextStagnant cp outcome)
    reasonCode := reason
    evidenceDigest := some outcome.evidenceDigest }

/-! ## The decisions of the engine -/

/-- The head of the `while` loop of `run`. -/
def loopHead (cp : LoopCheckpoint) : Pc :=
  if cp.state.isTerminal then .done (.ok cp)
  else if cp.state = .ready ∨ cp.state = .retryWait then .budgetStop cp
  else raised "ECO_LOOP_RECOVERY_AMBIGUOUS"
    "checkpoint cannot be automatically resumed"

def resume (k : Then) (cp : LoopCheckpoint) : Pc :=
  match k with
  | .finish => .done (.ok cp)
  | .loop => loopHead cp
  | .execute => .execute cp
  | .gate attempt => .gate cp attempt

/-- What follows the atomic part of a transition. -/
def afterTransition (req : TransitionRequest) (k : Then) : TransitionAnswer → Pc
  | .settled cp => resume k cp
  | .reload => .reload req k

/-- The checks of `_stop_or_budget` behind the clock, then the reservation. -/
def budgetDecision (budget : LoopBudget) (cp : LoopCheckpoint) (now : ℤ) : Pc :=
  if now ≥ budget.deadline then
    .transition (terminalRequest cp .exhausted "ECO_LOOP_DEADLINE_EXHAUSTED")
      .finish
  else if cp.usage.attempts ≥ budget.maxAttempts then
    .transition (terminalRequest cp .exhausted "ECO_LOOP_ATTEMPTS_EXHAUSTED")
      .finish
  else if cp.usage.iterations ≥ budget.maxIterations then
    .transition (terminalRequest cp .exhausted "ECO_LOOP_ITERATIONS_EXHAUSTED")
      .finish
  else if cp.usage.tokens + budget.reserveTokensPerAttempt >
      budget.maxTokens then
    .transition (terminalRequest cp .exhausted "ECO_LOOP_TOKENS_EXHAUSTED")
      .finish
  else if cp.usage.costMicrousd + budget.reserveCostMicrousdPerAttempt >
      budget.maxCostMicrousd then
    .transition (terminalRequest cp .exhausted "ECO_LOOP_COST_EXHAUSTED")
      .finish
  else if cp.usage.storageBytes + budget.reserveStorageBytesPerAttempt >
      budget.maxStorageBytes then
    .transition (terminalRequest cp .exhausted "ECO_LOOP_STORAGE_EXHAUSTED")
      .finish
  else
    .transition (reserveRequest budget cp) .execute

/-- What follows an attempt that came back before the deadline. -/
def attemptDecision (retry : RetryPolicy) (cp : LoopCheckpoint)
    (attempt : AttemptResult) : Pc :=
  match attempt.outcome with
  | .retryableError =>
    if attempt.reasonCode ∉ retry.allowedReasonCodes then
      .transition (terminalRequest cp .failed "ECO_LOOP_RETRY_DENIED") .finish
    else
      .transition (retryRequest cp attempt) .loop
  | .fatalError =>
    .transition (terminalRequest cp .failed attempt.reasonCode) .finish
  | .candidate => .transition (gatingRequest cp attempt) (.gate attempt)

/-- What follows a verdict that came back before the deadline. -/
def gateDecision (retry : RetryPolicy) (cp : LoopCheckpoint)
    (outcome : GateOutcome) : Pc :=
  if outcome.outcome = .pass then
    .transition (verdictRequest cp outcome .succeeded outcome.reasonCode) .finish
  else if outcome.reasonCode ∉ retry.allowedReasonCodes then
    .transition (verdictRequest cp outcome .failed "ECO_LOOP_RETRY_DENIED")
      .finish
  else if nextStagnant cp outcome ≥ retry.maxStagnantIterations then
    .transition (verdictRequest cp outcome .exhausted "ECO_LOOP_NO_PROGRESS")
      .finish
  else
    .transition (verdictRequest cp outcome .retryWait outcome.reasonCode) .loop

/-- A stop reason cancels; otherwise the engine goes on. -/
def afterStop (cp : LoopCheckpoint) (k : Then)
    (answer : Except LoopError (Option String)) (goOn : Pc) : Pc :=
  match answer with
  | .error err => .done (.error err)
  | .ok (some stop) => .transition (terminalRequest cp .cancelled stop) k
  | .ok none => goOn

def afterClock (answer : ClockAnswer) (goOn : ℤ → Pc) : Pc :=
  match answer with
  | .instant now => goOn now
  | .naive => raised "ECO_LOOP_CLOCK_INVALID" "loop clock must be timezone-aware"
  | .raises => .done (.error .clock)

/-- The deadline exhausts; otherwise the engine goes on. -/
def beforeDeadline (budget : LoopBudget) (cp : LoopCheckpoint) (goOn : Pc)
    (now : ℤ) : Pc :=
  if now ≥ budget.deadline then
    .transition (terminalRequest cp .exhausted "ECO_LOOP_DEADLINE_EXHAUSTED")
      .finish
  else
    goOn

def afterExecutor (cp : LoopCheckpoint) : ExecutorAnswer → Pc
  | .contractError =>
    .transition (terminalRequest cp .failed "ECO_LOOP_OUTCOME_INVALID") .finish
  | .exception =>
    .transition (terminalRequest cp .failed "ECO_LOOP_EXECUTOR_FAILED") .finish
  | .notAttemptResult =>
    .transition (terminalRequest cp .failed "ECO_LOOP_OUTCOME_INVALID") .finish
  | .result attempt => .attemptStop cp attempt

def afterGate (cp : LoopCheckpoint) : GateAnswer → Pc
  | .contractError =>
    .transition (terminalRequest cp .failed "ECO_LOOP_GATE_INVALID") .finish
  | .exception =>
    .transition (terminalRequest cp .failed "ECO_LOOP_GATE_FAILED") .finish
  | .notGateOutcome =>
    .transition (terminalRequest cp .failed "ECO_LOOP_GATE_INVALID") .finish
  | .outcome outcome => .gateStop cp outcome

/-- `start` behind `create`: only a new run is moved. -/
def afterCreate (k : Then) (cp : LoopCheckpoint) : Pc :=
  if cp.state = .new then .startStop cp k else resume k cp

/-- `recover` behind `load`. -/
def recoverDecision (digest : String) (cp : LoopCheckpoint) : Pc :=
  if cp.definitionDigest ≠ digest then .done (.error definitionDrift)
  else if cp.state = .new then .create .finish
  else if cp.state = .ready ∨ cp.state = .retryWait ∨ cp.state.isTerminal then
    .done (.ok cp)
  else
    .transition (terminalRequest cp .failed "ECO_LOOP_RECOVERY_AMBIGUOUS") .finish

/-! ## One step of one engine -/

section Machine

variable {σ : Type} (ops : JournalOps σ)
  (definitionDigest : LoopDefinition → String)

/-- The next thing that an engine with this definition does. -/
def advancePc (definition : LoopDefinition) (journal : σ) (en : Engine)
    (answers : Surroundings) : Pc × σ :=
  match en.pc with
  | .idle => (.idle, journal)
  | .done result => (.done result, journal)
  | .create k =>
    match ops.create journal en.runId definition with
    | .error err => (.done (.error err), journal)
    | .ok (cp, journal') => (afterCreate k cp, journal')
  | .startStop cp k =>
    (afterStop cp k (ops.stopReason journal en.runId)
      (.transition (readyRequest cp) k), journal)
  | .budgetStop cp =>
    (afterStop cp .finish (ops.stopReason journal cp.runId)
      (.budgetClock cp), journal)
  | .budgetClock cp =>
    (afterClock answers.clock (budgetDecision definition.budget cp), journal)
  | .transition req k =>
    match ops.transition journal req with
    | .error err => (.done (.error err), journal)
    | .ok (answer, journal') => (afterTransition req k answer, journal')
  | .reload req k =>
    match ops.load journal req.expected.runId with
    | .error err => (.done (.error err), journal)
    | .ok cp => (resume k cp, journal)
  | .execute cp => (afterExecutor cp answers.executor, journal)
  | .attemptStop cp attempt =>
    (afterStop cp .finish (ops.stopReason journal en.runId)
      (.attemptClock cp attempt), journal)
  | .attemptClock cp attempt =>
    (afterClock answers.clock (beforeDeadline definition.budget cp
      (attemptDecision definition.retry cp attempt)), journal)
  | .gate cp _ => (afterGate cp answers.gate, journal)
  | .gateStop cp outcome =>
    (afterStop cp .finish (ops.stopReason journal en.runId)
      (.gateClock cp outcome), journal)
  | .gateClock cp outcome =>
    (afterClock answers.clock (beforeDeadline definition.budget cp
      (gateDecision definition.retry cp outcome)), journal)
  | .recoverLoad =>
    match ops.load journal en.runId with
    | .error err => (.done (.error err), journal)
    | .ok cp => (recoverDecision (definitionDigest definition) cp, journal)

/-- The first thing of `run`: the profile is checked before `start`. -/
def runEntry (definition : LoopDefinition) (independent : Bool) : Pc :=
  if !definition.executable then
    raised "ECO_LOOP_PROFILE_NOT_EXECUTABLE" "loop profile is an outline only"
  else if !definition.deterministic then
    raised "ECO_LOOP_PROFILE_DENIED"
      "M6.3 runs deterministic no-effect profiles only"
  else if !independent then
    raised "ECO_LOOP_GATE_NOT_INDEPENDENT"
      "actor and gate must be separate callables"
  else
    .create .loop

/-! ## Engines over one journal -/

/-- The engines, the journal they share, and two records of the past: the
checkpoints that an engine reserved by a committed transition to `running`, and
those that it passed to its executor. -/
structure LoopSystem (σ ι : Type) where
  journal : σ
  engines : ι → Engine := fun _ => {}
  reserved : List (ι × LoopCheckpoint) := []
  invoked : List (ι × LoopCheckpoint) := []

inductive LoopAction (ι : Type)
  | callRun (e : ι) (runId : String) (independent : Bool)
  | callStart (e : ι) (runId : String)
  | callRecover (e : ι) (runId : String)
  | advance (e : ι) (answers : Surroundings)
  | crash (e : ι)
  | requestCancel (runId : String)
  | setKillSwitch (enabled : Bool)

/-- An engine takes a new call only when it is not inside one. -/
def Pc.isFree : Pc → Bool
  | .idle | .done _ => true
  | _ => false

variable {ι : Type} [DecidableEq ι] (definitions : ι → LoopDefinition)
  (semanticDigest : LoopEvent → String)

/-- The checkpoint that this step of the engine reserves, if it commits a
transition to `running`. -/
def reservation (journal : σ) (pc : Pc) : Option LoopCheckpoint :=
  match pc with
  | .transition req .execute =>
    match ops.transition journal req with
    | .ok (.settled cp, _) => if cp.state.isTerminal then none else some cp
    | .ok (.reload, _) => some (req.next semanticDigest)
    | .error _ => none
  | _ => none

/-- The checkpoint that this step of the engine passes to its executor. -/
def invocation : Pc → Option LoopCheckpoint
  | .execute cp => some cp
  | _ => none

def LoopSystem.enter (s : LoopSystem σ ι) (e : ι) (runId : String) (pc : Pc) :
    LoopSystem σ ι :=
  if (s.engines e).pc.isFree then
    { s with engines := Function.update s.engines e ⟨runId, pc, 0⟩ }
  else s

def LoopSystem.step (s : LoopSystem σ ι) : LoopAction ι → LoopSystem σ ι
  | .callRun e runId independent =>
    s.enter e runId (runEntry (definitions e) independent)
  | .callStart e runId => s.enter e runId (.create .finish)
  | .callRecover e runId => s.enter e runId .recoverLoad
  | .advance e answers =>
    let en := s.engines e
    let next := advancePc ops definitionDigest (definitions e) s.journal en
      answers
    let moved : Engine :=
      { en with
        pc := next.1
        calls := en.calls + (invocation en.pc).toList.length }
    { journal := next.2
      engines := Function.update s.engines e moved
      reserved := s.reserved ++
        (reservation ops semanticDigest s.journal en.pc).toList.map (e, ·)
      invoked := s.invoked ++ (invocation en.pc).toList.map (e, ·) }
  | .crash e =>
    let stopped : Engine := { s.engines e with pc := .idle }
    { s with engines := Function.update s.engines e stopped }
  | .requestCancel runId =>
    match ops.requestCancel s.journal runId with
    | .ok journal' => { s with journal := journal' }
    | .error _ => s
  | .setKillSwitch enabled =>
    { s with journal := ops.setKillSwitch s.journal enabled }

def LoopSystem.after (s : LoopSystem σ ι) (actions : List (LoopAction ι)) :
    LoopSystem σ ι :=
  actions.foldl (LoopSystem.step ops definitionDigest definitions semanticDigest)
    s

end Machine

end Ecosystem.Loops
