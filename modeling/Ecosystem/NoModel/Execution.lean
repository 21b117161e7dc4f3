import Ecosystem.NoModel.Journal
import Ecosystem.Lib.Program

/-!
# The execution of the no-model workflow

`_execute_wiki_health_check` as a program over the journal.  A step is a call of another
component, a reading of the clock or a transaction, and meets a `Moment`.

The process that has the journal open locks it, so executions follow one another.  The
log records every call of `broker.read`, for its run and the index of its path.
-/

namespace Ecosystem.NoModel

open Ecosystem.Lib
open Ecosystem.Runtime

/-! ## Texts -/

/-- `^ECO_[A-Z0-9_]{1,96}$` of a whole text. -/
def isSafeCode (code : String) : Bool :=
  let cs := code.toList
  "ECO_".toList.isPrefixOf cs && 5 ≤ cs.length && cs.length ≤ 100 &&
    (cs.drop 4).all fun c => c.isUpper || c.isDigit || c = '_'

def safeCode : Failure → String
  | .policy code | .broker code | .store code =>
    if isSafeCode code then code else "ECO_NO_MODEL_EXECUTION_FAILED"
  | _ => "ECO_NO_MODEL_EXECUTION_FAILED"

/-- The line boundaries of `str.splitlines`; `\r\n` is one. -/
def isLineBreak (c : Char) : Bool :=
  c.toNat ∈ [0x0a, 0x0b, 0x0c, 0x0d, 0x1c, 0x1d, 0x1e, 0x85, 0x2028, 0x2029]

/-- `str.splitlines`, with the line that has been begun. -/
def splitLines : List Char → List Char → List (List Char)
  | [], line => if line = [] then [] else [line.reverse]
  | '\r' :: '\n' :: cs, line => line.reverse :: splitLines cs []
  | c :: cs, line =>
    if isLineBreak c then line.reverse :: splitLines cs []
    else splitLines cs (c :: line)

/-- `str.isspace` of a character. -/
def isSpace (c : Char) : Bool :=
  (0x09 ≤ c.toNat && c.toNat ≤ 0x0d) || (0x1c ≤ c.toNat && c.toNat ≤ 0x20) ||
    (0x2000 ≤ c.toNat && c.toNat ≤ 0x200a) ||
    c.toNat ∈ [0x85, 0xa0, 0x1680, 0x2028, 0x2029, 0x202f, 0x205f, 0x3000]

inductive FenceMarker
  | backticks | tildes
deriving DecidableEq

def fenceMarker (line : List Char) : Option FenceMarker :=
  let stripped := line.dropWhile isSpace
  if (List.replicate 3 (Char.ofNat 0x60)).isPrefixOf stripped then some .backticks
  else if (List.replicate 3 '~').isPrefixOf stripped then some .tildes
  else none

/-- One turn of the loop of `_single_h1_outside_fences`: the open fence, and the number
of headings. -/
def scanLine : Option FenceMarker × ℕ → List Char → Option FenceMarker × ℕ
  | (fence, headings), line =>
    match fenceMarker line, fence with
    | some marker, none => (some marker, headings)
    | some marker, some opened =>
      (if marker = opened then none else some opened, headings)
    | none, none =>
      (none, if "# ".toList.isPrefixOf line then headings + 1 else headings)
    | none, some opened => (some opened, headings)

def singleH1OutsideFences (content : String) : Bool :=
  (splitLines content.toList []).foldl scanLine (none, 0) = (none, 1)

/-! ## The world -/

/-- `NO_MODEL_WORKFLOWS` of the workflow. -/
def workflowPaths : List String :=
  ["wiki/index.md", "wiki/architecture.md", "wiki/roadmap.md"]

def slotIndices : List ℕ := [1, 2, 3]

structure World where
  journal : Journal := .empty
  reads : List (RunName × ℕ) := []

structure PolicyDecision where
  allows : Bool
  reasonCode : String
  digest : String

structure ReadResult where
  sha256 : String
  byteLength : ℕ
  content : String

structure Moment where
  fault : Option Failure := none
  /-- Microseconds since the process began. -/
  elapsed : ℕ
  decision : PolicyDecision
  read : ReadResult

abbrev NoModelProg := Prog Moment World Failure

/-! ## What is executed -/

/-- `NoModelReadRequest`. -/
structure ReadRequest where
  id : String
  runId : String
  createdAt : String
  planDigest : String
  path : String
  scopeSlot : String

/-- What a `resultDigest` is taken of. -/
inductive ResultDocument
  | code (code : String)
  | content (sha256 : String) (byteLength : ℕ)
  | checks (singleDocumentHeading distinctDocuments : Bool)

structure ExecutionConfig extends JournalConfig where
  requestDigest : ReadRequest → String
  resultDigest : ResultDocument → String

/-- One start of the workflow: the instant that it is given, in microseconds, and the
plan and the snapshot that it comes to. -/
structure Attempt where
  now : ℤ
  plan : NoModelPlan
  snapshotCreatedAt : String

inductive Status
  | succeeded | failed | blocked
deriving DecidableEq

/-- The part of `_result` that the journal and the reads decide. -/
structure Report where
  status : Status
  code : String
  replayed : Bool := false
  readCount : ℕ := 0
  totalBytes : ℕ := 0
  brokerReadCount : ℕ := 0

def lastChars (n : ℕ) (s : String) : String :=
  String.ofList (s.toList.drop (s.toList.length - n))

def requestId (runId : RunName) (index : ℕ) : String :=
  "wiki-health-read-" ++ lastChars 24 runId.1 ++ "-" ++ toString index

section Execution

variable (cfg : ExecutionConfig) (a : Attempt)

def Attempt.request (index : ℕ) (path : String) : ReadRequest where
  id := requestId a.plan.runId index
  runId := a.plan.runId.1
  createdAt := a.snapshotCreatedAt
  planDigest := cfg.planDigest a.plan
  path := path
  scopeSlot := "slot-" ++ toString index

/-! ## Steps -/

def consult {α : Type} (answer : Moment → α) : NoModelProg α :=
  .act fun m w => match m.fault with
    | some e => (.error e, w)
    | none => (.ok (answer m), w)

def Attempt.observedTime (m : Moment) : ℤ := a.now + m.elapsed

def currentTime (deadline : ℤ) : NoModelProg ℤ :=
  .act fun m w =>
    if deadline ≤ a.observedTime m then
      (.error (.policy "ECO_NO_MODEL_DEADLINE_EXCEEDED"), w)
    else (.ok (a.observedTime m), w)

def transaction {α : Type} (f : Moment → Journal → Except Failure (Journal × α)) :
    NoModelProg α :=
  .act fun m w => match m.fault with
    | some _ => (.error stateUnavailable, w)
    | none => match f m w.journal with
      | .ok (journal, answer) => (.ok answer, { w with journal := journal })
      | .error e => (.error e, w)

/-- `journal.append` at the observed time. -/
def record (chain : NoModelChain) (d : Draft) : NoModelProg NoModelChain :=
  transaction fun m journal =>
    journal.append cfg.toJournalConfig a.plan.runId chain d (a.observedTime m)

/-- `broker.read`: the call counts, whatever it brings. -/
def brokerRead (index : ℕ) : NoModelProg ReadResult :=
  .act fun m w =>
    let w := { w with reads := w.reads ++ [(a.plan.runId, index)] }
    match m.fault with
    | some e => (.error e, w)
    | none => (.ok m.read, w)

/-- `try … except RuntimePolicyError`, with `BrokerError` beside it for a read. -/
def guarded {α : Type} (catchBroker : Bool) (p : NoModelProg α) :
    NoModelProg (Except Failure α) :=
  Prog.catch_ (do return .ok (← p)) fun e => match e, catchBroker with
    | .policy _, _ => pure (.error e)
    | .broker _, true => pure (.error e)
    | _, _ => .fail e

/-! ## The read of one slot -/

/-- What an execution carries from slot to slot. -/
structure Progress where
  chain : NoModelChain
  headingStructureValid : Bool
  contentDigests : List (Option String)
  brokerReadCount : ℕ := 0

/-- What does not change while the slots are read. -/
structure Session where
  replayed : Bool
  deadline : ℤ
  /-- The bytes of the reads that were completed before. -/
  totalBytes : ℕ

/-- `_result` with the summary of the chain. -/
def finish (chain : NoModelChain) (status : Status) (code : String) (replayed : Bool)
    (brokerReadCount : ℕ) : Report where
  status := status
  code := code
  replayed := replayed
  readCount := chain.completedSummary.1
  totalBytes := chain.completedSummary.2
  brokerReadCount := brokerReadCount

def readEvent (type : EventType) (producer : Producer) (request : ReadRequest)
    (marker : ScopeMarker) : Draft where
  type := type
  producer := producer
  subjectId := some request.id
  subjectDigest := some (cfg.requestDigest request)
  scopeSlot := some marker.slot
  entryDigest := some marker.entryDigest

def runFailed : Draft := { type := .runFailed, producer := .runtime }

/-- `run.failed` with a code of its own. -/
def runFailedWith (code : String) (document : ResultDocument) : Draft :=
  { runFailed with
    resultDigest := some (cfg.resultDigest document)
    reasonCode := some code }

/-- A read ends without its content, and the run with it. -/
def closeRead (type : EventType) (producer : Producer) (request : ReadRequest)
    (marker : ScopeMarker) (chain : NoModelChain) (resultDigest code : String)
    (status : Status) (replayed : Bool) (brokerReadCount : ℕ) : NoModelProg Report := do
  let chain ← record cfg a chain
    { readEvent cfg type producer request marker with
      resultDigest := some resultDigest
      reasonCode := some code }
  let chain ← record cfg a chain runFailed
  return finish chain status code replayed brokerReadCount

/-- `closeRead` with the digest of the code. -/
def failRead (type : EventType) (producer : Producer) (request : ReadRequest)
    (marker : ScopeMarker) (chain : NoModelChain) (code : String) (status : Status)
    (replayed : Bool) (brokerReadCount : ℕ) : NoModelProg Report :=
  closeRead cfg a type producer request marker chain (cfg.resultDigest (.code code)) code
    status replayed brokerReadCount

/-- The authority for a read: `authorize_no_model_read` and `consume_decision`.  The
answer is the chain, or the report of a denial. -/
def authorizeRead (s : Session) (request : ReadRequest) (marker : ScopeMarker)
    (phase : Phase) (p : Progress) : NoModelProg (Report ⊕ NoModelChain) := do
  let deny (e : Failure) := failRead cfg a .noModelReadDenied .policy request marker
    p.chain (safeCode e) .blocked s.replayed p.brokerReadCount
  let decided ← guarded false do
    let _ ← currentTime a s.deadline
    consult (·.decision)
  match decided with
  | .error e => return .inl (← deny e)
  | .ok decision =>
    if decision.allows then
      let consumed ← guarded false do
        let _ ← currentTime a s.deadline
        consult fun _ => ()
      match consumed with
      | .error e => return .inl (← deny e)
      | .ok () =>
        if phase = .requested then
          return .inr (← record cfg a p.chain
            (readEvent cfg .noModelReadAllowed .policy request marker))
        else return .inr p.chain
    else
      return .inl (← closeRead cfg a .noModelReadDenied .policy request marker p.chain
        decision.digest decision.reasonCode .blocked s.replayed p.brokerReadCount)

def failureProducer : Failure → Producer
  | .broker _ => .broker
  | _ => .runtime

def headingText (valid : Bool) : String := if valid then "pass" else "fail"

def completeRead (s : Session) (request : ReadRequest) (marker : ScopeMarker)
    (p : Progress) (read : ReadResult) (headingValid : Bool) :
    NoModelProg (Report ⊕ Progress) := do
  if a.plan.maxInputBytes < s.totalBytes + read.byteLength then
    return .inl (← failRead cfg a .noModelReadFailed .runtime request marker p.chain
      "ECO_NO_MODEL_INPUT_BUDGET_EXCEEDED" .failed s.replayed p.brokerReadCount)
  let _ ← currentTime a s.deadline
  let chain ← record cfg a p.chain
    { readEvent cfg .noModelReadCompleted .broker request marker with
      resultDigest := some (cfg.resultDigest (.content read.sha256 read.byteLength))
      byteCount := some read.byteLength
      contentDigest := some read.sha256
      headingCheck := some (headingText headingValid) }
  return .inr { p with
    chain := chain
    headingStructureValid := p.headingStructureValid && headingValid
    contentDigests := some read.sha256 :: p.contentDigests }

def performRead (s : Session) (index : ℕ) (request : ReadRequest) (marker : ScopeMarker)
    (p : Progress) : NoModelProg (Report ⊕ Progress) := do
  let fail (chain : NoModelChain) (brokerReadCount : ℕ) (e : Failure) :=
    failRead cfg a .noModelReadFailed (failureProducer e) request marker chain (safeCode e)
      .failed s.replayed brokerReadCount
  match ← guarded true (currentTime a s.deadline) with
  | .error e => return .inl (← fail p.chain p.brokerReadCount e)
  | .ok _ =>
    let chain ← record cfg a p.chain
      (readEvent cfg .noModelReadStarted .runtime request marker)
    match ← guarded true (currentTime a s.deadline) with
    | .error e => return .inl (← fail chain p.brokerReadCount e)
    | .ok _ =>
      let observed ← guarded true do
        let read ← brokerRead a index
        let _ ← currentTime a s.deadline
        let _ ← currentTime a s.deadline
        consult fun _ => ()
        return read
      match observed with
      | .error e => return .inl (← fail chain (p.brokerReadCount + 1) e)
      | .ok read =>
        completeRead cfg a s request marker
          { p with chain := chain, brokerReadCount := p.brokerReadCount + 1 } read
          (0 < read.byteLength && singleH1OutsideFences read.content)

def advanceRead (s : Session) (index : ℕ) (request : ReadRequest) (marker : ScopeMarker)
    (phase : Phase) (p : Progress) : NoModelProg (Report ⊕ Progress) := do
  match ← authorizeRead cfg a s request marker phase p with
  | .inl report => return .inl report
  | .inr chain => performRead cfg a s index request marker { p with chain := chain }

def requestRead (s : Session) (index : ℕ) (request : ReadRequest) (marker : ScopeMarker)
    (p : Progress) : NoModelProg (Report ⊕ Progress) := do
  match ← guarded false (currentTime a s.deadline) with
  | .error e =>
    let chain ← record cfg a p.chain
      (runFailedWith cfg (safeCode e) (.code (safeCode e)))
    return .inl (finish chain .failed (safeCode e) s.replayed p.brokerReadCount)
  | .ok _ =>
    let chain ← record cfg a p.chain
      (readEvent cfg .noModelReadRequested .runtime request marker)
    advanceRead cfg a s index request marker .requested { p with chain := chain }

def readSlot (s : Session) (index : ℕ) (path : String) (p : Progress) :
    NoModelProg (Report ⊕ Progress) := do
  let request := a.request cfg index path
  match a.plan.scopeSlots[index - 1]? with
  | none => .fail .other
  | some marker =>
    match readPhase p.chain.events request.id with
    | some .completed => return .inr p
    | some .started =>
      return .inl (← failRead cfg a .noModelReadFailed .runtime request marker p.chain
        "ECO_NO_MODEL_READ_OUTCOME_AMBIGUOUS" .failed true 0)
    | some .denied => do
      let chain ← record cfg a p.chain runFailed
      return .inl (finish chain .failed "ECO_NO_MODEL_READ_DENIED" s.replayed
        p.brokerReadCount)
    | some .failed => do
      let chain ← record cfg a p.chain runFailed
      return .inl (finish chain .failed "ECO_NO_MODEL_READ_FAILED" s.replayed
        p.brokerReadCount)
    | none => requestRead cfg a s index request marker p
    | some phase => advanceRead cfg a s index request marker phase p

def readSlots (s : Session) : List (ℕ × String) → Progress →
    NoModelProg (Report ⊕ Progress)
  | [], p => pure (.inr p)
  | (index, path) :: rest, p => do
    match ← readSlot cfg a s index path p with
    | .inl report => return .inl report
    | .inr p => readSlots s rest p

/-! ## The execution -/

def failRun (s : Session) (p : Progress) (code : String) (document : ResultDocument) :
    NoModelProg Report := do
  let chain ← record cfg a p.chain (runFailedWith cfg code document)
  return finish chain .failed code s.replayed p.brokerReadCount

def conclude (s : Session) (p : Progress) : NoModelProg Report := do
  match ← guarded false (currentTime a s.deadline) with
  | .error e => failRun cfg a s p (safeCode e) (.code (safeCode e))
  | .ok _ =>
    let distinct := p.contentDigests.dedup.length = 3
    if p.headingStructureValid && distinct then
      let checked ← guarded false do
        let _ ← currentTime a s.deadline
        consult fun _ => ()
        currentTime a s.deadline
      match checked with
      | .error e => failRun cfg a s p (safeCode e) (.code (safeCode e))
      | .ok successTime =>
        let chain ← transaction fun _ journal =>
          journal.append cfg.toJournalConfig a.plan.runId p.chain
            { type := .noModelWorkflowSucceeded, producer := .runtime } successTime
        return finish chain .succeeded "ECO_NO_MODEL_WORKFLOW_SUCCEEDED" s.replayed
          p.brokerReadCount
    else
      failRun cfg a s p "ECO_WIKI_HEALTH_STRUCTURE_INVALID"
        (.checks p.headingStructureValid distinct)

/-- The time behind which a run is over: a resumed run counts from its first event. -/
def Attempt.deadline (chain : NoModelChain) (replayed : Bool) : ℤ :=
  let origin := if replayed then
      chain.events.head?.elim a.now (·.metadata.occurredAt)
    else a.now
  origin + a.plan.maxDurationSeconds * 1000000

def executeOpened : NoModelProg Report := do
  let _ ← currentTime a (a.deadline {} false)
  let (chain, replayed) ← transaction fun _ journal =>
    journal.begin_ cfg.toJournalConfig a.plan a.now
  let s : Session :=
    { replayed := replayed
      deadline := a.deadline chain replayed
      totalBytes := chain.completedSummary.2 }
  let observations := chain.completedObservations
  if chain.projection.state = .succeeded then
    return finish chain .succeeded "ECO_NO_MODEL_WORKFLOW_SUCCEEDED" true 0
  else if chain.projection.state.isTerminal then
    return finish chain .failed "ECO_NO_MODEL_REPLAY_TERMINAL" true 0
  else
    consult fun _ => ()
    match ← readSlots cfg a s (slotIndices.zip workflowPaths)
      { chain := chain
        headingStructureValid := observations.all (·.2 = some "pass")
        contentDigests := observations.map (·.1) } with
    | .inl report => return report
    | .inr p => conclude cfg a s p

/-- The execution: bootstrap and planning, activation of the plan, and the rest. -/
def executeBody : NoModelProg Report := do
  consult fun _ => ()
  let planning ← consult (·.decision)
  if planning.allows then
    let _ ← currentTime a (a.deadline {} false)
    consult fun _ => ()
    executeOpened cfg a
  else
    return { status := .blocked, code := planning.reasonCode }

def executeWikiHealthCheck : NoModelProg Report :=
  (executeBody cfg a).catch_ fun e => match e with
    | .other => .fail .other
    | e => pure { status := .blocked, code := safeCode e }

end Execution

/-! ## Runs -/

/-- Executions one after the other, each cut short by the end of its script. -/
def worldAfter (cfg : ExecutionConfig) (attempts : List (Attempt × List Moment)) : World :=
  attempts.foldl
    (fun w attempt => ((executeWikiHealthCheck cfg attempt.1).run attempt.2 w).2) {}

end Ecosystem.NoModel
