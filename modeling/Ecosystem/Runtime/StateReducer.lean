import Ecosystem.Lib.Dict
import Ecosystem.Lib.Fold

/-!
# The run-event reducer

`reduceRunEvent` is the pure transition function of `state_reducer.py`.  A run goes
through planning, is authorized for an adapter or for the no-model workflow, runs, and
ends.  `toolStates` holds tool subjects or the slots of the three fixed reads.

The sorted tuples of the projection are finite maps here (`Lib.Dict`).  Event names
outside the thirty of the schema are refused by every branch.
-/

namespace Ecosystem.Runtime

open Ecosystem.Lib

/-! ## States, event types and event fields -/

inductive RunState
  | new | received | validated | planned | authorized | running
  | succeeded | failed | denied | cancelled | exhausted
deriving DecidableEq

/-- `TERMINAL_STATES`. -/
def RunState.isTerminal : RunState → Bool
  | .succeeded | .failed | .denied | .cancelled | .exhausted => true
  | _ => false

inductive EventType
  | runReceived | runValidated | planCreated
  | policyAllowed | policyDenied | noModelPolicyAllowed | noModelPolicyDenied
  | adapterStarted | adapterCompleted | adapterFailed
  | noModelWorkflowStarted
  | noModelReadRequested | noModelReadAllowed | noModelReadStarted
  | noModelReadDenied | noModelReadCompleted | noModelReadFailed
  | noModelWorkflowSucceeded
  | toolRequested | toolAllowed | toolDenied | toolCancelled
  | toolCompleted | toolFailed
  | artifactRecorded | budgetExhausted
  | runSucceeded | runFailed | runCancelled | runExhausted
deriving DecidableEq

namespace EventType

/-- The spelling of an event type in a `RunEvent` record. -/
def name : EventType → String
  | .runReceived => "run.received"
  | .runValidated => "run.validated"
  | .planCreated => "plan.created"
  | .policyAllowed => "policy.allowed"
  | .policyDenied => "policy.denied"
  | .noModelPolicyAllowed => "no-model.policy.allowed"
  | .noModelPolicyDenied => "no-model.policy.denied"
  | .adapterStarted => "adapter.started"
  | .adapterCompleted => "adapter.completed"
  | .adapterFailed => "adapter.failed"
  | .noModelWorkflowStarted => "no-model.workflow.started"
  | .noModelReadRequested => "no-model.read.requested"
  | .noModelReadAllowed => "no-model.read.allowed"
  | .noModelReadStarted => "no-model.read.started"
  | .noModelReadDenied => "no-model.read.denied"
  | .noModelReadCompleted => "no-model.read.completed"
  | .noModelReadFailed => "no-model.read.failed"
  | .noModelWorkflowSucceeded => "no-model.workflow.succeeded"
  | .toolRequested => "tool.requested"
  | .toolAllowed => "tool.allowed"
  | .toolDenied => "tool.denied"
  | .toolCancelled => "tool.cancelled"
  | .toolCompleted => "tool.completed"
  | .toolFailed => "tool.failed"
  | .artifactRecorded => "artifact.recorded"
  | .budgetExhausted => "budget.exhausted"
  | .runSucceeded => "run.succeeded"
  | .runFailed => "run.failed"
  | .runCancelled => "run.cancelled"
  | .runExhausted => "run.exhausted"

/-- `event_type.startswith("adapter.")`. -/
def isAdapter : EventType → Bool
  | .adapterStarted | .adapterCompleted | .adapterFailed => true
  | _ => false

/-- `event_type.startswith("tool.")`. -/
def isTool : EventType → Bool
  | .toolRequested | .toolAllowed | .toolDenied | .toolCancelled
  | .toolCompleted | .toolFailed => true
  | _ => false

/-- `event_type.startswith("no-model.read.")`. -/
def isNoModelRead : EventType → Bool
  | .noModelReadRequested | .noModelReadAllowed | .noModelReadStarted
  | .noModelReadDenied | .noModelReadCompleted | .noModelReadFailed => true
  | _ => false

def isNoModel (t : EventType) : Bool :=
  t.isNoModelRead || t == .noModelPolicyAllowed || t == .noModelPolicyDenied ||
    t == .noModelWorkflowStarted || t == .noModelWorkflowSucceeded

end EventType

/-- What `spec.get(key)` can return, as far as the reducer looks: nothing (the
key is missing or null), a string, or a value of another JSON type. -/
inductive FieldValue
  | absent
  | text (s : String)
  | other
deriving DecidableEq

/-- The value a dictionary lookup has to equal for the field to match it. -/
def FieldValue.ofOption : Option String → FieldValue
  | none => .absent
  | some s => .text s

theorem FieldValue.ofOption_eq_text {o : Option String} {s : String} :
    FieldValue.ofOption o = .text s ↔ o = some s := by
  cases o <;> simp [FieldValue.ofOption]

/-- One element of `scopeEntries`: an object with its two fields, or a value
that is not an object. -/
inductive ScopeEntry
  | object (slot entryDigest : FieldValue)
  | notObject

inductive ScopeEntries
  | list (entries : List ScopeEntry)
  | notList

inductive Outcome
  | pending | success | denied | failed | cancelled | exhausted
deriving DecidableEq

/-- The `spec` of a run event. -/
structure EventSpec where
  type : EventType
  outcome : Outcome
  subjectId : FieldValue := .absent
  subjectDigest : FieldValue := .absent
  scopeSlot : FieldValue := .absent
  entryDigest : FieldValue := .absent
  contentDigest : FieldValue := .absent
  headingCheck : FieldValue := .absent
  scopeEntries : ScopeEntries := .notList
  resultDigest : FieldValue := .absent

inductive Phase
  | requested | allowed | started | denied | failed | completed | cancelled
deriving DecidableEq

/-- A closed operation admits no further event. -/
def Phase.isClosed : Phase → Bool
  | .denied | .failed | .completed | .cancelled => true
  | .requested | .allowed | .started => false

inductive HeadingCheck
  | pass | fail
deriving DecidableEq

structure RuntimeStateError where
  code : String
  message : String
deriving DecidableEq

/-! ## The projection -/

/-- Content-free state required to deterministically reduce one run event. -/
structure RunProjection where
  state : RunState
  toolStates : Dict String (Phase × String) := ∅
  adapterCompleted : Bool := false
  adapterFailed : Bool := false
  budgetExhausted : Bool := false
  noModelAuthorized : Bool := false
  noModelStarted : Bool := false
  noModelPlanDigest : Option String := none
  noModelScopeEntries : Dict String String := ∅
  noModelResults : Dict String (String × HeadingCheck) := ∅

namespace RunProjection

def initial : RunProjection := { state := .new }

/-- Some operation is still `requested` or `allowed`. -/
def hasOpenTool (p : RunProjection) : Bool :=
  p.toolStates.anyValue fun v => v.1 == .requested || v.1 == .allowed

def setTool (p : RunProjection) (key : String) (phase : Phase)
    (subjectDigest : String) : RunProjection :=
  { p with toolStates := p.toolStates.insert key (phase, subjectDigest) }

end RunProjection

/-! ## The reducer -/

abbrev Reduced := Except RuntimeStateError RunProjection

def refuse (code message : String) : Reduced := .error ⟨code, message⟩

def scopeSlots : Finset String := {"slot-1", "slot-2", "slot-3"}

/-- One turn of the loop over `scopeEntries`. -/
def addScopeEntry (scope : Dict String String) :
    ScopeEntry → Except RuntimeStateError (Dict String String)
  | .notObject =>
    .error ⟨"ECO_NO_MODEL_LIFECYCLE", "No-model scope entry is invalid"⟩
  | .object (.text slot) (.text entryDigest) =>
    if slot ∉ scopeSlots ∨ slot ∈ scope then
      .error ⟨"ECO_NO_MODEL_LIFECYCLE", "No-model scope entries are not exact"⟩
    else
      .ok (scope.insert slot entryDigest)
  | .object _ _ =>
    .error ⟨"ECO_NO_MODEL_LIFECYCLE", "No-model scope entries are not exact"⟩

def readScopeEntries (entries : List ScopeEntry) :
    Except RuntimeStateError (Dict String String) :=
  entries.foldlM addScopeEntry ∅

/-- `no-model.workflow.started` in state `AUTHORIZED`. -/
def reduceWorkflowStarted (p : RunProjection) (spec : EventSpec) : Reduced :=
  if !p.noModelAuthorized ∨
      spec.subjectDigest ≠ FieldValue.ofOption p.noModelPlanDigest then
    refuse "ECO_NO_MODEL_LIFECYCLE"
      "No-model workflow is not bound to its authorization"
  else
    match spec.scopeEntries with
    | .notList =>
      refuse "ECO_NO_MODEL_LIFECYCLE"
        "No-model workflow requires three scope entries"
    | .list entries =>
      if entries.length ≠ 3 then
        refuse "ECO_NO_MODEL_LIFECYCLE"
          "No-model workflow requires three scope entries"
      else
        match readScopeEntries entries with
        | .error err => .error err
        | .ok scope =>
          if scope.keys ≠ scopeSlots ∨ scope.valueSet.card ≠ 3 then
            refuse "ECO_NO_MODEL_LIFECYCLE"
              "No-model scope entries are incomplete"
          else
            .ok { p with
              state := .running
              noModelScopeEntries := scope
              noModelStarted := true }

/-- Where a read event moves a slot that is in phase `current`. -/
def nextReadPhase : EventType → Phase → Option Phase
  | .noModelReadAllowed, .requested => some .allowed
  | .noModelReadStarted, .allowed => some .started
  | .noModelReadDenied, .requested => some .denied
  | .noModelReadDenied, .allowed => some .denied
  | .noModelReadFailed, .allowed => some .failed
  | .noModelReadFailed, .started => some .failed
  | .noModelReadCompleted, .started => some .completed
  | _, _ => none

def readEvidence (spec : EventSpec) : Option (String × HeadingCheck) :=
  match spec.contentDigest, spec.headingCheck with
  | .text contentDigest, .text "pass" => some (contentDigest, .pass)
  | .text contentDigest, .text "fail" => some (contentDigest, .fail)
  | _, _ => none

/-- The read of a slot whose phase `current` and digest are already known. -/
def advanceRead (p : RunProjection) (spec : EventSpec)
    (scopeSlot subjectDigest : String) (current : Phase) : Reduced :=
  match nextReadPhase spec.type current with
  | none => refuse "ECO_TOOL_EVENT_ORDER" "No-model read is out of order"
  | some .failed =>
    match spec.resultDigest with
    | .text _ => .ok (p.setTool scopeSlot .failed subjectDigest)
    | _ =>
      refuse "ECO_TOOL_EVENT_BINDING"
        "No-model terminal read requires a result digest"
  | some .completed =>
    match spec.resultDigest, readEvidence spec with
    | .text _, some evidence =>
      .ok { p.setTool scopeSlot .completed subjectDigest with
        noModelResults := p.noModelResults.insert scopeSlot evidence }
    | .text _, none =>
      refuse "ECO_TOOL_EVENT_BINDING"
        "Completed no-model read requires sanitized check evidence"
    | _, _ =>
      refuse "ECO_TOOL_EVENT_BINDING"
        "No-model terminal read requires a result digest"
  | some phase => .ok (p.setTool scopeSlot phase subjectDigest)

/-- The `no-model.read.*` branch. -/
def reduceNoModelRead (p : RunProjection) (spec : EventSpec) : Reduced :=
  match spec.subjectId, spec.subjectDigest with
  | .text _, .text subjectDigest =>
    match spec.scopeSlot with
    | .text scopeSlot =>
      if FieldValue.ofOption (p.noModelScopeEntries.lookup scopeSlot) ≠
          spec.entryDigest then
        refuse "ECO_NO_MODEL_LIFECYCLE"
          "No-model read is not bound to a scope entry"
      else
        match p.toolStates.lookup scopeSlot with
        | none =>
          if spec.type = .noModelReadRequested then
            .ok (p.setTool scopeSlot .requested subjectDigest)
          else
            refuse "ECO_TOOL_EVENT_BINDING"
              "No-model read subject does not match"
        | some (current, digest) =>
          if spec.type = .noModelReadRequested then
            refuse "ECO_TOOL_EVENT_ORDER" "No-model read is already recorded"
          else if digest ≠ subjectDigest then
            refuse "ECO_TOOL_EVENT_BINDING"
              "No-model read subject does not match"
          else
            advanceRead p spec scopeSlot subjectDigest current
    | _ =>
      refuse "ECO_NO_MODEL_LIFECYCLE"
        "No-model read is not bound to a scope entry"
  | _, _ =>
    refuse "ECO_TOOL_EVENT_BINDING"
      "No-model read event requires a subject id and digest"

/-- The condition under which `no-model.workflow.succeeded` is accepted: the
three fixed reads are recorded, completed and passed, with distinct contents. -/
def noModelSuccess (p : RunProjection) : Bool :=
  p.toolStates.keys = p.noModelScopeEntries.keys &&
    !(p.toolStates.anyValue fun v => v.1 != .completed) &&
    p.noModelResults.keys = p.noModelScopeEntries.keys &&
    !(p.noModelResults.anyValue fun v => v.2 != .pass) &&
    (p.noModelResults.keys.image fun k =>
      (p.noModelResults.lookup k).map Prod.fst).card = 3

/-- Where a tool event moves a subject that is in phase `current`. -/
def nextToolPhase : EventType → Phase → Option Phase
  | .toolAllowed, .requested => some .allowed
  | .toolDenied, .requested => some .denied
  | .toolCancelled, .requested => some .cancelled
  | .toolCancelled, .allowed => some .cancelled
  | .toolCompleted, .allowed => some .completed
  | .toolFailed, .allowed => some .failed
  | _, _ => none

/-- The tool event of a subject whose phase `current` and digest are known. -/
def advanceTool (p : RunProjection) (spec : EventSpec)
    (subjectId subjectDigest : String) (current : Phase) : Reduced :=
  match nextToolPhase spec.type current with
  | none => refuse "ECO_TOOL_EVENT_ORDER" "Tool event is out of order"
  | some phase =>
    match phase, spec.resultDigest with
    | .completed, .absent | .completed, .other
    | .failed, .absent | .failed, .other =>
      refuse "ECO_TOOL_EVENT_BINDING"
        "Terminal tool event requires a result digest"
    | phase, _ => .ok (p.setTool subjectId phase subjectDigest)

/-- The `tool.*` branch. -/
def reduceTool (p : RunProjection) (spec : EventSpec) : Reduced :=
  match spec.subjectId, spec.subjectDigest with
  | .text subjectId, .text subjectDigest =>
    match p.toolStates.lookup subjectId with
    | none =>
      if spec.type = .toolRequested then
        if p.adapterCompleted || p.adapterFailed || p.budgetExhausted then
          refuse "ECO_TOOL_EVENT_ORDER" "Tool request is not allowed now"
        else
          .ok (p.setTool subjectId .requested subjectDigest)
      else
        refuse "ECO_TOOL_EVENT_BINDING" "Tool event subject does not match"
    | some (current, digest) =>
      if spec.type = .toolRequested then
        refuse "ECO_TOOL_EVENT_ORDER" "Tool request is not allowed now"
      else if digest ≠ subjectDigest then
        refuse "ECO_TOOL_EVENT_BINDING" "Tool event subject does not match"
      else
        advanceTool p spec subjectId subjectDigest current
  | _, _ =>
    refuse "ECO_TOOL_EVENT_BINDING" "Tool event requires a subject id and digest"

/-- The final `raise` of the cascade. -/
def notAllowed : Reduced :=
  refuse "ECO_STATE_TRANSITION" "Event is not allowed in the current run state"

/-- The events of state `RUNNING` that the no-model branch does not answer. -/
def reduceRunning (p : RunProjection) (spec : EventSpec) : Reduced :=
  match spec.type with
  | .toolRequested | .toolAllowed | .toolDenied | .toolCancelled
  | .toolCompleted | .toolFailed => reduceTool p spec
  | .adapterCompleted =>
    if p.adapterCompleted || p.adapterFailed || p.budgetExhausted ||
        p.hasOpenTool then
      refuse "ECO_ADAPTER_EVENT_ORDER" "Adapter cannot complete now"
    else
      .ok { p with adapterCompleted := true }
  | .adapterFailed =>
    if p.adapterCompleted || p.adapterFailed then
      refuse "ECO_ADAPTER_EVENT_ORDER" "Adapter failure is out of order"
    else
      .ok { p with adapterFailed := true }
  | .artifactRecorded =>
    if p.adapterFailed || p.budgetExhausted then
      refuse "ECO_STATE_TRANSITION" "Artifact event is not allowed now"
    else
      .ok p
  | .budgetExhausted =>
    if p.budgetExhausted || p.adapterCompleted then
      refuse "ECO_BUDGET_EVENT_ORDER" "Budget exhaustion is out of order"
    else
      .ok { p with budgetExhausted := true }
  | .runSucceeded =>
    if !p.adapterCompleted || p.adapterFailed || p.budgetExhausted ||
        p.hasOpenTool then
      refuse "ECO_RUN_SUCCESS_INVALID" "Run success preconditions are not met"
    else
      .ok { p with state := .succeeded }
  | .runExhausted =>
    if !p.budgetExhausted then
      refuse "ECO_RUN_EXHAUSTION_INVALID" "Run is not budget exhausted"
    else if p.hasOpenTool then
      refuse "ECO_TOOL_EVENT_ORDER" "Open tool operations block termination"
    else
      .ok { p with state := .exhausted }
  | .runFailed =>
    if p.hasOpenTool then
      refuse "ECO_TOOL_EVENT_ORDER" "Open tool operations block termination"
    else
      .ok { p with state := .failed }
  | .runCancelled =>
    if p.hasOpenTool then
      refuse "ECO_TOOL_EVENT_ORDER" "Open tool operations block termination"
    else
      .ok { p with state := .cancelled }
  | _ => notAllowed

/-- The events a started no-model run refuses outright. -/
def forbiddenInNoModel (t : EventType) : Bool :=
  t.isAdapter || t.isTool || t == .artifactRecorded || t == .budgetExhausted ||
    t == .runSucceeded || t == .runExhausted

/-- State `RUNNING` with `no_model_started`: what is neither forbidden, nor a
read, nor the workflow's success falls through to the shared branch. -/
def reduceNoModelRunning (p : RunProjection) (spec : EventSpec) : Reduced :=
  if forbiddenInNoModel spec.type then
    refuse "ECO_NO_MODEL_LIFECYCLE"
      "No-model runs cannot enter adapter or tool lifecycles"
  else if spec.type.isNoModelRead then
    reduceNoModelRead p spec
  else if spec.type = .noModelWorkflowSucceeded then
    if noModelSuccess p then
      .ok { p with state := .succeeded }
    else
      refuse "ECO_RUN_SUCCESS_INVALID"
        "No-model workflow success preconditions are not met"
  else
    reduceRunning p spec

/-- The closing branch: any state between `RECEIVED` and `AUTHORIZED` may fail
or be cancelled. -/
def reduceEarlyEnd (p : RunProjection) (spec : EventSpec) : Reduced :=
  match spec.type with
  | .runFailed => .ok { p with state := .failed }
  | .runCancelled => .ok { p with state := .cancelled }
  | _ => notAllowed

/-- Pure transition reducer shared by memory and durable replay paths. -/
def reduceRunEvent (p : RunProjection) (spec : EventSpec) : Reduced :=
  match p.state with
  | .new =>
    match spec.type with
    | .runReceived => .ok { p with state := .received }
    | _ => notAllowed
  | .received =>
    match spec.type with
    | .runValidated => .ok { p with state := .validated }
    | _ => reduceEarlyEnd p spec
  | .validated =>
    match spec.type with
    | .planCreated => .ok { p with state := .planned }
    | _ => reduceEarlyEnd p spec
  | .planned =>
    match spec.type with
    | .policyAllowed => .ok { p with state := .authorized }
    | .policyDenied => .ok { p with state := .denied }
    | .noModelPolicyAllowed =>
      match spec.subjectDigest with
      | .text planDigest =>
        .ok { p with
          state := .authorized
          noModelAuthorized := true
          noModelPlanDigest := some planDigest }
      | _ =>
        refuse "ECO_NO_MODEL_LIFECYCLE"
          "No-model authorization requires a plan digest"
    | .noModelPolicyDenied => .ok { p with state := .denied }
    | _ => reduceEarlyEnd p spec
  | .authorized =>
    match spec.type with
    | .adapterStarted =>
      if p.noModelAuthorized then
        refuse "ECO_NO_MODEL_LIFECYCLE"
          "No-model authorization cannot start an adapter"
      else
        .ok { p with state := .running }
    | .noModelWorkflowStarted => reduceWorkflowStarted p spec
    | _ => reduceEarlyEnd p spec
  | .running =>
    if p.noModelStarted then reduceNoModelRunning p spec
    else reduceRunning p spec
  | _ => notAllowed

def reduceRunEvents (p : RunProjection) (events : List EventSpec) : Reduced :=
  events.foldlM reduceRunEvent p

end Ecosystem.Runtime
