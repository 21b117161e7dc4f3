import Ecosystem.Flow.Records
import Ecosystem.Lib.Checks

/-!
# The projector of run events

`project_runtime_flow` checks that the events of one run are a chain, derives a phase
and a status for each, and builds the record.  An event here has, beside the fields of
the reducer, the text of its time and its reason code.
-/

namespace Ecosystem.Flow

open Ecosystem.Lib
open Ecosystem.Runtime

/-! ## Run events -/

structure EventRecord (times : TimeText) where
  event : RunEvent
  occurredAt : String
  reasonCode : Option String
  format : times.rfc3339 occurredAt = true
  reads : times.instant occurredAt = some event.metadata.occurredAt

/-- `semantic_digest` of an event. -/
structure EventDigest (times : TimeText) where
  digest : EventRecord times → String
  digest_hex : ∀ record, matchesSha256 (digest record) = true

/-- `^ECO_[A-Z0-9_]+$`. -/
def matchesReason (s : String) : Bool :=
  match dropFinalNewline s.toList with
  | 'E' :: 'C' :: 'O' :: '_' :: c :: cs =>
    (c :: cs).all fun c => c.isUpper || c.isDigit || c = '_'
  | _ => false

section Projector

variable {times : TimeText} {Φ : Type}

/-- `validate_record` on a run event. -/
def EventRecord.valid (record : EventRecord times) : Bool :=
  contractValid record.event && record.reasonCode.all matchesReason

/-! ## Phase and status of an event -/

def suffix (name : String) : String :=
  String.ofList (name.toList.reverse.takeWhile (· ≠ '.')).reverse

def terminalEventTypes : List EventType :=
  [.policyDenied, .noModelPolicyDenied, .noModelWorkflowSucceeded, .runSucceeded,
    .runFailed, .runCancelled, .runExhausted]

def eventPhase (type : EventType) : FlowPhase :=
  let name := type.name
  if name.startsWith "policy." || name.startsWith "no-model.policy." then .policy
  else if name.startsWith "tool." || name.startsWith "adapter." ||
      name.startsWith "no-model.read." then .execute
  else if name.startsWith "no-model.workflow." then
    if suffix name = "started" then .execute else .terminal
  else if name = "plan.created" then .plan
  else if type ∈ terminalEventTypes then .terminal
  else .admission

/-- `_OUTCOME_STATUS`, and the status of what is pending. -/
def eventStatus (type : EventType) : Outcome → FlowStatus
  | .pending => if suffix type.name = "started" then .running else .pending
  | .success => .succeeded
  | .denied => .denied
  | .failed => .failed
  | .exhausted => .exhausted
  | .cancelled => .cancelled

/-- `spec.get(key)` of a record that has passed its contract. -/
def fieldText : FieldValue → Option String
  | .text s => some s
  | _ => none

/-- The event as a node, but for its place. -/
structure ObservedFlowEvent where
  eventType : String
  phase : FlowPhase
  status : FlowStatus
  occurredAt : Option String
  reasonCode : Option String
  subject : FlowSubject

/-- `subject_id or event["metadata"]["id"]`. -/
def EventRecord.subjectId (record : EventRecord times) : String :=
  match fieldText record.event.spec.subjectId with
  | some s => if s = "" then record.event.metadata.id else s
  | none => record.event.metadata.id

def EventRecord.subjectKind (record : EventRecord times) : String :=
  match fieldText record.event.spec.subjectId with
  | some s => if s = "" then "RunEvent" else "RunEventSubject"
  | none => "RunEvent"

def projectEvent (record : EventRecord times) : ObservedFlowEvent :=
  let spec := record.event.spec
  { eventType := spec.type.name
    phase := eventPhase spec.type
    status := eventStatus spec.type spec.outcome
    occurredAt := some record.occurredAt
    reasonCode := record.reasonCode
    subject := {
      kind := record.subjectKind
      id := record.subjectId
      digest := fieldText spec.subjectDigest } }

/-! ## The record -/

/-- `f"{n:06d}"`. -/
def sixDigits (n : ℕ) : String :=
  let digits := Nat.toDigits 10 n
  String.ofList (List.replicate (6 - digits.length) '0' ++ digits)

def nodeId (sequence : ℕ) : String := "node-" ++ sixDigits sequence

def edgeId (sequence : ℕ) : String := "edge-" ++ sixDigits sequence

def ObservedFlowEvent.node (event : ObservedFlowEvent) (sequence : ℕ) : FlowNode where
  id := nodeId sequence
  sequence := sequence
  eventType := event.eventType
  phase := event.phase
  status := event.status
  occurredAt := event.occurredAt
  reasonCode := event.reasonCode
  subject := event.subject

def nodesFrom : ℕ → List ObservedFlowEvent → List FlowNode
  | _, [] => []
  | sequence, event :: events => event.node sequence :: nodesFrom (sequence + 1) events

/-- An edge from every node but the last to the one behind it. -/
def nextEdges (count : ℕ) : List FlowEdge :=
  (List.range' 1 (count - 1)).map fun sequence =>
    { id := edgeId sequence
      source := nodeId sequence
      target := nodeId (sequence + 1)
      type := .next }

variable (prims : Primitives Φ)

def projection (projectId runId : String) (source : FlowSource) (status : FlowStatus)
    (events : List ObservedFlowEvent) : Except Failure FlowProjection :=
  let nodes := nodesFrom 1 events
  let edges := nextEdges nodes.length
  let record : FlowProjection :=
    { id := "flow:" ++ runId
      projectId := projectId
      runId := runId
      recordDigest := String.ofList (List.replicate 64 '0')
      source := source
      status := status
      nodes := nodes
      edges := edges
      summary := summaryOf nodes edges }
  validateFlowProjection prims
    { record with recordDigest := flowProjectionDigest prims record }

/-! ## Run events as a flow -/

variable (digests : EventDigest prims.times)

def checkLinks : Option String → List (EventRecord prims.times) → Except Failure Unit
  | _, [] => .ok ()
  | previous, event :: events =>
    if event.event.metadata.previousEventDigest = previous then
      checkLinks (some (digests.digest event)) events
    else .error (.value "runtime event chain digest does not match")

def flowStatus (last : EventRecord times) : FlowStatus :=
  if last.event.spec.type ∈ terminalEventTypes then
    eventStatus last.event.spec.type last.event.spec.outcome
  else .running

def projectRuntimeFlow (projectId : String) (events : List (EventRecord prims.times))
    (authenticated : Bool) : Except Failure FlowProjection := do
  Checks.require (events.all (·.valid)) .eventContract
  match events with
  | [] => .error (.value "runtime event projection requires at least one event")
  | first :: rest =>
    let runId := first.event.metadata.runId
    Checks.require (events.all (·.event.metadata.runId = runId))
      (.value "runtime events must belong to one run")
    Checks.require
      (events.map (·.event.metadata.sequence) = List.range' 1 events.length)
      (.value "runtime event sequence must be contiguous")
    checkLinks prims digests none events
    let last := rest.getLast?.getD first
    projection prims projectId runId
      { kind := .runtimeRunEvents
        trust := if authenticated then .authenticated else .validated
        boundary := if authenticated then "external-journal-authenticated"
          else "schema-validated-not-authenticated"
        headDigest := some (digests.digest last) }
      (flowStatus last) (events.map projectEvent)

end Projector

end Ecosystem.Flow
