import Ecosystem.Lib.JsonEquality
import Ecosystem.Runtime.EventChain

/-!
# Flow projections

A projection shows a run as a row of nodes with an edge from each to the next:
`flow_contract_errors` checks its record, and `replay_projection` takes an export back.

The schema is split: what `readProjection` refuses has the wrong shape, and `Conforms`
is asked of the values.  The texts of the errors are left out.
-/

namespace Ecosystem.Flow

open Ecosystem.Lib
open Ecosystem.Runtime (matchesSha256 dropFinalNewline)

/-! ## Enumerations -/

inductive FlowStatus
  | pending | running | succeeded | incomplete | failed | denied | exhausted | cancelled
  | ambiguous
deriving DecidableEq

inductive FlowPhase
  | admission | plan | policy | route | execute | retrieve | synthesize | verify | review
  | terminal

inductive SourceKind
  | runtimeRunEvents | orchestrationEvents | loopEvents | teamStateEvents
  | productObservation

inductive Trust
  | authenticated | validated | observed

inductive EdgeType
  | next | causedBy | handoff | verifiedBy | reviewedBy

def FlowStatus.name : FlowStatus → String
  | .pending => "pending"
  | .running => "running"
  | .succeeded => "succeeded"
  | .incomplete => "incomplete"
  | .failed => "failed"
  | .denied => "denied"
  | .exhausted => "exhausted"
  | .cancelled => "cancelled"
  | .ambiguous => "ambiguous"

def FlowPhase.name : FlowPhase → String
  | .admission => "admission"
  | .plan => "plan"
  | .policy => "policy"
  | .route => "route"
  | .execute => "execute"
  | .retrieve => "retrieve"
  | .synthesize => "synthesize"
  | .verify => "verify"
  | .review => "review"
  | .terminal => "terminal"

def SourceKind.name : SourceKind → String
  | .runtimeRunEvents => "runtime-run-events"
  | .orchestrationEvents => "orchestration-events"
  | .loopEvents => "loop-events"
  | .teamStateEvents => "team-state-events"
  | .productObservation => "product-observation"

def Trust.name : Trust → String
  | .authenticated => "authenticated"
  | .validated => "validated"
  | .observed => "observed"

def EdgeType.name : EdgeType → String
  | .next => "next"
  | .causedBy => "caused-by"
  | .handoff => "handoff"
  | .verifiedBy => "verified-by"
  | .reviewedBy => "reviewed-by"

def FlowStatus.all : List FlowStatus :=
  [.pending, .running, .succeeded, .incomplete, .failed, .denied, .exhausted, .cancelled,
    .ambiguous]

def FlowPhase.all : List FlowPhase :=
  [.admission, .plan, .policy, .route, .execute, .retrieve, .synthesize, .verify, .review,
    .terminal]

def SourceKind.all : List SourceKind :=
  [.runtimeRunEvents, .orchestrationEvents, .loopEvents, .teamStateEvents,
    .productObservation]

def Trust.all : List Trust := [.authenticated, .validated, .observed]

def EdgeType.all : List EdgeType := [.next, .causedBy, .handoff, .verifiedBy, .reviewedBy]

/-! ## Records -/

structure FlowSubject where
  kind : String
  id : String
  digest : Option String

structure FlowNode where
  id : String
  sequence : ℤ
  eventType : String
  phase : FlowPhase
  status : FlowStatus
  occurredAt : Option String
  reasonCode : Option String
  subject : FlowSubject

/-- An edge `from` a node `to` another one. -/
structure FlowEdge where
  id : String
  source : String
  target : String
  type : EdgeType

structure FlowSource where
  kind : SourceKind
  trust : Trust
  boundary : String
  headDigest : Option String

structure FlowSummary where
  nodeCount : ℤ
  edgeCount : ℤ
  failedNodeCount : ℤ
  deniedNodeCount : ℤ
deriving DecidableEq

/-- A `FlowProjection` record. -/
structure FlowProjection where
  id : String
  projectId : String
  runId : String
  recordDigest : String
  source : FlowSource
  status : FlowStatus
  nodes : List FlowNode
  edges : List FlowEdge
  summary : FlowSummary

/-- Texts of instants: `RFC3339_RE` of the runtime, and `datetime.fromisoformat` with a
zone. -/
structure TimeText where
  rfc3339 : String → Bool
  instant : String → Option ℤ

/-- What the package takes from outside of it: the text of floats, `semantic_digest` and
the texts of instants. -/
structure Primitives (Φ : Type) where
  floats : FloatText Φ
  semanticDigest : Json Φ → String
  semanticDigest_hex : ∀ v, matchesSha256 (semanticDigest v) = true
  times : TimeText

/-! ## The JSON of a record -/

section Export

variable {Φ : Type}

def FlowSubject.json (s : FlowSubject) : Json Φ :=
  .obj [("digest", .ofOption s.digest), ("id", .str s.id), ("kind", .str s.kind)]

def FlowNode.json (n : FlowNode) : Json Φ :=
  .obj [("eventType", .str n.eventType), ("id", .str n.id),
    ("occurredAt", .ofOption n.occurredAt), ("phase", .str n.phase.name),
    ("reasonCode", .ofOption n.reasonCode), ("sequence", .int n.sequence),
    ("status", .str n.status.name), ("subject", n.subject.json)]

def FlowEdge.json (e : FlowEdge) : Json Φ :=
  .obj [("from", .str e.source), ("id", .str e.id), ("to", .str e.target),
    ("type", .str e.type.name)]

def FlowSource.json (s : FlowSource) : Json Φ :=
  .obj [("boundary", .str s.boundary), ("headDigest", .ofOption s.headDigest),
    ("kind", .str s.kind.name), ("trust", .str s.trust.name)]

def FlowSummary.json (s : FlowSummary) : Json Φ :=
  .obj [("deniedNodeCount", .int s.deniedNodeCount), ("edgeCount", .int s.edgeCount),
    ("failedNodeCount", .int s.failedNodeCount), ("nodeCount", .int s.nodeCount)]

def flowApiVersion : String := "flow.ai.ecosystem/v1alpha1"

def flowContractProfile : String := "flow-projection-v1alpha1"

def flowRecordDomain : String := "eco-flow-projection-v1alpha1"

/-- A record whose metadata are these. -/
def FlowProjection.jsonWith (p : FlowProjection) (metadata : List (String × Json Φ)) :
    Json Φ :=
  .obj [("apiVersion", .str flowApiVersion), ("kind", .str "FlowProjection"),
    ("metadata", .obj metadata),
    ("spec", .obj [("edges", .arr (p.edges.map (·.json))),
      ("nodes", .arr (p.nodes.map (·.json))), ("profile", .str flowContractProfile),
      ("source", p.source.json), ("status", .str p.status.name),
      ("summary", p.summary.json)])]

def FlowProjection.json (p : FlowProjection) : Json Φ :=
  p.jsonWith [("id", .str p.id), ("projectId", .str p.projectId),
    ("recordDigest", .str p.recordDigest), ("runId", .str p.runId)]

/-- `flow_projection_digest`: of the record without its own digest. -/
def flowProjectionDigest (prims : Primitives Φ) (p : FlowProjection) : String :=
  prims.semanticDigest (.obj [("domain", .str flowRecordDomain),
    ("profile", .str flowContractProfile),
    ("record", p.jsonWith [("id", .str p.id), ("projectId", .str p.projectId),
      ("runId", .str p.runId)])])

/-! ## Reading a record -/

def readText : Json Φ → Option String
  | .str s => some s
  | _ => none

def readInt : Json Φ → Option ℤ
  | .int n => some n
  | _ => none

/-- `oneOf` a text and `null`. -/
def readOptional : Json Φ → Option (Option String)
  | .null => some none
  | .str s => some (some s)
  | _ => none

def readName {α : Type} (all : List α) (name : α → String) : Json Φ → Option α
  | .str s => all.find? fun a => name a = s
  | _ => none

def readConst (expected : String) : Json Φ → Option Unit
  | .str s => if s = expected then some () else none
  | _ => none

def readSubject : Json Φ → Option FlowSubject
  | .obj [("digest", digest), ("id", id), ("kind", kind)] => do
    return { digest := ← readOptional digest, id := ← readText id, kind := ← readText kind }
  | _ => none

def readNode : Json Φ → Option FlowNode
  | .obj [("eventType", eventType), ("id", id), ("occurredAt", occurredAt),
      ("phase", phase), ("reasonCode", reasonCode), ("sequence", sequence),
      ("status", status), ("subject", subject)] => do
      return {
        eventType := ← readText eventType
        id := ← readText id
        occurredAt := ← readOptional occurredAt
        phase := ← readName FlowPhase.all FlowPhase.name phase
        reasonCode := ← readOptional reasonCode
        sequence := ← readInt sequence
        status := ← readName FlowStatus.all FlowStatus.name status
        subject := ← readSubject subject }
  | _ => none

def readEdge : Json Φ → Option FlowEdge
  | .obj [("from", source), ("id", id), ("to", target), ("type", type)] => do
    return {
      source := ← readText source
      id := ← readText id
      target := ← readText target
      type := ← readName EdgeType.all EdgeType.name type }
  | _ => none

def readSource : Json Φ → Option FlowSource
  | .obj [("boundary", boundary), ("headDigest", headDigest), ("kind", kind),
      ("trust", trust)] => do
      return {
        boundary := ← readText boundary
        headDigest := ← readOptional headDigest
        kind := ← readName SourceKind.all SourceKind.name kind
        trust := ← readName Trust.all Trust.name trust }
  | _ => none

def readSummary : Json Φ → Option FlowSummary
  | .obj [("deniedNodeCount", denied), ("edgeCount", edges), ("failedNodeCount", failed),
      ("nodeCount", nodes)] => do
      return {
        deniedNodeCount := ← readInt denied
        edgeCount := ← readInt edges
        failedNodeCount := ← readInt failed
        nodeCount := ← readInt nodes }
  | _ => none

def readProjection : Json Φ → Option FlowProjection
  | .obj [("apiVersion", apiVersion), ("kind", kind),
      ("metadata", .obj [("id", id), ("projectId", projectId),
        ("recordDigest", recordDigest), ("runId", runId)]),
      ("spec", .obj [("edges", .arr edges), ("nodes", .arr nodes), ("profile", profile),
        ("source", source), ("status", status), ("summary", summary)])] => do
      readConst flowApiVersion apiVersion
      readConst "FlowProjection" kind
      readConst flowContractProfile profile
      return {
        id := ← readText id
        projectId := ← readText projectId
        runId := ← readText runId
        recordDigest := ← readText recordDigest
        source := ← readSource source
        status := ← readName FlowStatus.all FlowStatus.name status
        nodes := ← nodes.mapM readNode
        edges := ← edges.mapM readEdge
        summary := ← readSummary summary }
  | _ => none

/-! ## The contract -/

/-- `#/$defs/id` and `#/$defs/code`. -/
def isIdentifier (s : String) : Bool :=
  s.toList.length ≤ 128 &&
    match dropFinalNewline s.toList with
    | [] => false
    | c :: cs => c.isAlphanum && cs.all fun c => c.isAlphanum || c ∈ ['.', '_', ':', '-']

variable (prims : Primitives Φ)

def FlowSubject.conforms (s : FlowSubject) : Bool :=
  isIdentifier s.kind && isIdentifier s.id && s.digest.all matchesSha256

def FlowNode.conforms (n : FlowNode) : Bool :=
  isIdentifier n.id && 1 ≤ n.sequence && isIdentifier n.eventType &&
    n.occurredAt.all (fun time => (prims.times.instant time).isSome) &&
    n.reasonCode.all isIdentifier && n.subject.conforms

def FlowEdge.conforms (e : FlowEdge) : Bool :=
  isIdentifier e.id && isIdentifier e.source && isIdentifier e.target

def summaryOf (nodes : List FlowNode) (edges : List FlowEdge) : FlowSummary where
  nodeCount := nodes.length
  edgeCount := edges.length
  failedNodeCount := nodes.countP (·.status = .failed)
  deniedNodeCount := nodes.countP (·.status = .denied)

/-- `flow_contract_errors` finds nothing in a record that has the shape of one. -/
structure FlowProjection.Conforms (p : FlowProjection) : Prop where
  id : isIdentifier p.id = true
  projectId : isIdentifier p.projectId = true
  runId : isIdentifier p.runId = true
  boundary : isIdentifier p.source.boundary = true
  headDigest : p.source.headDigest.all matchesSha256 = true
  nodes : p.nodes.length ≤ 10000
  edges : p.edges.length ≤ 20000
  node : ∀ n ∈ p.nodes, n.conforms prims = true
  edge : ∀ e ∈ p.edges, e.conforms = true
  nodeIds : (p.nodes.map (·.id)).Nodup
  sequences : p.nodes.map (·.sequence) = (List.range' 1 p.nodes.length).map (fun n => (n : ℤ))
  edgeIds : (p.edges.map (·.id)).Nodup
  known : ∀ e ∈ p.edges, e.source ∈ p.nodes.map (·.id) ∧ e.target ∈ p.nodes.map (·.id)
  summary : p.summary = summaryOf p.nodes p.edges
  recordDigest : p.recordDigest = flowProjectionDigest prims p

instance (p : FlowProjection) : Decidable (p.Conforms prims) :=
  decidable_of_iff
    ((isIdentifier p.id = true ∧ isIdentifier p.projectId = true ∧
        isIdentifier p.runId = true ∧ isIdentifier p.source.boundary = true ∧
        p.source.headDigest.all matchesSha256 = true ∧ p.nodes.length ≤ 10000 ∧
        p.edges.length ≤ 20000) ∧
      ((∀ n ∈ p.nodes, n.conforms prims = true) ∧ (∀ e ∈ p.edges, e.conforms = true) ∧
        (p.nodes.map (·.id)).Nodup ∧
        p.nodes.map (·.sequence) = (List.range' 1 p.nodes.length).map (fun n => (n : ℤ)) ∧
        (p.edges.map (·.id)).Nodup ∧
        (∀ e ∈ p.edges, e.source ∈ p.nodes.map (·.id) ∧ e.target ∈ p.nodes.map (·.id)) ∧
        p.summary = summaryOf p.nodes p.edges ∧
        p.recordDigest = flowProjectionDigest prims p))
    ⟨fun ⟨⟨h₁, h₂, h₃, h₄, h₅, h₆, h₇⟩, h₈, h₉, h₁₀, h₁₁, h₁₂, h₁₃, h₁₄, h₁₅⟩ =>
      ⟨h₁, h₂, h₃, h₄, h₅, h₆, h₇, h₈, h₉, h₁₀, h₁₁, h₁₂, h₁₃, h₁₄, h₁₅⟩,
     fun h => ⟨⟨h.id, h.projectId, h.runId, h.boundary, h.headDigest, h.nodes, h.edges⟩,
      h.node, h.edge, h.nodeIds, h.sequences, h.edgeIds, h.known, h.summary,
      h.recordDigest⟩⟩

/-- What a call of the package raises: the contract error of a run event, a `ValueError`
of the projector, or `FlowContractError`. -/
inductive Failure
  | eventContract
  | value (message : String)
  | flowContract

def validateFlowProjection (p : FlowProjection) : Except Failure FlowProjection :=
  if p.Conforms prims then .ok p else .error .flowContract

def exportText (p : FlowProjection) : String :=
  prims.floats.codec.dumps p.json

def replayProjection (payload : String) : Except Failure FlowProjection :=
  match prims.floats.codec.loads payload with
  | none => .error .flowContract
  | some candidate =>
    match readProjection candidate with
    | none => .error .flowContract
    | some p => validateFlowProjection prims p

end Export

/-! ## An export is read back -/

section RoundTrip

variable {Φ : Type}

theorem readOptional_ofOption (s : Option String) :
    readOptional (.ofOption s : Json Φ) = some s := by
  cases s <;> rfl

theorem ordered_ofOption (s : Option String) : (Json.ofOption s : Json Φ).Ordered := by
  cases s with
  | none => exact .null
  | some s => exact .str s

theorem readName_flowStatus (s : FlowStatus) :
    readName FlowStatus.all FlowStatus.name (.str s.name : Json Φ) = some s := by
  cases s <;> rfl

theorem readName_flowPhase (p : FlowPhase) :
    readName FlowPhase.all FlowPhase.name (.str p.name : Json Φ) = some p := by
  cases p <;> rfl

theorem readName_sourceKind (k : SourceKind) :
    readName SourceKind.all SourceKind.name (.str k.name : Json Φ) = some k := by
  cases k <;> rfl

theorem readName_trust (t : Trust) :
    readName Trust.all Trust.name (.str t.name : Json Φ) = some t := by
  cases t <;> rfl

theorem readName_edgeType (t : EdgeType) :
    readName EdgeType.all EdgeType.name (.str t.name : Json Φ) = some t := by
  cases t <;> rfl

theorem readNode_json (n : FlowNode) : readNode (n.json : Json Φ) = some n := by
  rw [FlowNode.json, FlowSubject.json, readNode]
  simp only [readSubject, readName_flowPhase, readName_flowStatus, readOptional_ofOption]
  rfl

theorem readEdge_json (e : FlowEdge) : readEdge (e.json : Json Φ) = some e := by
  rw [FlowEdge.json, readEdge]
  simp only [readName_edgeType]
  rfl

theorem mapM_json {α : Type} {json : α → Json Φ} {read : Json Φ → Option α}
    (h : ∀ a, read (json a) = some a) (xs : List α) :
    (xs.map json).mapM read = some xs := by
  induction xs with
  | nil => rfl
  | cons x xs ih =>
    rw [List.map_cons, List.mapM_cons, h, ih]
    rfl

theorem readProjection_json (p : FlowProjection) :
    readProjection (p.json : Json Φ) = some p := by
  rw [FlowProjection.json, FlowProjection.jsonWith, FlowSource.json, FlowSummary.json,
    readProjection]
  simp only [mapM_json readNode_json, mapM_json readEdge_json, readSource, readSummary,
    readName_flowStatus, readName_sourceKind, readName_trust, readOptional_ofOption]
  rfl

theorem ordered_node (n : FlowNode) : (n.json : Json Φ).Ordered := by
  refine @Json.Ordered.of_keys _ _ ["eventType", "id", "occurredAt", "phase",
    "reasonCode", "sequence", "status", "subject"] (by decide) rfl ?_
  simp only [List.forall_mem_cons, List.not_mem_nil, false_implies, implies_true, and_true]
  refine ⟨.str _, .str _, ordered_ofOption _, .str _, ordered_ofOption _, .int _, .str _, ?_⟩
  refine @Json.Ordered.of_keys _ _ ["digest", "id", "kind"] (by decide) rfl ?_
  simp only [List.forall_mem_cons, List.not_mem_nil, false_implies, implies_true, and_true]
  exact ⟨ordered_ofOption _, .str _, .str _⟩

theorem ordered_edge (e : FlowEdge) : (e.json : Json Φ).Ordered := by
  refine @Json.Ordered.of_keys _ _ ["from", "id", "to", "type"] (by decide) rfl ?_
  simp only [List.forall_mem_cons, List.not_mem_nil, false_implies, implies_true, and_true]
  exact ⟨.str _, .str _, .str _, .str _⟩

theorem ordered_items {α : Type} {json : α → Json Φ} (h : ∀ a, (json a).Ordered)
    (xs : List α) : (Json.arr (xs.map json)).Ordered := by
  refine .arr _ fun v hv => ?_
  obtain ⟨a, -, rfl⟩ := List.mem_map.mp hv
  exact h a

theorem ordered_json (p : FlowProjection) : (p.json : Json Φ).Ordered := by
  have hmetadata : (Json.obj [("id", .str p.id), ("projectId", .str p.projectId),
      ("recordDigest", .str p.recordDigest), ("runId", .str p.runId)] : Json Φ).Ordered := by
    refine @Json.Ordered.of_keys _ _ ["id", "projectId", "recordDigest", "runId"]
      (by decide) rfl ?_
    simp only [List.forall_mem_cons, List.not_mem_nil, false_implies, implies_true, and_true]
    exact ⟨.str _, .str _, .str _, .str _⟩
  have hsource : (p.source.json : Json Φ).Ordered := by
    refine @Json.Ordered.of_keys _ _ ["boundary", "headDigest", "kind", "trust"]
      (by decide) rfl ?_
    simp only [List.forall_mem_cons, List.not_mem_nil, false_implies, implies_true, and_true]
    exact ⟨.str _, ordered_ofOption _, .str _, .str _⟩
  have hsummary : (p.summary.json : Json Φ).Ordered := by
    refine @Json.Ordered.of_keys _ _ ["deniedNodeCount", "edgeCount",
      "failedNodeCount", "nodeCount"] (by decide) rfl ?_
    simp only [List.forall_mem_cons, List.not_mem_nil, false_implies, implies_true, and_true]
    exact ⟨.int _, .int _, .int _, .int _⟩
  refine @Json.Ordered.of_keys _ _ ["apiVersion", "kind", "metadata", "spec"]
    (by decide) rfl ?_
  simp only [List.forall_mem_cons, List.not_mem_nil, false_implies, implies_true, and_true]
  refine ⟨.str _, .str _, hmetadata, ?_⟩
  refine @Json.Ordered.of_keys _ _ ["edges", "nodes", "profile", "source", "status",
    "summary"] (by decide) rfl ?_
  simp only [List.forall_mem_cons, List.not_mem_nil, false_implies, implies_true, and_true]
  exact ⟨ordered_items ordered_edge _, ordered_items ordered_node _, .str _, hsource,
    .str _, hsummary⟩

/-- **A record that conforms is replayed from its export.** -/
theorem replayProjection_exportText {prims : Primitives Φ} {p : FlowProjection}
    (h : p.Conforms prims) : replayProjection prims (exportText prims p) = .ok p := by
  rw [replayProjection, exportText, prims.floats.codec.loads_dumps _ (ordered_json p)]
  dsimp only
  rw [readProjection_json]
  exact if_pos h

end RoundTrip

end Ecosystem.Flow
