import Ecosystem.Flow.Projector
import Ecosystem.Lib.JsonText

/-!
# A projection agrees with the reducer

The projector derives its statuses from names and outcomes and has a list of terminal
event types of its own; for a history that `RunEventChain.append` has accepted, its
status is that of the reducer.  Its record has to pass a second schema (`Fits`).
-/

namespace Ecosystem.Flow

open Ecosystem.Lib
open Ecosystem.Runtime

/-! ## Names -/

/-- The pattern of identifiers, whatever their length is. -/
def identifierShape (cs : List Char) : Bool :=
  match dropFinalNewline cs with
  | [] => false
  | c :: cs => c.isAlphanum && cs.all fun c => c.isAlphanum || c ∈ ['.', '_', ':', '-']

theorem isIdentifier_eq (s : String) :
    isIdentifier s = (decide (s.toList.length ≤ 128) && identifierShape s.toList) := rfl

variable {s : String}

theorem isIdentifier_iff (h : identifierShape s.toList = true) :
    isIdentifier s = true ↔ s.toList.length ≤ 128 := by
  rw [isIdentifier_eq, h, Bool.and_true, decide_eq_true_eq]

theorem identifierShape_of_matchesId (h : matchesId s = true) :
    identifierShape s.toList = true := by
  unfold matchesId at h
  unfold identifierShape
  split at h
  · cases h
  next c cs heq =>
    simp only [heq, Bool.and_eq_true] at h ⊢
    exact ⟨h.1.1, h.2⟩

theorem identifierShape_of_matchesReason (h : matchesReason s = true) :
    identifierShape s.toList = true := by
  unfold matchesReason at h
  unfold identifierShape
  split at h
  next c cs heq =>
    simp only [heq]
    have hrest : ((c :: cs).all fun c => c.isAlphanum || c ∈ ['.', '_', ':', '-']) = true := by
      rw [List.all_eq_true] at h ⊢
      intro d hd
      have hchar := h d hd
      simp only [Bool.or_eq_true, decide_eq_true_eq] at hchar
      rcases hchar with (hupper | hdigit) | rfl
      · simp [Char.isAlphanum, Char.isAlpha, hupper]
      · simp [Char.isAlphanum, hdigit]
      · decide
    simp only [List.all_cons, Bool.and_eq_true] at hrest ⊢
    exact ⟨rfl, rfl, rfl, rfl, hrest⟩
  · cases h

theorem identifierShape_append {front cs : List Char} {c : Char}
    (hfirst : c.isAlphanum = true)
    (hfront : (front.all fun c => c.isAlphanum || c ∈ ['.', '_', ':', '-']) = true)
    (h : identifierShape cs = true) : identifierShape (c :: front ++ cs) = true := by
  have hne : cs ≠ [] := by
    rintro rfl
    cases h
  have hdrop : dropFinalNewline (c :: front ++ cs) = c :: (front ++ dropFinalNewline cs) := by
    unfold dropFinalNewline
    rw [List.getLast?_append_of_ne_nil _ hne]
    split
    · rw [List.dropLast_append_of_ne_nil hne, List.cons_append]
    · rfl
  unfold identifierShape at h ⊢
  rw [hdrop]
  split at h
  · cases h
  next d ds heq =>
    rw [heq]
    simp only [List.all_append, List.all_cons, Bool.and_eq_true] at h ⊢
    exact ⟨hfirst, hfront, by simp [h.1], h.2⟩

theorem isIdentifier_flowId {runId : String} (h : matchesId runId = true) :
    isIdentifier ("flow:" ++ runId) = true ↔ runId.toList.length ≤ 123 := by
  have htext : ("flow:" ++ runId).toList = 'f' :: ['l', 'o', 'w', ':'] ++ runId.toList := by
    rw [String.toList_append]
    rfl
  rw [isIdentifier_iff, htext]
  · simp only [List.cons_append, List.nil_append, List.length_cons]
    omega
  · rw [htext]
    exact identifierShape_append (by decide) (by decide) (identifierShape_of_matchesId h)

theorem isIdentifier_eventType (t : EventType) : isIdentifier t.name = true := by
  cases t <;> decide +kernel

/-! ## The ids of nodes and edges -/

theorem toList_sixDigits (n : ℕ) : (sixDigits n).toList =
    List.replicate (6 - (Nat.toDigits 10 n).length) '0' ++ Nat.toDigits 10 n := by
  rw [sixDigits, String.toList_ofList]

theorem sixDigits_injective : Function.Injective sixDigits := by
  intro m n h
  have hread (k : ℕ) : Nat.ofDigitChars 10 (sixDigits k).toList 0 = k := by
    rw [toList_sixDigits, Nat.ofDigitChars_append, Nat.ofDigitChars_replicate_zero,
      Nat.mul_zero, Nat.ofDigitChars_ten_toDigits]
  rw [← hread m, h, hread n]

theorem nodeId_injective : Function.Injective nodeId := by
  intro m n h
  refine sixDigits_injective (String.toList_inj.mp ?_)
  have htext := congrArg String.toList h
  rw [nodeId, nodeId, String.toList_append, String.toList_append] at htext
  exact List.append_cancel_left htext

theorem edgeId_injective : Function.Injective edgeId := by
  intro m n h
  refine sixDigits_injective (String.toList_inj.mp ?_)
  have htext := congrArg String.toList h
  rw [edgeId, edgeId, String.toList_append, String.toList_append] at htext
  exact List.append_cancel_left htext

theorem isIdentifier_numbered {word : String} {c : Char} {front : List Char} {n : ℕ}
    (hword : word.toList = c :: front) (hfirst : c.isAlphanum = true)
    (hfront : (front.all fun c => c.isAlphanum || c ∈ ['.', '_', ':', '-']) = true)
    (hlength : word.toList.length ≤ 100) (hn : n ≤ 10001) :
    isIdentifier (word ++ sixDigits n) = true := by
  have hdigits : (Nat.toDigits 10 n).length ≤ 5 :=
    (Nat.length_toDigits_le_iff (by decide) (by decide)).mpr (by omega)
  have hchars : ∀ d ∈ (sixDigits n).toList, d.isDigit = true := by
    intro d hd
    rw [toList_sixDigits, List.mem_append] at hd
    rcases hd with hd | hd
    · rw [List.eq_of_mem_replicate hd]
      rfl
    · exact Nat.isDigit_of_mem_toDigits (by decide) (by decide) hd
  have hlen : (sixDigits n).toList.length = 6 := by
    rw [toList_sixDigits, List.length_append, List.length_replicate]
    omega
  have htext : (word ++ sixDigits n).toList = c :: front ++ (sixDigits n).toList := by
    rw [String.toList_append, hword]
  rw [isIdentifier_iff]
  · rw [htext, ← hword, List.length_append]
    omega
  · rw [htext]
    refine identifierShape_append hfirst hfront ?_
    have hlast : (sixDigits n).toList.getLast? ≠ some '\n' := by
      intro hlast
      have := hchars _ (List.mem_of_getLast? hlast)
      cases this
    unfold identifierShape dropFinalNewline
    rw [if_neg hlast]
    cases hcs : (sixDigits n).toList with
    | nil =>
      rw [hcs] at hlen
      cases hlen
    | cons d ds =>
      rw [hcs] at hchars
      simp only [Bool.and_eq_true, List.all_eq_true]
      refine ⟨by simp [Char.isAlphanum, hchars d (by simp)], ?_⟩
      intro x hx
      simp [Char.isAlphanum, hchars x (by simp [hx])]

theorem isIdentifier_nodeId {n : ℕ} (hn : n ≤ 10001) : isIdentifier (nodeId n) = true :=
  @isIdentifier_numbered _ 'n' ['o', 'd', 'e', '-'] _ rfl (by decide)
    (by decide) (by decide) hn

theorem isIdentifier_edgeId {n : ℕ} (hn : n ≤ 10001) : isIdentifier (edgeId n) = true :=
  @isIdentifier_numbered _ 'e' ['d', 'g', 'e', '-'] _ rfl (by decide)
    (by decide) (by decide) hn

/-! ## The row of nodes -/

theorem length_nodesFrom (sequence : ℕ) (events : List ObservedFlowEvent) :
    (nodesFrom sequence events).length = events.length := by
  induction events generalizing sequence with
  | nil => rfl
  | cons event events ih => rw [nodesFrom, List.length_cons, ih, List.length_cons]

theorem getElem?_nodesFrom (sequence : ℕ) (events : List ObservedFlowEvent) (i : ℕ) :
    (nodesFrom sequence events)[i]? =
      events[i]?.map fun event : ObservedFlowEvent => event.node (sequence + i) := by
  induction events generalizing sequence i with
  | nil => rfl
  | cons event events ih =>
    cases i with
    | zero => rfl
    | succ i =>
      rw [nodesFrom, List.getElem?_cons_succ, List.getElem?_cons_succ, ih,
        Nat.add_right_comm sequence 1 i, Nat.add_assoc]

theorem map_nodesFrom (sequence : ℕ) (events : List ObservedFlowEvent) :
    (nodesFrom sequence events).map (·.id) =
        (List.range' sequence events.length).map nodeId ∧
      (nodesFrom sequence events).map (·.sequence) =
        (List.range' sequence events.length).map (fun n => (n : ℤ)) := by
  induction events generalizing sequence with
  | nil => exact ⟨rfl, rfl⟩
  | cons event events ih =>
    obtain ⟨hids, hsequences⟩ := ih (sequence + 1)
    rw [nodesFrom, List.map_cons, List.map_cons, hids, hsequences, List.length_cons,
      List.range'_succ]
    exact ⟨rfl, rfl⟩

theorem mem_nodesFrom {sequence : ℕ} {events : List ObservedFlowEvent} {node : FlowNode} :
    node ∈ nodesFrom sequence events ↔ ∃ (i : ℕ) (event : ObservedFlowEvent),
        events[i]? = some event ∧ node = event.node (sequence + i) := by
  rw [List.mem_iff_getElem?]
  constructor
  · rintro ⟨i, hi⟩
    rw [getElem?_nodesFrom, Option.map_eq_some_iff] at hi
    obtain ⟨event, hevent, rfl⟩ := hi
    exact ⟨i, event, hevent, rfl⟩
  · rintro ⟨i, event, hevent, rfl⟩
    exact ⟨i, by rw [getElem?_nodesFrom, hevent]; rfl⟩

theorem mem_nextEdges {count : ℕ} {edge : FlowEdge} :
    edge ∈ nextEdges count ↔ ∃ i, i + 1 < count ∧
      edge = ⟨edgeId (i + 1), nodeId (i + 1), nodeId (i + 2), .next⟩ := by
  rw [nextEdges, List.mem_map]
  constructor
  · rintro ⟨n, hn, rfl⟩
    rw [List.mem_range'_1] at hn
    obtain ⟨i, rfl⟩ : ∃ i, n = i + 1 := ⟨n - 1, by omega⟩
    exact ⟨i, by omega, rfl⟩
  · rintro ⟨i, hi, rfl⟩
    exact ⟨i + 1, List.mem_range'_1.mpr (by omega), rfl⟩

theorem getElem?_nextEdges (count i : ℕ) : (nextEdges count)[i]? =
    if i + 1 < count then some ⟨edgeId (i + 1), nodeId (i + 1), nodeId (i + 2), .next⟩
    else none := by
  rw [nextEdges, List.getElem?_map]
  split
  · next h =>
      rw [List.getElem?_range' (by omega)]
      simp only [Option.map_some]
      rw [show 1 + 1 * i = i + 1 by omega]
  · next h =>
      rw [List.getElem?_eq_none (by simp; omega)]
      rfl

/-! ## The contract of what is built -/

section Contract

variable {Φ : Type} {prims : Primitives Φ} {projectId runId : String}
  {record : EventRecord prims.times} {records : List (EventRecord prims.times)}

/-- The limits of the schema of projections that the contract of run events leaves
open. -/
structure Fits (projectId : String) (records : List (EventRecord prims.times)) : Prop where
  project : isIdentifier projectId = true
  run : ∀ record ∈ records, record.event.metadata.runId.toList.length ≤ 123
  count : records.length ≤ 10000
  subject : ∀ record ∈ records, record.subjectId.toList.length ≤ 128
  reason : ∀ record ∈ records, ∀ reason ∈ record.reasonCode, reason.toList.length ≤ 128

theorem matches_of_valid (h : record.valid = true) :
    matchesId record.event.metadata.id = true ∧
      matchesId record.event.metadata.runId = true ∧
      record.event.spec.subjectId.optional matchesId = true ∧
      record.event.spec.subjectDigest.optional matchesSha256 = true ∧
      record.reasonCode.all matchesReason = true := by
  simp only [EventRecord.valid, contractValid, Bool.and_eq_true] at h
  tauto

theorem all_fieldText {check : String → Bool} {value : FieldValue}
    (h : value.optional check = true) : (fieldText value).all check = true := by
  cases value with
  | absent => rfl
  | text s => exact h
  | other => cases h

theorem matchesId_subjectId (h : record.valid = true) :
    matchesId record.subjectId = true := by
  obtain ⟨hid, -, hsubject, -⟩ := matches_of_valid h
  have hall := all_fieldText hsubject
  unfold EventRecord.subjectId
  split
  · next s heq =>
      rw [heq] at hall
      split
      · exact hid
      · exact hall
  · exact hid

theorem conforms_node_iff (hvalid : record.valid = true) {sequence : ℕ}
    (hlow : 1 ≤ sequence) (hhigh : sequence ≤ 10001) :
    ((projectEvent record).node sequence).conforms prims = true ↔
      record.subjectId.toList.length ≤ 128 ∧
        ∀ reason ∈ record.reasonCode, reason.toList.length ≤ 128 := by
  obtain ⟨-, -, -, hdigest, hreason⟩ := matches_of_valid hvalid
  have hkind : isIdentifier record.subjectKind = true := by
    unfold EventRecord.subjectKind
    split
    · split <;> decide +kernel
    · decide +kernel
  have hsubject := isIdentifier_iff
    (identifierShape_of_matchesId (matchesId_subjectId hvalid))
  have hreasons : record.reasonCode.all isIdentifier = true ↔
      ∀ reason ∈ record.reasonCode, reason.toList.length ≤ 128 := by
    cases hcode : record.reasonCode with
    | none => simp
    | some reason =>
      rw [hcode] at hreason
      rw [Option.all_some, isIdentifier_iff (identifierShape_of_matchesReason hreason)]
      simp
  have hplace : (1 : ℤ) ≤ (sequence : ℤ) := by omega
  have hnode : ((projectEvent record).node sequence).conforms prims =
      (isIdentifier (nodeId sequence) && decide ((1 : ℤ) ≤ (sequence : ℤ)) &&
        isIdentifier record.event.spec.type.name &&
        (prims.times.instant record.occurredAt).isSome &&
        record.reasonCode.all isIdentifier &&
        (isIdentifier record.subjectKind && isIdentifier record.subjectId &&
          (fieldText record.event.spec.subjectDigest).all matchesSha256)) := rfl
  rw [hnode, isIdentifier_nodeId hhigh, decide_eq_true hplace, isIdentifier_eventType,
    record.reads, hkind, all_fieldText hdigest]
  simp only [Option.isSome_some, Bool.true_and, Bool.and_true, Bool.and_eq_true, hreasons,
    hsubject]
  exact and_comm

/-- **What is built conforms exactly within the limits.** -/
theorem conforms_iff {source : FlowSource} {status : FlowStatus} {digest : String}
    (hvalid : ∀ record ∈ records, record.valid = true)
    (hrun : ∀ record ∈ records, record.event.metadata.runId = runId) (hne : records ≠ [])
    (hboundary : isIdentifier source.boundary = true)
    (hhead : source.headDigest.all matchesSha256 = true)
    {p : FlowProjection} (hp : p = {
      id := "flow:" ++ runId
      projectId := projectId
      runId := runId
      recordDigest := digest
      source := source
      status := status
      nodes := nodesFrom 1 (records.map projectEvent)
      edges := nextEdges (nodesFrom 1 (records.map projectEvent)).length
      summary := summaryOf (nodesFrom 1 (records.map projectEvent))
        (nextEdges (nodesFrom 1 (records.map projectEvent)).length) })
    (hdigest : p.recordDigest = flowProjectionDigest prims p) :
    p.Conforms prims ↔ Fits projectId records := by
  have hlength : p.nodes.length = records.length := by
    rw [hp, length_nodesFrom, List.length_map]
  have hnodes : p.nodes = nodesFrom 1 (records.map projectEvent) := by rw [hp]
  have hedges : p.edges = nextEdges p.nodes.length := by rw [hp]
  obtain ⟨hids, hsequences⟩ := map_nodesFrom 1 (records.map projectEvent)
  obtain ⟨first, hfirst⟩ := List.exists_mem_of_ne_nil _ hne
  have hrunId : matchesId runId = true := by
    rw [← hrun first hfirst]
    exact (matches_of_valid (hvalid first hfirst)).2.1
  have hflow := isIdentifier_flowId hrunId
  have hnode (i : ℕ) (record : EventRecord prims.times) (hi : records[i]? = some record)
      (hcount : records.length ≤ 10000) :
      ((projectEvent record).node (1 + i)).conforms prims = true ↔
        record.subjectId.toList.length ≤ 128 ∧
          ∀ reason ∈ record.reasonCode, reason.toList.length ≤ 128 := by
    have hlt : i < records.length := (List.getElem?_eq_some_iff.mp hi).1
    exact conforms_node_iff (hvalid record (List.mem_of_getElem? hi)) (by omega) (by omega)
  constructor
  · intro h
    have hcount : records.length ≤ 10000 := hlength ▸ h.nodes
    have hid := h.id
    have hproject := h.projectId
    rw [hp] at hid hproject
    have heach (record : EventRecord prims.times) (hrecord : record ∈ records) :
        record.subjectId.toList.length ≤ 128 ∧
          ∀ reason ∈ record.reasonCode, reason.toList.length ≤ 128 := by
      obtain ⟨i, hi⟩ := List.mem_iff_getElem?.mp hrecord
      refine (hnode i record hi hcount).mp (h.node _ ?_)
      rw [hnodes]
      exact mem_nodesFrom.mpr ⟨i, _, by rw [List.getElem?_map, hi]; rfl, rfl⟩
    exact
      { project := hproject
        run := by
          intro record hrecord
          rw [hrun record hrecord]
          exact hflow.mp hid
        count := hcount
        subject := fun record hrecord => (heach record hrecord).1
        reason := fun record hrecord => (heach record hrecord).2 }
  · intro h
    have hcount := h.count
    have hshort : runId.toList.length ≤ 123 := by
      rw [← hrun first hfirst]
      exact h.run first hfirst
    have hnodup (f : ℕ → String) (hf : Function.Injective f) (n : ℕ) :
        ((List.range' 1 n).map f).Nodup :=
      List.Nodup.map hf List.nodup_range'
    have hknown (i : ℕ) (hi : i < p.nodes.length) :
        nodeId (i + 1) ∈ p.nodes.map (·.id) := by
      rw [hnodes, hids]
      refine List.mem_map.mpr ⟨i + 1, List.mem_range'_1.mpr ?_, rfl⟩
      rw [List.length_map, ← hlength]
      omega
    refine
      { id := by
          rw [hp]
          exact hflow.mpr hshort
        projectId := by
          rw [hp]
          exact h.project
        runId := by
          rw [hp]
          exact (isIdentifier_iff (identifierShape_of_matchesId hrunId)).mpr (by omega)
        boundary := by
          rw [hp]
          exact hboundary
        headDigest := by
          rw [hp]
          exact hhead
        nodes := by
          rw [hlength]
          exact hcount
        edges := by
          rw [hedges, nextEdges, List.length_map, List.length_range', hlength]
          omega
        node := ?_
        edge := ?_
        nodeIds := by
          rw [hnodes, hids]
          exact hnodup nodeId nodeId_injective _
        sequences := by
          rw [hnodes, hsequences, length_nodesFrom]
        edgeIds := by
          have hmap : (nextEdges p.nodes.length).map (·.id) =
              (List.range' 1 (p.nodes.length - 1)).map edgeId := by
            rw [nextEdges, List.map_map]
            rfl
          rw [hedges, hmap]
          exact hnodup edgeId edgeId_injective _
        known := ?_
        summary := by rw [hp]
        recordDigest := hdigest }
    · intro node hmem
      rw [hnodes, mem_nodesFrom] at hmem
      obtain ⟨i, event, hi, rfl⟩ := hmem
      rw [List.getElem?_map, Option.map_eq_some_iff] at hi
      obtain ⟨record, hi, rfl⟩ := hi
      have hrecord := List.mem_of_getElem? hi
      exact (hnode i record hi hcount).mpr ⟨h.subject record hrecord, h.reason record hrecord⟩
    · intro edge hedge
      rw [hedges, mem_nextEdges] at hedge
      obtain ⟨i, hi, rfl⟩ := hedge
      rw [hlength] at hi
      simp only [FlowEdge.conforms, Bool.and_eq_true]
      exact ⟨⟨isIdentifier_edgeId (by omega), isIdentifier_nodeId (by omega)⟩,
        isIdentifier_nodeId (by omega)⟩
    · intro edge hedge
      rw [hedges, mem_nextEdges] at hedge
      obtain ⟨i, hi, rfl⟩ := hedge
      exact ⟨hknown i (by omega), hknown (i + 1) hi⟩

end Contract

/-! ## The status of the reducer -/

def statusOf : RunState → FlowStatus
  | .succeeded => .succeeded
  | .failed => .failed
  | .denied => .denied
  | .cancelled => .cancelled
  | .exhausted => .exhausted
  | _ => .running

def lastStatus (spec : EventSpec) : FlowStatus :=
  if spec.type ∈ terminalEventTypes then eventStatus spec.type spec.outcome else .running

theorem lastStatus_of_running {spec : EventSpec} (h : spec.type ∉ terminalEventTypes) :
    lastStatus spec = .running :=
  if_neg h

theorem not_terminal_of_read {t : EventType} (h : t.isNoModelRead = true) :
    t ∉ terminalEventTypes := by
  revert h
  cases t <;> decide

theorem not_terminal_of_tool {t : EventType} (h : t.isTool = true) :
    t ∉ terminalEventTypes := by
  revert h
  cases t <;> decide

/-- **One event.**  With the outcome of its type, an accepted event at the end of a run
gives the run the status of the state that the reducer goes to. -/
theorem lastStatus_of_accepted {p q : RunProjection} {spec : EventSpec}
    (h : Accepted p spec q) (houtcome : spec.outcome = (eventSemantics spec.type).1) :
    lastStatus spec = statusOf q.state := by
  have hterminal {t : EventType} (ht : spec.type = t) (hin : t ∈ terminalEventTypes) :
      lastStatus spec = eventStatus t (eventSemantics t).1 := by
    rw [lastStatus, houtcome, ht, if_pos hin]
  have hopen {t : EventType} (ht : spec.type = t) (hout : t ∉ terminalEventTypes) :
      lastStatus spec = .running :=
    lastStatus_of_running (ht ▸ hout)
  cases h with
  | received _ ht | validated _ ht | planCreated _ ht | policyAllowed _ ht
  | noModelAllowed _ _ ht | adapterStarted _ ht | workflowStarted _ _ _ ht =>
    exact hopen ht (by decide)
  | policyDenied _ ht =>
    rcases ht with ht | ht
    · exact hterminal ht (by decide)
    · exact hterminal ht (by decide)
  | readRequested _ _ hstate _ hbinding | readAdvanced _ _ _ _ hstate _ hbinding
  | readCompleted _ _ _ hstate _ hbinding =>
    rw [lastStatus_of_running (not_terminal_of_read hbinding.isRead)]
    show _ = statusOf p.state
    rw [hstate]
    rfl
  | workflowSucceeded _ _ ht | runSucceeded _ _ ht | runExhausted _ _ ht
  | runFailed _ ht | runCancelled _ ht | earlyFailed _ ht | earlyCancelled _ ht =>
    exact hterminal ht (by decide)
  | toolRequested _ _ hstate _ hbinding | toolAdvanced _ _ _ _ hstate _ hbinding =>
    rw [lastStatus_of_running (not_terminal_of_tool hbinding.isTool)]
    show _ = statusOf p.state
    rw [hstate]
    rfl
  | adapterCompleted hstate _ ht | adapterFailed hstate _ ht
  | budgetExhausted hstate _ ht =>
    rw [hopen ht (by decide)]
    show _ = statusOf p.state
    rw [hstate]
    rfl
  | artifactRecorded hstate _ ht =>
    rw [hopen ht (by decide), hstate]
    rfl

/-! ## Histories -/

section Histories

variable {Φ τ : Type} [DecidableEq τ] {prims : Primitives Φ} (cfg : ChainConfig τ)
  (digests : EventDigest prims.times)

/-- `RunEventChain.append` of a whole record. -/
def appendRecord (chain : RunEventChain) (call : EventRecord prims.times × τ) :
    Except RuntimeStateError RunEventChain :=
  if call.1.valid then
    append cfg (fun _ => digests.digest call.1) chain call.1.event call.2
  else .error ⟨"ECO_EVENT_INVALID", "Run event contract is invalid"⟩

def acceptAll (calls : List (EventRecord prims.times × τ)) :
    Except RuntimeStateError RunEventChain :=
  calls.foldlM (appendRecord cfg digests) {}

/-- What the projector checks of a sequence of records. -/
structure Linked (records : List (EventRecord prims.times)) : Prop where
  nonempty : records ≠ []
  valid : ∀ record ∈ records, record.valid = true
  oneRun : ∀ first ∈ records, ∀ second ∈ records,
    first.event.metadata.runId = second.event.metadata.runId
  chained : Chained digests.digest (·.event.metadata.sequence)
    (·.event.metadata.previousEventDigest) records

/-- The record shows a history: a node for every event in its place, an edge to the next
one, and the status of the state. -/
structure Agrees (records : List (EventRecord prims.times)) (state : RunState)
    (p : FlowProjection) : Prop where
  nodes : ∀ i : ℕ, p.nodes[i]? =
    records[i]?.map fun record => (projectEvent record).node (i + 1)
  edges : ∀ i : ℕ, p.edges[i]? = do
    let source ← p.nodes[i]?
    let target ← p.nodes[i + 1]?
    return { id := edgeId (i + 1), source := source.id, target := target.id, type := .next }
  status : p.status = statusOf state

variable {cfg digests}

theorem outcome_of_append {chain chain' : RunEventChain} {event : RunEvent}
    {capability : τ} {semanticDigest : RunEvent → String}
    (h : append cfg semanticDigest chain event capability = .ok chain') :
    event.spec.outcome = (eventSemantics event.spec.type).1 := by
  unfold append at h
  split at h
  · cases h
  next hcheck =>
  simp only [appendCheck, ite_eq_iff, reduceCtorEq, and_false, false_or, and_true]
    at hcheck
  obtain ⟨-, -, -, -, -, -, -, houtcome, -⟩ := hcheck
  exact not_not.mp houtcome

/-- What a history that has been accepted shows. -/
structure History (digests : EventDigest prims.times) (runId : String)
    (records : List (EventRecord prims.times)) (chain : RunEventChain) : Prop where
  valid : ∀ record ∈ records, record.valid = true
  oneRun : ∀ record ∈ records, record.event.metadata.runId = runId
  chained : Chained digests.digest (·.event.metadata.sequence)
    (·.event.metadata.previousEventDigest) records
  length : chain.events.length = records.length
  head : chain.headDigest = records.getLast?.map digests.digest
  status : ∀ last, records.getLast? = some last →
    lastStatus last.event.spec = statusOf chain.projection.state

theorem history_of_acceptAll (calls : List (EventRecord prims.times × τ))
    (chain : RunEventChain) (h : acceptAll cfg digests calls = .ok chain) :
    History digests cfg.runId (calls.map Prod.fst) chain := by
  refine foldlM_history_induction
    (fun calls chain => History digests cfg.runId (calls.map Prod.fst) chain) ?_ ?_ calls
    chain h
  · exact
      { valid := by simp
        oneRun := by simp
        chained := forallSplit_nil
        length := rfl
        head := rfl
        status := by simp }
  · intro calls chain call chain' _ hbefore hstep
    unfold appendRecord at hstep
    split at hstep
    · next hvalid =>
        have happended := appended_of_append hstep
        have hmem {record : EventRecord prims.times}
            (hrecord : record ∈ (calls ++ [call]).map Prod.fst) :
            record ∈ calls.map Prod.fst ∨ record = call.1 := by
          simpa using hrecord
        refine
          { valid := ?_
            oneRun := ?_
            chained := ?_
            length := ?_
            head := ?_
            status := ?_ }
        · intro record hrecord
          rcases hmem hrecord with hrecord | rfl
          · exact hbefore.valid record hrecord
          · exact hvalid
        · intro record hrecord
          rcases hmem hrecord with hrecord | rfl
          · exact hbefore.oneRun record hrecord
          · exact happended.run
        · rw [List.map_append, List.map_singleton, Chained, forallSplit_concat]
          refine ⟨hbefore.chained, ?_, ?_⟩
          · rw [happended.sequence, hbefore.length]
          · rw [happended.previous, hbefore.head]
        · rw [happended.events, List.length_append, hbefore.length]
          simp
        · rw [happended.headDigest]
          simp
        · intro last hlast
          obtain rfl : call.1 = last := by simpa using hlast
          exact lastStatus_of_accepted (accepted_of_reduce happended.reduced)
            (outcome_of_append hstep)
    · cases hstep

/-! ## What the projector checks -/

theorem checkLinks_eq_ok {previous : Option String}
    {records : List (EventRecord prims.times)} :
    checkLinks prims digests previous records = .ok () ↔
      ForallSplit (fun before record => record.event.metadata.previousEventDigest =
        (before.getLast?.map digests.digest).or previous) records := by
  induction records generalizing previous with
  | nil => exact ⟨fun _ => forallSplit_nil, fun _ => rfl⟩
  | cons record records ih =>
    rw [forallSplit_cons, checkLinks]
    have htail : ForallSplit (fun before (record' : EventRecord prims.times) =>
          record'.event.metadata.previousEventDigest =
            (((record :: before).getLast?).map digests.digest).or previous) records ↔
        ForallSplit (fun before (record' : EventRecord prims.times) =>
          record'.event.metadata.previousEventDigest =
            (before.getLast?.map digests.digest).or (some (digests.digest record)))
          records := by
      have hlast (before : List (EventRecord prims.times)) :
          (((record :: before).getLast?).map digests.digest).or previous =
            (before.getLast?.map digests.digest).or (some (digests.digest record)) := by
        rw [List.getLast?_cons]
        cases before.getLast? <;> rfl
      simp only [hlast]
    rw [htail, ← ih]
    by_cases hprevious : record.event.metadata.previousEventDigest = previous
    · rw [if_pos hprevious]
      exact ⟨fun h => ⟨hprevious, h⟩, fun h => h.2⟩
    · rw [if_neg hprevious]
      exact ⟨nofun, fun h => absurd h.1 hprevious⟩

theorem sequences_eq_range' {records : List (EventRecord prims.times)} {start : ℕ} :
    records.map (·.event.metadata.sequence) = List.range' start records.length ↔
      ForallSplit (fun before record =>
        record.event.metadata.sequence = before.length + start) records := by
  induction records generalizing start with
  | nil => exact ⟨fun _ => forallSplit_nil, fun _ => rfl⟩
  | cons record records ih =>
    rw [List.map_cons, List.length_cons, List.range'_succ, List.cons.injEq, ih,
      forallSplit_cons]
    simp only [List.length_nil, Nat.zero_add, List.length_cons]
    have hplace (n : ℕ) : n + 1 + start = n + (start + 1) := by omega
    simp only [hplace]

theorem chained_iff {records : List (EventRecord prims.times)} :
    Chained digests.digest (·.event.metadata.sequence)
        (·.event.metadata.previousEventDigest) records ↔
      records.map (·.event.metadata.sequence) = List.range' 1 records.length ∧
        checkLinks prims digests none records = .ok () := by
  rw [sequences_eq_range', checkLinks_eq_ok]
  simp only [Option.or_none]
  constructor
  · intro h
    exact ⟨fun before record after hsplit => (h before record after hsplit).1,
      fun before record after hsplit => (h before record after hsplit).2⟩
  · rintro ⟨hsequence, hprevious⟩ before record after hsplit
    exact ⟨hsequence before record after hsplit, hprevious before record after hsplit⟩

/-! ## Projecting a history -/

variable {projectId : String} {authenticated : Bool}
  {records : List (EventRecord prims.times)} {p : FlowProjection}

def runSource (digests : EventDigest prims.times) (authenticated : Bool)
    (last : EventRecord prims.times) : FlowSource where
  kind := .runtimeRunEvents
  trust := if authenticated then .authenticated else .validated
  boundary := if authenticated then "external-journal-authenticated"
    else "schema-validated-not-authenticated"
  headDigest := some (digests.digest last)

/-- **The projector projects linked records, and no others.** -/
theorem project_eq_ok :
    projectRuntimeFlow prims digests projectId records authenticated = .ok p ↔
      Linked digests records ∧ ∃ first last, records.head? = some first ∧
        records.getLast? = some last ∧ projection prims projectId first.event.metadata.runId
          (runSource digests authenticated last) (lastStatus last.event.spec)
          (records.map projectEvent) = .ok p := by
  unfold projectRuntimeFlow
  rw [Checks.require_bind_eq_ok, List.all_eq_true]
  cases records with
  | nil =>
    constructor
    · rintro ⟨-, h⟩
      cases h
    · rintro ⟨hlinked, -⟩
      exact absurd rfl hlinked.nonempty
  | cons first rest =>
    dsimp only
    rw [Checks.require_bind_eq_ok, Checks.require_bind_eq_ok, bind_eq_ok, List.all_eq_true]
    simp only [decide_eq_true_eq]
    have hlast : (first :: rest).getLast? = some (rest.getLast?.getD first) :=
      List.getLast?_cons
    constructor
    · rintro ⟨hvalid, hrun, hsequence, ⟨⟩, hlinks, h⟩
      refine ⟨⟨List.cons_ne_nil _ _, hvalid, ?_, chained_iff.mpr ⟨hsequence, hlinks⟩⟩,
        first, _, rfl, hlast, h⟩
      intro a ha b hb
      rw [hrun a ha, hrun b hb]
    · rintro ⟨hlinked, first', last, hfirst, hlast', h⟩
      cases hfirst
      cases hlast.symm.trans hlast'
      obtain ⟨hsequence, hlinks⟩ := chained_iff.mp hlinked.chained
      exact ⟨hlinked.valid, fun record hrecord =>
        hlinked.oneRun record hrecord first (List.mem_cons_self ..), hsequence, (), hlinks, h⟩

theorem projection_eq_ok {runId : String} {source : FlowSource} {status : FlowStatus}
    (hvalid : ∀ record ∈ records, record.valid = true)
    (hrun : ∀ record ∈ records, record.event.metadata.runId = runId) (hne : records ≠ [])
    (hboundary : isIdentifier source.boundary = true)
    (hhead : source.headDigest.all matchesSha256 = true) :
    (Fits projectId records → ∃ p,
      projection prims projectId runId source status (records.map projectEvent) = .ok p) ∧
    ∀ p, projection prims projectId runId source status (records.map projectEvent) = .ok p →
      Fits projectId records ∧ p.Conforms prims ∧
        p.nodes = nodesFrom 1 (records.map projectEvent) ∧
        p.edges = nextEdges (nodesFrom 1 (records.map projectEvent)).length ∧
        p.status = status := by
  have hiff := @conforms_iff _ prims projectId runId records source status
    (flowProjectionDigest prims {
      id := "flow:" ++ runId
      projectId := projectId
      runId := runId
      recordDigest := String.ofList (List.replicate 64 '0')
      source := source
      status := status
      nodes := nodesFrom 1 (records.map projectEvent)
      edges := nextEdges (nodesFrom 1 (records.map projectEvent)).length
      summary := summaryOf (nodesFrom 1 (records.map projectEvent))
        (nextEdges (nodesFrom 1 (records.map projectEvent)).length) })
    hvalid hrun hne hboundary hhead _ rfl rfl
  unfold projection validateFlowProjection
  constructor
  · intro hfits
    exact ⟨_, if_pos (hiff.mpr hfits)⟩
  · intro p h
    dsimp only at h
    split at h
    · next hconforms =>
        cases h
        exact ⟨hiff.mp hconforms, hconforms, rfl, rfl, rfl⟩
    · cases h

theorem agrees_of_nodes {state : RunState}
    (hnodes : p.nodes = nodesFrom 1 (records.map projectEvent))
    (hedges : p.edges = nextEdges (nodesFrom 1 (records.map projectEvent)).length)
    (hstatus : p.status = statusOf state) : Agrees records state p where
  nodes i := by
    rw [hnodes, getElem?_nodesFrom, List.getElem?_map, Option.map_map, Nat.add_comm 1 i]
    rfl
  edges i := by
    have hnode (j : ℕ) : (p.nodes[j]?).map (·.id) =
        if j < p.nodes.length then some (nodeId (j + 1)) else none := by
      rw [hnodes, ← List.getElem?_map, (map_nodesFrom 1 _).1, List.getElem?_map,
        length_nodesFrom]
      split
      · next h =>
          rw [List.getElem?_range' h]
          simp only [Option.map_some, Nat.one_mul, Nat.add_comm 1 j]
      · next h =>
          rw [List.getElem?_eq_none (by rw [List.length_range']; exact Nat.le_of_not_lt h)]
          rfl
    rw [hedges, ← hnodes, getElem?_nextEdges]
    have hsource := hnode i
    have htarget := hnode (i + 1)
    by_cases hi : i + 1 < p.nodes.length
    · rw [if_pos hi]
      rw [if_pos (by omega), Option.map_eq_some_iff] at hsource
      rw [if_pos hi, Option.map_eq_some_iff] at htarget
      obtain ⟨source, hsource, hid⟩ := hsource
      obtain ⟨target, htarget, hid'⟩ := htarget
      rw [hsource, htarget]
      simp only [Option.bind_eq_bind, Option.bind_some, Option.pure_def, hid, hid']
    · rw [if_neg hi, List.getElem?_eq_none (Nat.le_of_not_lt hi)]
      cases p.nodes[i]? <;> rfl
  status := hstatus

end Histories

section Result

variable {Φ τ : Type} [DecidableEq τ]

/-- **A projection agrees with the reducer exactly within the limits of its schema.**  For
every history that `RunEventChain.append` has accepted, the projector returns a record
with a node for every event, the edges between them and the status of the reducer's state,
and the export of the record is replayed, if and only if the ids, the reason codes and the
number of events are within these limits.  Records that are no chain of one run are
rejected in any case. -/
theorem flow_agrees_iff (prims : Primitives Φ) (cfg : ChainConfig τ)
    (digests : EventDigest prims.times) (projectId : String) (authenticated : Bool) :
    (∀ calls chain, calls ≠ [] → acceptAll cfg digests calls = .ok chain →
      ((∃ p, projectRuntimeFlow prims digests projectId (calls.map Prod.fst)
            authenticated = .ok p ∧ Agrees (calls.map Prod.fst) chain.projection.state p ∧
          replayProjection prims (exportText prims p) = .ok p) ↔
        Fits projectId (calls.map Prod.fst))) ∧ ∀ records p,
      projectRuntimeFlow prims digests projectId records authenticated = .ok p →
        Linked digests records := by
  refine ⟨?_, fun records p h => (project_eq_ok.mp h).1⟩
  intro calls chain hne haccept
  have hhistory := history_of_acceptAll calls chain haccept
  generalize hrecords : calls.map Prod.fst = records at hhistory
  have hnonempty : records ≠ [] := by
    rw [← hrecords]
    simpa using hne
  have hlinked : Linked digests records :=
    { nonempty := hnonempty
      valid := hhistory.valid
      oneRun := by
        intro a ha b hb
        rw [hhistory.oneRun a ha, hhistory.oneRun b hb]
      chained := hhistory.chained }
  have hboundary (last : EventRecord prims.times) :
      isIdentifier (runSource digests authenticated last).boundary = true := by
    cases authenticated with
    | false =>
      show isIdentifier "schema-validated-not-authenticated" = true
      decide +kernel
    | true =>
      show isIdentifier "external-journal-authenticated" = true
      decide +kernel
  have hhead (last : EventRecord prims.times) :
      (runSource digests authenticated last).headDigest.all matchesSha256 = true :=
    digests.digest_hex last
  have hbuilt (first last : EventRecord prims.times) (hfirst : records.head? = some first) :=
    @projection_eq_ok _ prims projectId records first.event.metadata.runId
      (runSource digests authenticated last) (lastStatus last.event.spec)
      hhistory.valid (by
        intro record hrecord
        rw [hhistory.oneRun record hrecord,
          hhistory.oneRun first (List.mem_of_mem_head? hfirst)])
      hnonempty (hboundary last) (hhead last)
  constructor
  · rintro ⟨p, hproject, -⟩
    obtain ⟨-, first, last, hfirst, -, hprojection⟩ := project_eq_ok.mp hproject
    exact ((hbuilt first last hfirst).2 p hprojection).1
  · intro hfits
    obtain ⟨first, hfirst⟩ : ∃ first, records.head? = some first := by
      cases records with
      | nil => exact absurd rfl hnonempty
      | cons first rest => exact ⟨first, rfl⟩
    obtain ⟨last, hlast⟩ : ∃ last, records.getLast? = some last :=
      Option.isSome_iff_exists.mp (List.getLast?_isSome.mpr hnonempty)
    obtain ⟨p, hp⟩ := (hbuilt first last hfirst).1 hfits
    obtain ⟨-, hconforms, hnodes, hedges, hstatus⟩ := (hbuilt first last hfirst).2 p hp
    refine ⟨p, project_eq_ok.mpr ⟨hlinked, first, last, hfirst, hlast, hp⟩,
      agrees_of_nodes hnodes hedges ?_, replayProjection_exportText hconforms⟩
    rw [hstatus, hhistory.status last hlast]

/-! ## Two events -/

def samplePrimitives : Primitives Empty where
  floats := noFloats
  semanticDigest _ := String.ofList (List.replicate 64 'a')
  semanticDigest_hex _ := by decide
  times := { rfc3339 := fun _ => true, instant := fun _ => some 0 }

def sampleDigests : EventDigest samplePrimitives.times where
  digest _ := String.ofList (List.replicate 64 'b')
  digest_hex _ := by decide

def sampleRecord (runId : String) : EventRecord samplePrimitives.times where
  event :=
    { metadata := {
        id := "event-1"
        runId := runId
        sequence := 1
        occurredAt := 0
        producer := .runtime
        producerIssuer := "runtime"
        previousEventDigest := none }
      spec := { type := .runReceived, outcome := .pending } }
  occurredAt := "1970-01-01T00:00:00Z"
  reasonCode := none
  format := rfl
  reads := rfl

def sampleConfig (runId : String) (h : matchesId runId = true) : ChainConfig Producer where
  runId := runId
  runId_ne := by
    rintro rfl
    exact absurd h (by decide)
  issuer _ := "runtime"
  issuer_ne _ := by decide
  token := id
  token_injective := Function.injective_id

theorem sample_accepted {runId : String} (h : matchesId runId = true) :
    ∃ chain, acceptAll (sampleConfig runId h) sampleDigests
      [(sampleRecord runId, .runtime)] = .ok chain := by
  have hid : matchesId "event-1" = true := by decide +kernel
  have hissuer : matchesId "runtime" = true := by decide +kernel
  have hvalid : contractValid (sampleRecord runId).event = true := by
    simp [contractValid, sampleRecord, h, hid, hissuer, FieldValue.optional,
      scopeEntriesValid]
  have hrecord : (sampleRecord runId).valid = true := by
    rw [EventRecord.valid, hvalid]
    rfl
  have hcheck : appendCheck (sampleConfig runId h) {} (sampleRecord runId).event
      Producer.runtime = none := by
    unfold appendCheck
    rw [hvalid]
    simp [sampleRecord, sampleConfig, RunProjection.initial, RunState.isTerminal,
      eventSemantics]
  have happend : ∃ chain, appendRecord (sampleConfig runId h) sampleDigests {}
      (sampleRecord runId, Producer.runtime) = .ok chain := by
    have hreduce : reduceRunEvent RunProjection.initial (sampleRecord runId).event.spec =
        .ok { RunProjection.initial with state := .received } := rfl
    unfold appendRecord
    simp only [hrecord, if_true]
    unfold append
    simp only [hcheck, hreduce]
    exact ⟨_, rfl⟩
  obtain ⟨chain, hchain⟩ := happend
  refine ⟨chain, ?_⟩
  rw [acceptAll, List.foldlM_cons, hchain]
  rfl

/-- The second event of a run. -/
def sampleSecond (runId : String) : EventRecord samplePrimitives.times :=
  { sampleRecord runId with
    event :=
      { metadata :=
          { (sampleRecord runId).event.metadata with
            id := "event-2"
            sequence := 2
            previousEventDigest := some (sampleDigests.digest (sampleRecord runId)) }
        spec := { type := .runValidated, outcome := .success } }
    reasonCode := some "ECO_VALIDATED" }

def sampleCalls : List (EventRecord samplePrimitives.times × Producer) :=
  [(sampleRecord "run-1", .runtime), (sampleSecond "run-1", .runtime)]

theorem sampleCalls_accepted : ∃ chain,
    acceptAll (sampleConfig "run-1" (by decide +kernel)) sampleDigests sampleCalls =
      .ok chain := by
  have hok : (acceptAll (sampleConfig "run-1" (by decide +kernel)) sampleDigests
      sampleCalls).isOk = true := by decide +kernel
  cases hchain : acceptAll (sampleConfig "run-1" (by decide +kernel)) sampleDigests
      sampleCalls with
  | ok chain => exact ⟨chain, rfl⟩
  | error err =>
    rw [hchain] at hok
    cases hok

theorem flow_agrees_iff_validated :
    ∃ p, projectRuntimeFlow samplePrimitives sampleDigests "project"
        [sampleRecord "run-1", sampleSecond "run-1"] false = .ok p ∧
      p.edges[0]?.map (·.type) = some .next ∧
      replayProjection samplePrimitives (exportText samplePrimitives p) = .ok p := by
  obtain ⟨chain, hchain⟩ := sampleCalls_accepted
  obtain ⟨p, hproject, hagrees, hreplay⟩ :=
    ((flow_agrees_iff samplePrimitives (sampleConfig "run-1" (by decide +kernel))
      sampleDigests "project" false).1 _ chain (List.cons_ne_nil _ _) hchain).mpr
      { project := by decide +kernel
        run := by decide +kernel
        count := by decide
        subject := by decide +kernel
        reason := by decide +kernel }
  refine ⟨p, hproject, ?_, hreplay⟩
  rw [hagrees.edges, hagrees.nodes, hagrees.nodes]
  rfl

theorem matchesId_replicate {n : ℕ} (h : n ≤ 127) :
    matchesId (String.ofList (List.replicate (n + 1) 'r')) = true := by
  have hdrop : dropFinalNewline (List.replicate (n + 1) 'r') = 'r' :: List.replicate n 'r' := by
    rw [dropFinalNewline, List.getLast?_replicate, if_neg (by simp), List.replicate_succ]
  rw [matchesId, String.toList_ofList, hdrop]
  simp only [List.length_replicate, List.all_replicate, h, decide_true]
  cases n <;> rfl

def longRunId : String := String.ofList (List.replicate (127 + 1) 'r')

theorem length_replicated (n : ℕ) : (String.ofList (List.replicate n 'r')).toList.length = n := by
  rw [String.toList_ofList, List.length_replicate]

theorem length_longRunId : longRunId.toList.length = 127 + 1 :=
  length_replicated (127 + 1)

theorem matchesId_longRunId : matchesId longRunId = true :=
  matchesId_replicate (Nat.le_refl 127)

theorem not_projected_of_long {runId : String} (hlong : 123 < runId.toList.length)
    (p : FlowProjection) :
    projectRuntimeFlow samplePrimitives sampleDigests "project" [sampleRecord runId] false ≠
      .ok p := by
  intro h
  obtain ⟨hlinked, first, last, hfirst, hlast, hprojection⟩ := project_eq_ok.mp h
  obtain rfl := Option.some.inj hfirst
  obtain rfl := Option.some.inj hlast
  have hboundary : isIdentifier "schema-validated-not-authenticated" = true := by
    decide +kernel
  have hhead : (runSource sampleDigests false (sampleRecord runId)).headDigest.all
      matchesSha256 = true := sampleDigests.digest_hex (sampleRecord runId)
  have hrun (record : EventRecord samplePrimitives.times)
      (hrecord : record ∈ [sampleRecord runId]) :
      record.event.metadata.runId = runId := by
    rw [List.mem_singleton.mp hrecord]
    rfl
  obtain ⟨hfits, -⟩ := (@projection_eq_ok _ samplePrimitives "project" _ _
    (runSource sampleDigests false (sampleRecord runId)) _ hlinked.valid hrun
    hlinked.nonempty hboundary hhead).2 p hprojection
  have hlength := hfits.run _ (List.mem_singleton_self _)
  rw [hrun _ (List.mem_singleton_self _)] at hlength
  omega

theorem long_run_not_projected :
    (∃ chain, acceptAll (sampleConfig longRunId matchesId_longRunId) sampleDigests
        [(sampleRecord longRunId, .runtime)] = .ok chain) ∧
      ∀ p, projectRuntimeFlow samplePrimitives sampleDigests "project"
        [sampleRecord longRunId] false ≠ .ok p := by
  have hlong : 123 < longRunId.toList.length := by
    rw [length_longRunId]
    exact Nat.lt_of_lt_of_le (by decide) (Nat.le_refl 128)
  exact ⟨sample_accepted matchesId_longRunId, not_projected_of_long hlong⟩

end Result

end Ecosystem.Flow
