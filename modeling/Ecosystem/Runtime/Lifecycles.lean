import Ecosystem.Runtime.OpenOperations

/-!
# The two lifecycles of a run

A run that ends in `SUCCEEDED` went through exactly one of two lifecycles, with tools or
with three fixed reads.  `AdapterLifecycle` and `NoModelLifecycle` state what the history
looks like in each.  `LifecycleInv` relates the projection to the history: the phase of a
subject is the end of the path (`PhasePath`) that its events have taken.
-/

namespace Ecosystem.Runtime

open Ecosystem.Lib

/-! ## Paths of one subject -/

/-- The phases a subject can reach, with the event types that lead there: the
first event requests, every later one is answered by `next`. -/
inductive PhasePath (next : EventType → Phase → Option Phase)
    (first : EventType) : Phase → List EventType → Prop
  | request : PhasePath next first .requested [first]
  | step {current phase : Phase} {types : List EventType} {t : EventType}
      (path : PhasePath next first current types)
      (hnext : next t current = some phase) :
      PhasePath next first phase (types ++ [t])

theorem readPath_completed {types : List EventType}
    (h : PhasePath nextReadPhase .noModelReadRequested .completed types) :
    types = [.noModelReadRequested, .noModelReadAllowed, .noModelReadStarted,
      .noModelReadCompleted] := by
  cases h with
  | step path hnext =>
    obtain ⟨rfl, rfl⟩ := nextReadPhase_completed hnext
    cases path with
    | @step current _ types t path hnext =>
      obtain ⟨rfl, rfl⟩ : t = .noModelReadStarted ∧ current = .allowed := by
        unfold nextReadPhase at hnext
        split at hnext <;> simp_all
      cases path with
      | @step current _ types t path hnext =>
        obtain ⟨rfl, rfl⟩ :
            t = .noModelReadAllowed ∧ current = .requested := by
          unfold nextReadPhase at hnext
          split at hnext <;> simp_all
        cases path with
        | request => rfl
        | step _ hnext =>
          unfold nextReadPhase at hnext
          split at hnext <;> simp_all

def closesTool (t : EventType) : Bool :=
  t == .toolCompleted || t == .toolFailed || t == .toolDenied ||
    t == .toolCancelled

theorem toolPath_closed {phase : Phase} {types : List EventType}
    (hclosed : phase.isClosed = true)
    (h : PhasePath nextToolPhase .toolRequested phase types) :
    ∃ earlier t, types = earlier ++ [t] ∧ closesTool t = true := by
  cases h with
  | request => cases hclosed
  | @step current _ types t path hnext =>
    refine ⟨types, t, rfl, ?_⟩
    unfold nextToolPhase at hnext
    split at hnext <;> simp_all [Phase.isClosed, closesTool]
    subst hnext
    cases hclosed

/-! ## Events filed under a subject -/

def readOf (slot : String) (e : EventSpec) : Bool :=
  e.type.isNoModelRead && e.scopeSlot == .text slot

def toolOf (subject : String) (e : EventSpec) : Bool :=
  e.type.isTool && e.subjectId == .text subject

/-- The phase recorded for a subject is the end of the path of the events filed
under it, and all these events carry the recorded digest. -/
def Filed (file : String → EventSpec → Bool)
    (next : EventType → Phase → Option Phase) (first : EventType)
    (es : List EventSpec) (tools : Dict String (Phase × String)) : Prop :=
  ∀ k, match tools.lookup k with
    | none => es.filter (file k) = []
    | some (phase, digest) =>
      PhasePath next first phase ((es.filter (file k)).map (·.type)) ∧
        ∀ e ∈ es.filter (file k), e.subjectDigest = .text digest

section Filed

variable {file : String → EventSpec → Bool}
  {next : EventType → Phase → Option Phase} {first : EventType}
  {es : List EventSpec} {tools : Dict String (Phase × String)} {e : EventSpec}

theorem filed_empty (h : ∀ k, ∀ e ∈ es, file k e = false) : Filed file next first es ∅ := by
  intro k
  simp only [Finmap.lookup_empty]
  exact List.filter_eq_nil_iff.mpr fun e he => by simp [h k e he]

theorem Filed.frame (h : Filed file next first es tools) (hfile : ∀ k, file k e = false) :
    Filed file next first (es ++ [e]) tools := by
  intro k
  have hsame : (es ++ [e]).filter (file k) = es.filter (file k) := by
    simp [List.filter_append, hfile k]
  simpa only [hsame] using h k

/-- Filing an event under `key` appends it to that subject's events and to no
other's. -/
theorem filter_file_concat {key k : String} (hfile : ∀ k, file k e = decide (k = key)) :
    (es ++ [e]).filter (file k) =
      if k = key then es.filter (file k) ++ [e] else es.filter (file k) := by
  rw [List.filter_append, List.filter_singleton, hfile k]
  by_cases hk : k = key
  · simp [hk]
  · simp [hk]

theorem Filed.insert_other {key : String} {v : Phase × String}
    (h : Filed file next first es tools) (hfile : ∀ k, file k e = decide (k = key))
    (hkey : PhasePath next first v.1 ((es.filter (file key) ++ [e]).map (·.type)) ∧
      ∀ x ∈ es.filter (file key) ++ [e], x.subjectDigest = .text v.2) :
    Filed file next first (es ++ [e]) (tools.insert key v) := by
  intro k
  rw [Dict.lookup_insert_ite, filter_file_concat hfile]
  by_cases hk : k = key
  · subst hk
    simpa using hkey
  · simpa [hk] using h k

theorem Filed.request {key digest : String} (h : Filed file next first es tools)
    (hfile : ∀ k, file k e = decide (k = key))
    (hfree : tools.lookup key = none) (ht : e.type = first)
    (hd : e.subjectDigest = .text digest) :
    Filed file next first (es ++ [e]) (tools.insert key (.requested, digest)) := by
  refine h.insert_other hfile ?_
  have hnone := h key
  rw [hfree] at hnone
  dsimp only at hnone
  rw [hnone]
  refine ⟨?_, ?_⟩
  · simpa [ht] using PhasePath.request
  · intro x hx
    obtain rfl : x = e := by simpa using hx
    exact hd

theorem Filed.advance {key digest : String} {current phase : Phase}
    (h : Filed file next first es tools) (hfile : ∀ k, file k e = decide (k = key))
    (hcur : tools.lookup key = some (current, digest))
    (hnext : next e.type current = some phase) (hd : e.subjectDigest = .text digest) :
    Filed file next first (es ++ [e]) (tools.insert key (phase, digest)) := by
  refine h.insert_other hfile ?_
  have hsome := h key
  rw [hcur] at hsome
  obtain ⟨hpath, hdigest⟩ := hsome
  refine ⟨?_, ?_⟩
  · rw [List.map_append]
    exact hpath.step hnext
  · intro x hx
    rcases List.mem_append.mp hx with hx | hx
    · exact hdigest x hx
    · obtain rfl : x = e := by simpa using hx
      exact hd

end Filed

variable {p : RunProjection} {t : EventType}

theorem readOf_of_binding {e : EventSpec}
    {slot digest : String} (hb : ReadBinding p e slot digest) (k : String) :
    readOf k e = decide (k = slot) := by
  simp [readOf, hb.isRead, hb.slot_eq, eq_comm, beq_eq_decide]

theorem toolOf_of_binding {e : EventSpec} {subject digest : String}
    (hb : ToolBinding e subject digest) (k : String) :
    toolOf k e = decide (k = subject) := by
  simp [toolOf, hb.isTool, hb.subject_eq, eq_comm, beq_eq_decide]

/-! ## The two lifecycles, as statements about the history -/

def occurrences (t : EventType) (es : List EventSpec) : ℕ :=
  es.countP fun e => e.type == t

theorem occurrences_concat {es : List EventSpec} {e : EventSpec} :
    occurrences t (es ++ [e]) =
      occurrences t es + if e.type = t then 1 else 0 := by
  simp [occurrences, List.countP_append, List.countP_singleton]

/-- The history of a run that succeeded through an adapter. -/
structure AdapterLifecycle (es : List EventSpec) : Prop where
  started_once : occurrences .adapterStarted es = 1
  completed_once : occurrences .adapterCompleted es = 1
  never_failed : occurrences .adapterFailed es = 0
  never_exhausted : occurrences .budgetExhausted es = 0
  no_model_free : ∀ e ∈ es, e.type.isNoModel = false
  tools_closed : ∀ before e after subject digest,
    es = before ++ e :: after → e.type = .toolRequested →
    e.subjectId = .text subject → e.subjectDigest = .text digest →
    ∃ e' ∈ after, closesTool e'.type = true ∧
      e'.subjectId = .text subject ∧ e'.subjectDigest = .text digest

def adapterSide (t : EventType) : Bool :=
  t.isAdapter || t.isTool || t == .artifactRecorded || t == .budgetExhausted

structure ReadSequence (es : List EventSpec) (slot entry subject content : String) :
    Prop where
  events : ∃ requested allowed started completed,
    es.filter (readOf slot) = [requested, allowed, started, completed] ∧
    requested.type = .noModelReadRequested ∧
    allowed.type = .noModelReadAllowed ∧
    started.type = .noModelReadStarted ∧
    completed.type = .noModelReadCompleted ∧
    completed.headingCheck = .text "pass" ∧
    completed.contentDigest = .text content
  bound : ∀ e ∈ es.filter (readOf slot),
    e.subjectDigest = .text subject ∧ e.entryDigest = .text entry

/-- The history of a run that succeeded through the no-model workflow. -/
structure NoModelLifecycle (es : List EventSpec) : Prop where
  adapter_free : ∀ e ∈ es, adapterSide e.type = false
  workflow_once : occurrences .noModelWorkflowStarted es = 1
  reads : ∃ entry subject content : String → String,
    (∃ w ∈ es, ∃ entries, w.type = .noModelWorkflowStarted ∧
      w.scopeEntries = .list entries ∧
      ∀ slot ∈ scopeSlots, .object (.text slot) (.text (entry slot)) ∈ entries) ∧
    (∀ slot ∈ scopeSlots, ReadSequence es slot (entry slot) (subject slot) (content slot)) ∧
    (∀ e ∈ es, e.type.isNoModelRead = true →
      ∃ slot ∈ scopeSlots, e.scopeSlot = .text slot) ∧
    Set.InjOn content scopeSlots

/-! ## The invariant that ties the projection to the history -/

/-- Before the run is started nothing of either lifecycle has happened. -/
structure EarlyHistory (es : List EventSpec) (p : RunProjection) : Prop where
  quiet : ∀ e ∈ es, adapterSide e.type = false ∧
    e.type.isNoModelRead = false ∧ e.type ≠ .noModelWorkflowStarted
  no_model_free : p.noModelAuthorized = false →
    ∀ e ∈ es, e.type.isNoModel = false
  tools : p.toolStates = ∅
  results : p.noModelResults = ∅
  started : p.noModelStarted = false
  flags : p.adapterCompleted = false ∧ p.adapterFailed = false ∧
    p.budgetExhausted = false

/-- A running adapter: the flags count their events, and the tools are filed. -/
structure AdapterHistory (es : List EventSpec) (p : RunProjection) : Prop where
  started_once : occurrences .adapterStarted es = 1
  completed : occurrences .adapterCompleted es = p.adapterCompleted.toNat
  failed : occurrences .adapterFailed es = p.adapterFailed.toNat
  exhausted : occurrences .budgetExhausted es = p.budgetExhausted.toNat
  no_model_free : ∀ e ∈ es, e.type.isNoModel = false
  filed : Filed toolOf nextToolPhase .toolRequested es p.toolStates

/-- A running no-model workflow: the reads are filed under their slots. -/
structure NoModelHistory (es : List EventSpec) (p : RunProjection) : Prop where
  adapter_free : ∀ e ∈ es, adapterSide e.type = false
  workflow_once : occurrences .noModelWorkflowStarted es = 1
  scope : ∃ w ∈ es, ∃ entries, w.type = .noModelWorkflowStarted ∧
    w.scopeEntries = .list entries ∧
    readScopeEntries entries = .ok p.noModelScopeEntries
  slots : p.noModelScopeEntries.keys = scopeSlots
  filed : Filed readOf nextReadPhase .noModelReadRequested es p.toolStates
  entry : ∀ e ∈ es, e.type.isNoModelRead = true →
    ∃ slot, e.scopeSlot = .text slot ∧
      e.entryDigest = FieldValue.ofOption (p.noModelScopeEntries.lookup slot)
  results : ∀ slot v, p.noModelResults.lookup slot = some v →
    ∃ c ∈ es.filter (readOf slot), c.type = .noModelReadCompleted ∧ readEvidence c = some v

structure LifecycleInv (es : List EventSpec) (p : RunProjection) : Prop where
  early : p.state.isEarly = true → EarlyHistory es p
  adapter : p.state = .running → p.noModelStarted = false → AdapterHistory es p
  noModel : p.state = .running → p.noModelStarted = true → NoModelHistory es p
  succeeded : p.state = .succeeded → AdapterLifecycle es ∨ NoModelLifecycle es

/-! ### Planning -/

theorem forall_concat {P : EventSpec → Prop} {es : List EventSpec}
    {e : EventSpec} (h : ∀ x ∈ es, P x) (he : P e) : ∀ x ∈ es ++ [e], P x := by
  intro x hx
  rcases List.mem_append.mp hx with hx | hx
  · exact h x hx
  · rw [List.mem_singleton.mp hx]
    exact he

/-- An event of the planning stages keeps `EarlyHistory`, whatever early state
it leads to. -/
theorem EarlyHistory.plan {es : List EventSpec} {p q : RunProjection}
    {e : EventSpec} (h : EarlyHistory es p)
    (hquiet : adapterSide e.type = false ∧ e.type.isNoModelRead = false ∧
      e.type ≠ .noModelWorkflowStarted)
    (hfree : q.noModelAuthorized = false →
      p.noModelAuthorized = false ∧ e.type.isNoModel = false)
    (htools : q.toolStates = p.toolStates)
    (hresults : q.noModelResults = p.noModelResults)
    (hstarted : q.noModelStarted = p.noModelStarted)
    (hflags : q.adapterCompleted = p.adapterCompleted ∧
      q.adapterFailed = p.adapterFailed ∧
      q.budgetExhausted = p.budgetExhausted) :
    EarlyHistory (es ++ [e]) q where
  quiet := forall_concat h.quiet hquiet
  no_model_free := fun hn =>
    forall_concat (h.no_model_free (hfree hn).1) (hfree hn).2
  tools := htools.trans h.tools
  results := hresults.trans h.results
  started := hstarted.trans h.started
  flags := by rw [hflags.1, hflags.2.1, hflags.2.2]; exact h.flags

theorem LifecycleInv.of_early {es : List EventSpec}
    (hs : p.state.isEarly = true) (h : EarlyHistory es p) :
    LifecycleInv es p where
  early := fun _ => h
  adapter := fun hr => by rw [hr] at hs; cases hs
  noModel := fun hr => by rw [hr] at hs; cases hs
  succeeded := fun hr => by rw [hr] at hs; cases hs

theorem occurrences_eq_zero {es : List EventSpec}
    (h : ∀ e ∈ es, e.type ≠ t) : occurrences t es = 0 := by
  rw [occurrences, List.countP_eq_zero]
  intro e he
  simpa using h e he

theorem EarlyHistory.occurrences_eq_zero {es : List EventSpec} (h : EarlyHistory es p)
    (ht : adapterSide t = true) : occurrences t es = 0 := by
  refine Runtime.occurrences_eq_zero fun e he hc => ?_
  have := (h.quiet e he).1
  rw [hc, ht] at this
  cases this

theorem adapterHistory_of_started {es : List EventSpec}
    {e : EventSpec} (h : EarlyHistory es p) (ht : e.type = .adapterStarted)
    (hn : p.noModelAuthorized = false) :
    AdapterHistory (es ++ [e]) { p with state := .running } where
  started_once := by
    rw [occurrences_concat, h.occurrences_eq_zero rfl, if_pos ht]
  completed := by
    rw [occurrences_concat, h.occurrences_eq_zero rfl, ht, h.flags.1]
    rfl
  failed := by
    rw [occurrences_concat, h.occurrences_eq_zero rfl, ht, h.flags.2.1]
    rfl
  exhausted := by
    rw [occurrences_concat, h.occurrences_eq_zero rfl, ht, h.flags.2.2]
    rfl
  no_model_free := forall_concat (h.no_model_free hn) (by rw [ht]; rfl)
  filed := by
    change Filed _ _ _ _ p.toolStates
    rw [h.tools]
    refine filed_empty fun k => forall_concat (fun x hx => ?_) ?_
    · have := (h.quiet x hx).1
      simp only [adapterSide, Bool.or_eq_false_iff] at this
      simp [toolOf, this.1.1.2]
    · rw [toolOf, ht]
      rfl

theorem noModelHistory_of_started {es : List EventSpec}
    {e : EventSpec} {entries : List ScopeEntry} {scope : Dict String String}
    (h : EarlyHistory es p) (ht : e.type = .noModelWorkflowStarted)
    (hs : e.scopeEntries = .list entries)
    (hscope : readScopeEntries entries = .ok scope)
    (hkeys : scope.keys = scopeSlots) :
    NoModelHistory (es ++ [e]) { p with
      state := .running
      noModelScopeEntries := scope
      noModelStarted := true } where
  adapter_free := forall_concat (fun x hx => (h.quiet x hx).1) (by rw [ht]; rfl)
  workflow_once := by
    rw [occurrences_concat, if_pos ht, occurrences_eq_zero fun x hx => (h.quiet x hx).2.2]
  scope := ⟨e, by simp, entries, ht, hs, hscope⟩
  slots := hkeys
  filed := by
    change Filed _ _ _ _ p.toolStates
    rw [h.tools]
    refine filed_empty fun k => forall_concat (fun x hx => ?_) ?_
    · simp [readOf, (h.quiet x hx).2.1]
    · rw [readOf, ht]
      rfl
  entry := forall_concat
    (fun x hx hr => by rw [(h.quiet x hx).2.1] at hr; cases hr)
    (fun hr => by rw [ht] at hr; cases hr)
  results := by
    intro slot v hv
    rw [show RunProjection.noModelResults _ = p.noModelResults from rfl, h.results] at hv
    cases hv

/-! ### The running adapter -/

/-- An adapter-side event keeps `AdapterHistory` when the flags of the new
projection count it and the tools are filed. -/
theorem AdapterHistory.next {es : List EventSpec} {p q : RunProjection}
    {e : EventSpec} (h : AdapterHistory es p)
    (hs : e.type ≠ .adapterStarted) (hm : e.type.isNoModel = false)
    (hc : q.adapterCompleted.toNat =
      p.adapterCompleted.toNat + if e.type = .adapterCompleted then 1 else 0)
    (hf : q.adapterFailed.toNat =
      p.adapterFailed.toNat + if e.type = .adapterFailed then 1 else 0)
    (hb : q.budgetExhausted.toNat =
      p.budgetExhausted.toNat + if e.type = .budgetExhausted then 1 else 0)
    (hfiled : Filed toolOf nextToolPhase .toolRequested (es ++ [e])
      q.toolStates) :
    AdapterHistory (es ++ [e]) q where
  started_once := by rw [occurrences_concat, h.started_once, if_neg hs]
  completed := by rw [occurrences_concat, h.completed, hc]
  failed := by rw [occurrences_concat, h.failed, hf]
  exhausted := by rw [occurrences_concat, h.exhausted, hb]
  no_model_free := forall_concat h.no_model_free hm
  filed := hfiled

theorem AdapterHistory.tool {es : List EventSpec} {p q : RunProjection}
    {e : EventSpec} (h : AdapterHistory es p) (ht : e.type.isTool = true)
    (hc : q.adapterCompleted = p.adapterCompleted) (hf : q.adapterFailed = p.adapterFailed)
    (hb : q.budgetExhausted = p.budgetExhausted)
    (hfiled : Filed toolOf nextToolPhase .toolRequested (es ++ [e]) q.toolStates) :
    AdapterHistory (es ++ [e]) q := by
  have hne : ∀ t : EventType, t.isTool = false → e.type ≠ t := by
    intro t hno heq
    rw [heq, hno] at ht
    cases ht
  refine h.next (hne _ rfl) ?_ ?_ ?_ ?_ hfiled
  · cases htype : e.type <;> simp_all [EventType.isTool] <;> rfl
  · rw [hc, if_neg (hne _ rfl), Nat.add_zero]
  · rw [hf, if_neg (hne _ rfl), Nat.add_zero]
  · rw [hb, if_neg (hne _ rfl), Nat.add_zero]

theorem toolOf_eq_false {e : EventSpec} (h : e.type.isTool = false)
    (k : String) : toolOf k e = false := by
  simp [toolOf, h]

theorem AdapterHistory.lifecycle {es : List EventSpec}
    {e : EventSpec} (h : AdapterHistory es p) (hi : PhaseInv p)
    (hn : p.noModelStarted = false) (ht : e.type = .runSucceeded)
    (hflags : p.adapterCompleted = true ∧ p.adapterFailed = false ∧
      p.budgetExhausted = false)
    (hclosed : p.hasOpenTool = false) : AdapterLifecycle (es ++ [e]) where
  started_once := by rw [occurrences_concat, h.started_once, ht]; rfl
  completed_once := by
    rw [occurrences_concat, h.completed, ht, hflags.1]
    rfl
  never_failed := by
    rw [occurrences_concat, h.failed, ht, hflags.2.1]
    rfl
  never_exhausted := by
    rw [occurrences_concat, h.exhausted, ht, hflags.2.2]
    rfl
  no_model_free := forall_concat h.no_model_free (by rw [ht]; rfl)
  tools_closed := by
    intro before r after subject digest hes hr hsubject hdigest
    have hfiled : Filed toolOf nextToolPhase .toolRequested (es ++ [e])
        p.toolStates := h.filed.frame (toolOf_eq_false (by rw [ht]; rfl))
    have hsubjectEvents := hfiled subject
    have hr' : toolOf subject r = true := by simp [toolOf, hr, hsubject]; rfl
    have hsplit : (es ++ [e]).filter (toolOf subject) =
        before.filter (toolOf subject) ++ r :: after.filter (toolOf subject) := by
      rw [hes, List.filter_append, List.filter_cons_of_pos hr']
    cases hlook : p.toolStates.lookup subject with
    | none =>
      rw [hlook] at hsubjectEvents
      dsimp only at hsubjectEvents
      rw [hsplit] at hsubjectEvents
      simp at hsubjectEvents
    | some v =>
      rcases v with ⟨phase, d⟩
      rw [hlook] at hsubjectEvents
      obtain ⟨hpath, hdigests⟩ := hsubjectEvents
      have hphase : phase.isClosed = true :=
        (allClosed_iff_no_started hclosed).mpr (hi.adapter hn)
          subject phase d hlook
      obtain ⟨earlier, t, htypes, hcloses⟩ := toolPath_closed hphase hpath
      obtain ⟨pre, last, hlist, -, hlast⟩ := List.map_eq_append_iff.mp htypes
      obtain ⟨c, rfl, hct⟩ : ∃ c, last = [c] ∧ c.type = t := by
        simpa [List.map_eq_singleton_iff] using hlast
      -- the closing event is the last one filed, hence behind the request
      rw [hsplit] at hlist
      have hmem : c ∈ after.filter (toolOf subject) := by
        rcases List.eq_nil_or_concat (after.filter (toolOf subject)) with
          hnil | ⟨front, c', hfront⟩
        · rw [hnil] at hlist
          have hlen := List.append_inj' hlist rfl
          obtain rfl : r = c := by simpa using hlen.2
          rw [hct] at hr
          rw [hr] at hcloses
          cases hcloses
        · rw [hfront, List.concat_eq_append] at hlist ⊢
          rw [← List.cons_append, ← List.append_assoc] at hlist
          obtain rfl : c' = c := by
            simpa using (List.append_inj' hlist rfl).2
          simp
      obtain ⟨hc, hfile⟩ := List.mem_filter.mp hmem
      rw [toolOf, Bool.and_eq_true] at hfile
      have hd : d = digest := by
        have := hdigests r (by rw [hsplit]; simp)
        rw [hdigest] at this
        cases this
        rfl
      have hcd := hdigests c (by rw [hsplit]; simp [hmem])
      exact ⟨c, hc, by rw [hct]; exact hcloses, eq_of_beq hfile.2, by rw [hcd, hd]⟩

/-! ### The running no-model workflow -/

/-- A read event keeps `NoModelHistory` when the read is filed and the results
are backed by completed reads. -/
theorem NoModelHistory.read {es : List EventSpec} {p q : RunProjection}
    {e : EventSpec} {slot digest : String} (h : NoModelHistory es p)
    (hb : ReadBinding p e slot digest)
    (hscope : q.noModelScopeEntries = p.noModelScopeEntries)
    (hfiled : Filed readOf nextReadPhase .noModelReadRequested (es ++ [e])
      q.toolStates)
    (hresults : ∀ k v, q.noModelResults.lookup k = some v →
      p.noModelResults.lookup k = some v ∨
        k = slot ∧ e.type = .noModelReadCompleted ∧ readEvidence e = some v) :
    NoModelHistory (es ++ [e]) q where
  adapter_free := by
    refine forall_concat h.adapter_free ?_
    have hread := hb.isRead
    cases htype : e.type <;> simp_all [EventType.isNoModelRead] <;> rfl
  workflow_once := by
    have hne : e.type ≠ .noModelWorkflowStarted := by
      intro hc
      have hread := hb.isRead
      rw [hc] at hread
      cases hread
    rw [occurrences_concat, h.workflow_once, if_neg hne]
  scope := by
    obtain ⟨w, hw, entries, hrest⟩ := h.scope
    exact ⟨w, List.mem_append_left _ hw, entries, by rw [hscope]; exact hrest⟩
  slots := by rw [hscope]; exact h.slots
  filed := hfiled
  entry := by
    rw [hscope]
    exact forall_concat h.entry fun _ => ⟨slot, hb.slot_eq, hb.entry⟩
  results := by
    intro k v hv
    rcases hresults k v hv with hold | ⟨rfl, htype, hev⟩
    · obtain ⟨c, hc, hrest⟩ := h.results k v hold
      refine ⟨c, ?_, hrest⟩
      rw [List.filter_append]
      exact List.mem_append_left _ hc
    · refine ⟨e, ?_, htype, hev⟩
      rw [filter_file_concat (readOf_of_binding hb), if_pos rfl]
      simp

theorem readEvidence_eq_some {e : EventSpec} {content : String}
    {check : HeadingCheck} (h : readEvidence e = some (content, check)) :
    e.contentDigest = .text content ∧ (check = .pass → e.headingCheck = .text "pass") := by
  unfold readEvidence at h
  split at h
  · next hc hh =>
      cases h
      exact ⟨hc, fun _ => hh⟩
  · next hc hh =>
      cases h
      exact ⟨hc, fun hp => by cases hp⟩
  · cases h

theorem mem_of_readScopeEntries {entries : List ScopeEntry}
    {scope : Dict String String} (h : readScopeEntries entries = .ok scope) :
    ∀ slot digest, scope.lookup slot = some digest →
      ScopeEntry.object (.text slot) (.text digest) ∈ entries := by
  refine foldlM_history_induction
    (fun seen (scope : Dict String String) => ∀ slot digest,
      scope.lookup slot = some digest →
        ScopeEntry.object (.text slot) (.text digest) ∈ seen) ?_ ?_ entries scope h
  · intro slot digest hl
    cases hl
  · intro seen q x t _ ih hx slot digest hl
    unfold addScopeEntry at hx
    split at hx
    · cases hx
    · next s d =>
        split at hx
        · cases hx
        cases hx
        rw [Dict.lookup_insert_ite] at hl
        split at hl
        · next hs =>
            cases hl
            subst hs
            simp
        · exact List.mem_append_left _ (ih slot digest hl)
    · cases hx

/-- What `no-model.workflow.succeeded` finds, slot by slot. -/
structure PassedReads (p : RunProjection) : Prop where
  tools : p.toolStates.keys = p.noModelScopeEntries.keys
  completed : ∀ k phase digest, p.toolStates.lookup k = some (phase, digest) →
    phase = .completed
  results : p.noModelResults.keys = p.noModelScopeEntries.keys
  passed : ∀ k content check,
    p.noModelResults.lookup k = some (content, check) → check = .pass
  distinct : (p.noModelResults.keys.image fun k =>
    (p.noModelResults.lookup k).map Prod.fst).card = 3

theorem passedReads_of_noModelSuccess (h : noModelSuccess p = true) : PassedReads p := by
  simp only [noModelSuccess, Bool.and_eq_true, Bool.not_eq_true',
    decide_eq_true_eq, Dict.anyValue_eq_false] at h
  obtain ⟨⟨⟨⟨htools, hcompleted⟩, hresults⟩, hpassed⟩, hdistinct⟩ := h
  exact ⟨htools, fun k phase digest hk => by simpa using hcompleted k (phase, digest) hk,
    hresults,
    fun k content check hk => by simpa using hpassed k (content, check) hk,
    hdistinct⟩

theorem NoModelHistory.readSequence {es : List EventSpec}
    {slot : String} (h : NoModelHistory es p) (hp : PassedReads p)
    (hslot : slot ∈ scopeSlots) :
    ∃ entry subject content, p.noModelScopeEntries.lookup slot = some entry ∧
      (p.noModelResults.lookup slot).map Prod.fst = some content ∧
      ReadSequence es slot entry subject content := by
  rw [← h.slots] at hslot
  obtain ⟨entry, hentry⟩ := Dict.mem_keys_iff_lookup.mp hslot
  obtain ⟨⟨phase, subject⟩, htool⟩ :=
    Dict.mem_keys_iff_lookup.mp (hp.tools ▸ hslot)
  obtain ⟨⟨content, check⟩, hresult⟩ :=
    Dict.mem_keys_iff_lookup.mp (hp.results ▸ hslot)
  obtain rfl := hp.completed slot phase subject htool
  obtain rfl := hp.passed slot content check hresult
  have hfiled := h.filed slot
  rw [htool] at hfiled
  obtain ⟨hpath, hdigests⟩ := hfiled
  have htypes := readPath_completed hpath
  simp only [List.map_eq_cons_iff, List.map_eq_nil_iff] at htypes
  obtain ⟨r, _, hlist, hr, a, _, rfl, ha, s, _, rfl, hs, c, _, rfl, hc, rfl⟩ :=
    htypes
  obtain ⟨c', hc', hctype, hevidence⟩ := h.results slot _ hresult
  obtain rfl : c' = c := by
    rw [hlist] at hc'
    simp only [List.mem_cons, List.not_mem_nil, or_false] at hc'
    rcases hc' with rfl | rfl | rfl | rfl
    · rw [hr] at hctype; cases hctype
    · rw [ha] at hctype; cases hctype
    · rw [hs] at hctype; cases hctype
    · rfl
  obtain ⟨hcontent, hcheck⟩ := readEvidence_eq_some hevidence
  refine ⟨entry, subject, content, hentry, by simp [hresult],
    ⟨r, a, s, c', hlist, hr, ha, hs, hc, hcheck rfl, hcontent⟩, ?_⟩
  intro e he
  refine ⟨hdigests e he, ?_⟩
  obtain ⟨hmem, hfile⟩ := List.mem_filter.mp he
  rw [readOf, Bool.and_eq_true] at hfile
  obtain ⟨slot', hslot', hentry'⟩ := h.entry e hmem hfile.1
  have hsame := eq_of_beq hfile.2
  rw [hslot'] at hsame
  cases hsame
  rw [hentry', hentry]
  rfl

theorem NoModelHistory.lifecycle {es : List EventSpec}
    {e : EventSpec} (h : NoModelHistory es p) (hp : PassedReads p)
    (ht : e.type = .noModelWorkflowSucceeded) : NoModelLifecycle (es ++ [e]) where
  adapter_free := forall_concat h.adapter_free (by rw [ht]; rfl)
  workflow_once := by rw [occurrences_concat, h.workflow_once, ht]; rfl
  reads := by
    have hread : ∀ slot : String, readOf slot e = false := by
      intro slot
      rw [readOf, ht]
      rfl
    have hsame : ∀ slot, (es ++ [e]).filter (readOf slot) =
        es.filter (readOf slot) := by
      intro slot
      simp [List.filter_append, hread slot]
    have hall : ∀ slot : String, ∃ entry subject content, slot ∈ scopeSlots →
        p.noModelScopeEntries.lookup slot = some entry ∧
        (p.noModelResults.lookup slot).map Prod.fst = some content ∧
        ReadSequence es slot entry subject content := by
      intro slot
      by_cases hslot : slot ∈ scopeSlots
      · obtain ⟨entry, subject, content, hrest⟩ := h.readSequence hp hslot
        exact ⟨entry, subject, content, fun _ => hrest⟩
      · exact ⟨"", "", "", fun hc => absurd hc hslot⟩
    choose entry subject content hslots using hall
    refine ⟨entry, subject, content, ?_, ?_, ?_, ?_⟩
    · obtain ⟨w, hw, entries, hwt, hws, hscope⟩ := h.scope
      refine ⟨w, List.mem_append_left _ hw, entries, hwt, hws, ?_⟩
      intro slot hslot
      exact mem_of_readScopeEntries hscope slot _ (hslots slot hslot).1
    · intro slot hslot
      obtain ⟨-, -, hseq⟩ := hslots slot hslot
      exact ⟨by rw [hsame]; exact hseq.events, by rw [hsame]; exact hseq.bound⟩
    · refine forall_concat (fun x hx hr => ?_) (fun hr => ?_)
      · obtain ⟨slot, hslot, -⟩ := h.entry x hx hr
        refine ⟨slot, ?_, hslot⟩
        have hfile : x ∈ es.filter (readOf slot) := by
          rw [List.mem_filter, readOf, hr, hslot]
          exact ⟨hx, by simp⟩
        rw [← h.slots, ← hp.tools, Dict.mem_keys_iff_lookup]
        have hfiled := h.filed slot
        cases hl : p.toolStates.lookup slot with
        | none =>
          rw [hl] at hfiled
          dsimp only at hfiled
          rw [hfiled] at hfile
          cases hfile
        | some v => exact ⟨v, rfl⟩
      · rw [ht] at hr
        cases hr
    · have hdistinct := hp.distinct
      rw [hp.results, h.slots] at hdistinct
      have hinj := Finset.card_image_iff.mp
        (hdistinct.trans (by decide : 3 = scopeSlots.card))
      intro a ha b hb hab
      refine hinj ha hb ?_
      dsimp only
      rw [(hslots a ha).2.1, (hslots b hb).2.1, hab]

/-! ## The lifecycles along a run -/

theorem lifecycleInv_initial : LifecycleInv [] RunProjection.initial :=
  LifecycleInv.of_early rfl
    { quiet := by simp
      no_model_free := by simp
      tools := rfl
      results := rfl
      started := rfl
      flags := ⟨rfl, rfl, rfl⟩ }

theorem LifecycleInv.of_adapter {es : List EventSpec}
    (hs : p.state = .running) (hn : p.noModelStarted = false)
    (h : AdapterHistory es p) : LifecycleInv es p where
  early := fun he => by rw [hs] at he; cases he
  adapter := fun _ _ => h
  noModel := fun _ hc => by rw [hn] at hc; cases hc
  succeeded := fun hr => by rw [hs] at hr; cases hr

theorem LifecycleInv.of_noModel {es : List EventSpec}
    (hs : p.state = .running) (hn : p.noModelStarted = true)
    (h : NoModelHistory es p) : LifecycleInv es p where
  early := fun he => by rw [hs] at he; cases he
  adapter := fun _ hc => by rw [hn] at hc; cases hc
  noModel := fun _ _ => h
  succeeded := fun hr => by rw [hs] at hr; cases hr

theorem LifecycleInv.of_succeeded {es : List EventSpec} (hs : p.state = .succeeded)
    (h : AdapterLifecycle es ∨ NoModelLifecycle es) : LifecycleInv es p where
  early := fun he => by rw [hs] at he; cases he
  adapter := fun hr => by rw [hs] at hr; cases hr
  noModel := fun hr => by rw [hs] at hr; cases hr
  succeeded := fun _ => h

theorem LifecycleInv.of_ended {es : List EventSpec}
    (hs : p.state = .failed ∨ p.state = .denied ∨ p.state = .cancelled ∨
      p.state = .exhausted) : LifecycleInv es p := by
  constructor
  · intro he
    rcases hs with hs | hs | hs | hs <;> rw [hs] at he <;> cases he
  · intro hr
    rcases hs with hs | hs | hs | hs <;> rw [hs] at hr <;> cases hr
  · intro hr
    rcases hs with hs | hs | hs | hs <;> rw [hs] at hr <;> cases hr
  · intro hr
    rcases hs with hs | hs | hs | hs <;> rw [hs] at hr <;> cases hr

theorem lifecycleInv_step {es : List EventSpec} {p q : RunProjection}
    {e : EventSpec} (hphase : PhaseInv p) (hi : LifecycleInv es p)
    (h : Accepted p e q) : LifecycleInv (es ++ [e]) q := by
  cases h with
  | received h ht | validated h ht | planCreated h ht | policyAllowed h ht =>
    exact .of_early rfl ((hi.early (by rw [h]; rfl)).plan
      (by rw [ht]; decide) (fun hn => ⟨hn, by rw [ht]; rfl⟩)
      rfl rfl rfl ⟨rfl, rfl, rfl⟩)
  | noModelAllowed _ h ht =>
    exact .of_early rfl ((hi.early (by rw [h]; rfl)).plan
      (by rw [ht]; decide) (fun hn => by cases hn)
      rfl rfl rfl ⟨rfl, rfl, rfl⟩)
  | policyDenied => exact .of_ended (.inr (.inl rfl))
  | adapterStarted h ht hn =>
    have hearly := hi.early (by rw [h]; rfl)
    exact .of_adapter rfl hearly.started
      (adapterHistory_of_started hearly ht hn)
  | workflowStarted entries scope h ht _ hs hscope hkeys =>
    exact .of_noModel rfl rfl (noModelHistory_of_started
      (hi.early (by rw [h]; rfl)) ht hs hscope hkeys)
  | readRequested slot digest h hn hb ht hfree =>
    have hist := hi.noModel h hn
    exact .of_noModel h hn (hist.read hb rfl
      (hist.filed.request (readOf_of_binding hb) hfree ht hb.digest_eq)
      (fun k v hv => .inl hv))
  | readAdvanced slot digest current phase h hn hb hcur hnext _ =>
    have hist := hi.noModel h hn
    exact .of_noModel h hn (hist.read hb rfl
      (hist.filed.advance (readOf_of_binding hb) hcur hnext hb.digest_eq)
      (fun k v hv => .inl hv))
  | readCompleted slot digest evidence h hn hb hcur ht hev =>
    have hist := hi.noModel h hn
    refine .of_noModel h hn (hist.read hb rfl
      (hist.filed.advance (readOf_of_binding hb) hcur (by rw [ht]; rfl)
        hb.digest_eq) ?_)
    intro k v hv
    rw [Dict.lookup_insert_ite] at hv
    split at hv
    · next hk =>
        cases hv
        exact .inr ⟨hk, ht, hev⟩
    · exact .inl hv
  | workflowSucceeded h hn ht hs =>
    exact .of_succeeded rfl (.inr ((hi.noModel h hn).lifecycle
      (passedReads_of_noModelSuccess hs) ht))
  | toolRequested subject digest h hn hb ht hfree _ =>
    have hist := hi.adapter h hn
    exact .of_adapter h hn (hist.tool hb.isTool rfl rfl rfl
      (hist.filed.request (toolOf_of_binding hb) hfree ht hb.digest_eq))
  | toolAdvanced subject digest current phase h hn hb hcur hnext =>
    have hist := hi.adapter h hn
    exact .of_adapter h hn (hist.tool hb.isTool rfl rfl rfl
      (hist.filed.advance (toolOf_of_binding hb) hcur hnext hb.digest_eq))
  | adapterCompleted h hn ht hflags _ =>
    have hist := hi.adapter h hn
    exact .of_adapter h hn (hist.next (by simp [ht]) (by rw [ht]; rfl)
      (by simp [ht, hflags.1]) (by simp [ht]) (by simp [ht])
      (hist.filed.frame (toolOf_eq_false (by rw [ht]; rfl))))
  | adapterFailed h hn ht hflags =>
    have hist := hi.adapter h hn
    exact .of_adapter h hn (hist.next (by simp [ht]) (by rw [ht]; rfl)
      (by simp [ht]) (by simp [ht, hflags.2]) (by simp [ht])
      (hist.filed.frame (toolOf_eq_false (by rw [ht]; rfl))))
  | artifactRecorded h hn ht _ =>
    have hist := hi.adapter h hn
    exact .of_adapter h hn (hist.next (by simp [ht]) (by rw [ht]; rfl)
      (by simp [ht]) (by simp [ht]) (by simp [ht])
      (hist.filed.frame (toolOf_eq_false (by rw [ht]; rfl))))
  | budgetExhausted h hn ht hflags =>
    have hist := hi.adapter h hn
    exact .of_adapter h hn (hist.next (by simp [ht]) (by rw [ht]; rfl)
      (by simp [ht]) (by simp [ht]) (by simp [ht, hflags.1])
      (hist.filed.frame (toolOf_eq_false (by rw [ht]; rfl))))
  | runSucceeded h hn ht hflags hclosed =>
    exact .of_succeeded rfl (.inl ((hi.adapter h hn).lifecycle hphase hn ht
      hflags hclosed))
  | runExhausted => exact .of_ended (.inr (.inr (.inr rfl)))
  | runFailed | earlyFailed => exact .of_ended (.inl rfl)
  | runCancelled | earlyCancelled => exact .of_ended (.inr (.inr (.inl rfl)))

/-- **Success is sound and the lifecycles do not mix.**  An accepted sequence
that ends in `SUCCEEDED` is a complete history of one of the two lifecycles. -/
theorem lifecycle_of_reduce_succeeded {es : List EventSpec}
    (h : reduceRunEvents .initial es = .ok p) (hs : p.state = .succeeded) :
    AdapterLifecycle es ∨ NoModelLifecycle es := by
  have hinv : LifecycleInv es p :=
    foldlM_history_induction LifecycleInv lifecycleInv_initial
      (fun _ _ _ _ hq hi hx =>
        lifecycleInv_step (phaseInv_of_reduce hq) hi (accepted_of_reduce hx))
      es p h
  exact hinv.succeeded hs

end Ecosystem.Runtime
