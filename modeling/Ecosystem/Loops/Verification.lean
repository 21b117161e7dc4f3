import Ecosystem.Loops.Equivalence

/-!
# Transitions that raise

`transition` takes the arguments of any caller.  The in-memory journal builds the next
record before it writes; the SQLite journal commits and builds the record when it reads
the row back.  `Recordable` is what only the record checks, `Commits` what is checked in
front of the commit: a call is atomic on error exactly if the second implies the first.
-/

namespace Ecosystem.Loops

open Ecosystem.Lib

/-! ## What a verified chain says -/

section Chains

variable {semanticDigest : LoopEvent → String}

/-- What the loop of `_verify` carries behind the rows that it accepted. -/
structure Carried (rows : List LoopEventRow)
    (acc : ℕ × Option String × LoopState × Option LoopEvent) : Prop where
  sequence : acc.1 = rows.length + 1
  unread : acc.2.2.2 = none → acc.2.1 = none ∧ acc.2.2.1 = .new
  target : ∀ event, acc.2.2.2 = some event → acc.2.2.1 = event.target

variable {cp : LoopCheckpoint} {r : String}

theorem carried_of_verifyRow {rows : List LoopEventRow}
    {acc : ℕ × Option String × LoopState × Option LoopEvent}
    (h : rows.foldlM (SQLiteLoopJournal.verifyRow semanticDigest cp)
      (1, none, .new, none) = .ok acc) : Carried rows acc := by
  refine foldlM_history_induction (fun rows acc => Carried rows acc) ?_ ?_ rows acc h
  · refine ⟨rfl, fun _ => ⟨rfl, rfl⟩, ?_⟩
    intro event hevent
    cases hevent
  · rintro before ⟨sequence, previous, state, last⟩ row acc' - hbefore hrow
    rw [SQLiteLoopJournal.verifyRow] at hrow
    split at hrow
    · cases hrow
      refine ⟨?_, fun hunread => (by cases hunread), ?_⟩
      · have hsequence : sequence = before.length + 1 := hbefore.sequence
        rw [List.length_append, hsequence]
        rfl
      · intro event hevent
        cases hevent
        rfl
    · cases hrow

theorem leadsTo_of_verify {rows : List LoopEventRow}
    (h : SQLiteLoopJournal.verify semanticDigest rows cp = .ok ()) :
    ∃ last, LeadsTo semanticDigest rows cp last := by
  rw [SQLiteLoopJournal.verify] at h
  split at h
  · cases h
  next hlength =>
  have hlength := not_not.mp hlength
  cases hchain : rows.foldlM (SQLiteLoopJournal.verifyRow semanticDigest cp)
      (1, none, .new, none) with
  | error err =>
    rw [hchain] at h
    cases h
  | ok acc =>
    have hcarried := carried_of_verifyRow hchain
    obtain ⟨sequence, previous, state, last⟩ := acc
    obtain rfl : sequence = cp.sequence + 1 := by
      rw [← hlength]
      exact hcarried.sequence
    rw [hchain] at h
    refine ⟨last, ?_⟩
    cases last with
    | none =>
      obtain ⟨rfl, rfl⟩ := hcarried.unread rfl
      dsimp only at h
      split at h
      · cases h
      next hempty =>
      simp only [ne_eq, not_or, not_not] at hempty
      refine ⟨hlength, ?_, fun _ => hempty, ?_⟩
      · rw [hchain, hempty.1, hempty.2]
      · intro event hevent
        cases hevent
    | some event =>
      obtain rfl : state = event.target := hcarried.target event rfl
      dsimp only at h
      split at h
      · next hhead =>
          have hfields := hhead
          simp only [SQLiteLoopJournal.verifyHead, Bool.and_eq_true,
            decide_eq_true_eq] at hfields
          refine ⟨hlength, ?_, fun hnone => (by cases hnone), ?_⟩
          · rw [hchain, hfields.1.1.1.1.1, hfields.1.1.1.1.2]
          · intro event' hevent
            cases hevent
            rw [hfields.1.1.1.1.1]
            exact hhead
      · cases h

theorem leadsTo_of_load {s : SQLiteLoopJournal} (h : s.load semanticDigest r = .ok cp) :
    ∃ row last, s.runs.lookup r = some row ∧ row.checkpoint = cp ∧
      cp.invalid = none ∧ LeadsTo semanticDigest (s.eventRows r) cp last := by
  rw [SQLiteLoopJournal.load, SQLiteLoopJournal.read] at h
  cases hrow : s.runs.lookup r with
  | none =>
    rw [hrow] at h
    cases h
  | some row =>
    rw [hrow] at h
    obtain ⟨built, hbuilt, h⟩ := bind_eq_ok.mp h
    obtain ⟨_, hverify, h⟩ := bind_eq_ok.mp h
    cases h
    rw [SQLiteLoopJournal.checkpoint] at hbuilt
    cases hinvalid : row.checkpoint.invalid with
    | some err =>
      rw [hinvalid] at hbuilt
      cases hbuilt
    | none =>
      rw [hinvalid] at hbuilt
      cases hbuilt
      obtain ⟨last, hlast⟩ := leadsTo_of_verify hverify
      exact ⟨row, last, rfl, rfl, hinvalid, hlast⟩

theorem load_of_leadsTo {s : SQLiteLoopJournal} {row : LoopRunRow}
    {last : Option LoopEvent} (hrow : s.runs.lookup r = some row)
    (hvalid : row.checkpoint.invalid = none)
    (hchain : LeadsTo semanticDigest (s.eventRows r) row.checkpoint last) :
    s.load semanticDigest r = .ok row.checkpoint := by
  rw [SQLiteLoopJournal.load, SQLiteLoopJournal.read, hrow]
  refine bind_eq_ok.mpr ⟨row.checkpoint, ?_, bind_eq_ok.mpr ⟨(), hchain.verify, rfl⟩⟩
  rw [SQLiteLoopJournal.checkpoint, hvalid]

theorem load_invalid {s : SQLiteLoopJournal} {row : LoopRunRow}
    {err : LoopError} (hrow : s.runs.lookup r = some row)
    (hinvalid : row.checkpoint.invalid = some err) :
    s.load semanticDigest r = .error err := by
  rw [SQLiteLoopJournal.load, SQLiteLoopJournal.read, hrow]
  show (SQLiteLoopJournal.checkpoint row >>= _) = _
  rw [SQLiteLoopJournal.checkpoint, hinvalid]
  rfl

end Chains

/-! ## Checks in front of the commit and behind it -/

/-- What the record of the next checkpoint checks of a request and `transition`
does not. -/
structure TransitionRequest.Recordable (req : TransitionRequest) : Prop where
  reason : req.target.isTerminal = true → matchesCode req.reasonCode = true
  progress : req.progressDigest.all matchesDigest = true
  stagnant : ∀ n, req.stagnantIterations = some n → 0 ≤ n

/-- The request passes every check that stands in front of the commit. -/
structure SQLiteLoopJournal.Commits (semanticDigest : LoopEvent → String)
    (s : SQLiteLoopJournal) (req : TransitionRequest) : Prop where
  loads : s.load semanticDigest req.expected.runId = .ok req.expected
  accepted : req.refused = none
  metered : req.Metered
  numbered : req.Numbered
  stagnant :
    -2 ^ 63 ≤ req.stagnantIterations.getD req.expected.stagnantIterations

section Requests

variable {semanticDigest : LoopEvent → String} {req : TransitionRequest}
  {s : SQLiteLoopJournal}

theorem TransitionRequest.Recordable.sound (h : req.Recordable) : req.Sound := by
  refine ⟨h.reason, h.progress, fun hold => ?_⟩
  cases hstagnant : req.stagnantIterations with
  | none => exact hold
  | some n => exact h.stagnant n hstagnant

theorem TransitionRequest.recordable_of_next_valid
    (h : (req.next semanticDigest).invalid = none) : req.Recordable := by
  obtain ⟨-, -, hstagnant, hprogress, hreason, -⟩ :=
    LoopCheckpoint.invalid_eq_none.mp h
  simp only [next] at hstagnant hprogress hreason
  refine ⟨?_, ?_, ?_⟩
  · intro hterminal
    rw [if_pos hterminal] at hreason
    exact hreason
  · cases hp : req.progressDigest with
    | none => rfl
    | some digest =>
      rw [hp] at hprogress
      exact hprogress
  · intro n hn
    rw [hn] at hstagnant
    exact hstagnant

/-- The tables behind the commit. -/
def SQLiteLoopJournal.committed (semanticDigest : LoopEvent → String)
    (s : SQLiteLoopJournal) (row : LoopRunRow) (req : TransitionRequest) :
    SQLiteLoopJournal :=
  s.writeEvent req.expected.runId
    { row with checkpoint := req.next semanticDigest }
    (s.eventRows req.expected.runId ++
      [⟨req.expected.sequence + 1, req.event, semanticDigest req.event⟩])

theorem SQLiteLoopJournal.committed_row (row : LoopRunRow) :
    (s.committed semanticDigest row req).runs.lookup req.expected.runId =
      some { row with checkpoint := req.next semanticDigest } :=
  Finmap.lookup_insert s.runs

theorem SQLiteLoopJournal.committed_eventRows (row : LoopRunRow) :
    (s.committed semanticDigest row req).eventRows req.expected.runId =
      s.eventRows req.expected.runId ++
        [⟨req.expected.sequence + 1, req.event, semanticDigest req.event⟩] := by
  rw [SQLiteLoopJournal.eventRows, committed, SQLiteLoopJournal.writeEvent,
    Finmap.lookup_insert]
  rfl

theorem SQLiteLoopJournal.transition_of_commits (h : s.Commits semanticDigest req) :
    ∃ row, s.runs.lookup req.expected.runId = some row ∧ s.transition semanticDigest req =
        .ok (.reload, s.committed semanticDigest row req) := by
  obtain ⟨row, -, hrow, -, -, -⟩ := leadsTo_of_load h.loads
  refine ⟨row, hrow, ?_⟩
  have hread : s.read semanticDigest req.expected.runId = .ok req.expected := h.loads
  have hcolumns : SQLiteLoopJournal.columnsBindable (req.next semanticDigest) = true :=
    TransitionRequest.columnsBindable_next.mpr ⟨h.metered, h.numbered, h.stagnant⟩
  simp only [SQLiteLoopJournal.transition, hrow, hread, h.accepted, hcolumns,
    ne_eq, not_true_eq_false, if_false, Bool.not_true, Bool.false_eq_true]
  rfl

/-- The transaction orders the row to be read back only behind its commit. -/
theorem SQLiteLoopJournal.commits_of_reload {s' : SQLiteLoopJournal}
    (h : s.transition semanticDigest req = .ok (.reload, s')) :
    s.Commits semanticDigest req := by
  rw [SQLiteLoopJournal.transition] at h
  split at h
  · next row current hrow hread =>
      split at h
      · split at h
        · cases h
        cases h
      · next hcurrent =>
          obtain rfl := not_not.mp hcurrent
          split at h
          · cases h
          next haccepted =>
          split at h
          · cases h
          next hcolumns =>
          have hcolumns := TransitionRequest.columnsBindable_next.mp
            (by simpa using hcolumns)
          exact ⟨hread, haccepted, hcolumns.1, hcolumns.2.1, hcolumns.2.2⟩
  · cases h
  · cases h

/-! ## Atomicity -/

/-- A call that raised left the whole journal as it was, and every run that could
be loaded still can. -/
def AtomicOnError {σ : Type} (load : σ → String → Except LoopError LoopCheckpoint)
    (before : σ) (answer : JournalReply × σ) : Prop :=
  ∀ err, answer.1 = .raised err →
    answer.2 = before ∧
      ∀ r cp, load before r = .ok cp → load answer.2 r = .ok cp

theorem atomicOnError_of_same {σ : Type}
    {load : σ → String → Except LoopError LoopCheckpoint} {before : σ}
    {reply : JournalReply} : AtomicOnError load before (reply, before) :=
  fun _ _ => ⟨rfl, fun _ _ h => h⟩

theorem atomicOnError_of_returned {σ : Type}
    {load : σ → String → Except LoopError LoopCheckpoint} {before after : σ}
    {cp : LoopCheckpoint} : AtomicOnError load before (.checkpoint cp, after) :=
  fun _ h => by cases h

theorem InMemoryLoopJournal.transition_atomic
    (definitionDigest : LoopDefinition → String) (m : InMemoryLoopJournal)
    (req : TransitionRequest) :
    AtomicOnError InMemoryLoopJournal.load m
      (m.exec definitionDigest semanticDigest (.transition req)) := by
  simp only [InMemoryLoopJournal.exec]
  cases h : m.transition semanticDigest req with
  | error err => exact atomicOnError_of_same
  | ok answer =>
    obtain ⟨answer, m'⟩ := answer
    cases answer with
    | settled cp => exact atomicOnError_of_returned
    | reload => exact fun _ h => by cases h

/-- What commits and is no record raises behind the commit, and the run cannot be
loaded any more. -/
theorem SQLiteLoopJournal.transition_unrecordable
    (definitionDigest : LoopDefinition → String) (h : s.Commits semanticDigest req)
    (hrecord : ¬ req.Recordable) :
    ∃ err row, s.runs.lookup req.expected.runId = some row ∧
      s.exec definitionDigest semanticDigest (.transition req) =
        (.raised err, s.committed semanticDigest row req) ∧
      (s.committed semanticDigest row req).load semanticDigest req.expected.runId =
        .error err := by
  obtain ⟨row, hrow, htransition⟩ := transition_of_commits h
  obtain ⟨err, herr⟩ : ∃ err, (req.next semanticDigest).invalid = some err := by
    refine Option.ne_none_iff_exists'.mp fun hvalid => ?_
    exact hrecord (TransitionRequest.recordable_of_next_valid hvalid)
  have hload : (s.committed semanticDigest row req).load semanticDigest
      req.expected.runId = .error err :=
    load_invalid (committed_row row) herr
  refine ⟨err, row, hrow, ?_, hload⟩
  simp only [SQLiteLoopJournal.exec, htransition, SQLiteLoopJournal.settle, hload, replyOf]

theorem SQLiteLoopJournal.transition_recordable
    (hdigest : ∀ event, matchesDigest (semanticDigest event) = true)
    (definitionDigest : LoopDefinition → String) (h : s.Commits semanticDigest req)
    (hrecord : req.Recordable) :
    ∃ row, s.exec definitionDigest semanticDigest (.transition req) =
      (.checkpoint (req.next semanticDigest), s.committed semanticDigest row req) := by
  obtain ⟨row, hrow, htransition⟩ := transition_of_commits h
  obtain ⟨-, last, -, -, hvalid, hchain⟩ := leadsTo_of_load h.loads
  have hload : (s.committed semanticDigest row req).load semanticDigest
      req.expected.runId = .ok (req.next semanticDigest) := by
    have hnext : LeadsTo semanticDigest
        ((s.committed semanticDigest row req).eventRows req.expected.runId)
        (req.next semanticDigest) (some req.event) := by
      rw [committed_eventRows]
      exact hchain.next
    exact load_of_leadsTo (committed_row row)
      (hrecord.sound.next_valid hdigest hvalid) hnext
  refine ⟨row, ?_⟩
  simp only [SQLiteLoopJournal.exec, htransition, SQLiteLoopJournal.settle, hload, replyOf]

/-- **Transitions that raise.**  On the in-memory journal they change nothing.
On the SQLite journal they change nothing exactly if every request that passes
the checks in front of the commit also passes those of the record. -/
theorem transition_atomic_iff
    (hdigest : ∀ event, matchesDigest (semanticDigest event) = true)
    (definitionDigest : LoopDefinition → String) (m : InMemoryLoopJournal)
    (s : SQLiteLoopJournal) (req : TransitionRequest) :
    AtomicOnError InMemoryLoopJournal.load m
        (m.exec definitionDigest semanticDigest (.transition req)) ∧
      (AtomicOnError (SQLiteLoopJournal.load semanticDigest) s
          (s.exec definitionDigest semanticDigest (.transition req)) ↔
        (s.Commits semanticDigest req → req.Recordable)) := by
  refine ⟨m.transition_atomic definitionDigest req, ?_, ?_⟩
  · intro hatomic hcommits
    by_contra hrecord
    obtain ⟨err, row, -, hexec, hload⟩ :=
      SQLiteLoopJournal.transition_unrecordable definitionDigest hcommits hrecord
    rw [hexec] at hatomic
    obtain ⟨hsame, -⟩ := hatomic err rfl
    have hloads := hcommits.loads
    rw [← hsame, hload] at hloads
    cases hloads
  · intro hrecordable
    cases htransition : s.transition semanticDigest req with
    | error err =>
      simp only [SQLiteLoopJournal.exec, htransition]
      exact atomicOnError_of_same
    | ok answer =>
      obtain ⟨answer, s'⟩ := answer
      cases answer with
      | settled cp =>
        simp only [SQLiteLoopJournal.exec, htransition, SQLiteLoopJournal.settle]
        exact atomicOnError_of_returned
      | reload =>
        have hcommits := SQLiteLoopJournal.commits_of_reload htransition
        obtain ⟨row, hexec⟩ := SQLiteLoopJournal.transition_recordable hdigest
          definitionDigest hcommits (hrecordable hcommits)
        rw [hexec]
        exact atomicOnError_of_returned

end Requests

/-! ### A cancellation that destroys its run -/

def createdRun : SQLiteLoopJournal :=
  SQLiteLoopJournal.empty.writeRun "run-1"
    { checkpoint := initialCheckpoint sampleDefinitionDigest "run-1" sampleDefinition }

/-- A reason that begins with `ECO_` and is no safe code. -/
def cancelRequest : TransitionRequest where
  expected := initialCheckpoint sampleDefinitionDigest "run-1" sampleDefinition
  target := .cancelled
  reasonCode := "ECO_operator"

theorem sampleEventDigest_safe (event : LoopEvent) :
    matchesDigest (sampleEventDigest event) = true := by
  rw [sampleEventDigest]
  rfl

theorem cancelRequest_commits : createdRun.Commits sampleEventDigest cancelRequest where
  loads := by
    have hrow : createdRun.runs.lookup "run-1" =
        some { checkpoint := cancelRequest.expected } := Finmap.lookup_insert _
    have hvalid : cancelRequest.expected.invalid = none := by rfl
    exact load_of_leadsTo hrow hvalid (leadsTo_initial "run-1" sampleDefinition)
  accepted := by rfl
  metered := by constructor <;> decide
  numbered := by constructor <;> decide
  stagnant := by decide

theorem cancelRequest_not_recordable : ¬ cancelRequest.Recordable := by
  intro h
  have hreason : matchesCode "ECO_operator" = true := h.reason rfl
  revert hreason
  decide

/-- The premise of the law holds at a cancellation whose reason is no
safe code. -/
theorem transition_atomic_iff_cancelled :
    (∀ event, matchesDigest (sampleEventDigest event) = true) ∧
    createdRun.Commits sampleEventDigest cancelRequest ∧ ¬ cancelRequest.Recordable ∧
    ¬ AtomicOnError (SQLiteLoopJournal.load sampleEventDigest) createdRun
      (createdRun.exec sampleDefinitionDigest sampleEventDigest
        (.transition cancelRequest)) := by
  refine ⟨sampleEventDigest_safe, cancelRequest_commits, cancelRequest_not_recordable,
    fun hatomic => ?_⟩
  exact cancelRequest_not_recordable (((transition_atomic_iff sampleEventDigest_safe
    sampleDefinitionDigest {} createdRun cancelRequest).2.mp hatomic)
      cancelRequest_commits)

theorem cancelled_run_unreadable :
    createdRun.load sampleEventDigest "run-1" = .ok cancelRequest.expected ∧
    ∃ err, (createdRun.exec sampleDefinitionDigest sampleEventDigest
        (.transition cancelRequest)).1 = .raised err ∧
      (createdRun.exec sampleDefinitionDigest sampleEventDigest
        (.transition cancelRequest)).2.load sampleEventDigest "run-1" = .error err := by
  refine ⟨cancelRequest_commits.loads, ?_⟩
  obtain ⟨err, row, -, hexec, hload⟩ := SQLiteLoopJournal.transition_unrecordable
    sampleDefinitionDigest cancelRequest_commits cancelRequest_not_recordable
  refine ⟨err, ?_, ?_⟩
  · rw [hexec]
  · rw [hexec]
    exact hload

end Ecosystem.Loops
