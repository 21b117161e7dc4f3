import Ecosystem.Lib.Checks
import Ecosystem.Lib.JsonEquality
import Ecosystem.Loops.Verification

/-!
# What verification says of arbitrary tables

Here the two tables of `SQLiteLoopJournal` hold anything that their columns admit.
`LoopTables.load` builds the record from the columns, and `_verify` walks the events as
loaded JSON values.  Only the head event is compared with the columns, and in part.
-/

namespace Ecosystem.Loops

open Ecosystem.Lib Ecosystem.Lib.Checks

/-! ## Columns and texts -/

def LoopState.text : LoopState → String
  | .new => "new"
  | .ready => "ready"
  | .running => "running"
  | .gating => "gating"
  | .retryWait => "retry-wait"
  | .succeeded => "succeeded"
  | .failed => "failed"
  | .exhausted => "exhausted"
  | .cancelled => "cancelled"

/-- `LOOP_STATES`, as texts. -/
def LoopState.ofText (s : String) : Option LoopState :=
  [LoopState.new, .ready, .running, .gating, .retryWait, .succeeded, .failed,
    .exhausted, .cancelled].find? (·.text = s)

@[simp] theorem LoopState.ofText_text (state : LoopState) :
    LoopState.ofText state.text = some state := by
  cases state <;> decide

theorem LoopState.text_injective {a b : LoopState} (h : a.text = b.text) : a = b := by
  have hsome := ofText_text a
  rw [h, ofText_text] at hsome
  exact (Option.some.inj hsome).symm

/-- The columns of `loop_runs` behind the key. -/
structure LoopRunColumns where
  definitionDigest : String
  state : String
  sequence : ℤ
  attempts : ℤ
  iterations : ℤ
  tokens : ℤ
  costMicrousd : ℤ
  storageBytes : ℤ
  lastProgressDigest : Option String
  stagnantIterations : ℤ
  terminalReason : Option String
  headDigest : Option String

def nonNegative (name : String) (value : ℤ) : Except LoopError ℕ :=
  if value < 0 then
    .error (.contract "ECO_LOOP_DEFINITION_INVALID"
      (name ++ " must be a non-negative integer"))
  else
    .ok value.toNat

/-- `_checkpoint`: the record that the columns of a row make. -/
def LoopRunColumns.checkpoint (runId : String) (row : LoopRunColumns) :
    Except LoopError LoopCheckpoint := do
  let attempts ← nonNegative "attempts" row.attempts
  let iterations ← nonNegative "iterations" row.iterations
  let tokens ← nonNegative "tokens" row.tokens
  let costMicrousd ← nonNegative "cost_microusd" row.costMicrousd
  let storageBytes ← nonNegative "storage_bytes" row.storageBytes
  require (matchesLoopId runId)
    (.contract "ECO_LOOP_CHECKPOINT_INVALID" "run id is invalid")
  require (matchesDigest row.definitionDigest)
    (.contract "ECO_LOOP_CHECKPOINT_INVALID" "definition digest is invalid")
  let state ← expect (.contract "ECO_LOOP_CHECKPOINT_INVALID" "state is invalid")
    (LoopState.ofText row.state)
  let sequence ← nonNegative "sequence" row.sequence
  let cp : LoopCheckpoint :=
    { runId := runId, definitionDigest := row.definitionDigest, state := state
      sequence := sequence
      usage :=
        { attempts := attempts, iterations := iterations, tokens := tokens
          costMicrousd := costMicrousd, storageBytes := storageBytes }
      lastProgressDigest := row.lastProgressDigest
      stagnantIterations := row.stagnantIterations
      terminalReason := row.terminalReason, headDigest := row.headDigest }
  match cp.invalid with
  | some err => .error err
  | none => .ok cp

theorem LoopRunColumns.runId_of_checkpoint {runId : String} {row : LoopRunColumns}
    {cp : LoopCheckpoint} (h : row.checkpoint runId = .ok cp) : cp.runId = runId := by
  rw [LoopRunColumns.checkpoint] at h
  obtain ⟨attempts, h⟩ := rest_ok h
  obtain ⟨iterations, h⟩ := rest_ok h
  obtain ⟨tokens, h⟩ := rest_ok h
  obtain ⟨costMicrousd, h⟩ := rest_ok h
  obtain ⟨storageBytes, h⟩ := rest_ok h
  obtain ⟨-, h⟩ := rest_ok h
  obtain ⟨-, h⟩ := rest_ok h
  obtain ⟨state, -, h⟩ := expect_bind_eq_ok.mp h
  obtain ⟨sequence, h⟩ := rest_ok h
  dsimp only at h
  split at h
  · cases h
  cases h
  rfl

/-! ## Events as they are loaded -/

section Stored

variable {Φ : Type}

/-- The values of an event under its eleven keys. -/
structure StoredEvent (Φ : Type) where
  definitionDigest : Json Φ
  evidenceDigest : Json Φ
  source : Json Φ
  previousEventDigest : Json Φ
  progressDigest : Json Φ
  reasonCode : Json Φ
  runId : Json Φ
  sequence : Json Φ
  stagnantIterations : Json Φ
  target : Json Φ
  usage : Json Φ

/-- The keys that `event_is_content_free` wants, in order. -/
def eventKeys : List String :=
  ["definitionDigest", "evidenceDigest", "from", "previousEventDigest",
    "progressDigest", "reasonCode", "runId", "sequence", "stagnantIterations", "to",
    "usage"]

/-- `event_is_content_free`: an object with exactly these keys. -/
def StoredEvent.read : Json Φ → Option (StoredEvent Φ)
  | .obj members =>
    if members.map (·.1) = eventKeys then
      match members.map (·.2) with
      | [definitionDigest, evidenceDigest, source, previousEventDigest,
          progressDigest, reasonCode, runId, sequence, stagnantIterations, target,
          usage] =>
        some
          { definitionDigest, evidenceDigest, source, previousEventDigest
            progressDigest, reasonCode, runId, sequence, stagnantIterations
            target, usage }
      | _ => none
    else
      none
  | _ => none

/-- A row of `loop_events`; the value is none where the text is not JSON. -/
structure StoredEventRow (Φ : Type) where
  sequence : ℤ
  value : Option (Json Φ)
  eventDigest : String

def LoopUsage.record (usage : LoopUsage) : Json Φ :=
  .obj
    [("attempts", .int usage.attempts), ("costMicrousd", .int usage.costMicrousd),
      ("iterations", .int usage.iterations),
      ("storageBytes", .int usage.storageBytes), ("tokens", .int usage.tokens)]

/-- The two tables; the events of a run stand in the order of their sequence. -/
structure LoopTables (Φ : Type) where
  runs : String → Option LoopRunColumns := fun _ => none
  events : String → List (StoredEventRow Φ) := fun _ => []

/-- What the loop of `_verify` carries: the next sequence, the digest and the
state to continue, and the last event. -/
abbrev Walk (Φ : Type) := ℕ × Option String × Json Φ × Option (StoredEvent Φ)

section Walks

variable (value : Φ → ℚ) (semanticDigest : Json Φ → String)

def StoredEvent.follows (cp : LoopCheckpoint) (expectedSequence : ℕ)
    (previousDigest : Option String) (previousState : Json Φ)
    (event : StoredEvent Φ) : Bool :=
  event.sequence.same value (.int expectedSequence) &&
    event.runId.same value (.str cp.runId) &&
    event.definitionDigest.same value (.str cp.definitionDigest) &&
    event.previousEventDigest.same value (.ofOption previousDigest) &&
    event.source.same value previousState

/-- One turn of the loop of `_verify`. -/
def LoopTables.verifyRow (cp : LoopCheckpoint) (acc : Walk Φ)
    (row : StoredEventRow Φ) : Except LoopError (Walk Φ) :=
  match row.value with
  | none => .error (SQLiteLoopJournal.journalCorrupt "event JSON is invalid")
  | some loaded =>
    match StoredEvent.read loaded with
    | none =>
      .error (SQLiteLoopJournal.journalCorrupt "event chain verification failed")
    | some event =>
      if row.sequence = acc.1 ∧
          event.follows value cp acc.1 acc.2.1 acc.2.2.1 = true ∧
          semanticDigest loaded = row.eventDigest then
        .ok (acc.1 + 1, some row.eventDigest, event.target, some event)
      else
        .error
          (SQLiteLoopJournal.journalCorrupt "event chain verification failed")

def LoopTables.verifyHead (cp : LoopCheckpoint) (previousDigest : Option String)
    (last : StoredEvent Φ) : Bool :=
  cp.headDigest = previousDigest && last.target.same value (.str cp.state.text) &&
    last.usage.same value cp.usage.record &&
    last.progressDigest.same value (.ofOption cp.lastProgressDigest) &&
    last.stagnantIterations.same value (.int cp.stagnantIterations) &&
    (!cp.state.isTerminal ||
      last.reasonCode.same value (.ofOption cp.terminalReason))

def LoopTables.verify (rows : List (StoredEventRow Φ)) (cp : LoopCheckpoint) :
    Except LoopError Unit :=
  if rows.length ≠ cp.sequence then
    .error (SQLiteLoopJournal.journalCorrupt "event count does not match checkpoint")
  else do
    let acc ← rows.foldlM (LoopTables.verifyRow value semanticDigest cp)
      (1, none, .str "new", none)
    match acc.2.2.2 with
    | none =>
      if cp.headDigest ≠ none ∨ cp.state ≠ .new then
        .error (SQLiteLoopJournal.journalCorrupt "empty checkpoint is inconsistent")
      else
        .ok ()
    | some last =>
      if LoopTables.verifyHead value cp acc.2.1 last then .ok ()
      else
        .error (SQLiteLoopJournal.journalCorrupt
          "checkpoint does not match event head")

def LoopTables.load (t : LoopTables Φ) (runId : String) :
    Except LoopError LoopCheckpoint :=
  match t.runs runId with
  | none => .error runUnknown
  | some row => do
    let cp ← row.checkpoint runId
    LoopTables.verify value semanticDigest (t.events runId) cp
    .ok cp

/-! ## What the walk accepts -/

def StoredEventRow.event (row : StoredEventRow Φ) : Option (StoredEvent Φ) :=
  row.value.bind StoredEvent.read

/-- What the loop carries behind these rows. -/
def walkOf (rows : List (StoredEventRow Φ)) : Walk Φ :=
  let last := rows.getLast?.bind (·.event)
  (rows.length + 1, rows.getLast?.map (·.eventDigest),
    (last.map (·.target)).getD (.str "new"), last)

structure Continues (runId definitionDigest : String)
    (before : List (StoredEventRow Φ)) (row : StoredEventRow Φ) : Prop where
  sequence : row.sequence = before.length + 1
  event : ∃ loaded event, row.value = some loaded ∧
    StoredEvent.read loaded = some event ∧
    semanticDigest loaded = row.eventDigest ∧
    event.sequence.number value = some ((before.length + 1 : ℕ) : ℚ) ∧
    event.runId = .str runId ∧ event.definitionDigest = .str definitionDigest ∧
    event.previousEventDigest = .ofOption (before.getLast?.map (·.eventDigest)) ∧
    event.source.same value (walkOf before).2.2.1 = true

variable {value semanticDigest} {cp dp : LoopCheckpoint}
  {rows : List (StoredEventRow Φ)}

theorem verifyRow_eq_ok {before : List (StoredEventRow Φ)} {row : StoredEventRow Φ}
    {acc : Walk Φ}
    (h : LoopTables.verifyRow value semanticDigest cp (walkOf before) row = .ok acc) :
    Continues value semanticDigest cp.runId cp.definitionDigest before row ∧
      acc = walkOf (before ++ [row]) := by
  rw [LoopTables.verifyRow] at h
  cases hvalue : row.value with
  | none =>
    rw [hvalue] at h
    cases h
  | some loaded =>
    rw [hvalue] at h
    dsimp only at h
    cases hread : StoredEvent.read loaded with
    | none =>
      rw [hread] at h
      cases h
    | some event =>
      rw [hread] at h
      dsimp only at h
      split at h
      · next hchecks =>
          obtain ⟨hsequence, hfollows, hdigest⟩ := hchecks
          simp only [StoredEvent.follows, Bool.and_eq_true, Json.same_int,
            Json.same_str, Json.same_ofOption] at hfollows
          obtain ⟨⟨⟨⟨hnumber, hrun⟩, hdefinition⟩, hprevious⟩, hsource⟩ := hfollows
          refine ⟨⟨?_, loaded, event, hvalue, hread, hdigest, ?_, hrun, hdefinition,
            hprevious, hsource⟩, ?_⟩
          · simpa [walkOf] using hsequence
          · simpa [walkOf] using hnumber
          · cases h
            simp [walkOf, StoredEventRow.event, hvalue, hread]
      · cases h

theorem walk_of_foldlM {acc : Walk Φ}
    (h : rows.foldlM (LoopTables.verifyRow value semanticDigest cp)
      (1, none, .str "new", none) = .ok acc) :
    acc = walkOf rows ∧
      ForallSplit (Continues value semanticDigest cp.runId cp.definitionDigest) rows := by
  refine foldlM_history_induction (fun rows acc => acc = walkOf rows ∧
    ForallSplit (Continues value semanticDigest cp.runId cp.definitionDigest) rows)
    ⟨rfl, forallSplit_nil⟩ ?_ rows acc h
  rintro before acc row acc' - ⟨rfl, hbefore⟩ hrow
  obtain ⟨hcontinues, rfl⟩ := verifyRow_eq_ok hrow
  exact ⟨rfl, forallSplit_concat.mpr ⟨hbefore, hcontinues⟩⟩

/-- What `_verify` establishes of the rows and of the record. -/
structure Verified (value : Φ → ℚ) (semanticDigest : Json Φ → String)
    (rows : List (StoredEventRow Φ)) (cp : LoopCheckpoint) : Prop where
  length : rows.length = cp.sequence
  chain : ForallSplit
    (Continues value semanticDigest cp.runId cp.definitionDigest) rows
  empty : rows = [] → cp.headDigest = none ∧ cp.state = .new
  head : ∀ before row, rows = before ++ [row] → ∃ event, row.event = some event ∧
    LoopTables.verifyHead value cp (some row.eventDigest) event = true

theorem verified_of_verify (h : LoopTables.verify value semanticDigest rows cp = .ok ()) :
    Verified value semanticDigest rows cp := by
  rw [LoopTables.verify] at h
  split at h
  · cases h
  next hlength =>
  obtain ⟨acc, hwalk, h⟩ := bind_eq_ok.mp h
  obtain ⟨rfl, hchain⟩ := walk_of_foldlM hwalk
  refine ⟨not_not.mp hlength, hchain, ?_, ?_⟩
  · rintro rfl
    simp only [walkOf, List.getLast?_nil, Option.bind_none] at h
    split at h
    · cases h
    · next hempty => simpa [not_or] using hempty
  · rintro before row rfl
    obtain ⟨-, loaded, event, hvalue, hread, -⟩ := hchain before row [] rfl
    have hevent : row.event = some event := by
      rw [StoredEventRow.event, hvalue]
      exact hread
    simp only [walkOf, List.getLast?_append, List.getLast?_singleton,
      Option.some_or, Option.bind_some, hevent, Option.map_some] at h
    split at h
    · next hhead => exact ⟨event, hevent, hhead⟩
    · cases h

/-! ## What is determined -/

theorem numbers_of_same_record {v : Json Φ} {usage : LoopUsage}
    (h : v.same value usage.record = true) :
    ∃ a b c d e, v = .obj [("attempts", a), ("costMicrousd", b), ("iterations", c),
        ("storageBytes", d), ("tokens", e)] ∧ a.number value = some (usage.attempts : ℚ) ∧
      b.number value = some (usage.costMicrousd : ℚ) ∧
      c.number value = some (usage.iterations : ℚ) ∧
      d.number value = some (usage.storageBytes : ℚ) ∧
      e.number value = some (usage.tokens : ℚ) := by
  rw [LoopUsage.record, Json.same_obj] at h
  obtain ⟨members, rfl, h⟩ := h
  obtain ⟨a, rest, rfl, ha, h⟩ := Json.sameMembers_cons.mp h
  obtain ⟨b, rest, rfl, hb, h⟩ := Json.sameMembers_cons.mp h
  obtain ⟨c, rest, rfl, hc, h⟩ := Json.sameMembers_cons.mp h
  obtain ⟨d, rest, rfl, hd, h⟩ := Json.sameMembers_cons.mp h
  obtain ⟨e, rest, rfl, he, h⟩ := Json.sameMembers_cons.mp h
  rw [Json.sameMembers_nil.mp h]
  rw [Json.same_int] at ha hb hc hd he
  exact ⟨a, b, c, d, e, rfl, ha, hb, hc, hd, he⟩

theorem usage_of_same_record {v : Json Φ} {a b : LoopUsage}
    (ha : v.same value a.record = true) (hb : v.same value b.record = true) :
    a = b := by
  obtain ⟨a1, a2, a3, a4, a5, rfl, h1, h2, h3, h4, h5⟩ := numbers_of_same_record ha
  obtain ⟨b1, b2, b3, b4, b5, heq, h1', h2', h3', h4', h5'⟩ :=
    numbers_of_same_record hb
  simp only [Json.obj.injEq, List.cons.injEq, Prod.mk.injEq, true_and, and_true] at heq
  obtain ⟨rfl, rfl, rfl, rfl, rfl⟩ := heq
  rw [h1] at h1'
  rw [h2] at h2'
  rw [h3] at h3'
  rw [h4] at h4'
  rw [h5] at h5'
  simp only [Option.some.injEq, Nat.cast_inj] at h1' h2' h3' h4' h5'
  cases a
  cases b
  simp_all

theorem fields_of_verifyHead {event : StoredEvent Φ} {previous : Option String}
    (h : LoopTables.verifyHead value cp previous event = true)
    (h' : LoopTables.verifyHead value dp previous event = true) :
    cp.state = dp.state ∧ cp.usage = dp.usage ∧
      cp.lastProgressDigest = dp.lastProgressDigest ∧
      cp.stagnantIterations = dp.stagnantIterations ∧ cp.headDigest = dp.headDigest ∧
      (cp.state.isTerminal = true → cp.terminalReason = dp.terminalReason) := by
  simp only [LoopTables.verifyHead, Bool.and_eq_true, decide_eq_true_eq,
    Json.same_str, Json.same_ofOption, Json.same_int, Bool.or_eq_true,
    Bool.not_eq_true'] at h h'
  obtain ⟨⟨⟨⟨⟨hhead, hstate⟩, husage⟩, hprogress⟩, hstagnant⟩, hreason⟩ := h
  obtain ⟨⟨⟨⟨⟨hhead', hstate'⟩, husage'⟩, hprogress'⟩, hstagnant'⟩, hreason'⟩ := h'
  have hsame : cp.state = dp.state := by
    rw [hstate] at hstate'
    exact LoopState.text_injective (Json.str.inj hstate')
  refine ⟨hsame, usage_of_same_record husage husage', ?_, ?_, ?_, ?_⟩
  · rw [hprogress] at hprogress'
    exact Json.ofOption_injective hprogress'
  · rw [hstagnant] at hstagnant'
    exact_mod_cast Option.some.inj hstagnant'
  · rw [hhead, hhead']
  · intro hterminal
    have hreason := hreason.resolve_left (by rw [hterminal]; exact Bool.noConfusion)
    have hreason' := hreason'.resolve_left
      (by rw [← hsame, hterminal]; exact Bool.noConfusion)
    rw [hreason] at hreason'
    exact Json.ofOption_injective hreason'

theorem verified_of_load {t : LoopTables Φ} {runId : String}
    (h : t.load value semanticDigest runId = .ok cp) :
    cp.runId = runId ∧ Verified value semanticDigest (t.events runId) cp := by
  rw [LoopTables.load] at h
  cases hrow : t.runs runId with
  | none =>
    rw [hrow] at h
    cases h
  | some row =>
    rw [hrow] at h
    obtain ⟨built, hbuilt, h⟩ := bind_eq_ok.mp h
    obtain ⟨_, hverify, h⟩ := bind_eq_ok.mp h
    cases h
    exact ⟨row.runId_of_checkpoint hbuilt, verified_of_verify hverify⟩

/-- **What a load determines.**  Two tables with the same events for a run load it
with the same record, up to the terminal reason of a state that is not terminal,
if there is an event.  Without one only the state, the sequence and the head are
those of a new run.  The events continue one another, from `new` on. -/
theorem load_determined {t u : LoopTables Φ} {runId : String}
    (ht : t.load value semanticDigest runId = .ok cp)
    (hu : u.load value semanticDigest runId = .ok dp)
    (hrows : t.events runId = u.events runId) :
    (t.events runId ≠ [] →
      { cp with terminalReason := none } = { dp with terminalReason := none } ∧
      (cp.state.isTerminal = true → cp.terminalReason = dp.terminalReason)) ∧
    (t.events runId = [] →
      cp.state = .new ∧ cp.sequence = 0 ∧ cp.headDigest = none) ∧
    ForallSplit (Continues value semanticDigest runId cp.definitionDigest)
      (t.events runId) := by
  obtain ⟨rfl, hcp⟩ := verified_of_load ht
  obtain ⟨hrun, hdp⟩ := verified_of_load hu
  rw [← hrows] at hdp
  refine ⟨?_, ?_, hcp.chain⟩
  · intro hevents
    obtain ⟨before, row, hsplit⟩ := (List.eq_nil_or_concat' _).resolve_left hevents
    obtain ⟨event, hevent, hhead⟩ := hcp.head before row hsplit
    obtain ⟨event', hevent', hhead'⟩ := hdp.head before row hsplit
    obtain rfl : event = event' := Option.some.inj (hevent.symm.trans hevent')
    obtain ⟨hstate, husage, hprogress, hstagnant, hdigest, hreason⟩ :=
      fields_of_verifyHead hhead hhead'
    refine ⟨?_, hreason⟩
    have hdefinition : cp.definitionDigest = dp.definitionDigest := by
      obtain ⟨-, loaded, event, hvalue, hread, -, -, -, hcpd, -⟩ :=
        hcp.chain before row [] hsplit
      obtain ⟨-, loaded', event', hvalue', hread', -, -, -, hdpd, -⟩ :=
        hdp.chain before row [] hsplit
      obtain rfl : loaded = loaded' := Option.some.inj (hvalue.symm.trans hvalue')
      obtain rfl : event = event' := Option.some.inj (hread.symm.trans hread')
      exact Json.str.inj (hcpd.symm.trans hdpd)
    have hsequence : cp.sequence = dp.sequence := hcp.length.symm.trans hdp.length
    rw [hrun.symm, hdefinition, hstate, hsequence, husage, hprogress, hstagnant, hdigest]
  · intro hevents
    obtain ⟨hhead, hstate⟩ := hcp.empty hevents
    refine ⟨hstate, ?_, hhead⟩
    rw [← hcp.length, hevents]
    rfl

end Walks

/-! ## The rows that the journal writes -/

section Journal

variable (value : Φ → ℚ) (semanticDigest : Json Φ → String)

/-- The event as `transition` writes it. -/
def LoopEvent.record (event : LoopEvent) : Json Φ :=
  .obj
    [("definitionDigest", .str event.definitionDigest),
      ("evidenceDigest", .ofOption event.evidenceDigest),
      ("from", .str event.source.text),
      ("previousEventDigest", .ofOption event.previousEventDigest),
      ("progressDigest", .ofOption event.progressDigest),
      ("reasonCode", .str event.reasonCode), ("runId", .str event.runId),
      ("sequence", .int event.sequence),
      ("stagnantIterations", .int event.stagnantIterations),
      ("to", .str event.target.text), ("usage", event.usage.record)]

/-- The values of the event under its keys. -/
def LoopEvent.stored (event : LoopEvent) : StoredEvent Φ where
  definitionDigest := .str event.definitionDigest
  evidenceDigest := .ofOption event.evidenceDigest
  source := .str event.source.text
  previousEventDigest := .ofOption event.previousEventDigest
  progressDigest := .ofOption event.progressDigest
  reasonCode := .str event.reasonCode
  runId := .str event.runId
  sequence := .int event.sequence
  stagnantIterations := .int event.stagnantIterations
  target := .str event.target.text
  usage := event.usage.record

def LoopEventRow.stored (row : LoopEventRow) : StoredEventRow Φ where
  sequence := row.sequence
  value := some row.event.record
  eventDigest := row.eventDigest

def LoopCheckpoint.columns (cp : LoopCheckpoint) : LoopRunColumns where
  definitionDigest := cp.definitionDigest
  state := cp.state.text
  sequence := cp.sequence
  attempts := cp.usage.attempts
  iterations := cp.usage.iterations
  tokens := cp.usage.tokens
  costMicrousd := cp.usage.costMicrousd
  storageBytes := cp.usage.storageBytes
  lastProgressDigest := cp.lastProgressDigest
  stagnantIterations := cp.stagnantIterations
  terminalReason := cp.terminalReason
  headDigest := cp.headDigest

def SQLiteLoopJournal.tables (j : SQLiteLoopJournal) : LoopTables Φ where
  runs := fun runId => (j.runs.lookup runId).map (·.checkpoint.columns)
  events := fun runId => (j.eventRows runId).map LoopEventRow.stored

@[simp] theorem read_record (event : LoopEvent) :
    StoredEvent.read (event.record : Json Φ) = some event.stored := by
  simp [StoredEvent.read, LoopEvent.record, eventKeys, LoopEvent.stored]

@[simp] theorem nonNegative_natCast (name : String) (n : ℕ) :
    nonNegative name n = .ok n := by
  simp [nonNegative]

theorem columns_checkpoint (row : LoopRunRow) :
    row.checkpoint.columns.checkpoint row.checkpoint.runId =
      SQLiteLoopJournal.checkpoint row := by
  obtain ⟨cp, cancelled⟩ := row
  simp only [LoopRunColumns.checkpoint, LoopCheckpoint.columns, nonNegative_natCast,
    LoopState.ofText_text, SQLiteLoopJournal.checkpoint]
  cases hrun : matchesLoopId cp.runId with
  | false => simp [LoopCheckpoint.invalid, hrun, require, bind, Except.bind]
  | true =>
    cases hdefinition : matchesDigest cp.definitionDigest with
    | false =>
      simp [LoopCheckpoint.invalid, hrun, hdefinition, require, bind, Except.bind]
    | true => rfl

variable {value} in
theorem same_record {a b : LoopUsage} :
    (a.record : Json Φ).same value b.record = true ↔ a = b := by
  have hself : (a.record : Json Φ).same value a.record = true := by
    simp [LoopUsage.record, Json.sameMembers_cons]
  constructor
  · intro h
    exact usage_of_same_record hself h
  · rintro rfl
    exact hself

theorem ofOption_inj {s t : Option String} :
    (Json.ofOption s : Json Φ) = .ofOption t ↔ s = t :=
  ⟨Json.ofOption_injective, congrArg _⟩

theorem text_inj {a b : LoopState} : a.text = b.text ↔ a = b :=
  ⟨LoopState.text_injective, congrArg _⟩

/-- What the loop over the journal's rows carries, as the loop over the loaded
values carries it. -/
def embedWalk (acc : ℕ × Option String × LoopState × Option LoopEvent) : Walk Φ :=
  (acc.1, acc.2.1, .str acc.2.2.1.text, acc.2.2.2.map LoopEvent.stored)

theorem verifyRow_stored (cp : LoopCheckpoint)
    (acc : ℕ × Option String × LoopState × Option LoopEvent) (row : LoopEventRow) :
    LoopTables.verifyRow value semanticDigest cp (embedWalk acc) row.stored =
      (SQLiteLoopJournal.verifyRow (fun event => semanticDigest event.record) cp acc
        row).map embedWalk := by
  obtain ⟨sequence, previous, state, last⟩ := acc
  have hfollows : ((row.sequence : ℤ) = (sequence : ℤ) ∧
      (row.event.stored : StoredEvent Φ).follows value cp sequence previous (.str state.text) = true ∧
      semanticDigest row.event.record = row.eventDigest) ↔
    (row.sequence = sequence ∧ row.event.sequence = sequence ∧
      row.event.runId = cp.runId ∧
      row.event.definitionDigest = cp.definitionDigest ∧
      row.event.previousEventDigest = previous ∧ row.event.source = state ∧
      semanticDigest row.event.record = row.eventDigest) := by
    simp only [StoredEvent.follows, LoopEvent.stored, Bool.and_eq_true, Json.same_int,
      Json.same_str, Json.same_ofOption, Json.number_int, Json.str.injEq, ofOption_inj,
      text_inj, Option.some.injEq, Int.cast_natCast, Nat.cast_inj,
      and_assoc]
  have hleft : LoopTables.verifyRow value semanticDigest cp
      (embedWalk (sequence, previous, state, last)) row.stored =
    if (row.sequence : ℤ) = (sequence : ℤ) ∧
        (row.event.stored : StoredEvent Φ).follows value cp sequence previous
          (.str state.text) = true ∧
        semanticDigest row.event.record = row.eventDigest then
      .ok (sequence + 1, some row.eventDigest, .str row.event.target.text,
        some row.event.stored)
    else
      .error (SQLiteLoopJournal.journalCorrupt "event chain verification failed") := by
    rw [LoopTables.verifyRow, LoopEventRow.stored]
    dsimp only
    rw [read_record]
    rfl
  rw [hleft, SQLiteLoopJournal.verifyRow]
  by_cases h : row.sequence = sequence ∧ row.event.sequence = sequence ∧
      row.event.runId = cp.runId ∧
      row.event.definitionDigest = cp.definitionDigest ∧
      row.event.previousEventDigest = previous ∧ row.event.source = state ∧
      semanticDigest row.event.record = row.eventDigest
  · rw [if_pos (hfollows.mpr h), if_pos h]
    rfl
  · rw [if_neg (mt hfollows.mp h), if_neg h]
    rfl

theorem foldlM_verifyRow_stored (cp : LoopCheckpoint) (rows : List LoopEventRow)
    (acc : ℕ × Option String × LoopState × Option LoopEvent) :
    (rows.map LoopEventRow.stored).foldlM
        (LoopTables.verifyRow value semanticDigest cp) (embedWalk acc) =
      (rows.foldlM (SQLiteLoopJournal.verifyRow
        (fun event => semanticDigest event.record) cp) acc).map embedWalk := by
  induction rows generalizing acc with
  | nil => rfl
  | cons row rows ih =>
    rw [List.map_cons, List.foldlM_cons, List.foldlM_cons, verifyRow_stored]
    cases SQLiteLoopJournal.verifyRow (fun event => semanticDigest event.record) cp
        acc row with
    | error err => rfl
    | ok acc' => exact ih acc'

theorem verifyHead_stored (cp : LoopCheckpoint) (previous : Option String)
    (event : LoopEvent) :
    LoopTables.verifyHead value cp previous event.stored =
      SQLiteLoopJournal.verifyHead cp previous event := by
  have hreason : (Json.str event.reasonCode : Json Φ) = .ofOption cp.terminalReason ↔
      cp.terminalReason = some event.reasonCode :=
    (ofOption_inj (s := some event.reasonCode)).trans eq_comm
  rw [Bool.eq_iff_iff]
  simp only [LoopTables.verifyHead, SQLiteLoopJournal.verifyHead, LoopEvent.stored,
    Bool.and_eq_true, decide_eq_true_eq, Json.same_str, Json.same_ofOption,
    Json.same_int, Json.number_int, Json.str.injEq, ofOption_inj, text_inj,
    same_record, Bool.or_eq_true, Option.some.injEq, Int.cast_inj, hreason,
    eq_comm (a := event.target)]

theorem verify_stored (cp : LoopCheckpoint) (rows : List LoopEventRow) :
    LoopTables.verify value semanticDigest (rows.map LoopEventRow.stored) cp =
      SQLiteLoopJournal.verify (fun event => semanticDigest event.record) rows cp := by
  have hwalk := foldlM_verifyRow_stored value semanticDigest cp rows
    (1, none, .new, none)
  rw [LoopTables.verify, SQLiteLoopJournal.verify, List.length_map]
  split
  · rfl
  have hstart : (1, none, .str "new", none) =
      (embedWalk (1, none, .new, none) : Walk Φ) := rfl
  rw [hstart, hwalk]
  cases rows.foldlM (SQLiteLoopJournal.verifyRow
      (fun event => semanticDigest event.record) cp) (1, none, .new, none) with
  | error err => rfl
  | ok acc =>
    obtain ⟨sequence, previous, state, last⟩ := acc
    cases last with
    | none => rfl
    | some event =>
      show (if LoopTables.verifyHead value cp previous event.stored = true
        then _ else _) = _
      rw [verifyHead_stored]

/-- **The journal is a case of the tables.**  On the rows that the journal writes
both loads answer alike. -/
theorem load_tables (j : SQLiteLoopJournal) {runId : String}
    (hrun : ∀ row, j.runs.lookup runId = some row → row.checkpoint.runId = runId) :
    (j.tables : LoopTables Φ).load value semanticDigest runId =
      j.load (fun event => semanticDigest event.record) runId := by
  rw [LoopTables.load, SQLiteLoopJournal.load, SQLiteLoopJournal.read]
  cases hrow : j.runs.lookup runId with
  | none => simp only [SQLiteLoopJournal.tables, hrow, Option.map_none]
  | some row =>
    simp only [SQLiteLoopJournal.tables, hrow, Option.map_some]
    have hcolumns := columns_checkpoint row
    rw [hrun row hrow] at hcolumns
    rw [hcolumns]
    simp only [verify_stored]

end Journal

end Stored

/-! ## Tables that load -/

def sampleColumns (state : LoopState) (sequence attempts : ℤ)
    (terminalReason headDigest : Option String) : LoopRunColumns where
  definitionDigest := sampleDefinitionDigest sampleDefinition
  state := state.text
  sequence := sequence
  attempts := attempts
  iterations := 0
  tokens := 0
  costMicrousd := 0
  storageBytes := 0
  lastProgressDigest := none
  stagnantIterations := 0
  terminalReason := terminalReason
  headDigest := headDigest

def sampleEvent (sequence : ℕ) (source target : LoopState) (attempts : ℕ)
    (previous : Option String) : LoopEvent where
  runId := "run-1"
  sequence := sequence
  source := source
  target := target
  definitionDigest := sampleDefinitionDigest sampleDefinition
  reasonCode := "ECO_LOOP_READY"
  evidenceDigest := none
  previousEventDigest := previous
  usage := { attempts := attempts }
  progressDigest := none
  stagnantIterations := 0

/-- The event under a key of the table. -/
def sampleRow (semanticDigest : Json ℚ → String) (event : LoopEvent) :
    StoredEventRow ℚ where
  sequence := event.sequence
  value := some event.record
  eventDigest := semanticDigest event.record

def sampleTables (columns : LoopRunColumns) (rows : List (StoredEventRow ℚ)) :
    LoopTables ℚ where
  runs := fun _ => some columns
  events := fun _ => rows

/-- Digests of the first event and of a later one. -/
def sampleJsonDigest : Json ℚ → String
  | .obj members =>
    match members.find? (·.1 = "sequence") with
    | some (_, .int 1) =>
      "d45630e3f56b0d9a6d91b65acf7eee484b00917b421945978e7c48ef56b24c2e"
    | _ => "92259495b20bc806c1e2ac743c6cbe9bdfcab2d2c5dba84302ca1aa332f85f1a"
  | _ => ""

def firstDigest : Option String :=
  some "d45630e3f56b0d9a6d91b65acf7eee484b00917b421945978e7c48ef56b24c2e"

def secondDigest : Option String :=
  some "92259495b20bc806c1e2ac743c6cbe9bdfcab2d2c5dba84302ca1aa332f85f1a"

def readyTables (terminalReason : Option String) : LoopTables ℚ :=
  sampleTables (sampleColumns .ready 1 1 terminalReason firstDigest)
    [sampleRow sampleJsonDigest (sampleEvent 1 .new .ready 1 none)]

def readyCheckpoint (terminalReason : Option String) : LoopCheckpoint where
  runId := "run-1"
  definitionDigest := sampleDefinitionDigest sampleDefinition
  state := .ready
  sequence := 1
  usage := { attempts := 1 }
  terminalReason := terminalReason
  headDigest := firstDigest

theorem readyTables_load_none : (readyTables none).load id sampleJsonDigest "run-1" =
    .ok (readyCheckpoint none) := by
  rfl

theorem readyTables_load_some :
    (readyTables (some "ECO_STALE")).load id sampleJsonDigest "run-1" =
      .ok (readyCheckpoint (some "ECO_STALE")) := by
  rfl

theorem load_determined_ready :
    (readyTables none).load id sampleJsonDigest "run-1" = .ok (readyCheckpoint none) ∧
    (readyTables (some "ECO_STALE")).load id sampleJsonDigest "run-1" =
      .ok (readyCheckpoint (some "ECO_STALE")) ∧
    ForallSplit (Continues id sampleJsonDigest "run-1"
      (sampleDefinitionDigest sampleDefinition)) ((readyTables none).events "run-1") :=
  ⟨readyTables_load_none, readyTables_load_some,
    (load_determined readyTables_load_none readyTables_load_some rfl).2.2⟩

/-- A run without events whose columns count attempts. -/
def idleTables (attempts : ℤ) : LoopTables ℚ :=
  sampleTables (sampleColumns .new 0 attempts none none) []

/-- A run that succeeds at once and is made ready then, with fewer attempts. -/
def leapTables : LoopTables ℚ :=
  sampleTables (sampleColumns .ready 2 3 none secondDigest)
    [sampleRow sampleJsonDigest (sampleEvent 1 .new .succeeded 5 none),
      sampleRow sampleJsonDigest (sampleEvent 2 .succeeded .ready 3 firstDigest)]

theorem stale_tables_load :
    ((∃ cp dp, (idleTables 0).load id sampleJsonDigest "run-1" = .ok cp ∧
        (idleTables 5).load id sampleJsonDigest "run-1" = .ok dp ∧ cp.usage ≠ dp.usage) ∧
      (idleTables 0).events "run-1" = (idleTables 5).events "run-1") ∧
    ((readyTables none).load id sampleJsonDigest "run-1" = .ok (readyCheckpoint none) ∧
      (readyTables (some "ECO_STALE")).load id sampleJsonDigest "run-1" =
        .ok (readyCheckpoint (some "ECO_STALE")) ∧ (readyTables none).events "run-1" =
        (readyTables (some "ECO_STALE")).events "run-1" ∧
      readyCheckpoint none ≠ readyCheckpoint (some "ECO_STALE")) ∧
    (∃ cp, leapTables.load id sampleJsonDigest "run-1" = .ok cp) ∧
    transitionAllowed .new .succeeded = false ∧
    transitionAllowed .succeeded .ready = false ∧
    ¬ (sampleEvent 1 .new .succeeded 5 none).usage ≤
      (sampleEvent 2 .succeeded .ready 3 firstDigest).usage := by
  refine ⟨⟨⟨initialCheckpoint sampleDefinitionDigest "run-1" sampleDefinition,
      { initialCheckpoint sampleDefinitionDigest "run-1" sampleDefinition with
        usage := { attempts := 5 } }, ?_, ?_, ?_⟩, rfl⟩,
    ⟨readyTables_load_none, readyTables_load_some, rfl, ?_⟩,
    ⟨{ readyCheckpoint none with
        sequence := 2, usage := { attempts := 3 }, headDigest := secondDigest }, ?_⟩,
    rfl, rfl, ?_⟩
  · rfl
  · rfl
  · decide
  · decide
  · rfl
  · decide

end Ecosystem.Loops
