import Ecosystem.Lib.Simulation
import Ecosystem.Loops.Bounds

/-!
# The two loop journals agree

`Mirrors` is the simulation relation: the rows of the SQLite journal hold what the
in-memory journal holds, so that what is re-read on each call never fails.

The calls are those of `BoundedLoopEngine`.  `JournalCall.Meets` is what a call has to
meet for equal answers: `stop_reason` names a run that was created, and a run id has a
UTF-8 form.
-/

namespace Ecosystem.Loops

open Ecosystem.Lib

/-! ## Calls and answers -/

/-- The calls that look a run up by its id. -/
inductive RunCall
  | create | load | events | requestCancel | stopReason
deriving DecidableEq

inductive JournalCall
  | create (runId : String) (definition : LoopDefinition)
  | load (runId : String)
  | events (runId : String)
  | requestCancel (runId : String)
  | setKillSwitch (enabled : Bool)
  | stopReason (runId : String)
  | transition (req : TransitionRequest)
  /-- with a run id that holds half of a surrogate pair and is no `String` here -/
  | unencodable (call : RunCall)

inductive JournalReply
  | checkpoint (cp : LoopCheckpoint)
  | events (events : List LoopEvent)
  | done
  | reason (reason : Option String)
  | raised (err : LoopError)

def replyOf {α : Type} (reply : α → JournalReply) :
    Except LoopError α → JournalReply
  | .ok a => reply a
  | .error err => .raised err

def replyAndState {σ α : Type} (reply : α → JournalReply) (j : σ) :
    Except LoopError (α × σ) → JournalReply × σ
  | .ok (a, j') => (reply a, j')
  | .error err => (.raised err, j)

section Machines

variable (definitionDigest : LoopDefinition → String)
  (semanticDigest : LoopEvent → String)

def InMemoryLoopJournal.settle : TransitionAnswer → JournalReply
  | .settled cp => .checkpoint cp
  -- the in-memory journal settles every transition itself
  | .reload => .done

/-- What `LoopCheckpoint` says of such an id, before `create` looks it up. -/
def runIdInvalid : LoopError :=
  .contract "ECO_LOOP_CHECKPOINT_INVALID" "run id is invalid"

/-- The dictionaries have no such key, since `create` has refused it. -/
def InMemoryLoopJournal.execUnencodable (j : InMemoryLoopJournal) : RunCall → JournalReply
  | .create => .raised runIdInvalid
  | .load | .events | .requestCancel => .raised runUnknown
  | .stopReason => .reason (if j.killSwitch then some "ECO_LOOP_KILL_SWITCH" else none)

/-- `sqlite3` encodes every text that a statement binds. -/
def SQLiteLoopJournal.execUnencodable : RunCall → JournalReply
  | .create => .raised runIdInvalid
  | .load | .events | .requestCancel | .stopReason => .raised .unicodeEncode

def InMemoryLoopJournal.exec (j : InMemoryLoopJournal) :
    JournalCall → JournalReply × InMemoryLoopJournal
  | .create runId definition =>
    replyAndState .checkpoint j (j.create definitionDigest runId definition)
  | .load runId => (replyOf .checkpoint (j.load runId), j)
  | .events runId => (replyOf .events (j.eventsOf runId), j)
  | .requestCancel runId =>
    replyAndState (fun _ : Unit => .done) j
      ((j.requestCancel runId).map ((), ·))
  | .setKillSwitch enabled => (.done, j.setKillSwitch enabled)
  | .stopReason runId => (replyOf .reason (j.stopReason runId), j)
  | .transition req =>
    replyAndState InMemoryLoopJournal.settle j (j.transition semanticDigest req)
  | .unencodable call => (j.execUnencodable call, j)

/-- The answer of a whole `transition`: a committed one is read back. -/
def SQLiteLoopJournal.settle (j : SQLiteLoopJournal) (runId : String) :
    TransitionAnswer → JournalReply
  | .settled cp => .checkpoint cp
  | .reload => replyOf .checkpoint (j.load semanticDigest runId)

def SQLiteLoopJournal.exec (j : SQLiteLoopJournal) :
    JournalCall → JournalReply × SQLiteLoopJournal
  | .create runId definition =>
    replyAndState .checkpoint j
      (j.create definitionDigest semanticDigest runId definition)
  | .load runId => (replyOf .checkpoint (j.load semanticDigest runId), j)
  | .events runId => (replyOf .events (j.eventsOf semanticDigest runId), j)
  | .requestCancel runId =>
    replyAndState (fun _ : Unit => .done) j
      ((j.requestCancel runId).map ((), ·))
  | .setKillSwitch enabled => (.done, j.setKillSwitch enabled)
  | .stopReason runId => (replyOf .reason (j.stopReason runId), j)
  | .transition req =>
    match j.transition semanticDigest req with
    | .error err => (.raised err, j)
    | .ok (answer, j') =>
      (j'.settle semanticDigest req.expected.runId answer, j')
  | .unencodable call => (SQLiteLoopJournal.execUnencodable call, j)

end Machines

/-! ## The calls of the engine -/

def stopCodes : List String := ["ECO_LOOP_KILL_SWITCH", "ECO_LOOP_CANCELLED"]

def budgetCodes : List String :=
  ["ECO_LOOP_DEADLINE_EXHAUSTED", "ECO_LOOP_ATTEMPTS_EXHAUSTED",
    "ECO_LOOP_ITERATIONS_EXHAUSTED", "ECO_LOOP_TOKENS_EXHAUSTED",
    "ECO_LOOP_COST_EXHAUSTED", "ECO_LOOP_STORAGE_EXHAUSTED"]

def failureCodes : List String :=
  ["ECO_LOOP_RETRY_DENIED", "ECO_LOOP_OUTCOME_INVALID", "ECO_LOOP_EXECUTOR_FAILED",
    "ECO_LOOP_GATE_INVALID", "ECO_LOOP_GATE_FAILED", "ECO_LOOP_RECOVERY_AMBIGUOUS"]

/-- The states in which `_terminal` closes a run, each with its reasons. -/
inductive Closes : LoopState → String → Prop
  | stopped {reason : String} (h : reason ∈ stopCodes) : Closes .cancelled reason
  | exhausted {reason : String} (h : reason ∈ budgetCodes) : Closes .exhausted reason
  | failed {reason : String} (h : reason ∈ failureCodes) : Closes .failed reason
  | fatal (attempt : AttemptResult) (h : attempt.outcome = .fatalError) :
      Closes .failed attempt.reasonCode

/-- The states that follow the gate's outcome, each with its reason. -/
inductive Rules (outcome : GateOutcome) : LoopState → String → Prop
  | pass (h : outcome.outcome = .pass) : Rules outcome .succeeded outcome.reasonCode
  | denied (h : outcome.outcome = .fail) :
      Rules outcome .failed "ECO_LOOP_RETRY_DENIED"
  | noProgress (h : outcome.outcome = .fail) :
      Rules outcome .exhausted "ECO_LOOP_NO_PROGRESS"
  | retry (h : outcome.outcome = .fail) : Rules outcome .retryWait outcome.reasonCode

/-- The transitions that `BoundedLoopEngine` asks for. -/
inductive EngineRequest : TransitionRequest → Prop
  | terminal (cp : LoopCheckpoint) {state : LoopState} {reason : String}
      (h : Closes state reason) : EngineRequest (terminalRequest cp state reason)
  | ready (cp : LoopCheckpoint) : EngineRequest (readyRequest cp)
  | reserve (budget : LoopBudget) (cp : LoopCheckpoint) :
      EngineRequest (reserveRequest budget cp)
  | retry (cp : LoopCheckpoint) (attempt : AttemptResult)
      (h : attempt.outcome = .retryableError) : EngineRequest (retryRequest cp attempt)
  | gating (cp : LoopCheckpoint) (attempt : AttemptResult)
      (h : attempt.outcome = .candidate) : EngineRequest (gatingRequest cp attempt)
  | verdict (cp : LoopCheckpoint) {outcome : GateOutcome} {target : LoopState}
      {reason : String} (h : Rules outcome target reason) :
      EngineRequest (verdictRequest cp outcome target reason)

/-- A transition that is about to be asked for is the engine's, and the records accept
its reason. -/
def Pc.Asks (pc : Pc) : Prop :=
  ∀ req k, pc = .transition req k → EngineRequest req ∧ matchesCode req.reasonCode = true

/-- The usage counters that a transition writes are below `2 ^ 63`. -/
structure TransitionRequest.Metered (req : TransitionRequest) : Prop where
  attempts : req.candidateUsage.attempts < 2 ^ 63
  iterations : req.candidateUsage.iterations < 2 ^ 63
  tokens : req.candidateUsage.tokens < 2 ^ 63
  costMicrousd : req.candidateUsage.costMicrousd < 2 ^ 63
  storageBytes : req.candidateUsage.storageBytes < 2 ^ 63

/-- So are the counters of the journal and of the gate. -/
structure TransitionRequest.Numbered (req : TransitionRequest) : Prop where
  sequence : req.expected.sequence + 1 < 2 ^ 63
  stagnantIterations :
    req.stagnantIterations.getD req.expected.stagnantIterations < 2 ^ 63

def JournalCall.FromEngine : JournalCall → Prop
  | .transition req => EngineRequest req ∧ req.Metered
  | _ => True

/-- What the call has to meet in front of it for the journals to answer alike. -/
def JournalCall.Meets (m : InMemoryLoopJournal) : JournalCall → Prop
  | .stopReason runId => runId ∈ m.checkpoints
  | .unencodable call => call = .create
  -- a transition that nothing refuses has to write integers that SQLite binds
  | .transition req =>
    m.checkpoints.lookup req.expected.runId = some req.expected →
      req.refused = none → req.Numbered
  | _ => True

/-! ### The engine asks for nothing else -/

section Engine

variable {cp : LoopCheckpoint} {reason : String}

theorem ownCodes_safe (h : reason ∈ stopCodes ++ budgetCodes ++ failureCodes) :
    matchesCode reason = true := by
  have hall : ∀ code ∈ stopCodes ++ budgetCodes ++ failureCodes,
      matchesCode code = true := by
    rw [← List.all_eq_true]
    decide +kernel
  exact hall reason h

theorem Closes.safe {state : LoopState} (h : Closes state reason) :
    matchesCode reason = true := by
  cases h with
  | stopped h => exact ownCodes_safe (by simp [h])
  | exhausted h => exact ownCodes_safe (by simp [h])
  | failed h => exact ownCodes_safe (by simp [h])
  | fatal attempt _ => exact attempt.code_ok

theorem Rules.safe {outcome : GateOutcome} {target : LoopState}
    (h : Rules outcome target reason) : matchesCode reason = true := by
  cases h with
  | pass _ | retry _ => exact outcome.code_ok
  | denied _ | noProgress _ => decide +kernel

/-- The reason of whatever the engine asks for is one that the records accept. -/
theorem EngineRequest.safe {req : TransitionRequest} (h : EngineRequest req) :
    matchesCode req.reasonCode = true := by
  cases h with
  | terminal cp h => exact h.safe
  | verdict cp h => exact h.safe
  | retry cp attempt h => exact attempt.code_ok
  | ready cp =>
    show matchesCode "ECO_LOOP_READY" = true
    decide +kernel
  | reserve budget cp =>
    show matchesCode "ECO_LOOP_ATTEMPT_RESERVED" = true
    decide +kernel
  | gating cp attempt h =>
    show matchesCode "ECO_LOOP_GATE_STARTED" = true
    decide +kernel

theorem asks_request {req : TransitionRequest} {k : Then} (h : EngineRequest req) :
    (Pc.transition req k).Asks := by
  rintro req' k' heq
  cases heq
  exact ⟨h, h.safe⟩

theorem asks_terminal {state : LoopState} {k : Then} (h : Closes state reason) :
    (Pc.transition (terminalRequest cp state reason) k).Asks :=
  asks_request (.terminal cp h)

theorem asks_resume (k : Then) (cp : LoopCheckpoint) : (resume k cp).Asks := by
  rintro req k' h
  cases k with
  | loop =>
    simp only [resume, loopHead, raised] at h
    split at h
    · cases h
    split at h
    · cases h
    cases h
  | finish | execute | gate attempt => cases h

theorem asks_afterStop {k : Then} {answer : Except LoopError (Option String)} {goOn : Pc}
    (hreason : ∀ reason, answer = .ok (some reason) → reason ∈ stopCodes)
    (hgoOn : goOn.Asks) : (afterStop cp k answer goOn).Asks := by
  cases answer with
  | error err => exact fun _ _ h => nomatch h
  | ok reason =>
    cases reason with
    | none => exact hgoOn
    | some reason => exact asks_terminal (.stopped (hreason reason rfl))

theorem asks_afterClock {answer : ClockAnswer} {goOn : ℤ → Pc}
    (hgoOn : ∀ now, (goOn now).Asks) : (afterClock answer goOn).Asks := by
  cases answer with
  | instant now => exact hgoOn now
  | naive | raises => exact fun _ _ h => nomatch h

theorem asks_beforeDeadline {budget : LoopBudget}
    {goOn : Pc} {now : ℤ} (hgoOn : goOn.Asks) :
    (beforeDeadline budget cp goOn now).Asks := by
  unfold beforeDeadline
  split
  · exact asks_terminal (.exhausted (by simp [budgetCodes]))
  · exact hgoOn

theorem asks_budgetDecision (budget : LoopBudget) (cp : LoopCheckpoint)
    (now : ℤ) : (budgetDecision budget cp now).Asks := by
  unfold budgetDecision
  split
  · exact asks_terminal (.exhausted (by simp [budgetCodes]))
  split
  · exact asks_terminal (.exhausted (by simp [budgetCodes]))
  split
  · exact asks_terminal (.exhausted (by simp [budgetCodes]))
  split
  · exact asks_terminal (.exhausted (by simp [budgetCodes]))
  split
  · exact asks_terminal (.exhausted (by simp [budgetCodes]))
  · split
    · exact asks_terminal (.exhausted (by simp [budgetCodes]))
    · exact asks_request (.reserve budget cp)

theorem asks_attemptDecision (retry : RetryPolicy) (cp : LoopCheckpoint)
    (attempt : AttemptResult) : (attemptDecision retry cp attempt).Asks := by
  unfold attemptDecision
  cases houtcome : attempt.outcome with
  | retryableError =>
    dsimp only
    split
    · exact asks_terminal (.failed (by simp [failureCodes]))
    · exact asks_request (.retry cp attempt houtcome)
  | fatalError => exact asks_terminal (.fatal attempt houtcome)
  | candidate => exact asks_request (.gating cp attempt houtcome)

theorem asks_verdict {outcome : GateOutcome} {target : LoopState} {k : Then}
    (h : Rules outcome target reason) :
    (Pc.transition (verdictRequest cp outcome target reason) k).Asks :=
  asks_request (.verdict cp h)

theorem asks_gateDecision (retry : RetryPolicy) (cp : LoopCheckpoint)
    (outcome : GateOutcome) : (gateDecision retry cp outcome).Asks := by
  unfold gateDecision
  cases houtcome : outcome.outcome with
  | pass => exact asks_verdict (.pass houtcome)
  | fail =>
    simp only [reduceCtorEq, if_false]
    split
    · exact asks_verdict (.denied houtcome)
    · split
      · exact asks_verdict (.noProgress houtcome)
      · exact asks_verdict (.retry houtcome)

variable {σ : Type} {ops : JournalOps σ}
  {definitionDigest : LoopDefinition → String}

/-- **The engine's transitions.**  Over a journal with the two stop reasons, whatever
the engine asks for next is an `EngineRequest`. -/
theorem asks_advancePc (hstop : ∀ j r reason, ops.stopReason j r = .ok (some reason) →
      reason ∈ stopCodes)
    (definition : LoopDefinition) (journal : σ) (en : Engine)
    (answers : Surroundings) :
    (advancePc ops definitionDigest definition journal en answers).1.Asks := by
  unfold advancePc
  cases en.pc with
  | idle | done result => exact fun _ _ h => nomatch h
  | create k =>
    cases ops.create journal en.runId definition with
    | error err => exact fun _ _ h => nomatch h
    | ok answer =>
      simp only [afterCreate]
      split
      · exact fun _ _ h => nomatch h
      · exact asks_resume k answer.1
  | startStop cp k =>
    exact asks_afterStop (hstop journal en.runId) (asks_request (.ready cp))
  | budgetStop cp =>
    exact asks_afterStop (hstop journal cp.runId) fun _ _ h => nomatch h
  | budgetClock cp => exact asks_afterClock (asks_budgetDecision _ cp)
  | transition req k =>
    dsimp only
    cases ops.transition journal req with
    | error err => exact fun _ _ h => nomatch h
    | ok answer =>
      obtain ⟨answer, journal'⟩ := answer
      cases answer with
      | settled cp => exact asks_resume k cp
      | reload => exact fun _ _ h => nomatch h
  | reload req k =>
    dsimp only
    cases ops.load journal req.expected.runId with
    | error err => exact fun _ _ h => nomatch h
    | ok cp => exact asks_resume k cp
  | execute cp =>
    cases answers.executor with
    | contractError | exception | notAttemptResult =>
      exact asks_terminal (.failed (by simp [failureCodes]))
    | result attempt => exact fun _ _ h => nomatch h
  | attemptStop cp attempt | gateStop cp outcome =>
    exact asks_afterStop (hstop journal en.runId) fun _ _ h => nomatch h
  | attemptClock cp attempt =>
    exact asks_afterClock fun _ =>
      asks_beforeDeadline (asks_attemptDecision _ cp attempt)
  | gate cp attempt =>
    cases answers.gate with
    | contractError | exception | notGateOutcome =>
      exact asks_terminal (.failed (by simp [failureCodes]))
    | outcome outcome => exact fun _ _ h => nomatch h
  | gateClock cp outcome =>
    exact asks_afterClock fun _ =>
      asks_beforeDeadline (asks_gateDecision _ cp outcome)
  | recoverLoad =>
    cases ops.load journal en.runId with
    | error err => exact fun _ _ h => nomatch h
    | ok cp =>
      simp only [recoverDecision]
      split
      · exact fun _ _ h => nomatch h
      · split
        · exact fun _ _ h => nomatch h
        · split
          · exact fun _ _ h => nomatch h
          · exact asks_terminal (.failed (by simp [failureCodes]))

theorem stopReason_own_inMemory {j : InMemoryLoopJournal} {r reason : String}
    (h : j.stopReason r = .ok (some reason)) : reason ∈ stopCodes := by
  unfold InMemoryLoopJournal.stopReason at h
  split at h
  · cases h
    simp [stopCodes]
  · split at h
    · cases h
      simp [stopCodes]
    · cases h

theorem stopReason_own_sqlite {j : SQLiteLoopJournal} {r reason : String}
    (h : j.stopReason r = .ok (some reason)) : reason ∈ stopCodes := by
  unfold SQLiteLoopJournal.stopReason at h
  split at h
  · cases h
  split at h
  · cases h
    simp [stopCodes]
  · split at h
    · cases h
      simp [stopCodes]
    · cases h

theorem asks_after {ι : Type} [DecidableEq ι] {definitions : ι → LoopDefinition}
    {semanticDigest : LoopEvent → String}
    (hstop : ∀ j r reason, ops.stopReason j r = .ok (some reason) →
      reason ∈ stopCodes)
    (actions : List (LoopAction ι)) {sys : LoopSystem σ ι}
    (hsys : ∀ e, (sys.engines e).pc.Asks) (e : ι) :
    ((sys.after ops definitionDigest definitions semanticDigest
      actions).engines e).pc.Asks := by
  induction actions generalizing sys with
  | nil => exact hsys e
  | cons action actions ih =>
    refine ih fun e' => ?_
    have hupdate : ∀ (x : ι) (en : Engine), en.pc.Asks →
        (Function.update sys.engines x en e').pc.Asks := by
      intro x en hen
      rw [Function.update_apply]
      split
      · exact hen
      · exact hsys e'
    have henter : ∀ (x : ι) (r : String) (pc : Pc), pc.Asks →
        ((sys.enter x r pc).engines e').pc.Asks := by
      intro x r pc hpc
      rw [LoopSystem.enter]
      split
      · exact hupdate x _ hpc
      · exact hsys e'
    cases action with
    | callRun x r independent =>
      refine henter x r _ ?_
      rw [runEntry]
      split
      · exact fun _ _ h => nomatch h
      · split
        · exact fun _ _ h => nomatch h
        · split
          · exact fun _ _ h => nomatch h
          · exact fun _ _ h => nomatch h
    | callStart x r | callRecover x r => exact henter x r _ fun _ _ h => nomatch h
    | advance x answers =>
      exact hupdate x _ (asks_advancePc hstop _ _ _ answers)
    | crash x => exact hupdate x _ fun _ _ h => nomatch h
    | requestCancel r =>
      simp only [LoopSystem.step]
      cases ops.requestCancel sys.journal r with
      | ok journal' | error err => exact hsys e'
    | setKillSwitch enabled => exact hsys e'

end Engine

/-! ## The simulation relation -/

structure LeadsTo (semanticDigest : LoopEvent → String)
    (rows : List LoopEventRow) (cp : LoopCheckpoint)
    (last : Option LoopEvent) : Prop where
  length : rows.length = cp.sequence
  chain : rows.foldlM (SQLiteLoopJournal.verifyRow semanticDigest cp)
    (1, none, .new, none) = .ok (cp.sequence + 1, cp.headDigest, cp.state, last)
  first : last = none → cp.headDigest = none ∧ cp.state = .new
  head : ∀ event, last = some event →
    SQLiteLoopJournal.verifyHead cp cp.headDigest event = true

/-- What the rows of one run have to do with its entries in memory. -/
structure MirrorsRun (semanticDigest : LoopEvent → String)
    (m : InMemoryLoopJournal) (s : SQLiteLoopJournal) (r : String) : Prop where
  checkpoint : m.checkpoints.lookup r = (s.runs.lookup r).map (·.checkpoint)
  events : m.events.lookup r = (s.runs.lookup r).map fun _ => (s.eventRows r).map (·.event)
  cancelled : r ∈ m.cancelled ↔ (s.runs.lookup r).any (·.cancelled) = true
  runId : ∀ row, s.runs.lookup r = some row → row.checkpoint.runId = r
  valid : ∀ row, s.runs.lookup r = some row → row.checkpoint.invalid = none
  chain : ∀ row, s.runs.lookup r = some row →
    ∃ last, LeadsTo semanticDigest (s.eventRows r) row.checkpoint last

/-- **The simulation relation** between the journals. -/
structure Mirrors (semanticDigest : LoopEvent → String)
    (m : InMemoryLoopJournal) (s : SQLiteLoopJournal) : Prop where
  killSwitch : m.killSwitch = s.killSwitch
  run : ∀ r, MirrorsRun semanticDigest m s r

/-- A call that writes one run leaves the entries of the others alone. -/
structure SameRun (m m' : InMemoryLoopJournal) (s s' : SQLiteLoopJournal)
    (r : String) : Prop where
  checkpoint : m'.checkpoints.lookup r = m.checkpoints.lookup r
  events : m'.events.lookup r = m.events.lookup r
  cancelled : r ∈ m'.cancelled ↔ r ∈ m.cancelled
  row : s'.runs.lookup r = s.runs.lookup r
  eventRows : s'.eventRows r = s.eventRows r

section Laws

variable {definitionDigest : LoopDefinition → String}
  {semanticDigest : LoopEvent → String} {m : InMemoryLoopJournal}
  {s : SQLiteLoopJournal}

theorem mirrors_empty : Mirrors semanticDigest {} .empty where
  killSwitch := rfl
  run := by
    intro r
    have hnone : (SQLiteLoopJournal.empty).runs.lookup r = none := rfl
    refine ⟨rfl, rfl, ?_, ?_, ?_, ?_⟩
    · simp [SQLiteLoopJournal.empty]
    · intro row hrow
      rw [hnone] at hrow
      cases hrow
    · intro row hrow
      rw [hnone] at hrow
      cases hrow
    · intro row hrow
      rw [hnone] at hrow
      cases hrow

variable {r : String} {req : TransitionRequest} {row : LoopRunRow}

theorem Mirrors.write {m' : InMemoryLoopJournal} {s' : SQLiteLoopJournal}
    (h : Mirrors semanticDigest m s) (hkill : m'.killSwitch = s'.killSwitch)
    (hrun : MirrorsRun semanticDigest m' s' r)
    (hothers : ∀ r', r' ≠ r → SameRun m m' s s' r') :
    Mirrors semanticDigest m' s' := by
  refine ⟨hkill, fun r' => ?_⟩
  by_cases heq : r' = r
  · rw [heq]
    exact hrun
  · obtain ⟨hcheckpoint, hevents, hcancelled, hrow, hrows⟩ := hothers r' heq
    have hold := h.run r'
    refine
      { checkpoint := ?_, events := ?_, cancelled := ?_, runId := ?_, valid := ?_
        chain := ?_ }
    · rw [hcheckpoint, hrow]
      exact hold.checkpoint
    · rw [hevents, hrow, hrows]
      exact hold.events
    · rw [hcancelled, hrow]
      exact hold.cancelled
    · rw [hrow]
      exact hold.runId
    · rw [hrow]
      exact hold.valid
    · rw [hrow, hrows]
      exact hold.chain

/-! ### What the SQLite journal reads back -/

theorem LeadsTo.verify {rows : List LoopEventRow} {cp : LoopCheckpoint}
    {last : Option LoopEvent} (h : LeadsTo semanticDigest rows cp last) :
    SQLiteLoopJournal.verify semanticDigest rows cp = .ok () := by
  rw [SQLiteLoopJournal.verify, if_neg (not_not.mpr h.length), h.chain]
  cases last with
  | none =>
    obtain ⟨hhead, hstate⟩ := h.first rfl
    simp [hhead, hstate]
  | some event =>
    simp only [h.head event rfl, if_true]

theorem Mirrors.read (h : Mirrors semanticDigest m s) {r : String}
    {row : LoopRunRow} (hrow : s.runs.lookup r = some row) :
    s.read semanticDigest r = .ok row.checkpoint := by
  obtain ⟨last, hchain⟩ := (h.run r).chain row hrow
  rw [SQLiteLoopJournal.read, hrow]
  refine bind_eq_ok.mpr ⟨row.checkpoint, ?_, bind_eq_ok.mpr ⟨(), hchain.verify, rfl⟩⟩
  rw [SQLiteLoopJournal.checkpoint, (h.run r).valid row hrow]

theorem read_unknown (hrow : s.runs.lookup r = none) :
    s.read semanticDigest r = .error runUnknown := by
  rw [SQLiteLoopJournal.read, hrow]

theorem leadsTo_initial (r : String) (definition : LoopDefinition) :
    LeadsTo semanticDigest [] (initialCheckpoint definitionDigest r definition)
      none where
  length := rfl
  chain := rfl
  first := fun _ => ⟨rfl, rfl⟩
  head := by
    intro event h
    cases h

theorem LeadsTo.next {rows : List LoopEventRow} {last : Option LoopEvent}
    (h : LeadsTo semanticDigest rows req.expected last) :
    LeadsTo semanticDigest
      (rows ++ [⟨req.expected.sequence + 1, req.event, semanticDigest req.event⟩])
      (req.next semanticDigest) (some req.event) where
  length := by
    rw [List.length_append, h.length]
    rfl
  chain := by
    refine foldlM_concat_eq_ok.mpr ⟨_, h.chain, ?_⟩
    simp [SQLiteLoopJournal.verifyRow, TransitionRequest.event, TransitionRequest.next]
  first := by
    intro hnone
    cases hnone
  head := by
    intro event hevent
    cases hevent
    cases hterminal : req.target.isTerminal with
    | true | false =>
      simp [SQLiteLoopJournal.verifyHead, TransitionRequest.next,
        TransitionRequest.event, hterminal]

/-! ### The records of the engine -/

theorem LoopCheckpoint.invalid_eq_none {cp : LoopCheckpoint} :
    cp.invalid = none ↔
      matchesLoopId cp.runId = true ∧ matchesDigest cp.definitionDigest = true ∧
      0 ≤ cp.stagnantIterations ∧
      cp.lastProgressDigest.all matchesDigest = true ∧
      cp.terminalReason.all matchesCode = true ∧
      cp.headDigest.all matchesDigest = true := by
  unfold LoopCheckpoint.invalid
  split
  · next h => simp_all
  split
  · next h => simp_all
  split
  · next h => simp_all
  split
  · next h => simp_all
  · split
    · next h => simp_all
    · split
      · next h => simp_all
      · simp_all

/-- What an engine's request may change of a valid checkpoint. -/
structure TransitionRequest.Sound (req : TransitionRequest) : Prop where
  reason : req.target.isTerminal = true → matchesCode req.reasonCode = true
  progress : req.progressDigest.all matchesDigest = true
  stagnant : 0 ≤ req.expected.stagnantIterations →
    0 ≤ req.stagnantIterations.getD req.expected.stagnantIterations

theorem EngineRequest.sound (h : EngineRequest req) : req.Sound where
  reason := fun _ => h.safe
  progress := by
    cases h with
    | @verdict cp outcome _ _ h => exact outcome.digests_ok.1
    | terminal | ready | reserve | retry | gating => rfl
  stagnant := by
    intro hold
    cases h with
    | verdict cp h =>
      simp only [verdictRequest, Option.getD_some, nextStagnant] at hold ⊢
      split
      · omega
      exact le_refl 0
    | terminal | ready | reserve | retry | gating => exact hold

theorem TransitionRequest.Sound.next_valid
    (hdigest : ∀ event, matchesDigest (semanticDigest event) = true)
    (h : req.Sound) (hvalid : req.expected.invalid = none) :
    (req.next semanticDigest).invalid = none := by
  rw [LoopCheckpoint.invalid_eq_none] at hvalid ⊢
  obtain ⟨hrun, hdefinition, hstagnant, hprogress, -, -⟩ := hvalid
  refine ⟨hrun, hdefinition, h.stagnant hstagnant, ?_, ?_, hdigest _⟩
  · have hnew := h.progress
    simp only [next]
    cases hp : req.progressDigest with
    | none => simpa using hprogress
    | some digest => simpa [hp] using hnew
  · simp only [next]
    cases hterminal : req.target.isTerminal with
    | false => rfl
    | true => exact h.reason hterminal

theorem bindable_eq_true {n : ℤ} :
    SQLiteLoopJournal.bindable n = true ↔ -2 ^ 63 ≤ n ∧ n < 2 ^ 63 := by
  rw [SQLiteLoopJournal.bindable, Bool.and_eq_true, decide_eq_true_iff, decide_eq_true_iff]

theorem TransitionRequest.columnsBindable_next :
    SQLiteLoopJournal.columnsBindable (req.next semanticDigest) = true ↔
      req.Metered ∧ req.Numbered ∧
        -2 ^ 63 ≤ req.stagnantIterations.getD req.expected.stagnantIterations := by
  simp only [SQLiteLoopJournal.columnsBindable, next, Bool.and_eq_true, bindable_eq_true]
  constructor
  · rintro ⟨⟨⟨⟨⟨⟨h1, h2⟩, h3⟩, h4⟩, h5⟩, h6⟩, h7⟩
    exact ⟨⟨by omega, by omega, by omega, by omega, by omega⟩, ⟨by omega, h7.2⟩, h7.1⟩
  · rintro ⟨⟨h2, h3, h4, h5, h6⟩, ⟨h1, h7⟩, hlower⟩
    omega

/-! ### One call -/

/-- Both journals answer the call alike and stay related. -/
def Agree (definitionDigest : LoopDefinition → String)
    (semanticDigest : LoopEvent → String) (m : InMemoryLoopJournal)
    (s : SQLiteLoopJournal) (call : JournalCall) : Prop :=
  (m.exec definitionDigest semanticDigest call).1 =
      (s.exec definitionDigest semanticDigest call).1 ∧
    Mirrors semanticDigest (m.exec definitionDigest semanticDigest call).2
      (s.exec definitionDigest semanticDigest call).2

theorem Mirrors.unknown (h : Mirrors semanticDigest m s) :
    s.runs.lookup r = none ↔ m.checkpoints.lookup r = none := by
  rw [(h.run r).checkpoint, Option.map_eq_none_iff]

theorem mirrors_create (h : Mirrors semanticDigest m s)
    {definition : LoopDefinition} (hrow : s.runs.lookup r = none)
    (hvalid : (initialCheckpoint definitionDigest r definition).invalid = none) :
    Mirrors semanticDigest
      { m with
        checkpoints := m.checkpoints.insert r
          (initialCheckpoint definitionDigest r definition)
        events := m.events.insert r [] }
      (s.writeRun r
        { checkpoint := initialCheckpoint definitionDigest r definition }) := by
  have hevents : s.eventRows r = [] := by
    have hhistory := SQLiteLoopJournal.history_eq_nil hrow
    simpa [SQLiteLoopJournal.history] using hhistory
  have hcancelled : r ∉ m.cancelled := by
    rw [(h.run r).cancelled, hrow]
    exact Bool.false_ne_true
  have hnew : (s.writeRun r
      { checkpoint := initialCheckpoint definitionDigest r definition }).runs.lookup
        r =
      some { checkpoint := initialCheckpoint definitionDigest r definition } :=
    Finmap.lookup_insert s.runs
  have hrows : (s.writeRun r
      { checkpoint := initialCheckpoint definitionDigest r
          definition }).eventRows r = [] := hevents
  refine h.write (r := r) h.killSwitch ?_ fun r' hne => ?_
  · refine
      { checkpoint := ?_, events := ?_, cancelled := ?_, runId := ?_, valid := ?_
        chain := ?_ }
    · rw [hnew]
      exact Finmap.lookup_insert _
    · rw [hnew, hrows]
      exact Finmap.lookup_insert _
    · rw [hnew]
      simpa using hcancelled
    · rintro row hget
      rw [hnew] at hget
      cases hget
      rfl
    · rintro row hget
      rw [hnew] at hget
      cases hget
      exact hvalid
    · rintro row hget
      rw [hnew] at hget
      cases hget
      rw [hrows]
      exact ⟨none, leadsTo_initial r definition⟩
  · exact
      { checkpoint := Finmap.lookup_insert_of_ne _ hne
        events := Finmap.lookup_insert_of_ne _ hne
        cancelled := Iff.rfl
        row := Finmap.lookup_insert_of_ne _ hne
        eventRows := rfl }

theorem agree_create (h : Mirrors semanticDigest m s) (r : String)
    (definition : LoopDefinition) :
    Agree definitionDigest semanticDigest m s (.create r definition) := by
  rw [Agree]
  simp only [InMemoryLoopJournal.exec, SQLiteLoopJournal.exec,
    InMemoryLoopJournal.create, SQLiteLoopJournal.create]
  cases hvalid : (initialCheckpoint definitionDigest r definition).invalid with
  | some err => exact ⟨rfl, h⟩
  | none =>
    cases hrow : s.runs.lookup r with
    | none =>
      rw [(h.run r).checkpoint, hrow]
      exact ⟨rfl, mirrors_create h hrow hvalid⟩
    | some row =>
      rw [(h.run r).checkpoint, hrow, h.read hrow]
      simp only [Option.map_some]
      split
      · exact ⟨rfl, h⟩
      · exact ⟨rfl, h⟩

theorem agree_load (h : Mirrors semanticDigest m s) (r : String) :
    Agree definitionDigest semanticDigest m s (.load r) := by
  refine ⟨?_, h⟩
  simp only [InMemoryLoopJournal.exec, SQLiteLoopJournal.exec,
    InMemoryLoopJournal.load, SQLiteLoopJournal.load]
  cases hrow : s.runs.lookup r with
  | none =>
    rw [(h.run r).checkpoint, hrow, read_unknown hrow]
    rfl
  | some row =>
    rw [(h.run r).checkpoint, hrow, h.read hrow]
    rfl

theorem agree_events (h : Mirrors semanticDigest m s) (r : String) :
    Agree definitionDigest semanticDigest m s (.events r) := by
  refine ⟨?_, h⟩
  simp only [InMemoryLoopJournal.exec, SQLiteLoopJournal.exec,
    InMemoryLoopJournal.eventsOf, SQLiteLoopJournal.eventsOf]
  cases hrow : s.runs.lookup r with
  | none =>
    rw [(h.run r).events, hrow, read_unknown hrow]
    rfl
  | some row =>
    rw [(h.run r).events, hrow, h.read hrow]
    rfl

theorem mirrors_cancel (h : Mirrors semanticDigest m s)
    (hrow : s.runs.lookup r = some row) :
    Mirrors semanticDigest { m with cancelled := insert r m.cancelled }
      (s.writeRun r { row with cancelled := true }) := by
  have hnew : (s.writeRun r { row with cancelled := true }).runs.lookup r =
      some { row with cancelled := true } := Finmap.lookup_insert s.runs
  refine h.write (r := r) h.killSwitch ?_ fun r' hne => ?_
  · refine
      { checkpoint := ?_, events := ?_, cancelled := ?_, runId := ?_
        valid := ?_, chain := ?_ }
    · rw [hnew]
      exact (h.run r).checkpoint.trans (by rw [hrow]; rfl)
    · rw [hnew]
      exact (h.run r).events.trans (by rw [hrow]; rfl)
    · rw [hnew]
      simp
    · rintro row' hget
      rw [hnew] at hget
      cases hget
      exact (h.run r).runId row hrow
    · rintro row' hget
      rw [hnew] at hget
      cases hget
      exact (h.run r).valid row hrow
    · rintro row' hget
      rw [hnew] at hget
      cases hget
      exact (h.run r).chain row hrow
  · exact
      { checkpoint := rfl
        events := rfl
        cancelled := by simp [hne]
        row := Finmap.lookup_insert_of_ne _ hne
        eventRows := rfl }

theorem agree_requestCancel (h : Mirrors semanticDigest m s) (r : String) :
    Agree definitionDigest semanticDigest m s (.requestCancel r) := by
  rw [Agree]
  simp only [InMemoryLoopJournal.exec, SQLiteLoopJournal.exec,
    InMemoryLoopJournal.requestCancel, SQLiteLoopJournal.requestCancel]
  cases hrow : s.runs.lookup r with
  | none =>
    have hunknown : r ∉ m.checkpoints :=
      Finmap.lookup_eq_none.mp (h.unknown.mp hrow)
    rw [if_pos hunknown]
    exact ⟨rfl, h⟩
  | some row =>
    have hknown : ¬r ∉ m.checkpoints := by
      rw [← Finmap.lookup_eq_none, ← h.unknown, hrow]
      exact Option.some_ne_none row
    rw [if_neg hknown]
    exact ⟨rfl, mirrors_cancel h hrow⟩

theorem agree_setKillSwitch (h : Mirrors semanticDigest m s) (enabled : Bool) :
    Agree definitionDigest semanticDigest m s (.setKillSwitch enabled) := by
  refine ⟨rfl, rfl, fun r => ?_⟩
  have hrun := h.run r
  exact ⟨hrun.checkpoint, hrun.events, hrun.cancelled, hrun.runId, hrun.valid, hrun.chain⟩

theorem agree_stopReason (h : Mirrors semanticDigest m s)
    (hrow : s.runs.lookup r = some row) :
    Agree definitionDigest semanticDigest m s (.stopReason r) := by
  refine ⟨?_, h⟩
  have hcancelled := (h.run r).cancelled
  rw [hrow, Option.any_some] at hcancelled
  simp only [InMemoryLoopJournal.exec, SQLiteLoopJournal.exec,
    InMemoryLoopJournal.stopReason, SQLiteLoopJournal.stopReason, hrow,
    h.killSwitch, hcancelled]

theorem mirrors_transition (h : Mirrors semanticDigest m s)
    (hrow : s.runs.lookup req.expected.runId = some row)
    (hcurrent : row.checkpoint = req.expected)
    (hvalid : (req.next semanticDigest).invalid = none) :
    Mirrors semanticDigest
      { m with
        checkpoints := m.checkpoints.insert req.expected.runId
          (req.next semanticDigest)
        events := m.events.insert req.expected.runId
          ((m.events.lookup req.expected.runId).getD [] ++ [req.event]) }
      (s.writeEvent req.expected.runId
        { row with checkpoint := req.next semanticDigest }
        (s.eventRows req.expected.runId ++ [⟨req.expected.sequence + 1, req.event,
            semanticDigest req.event⟩])) := by
  have hnew := Finmap.lookup_insert (a := req.expected.runId)
    (b := { row with checkpoint := req.next semanticDigest }) s.runs
  have hrows : (s.writeEvent req.expected.runId
      { row with checkpoint := req.next semanticDigest }
      (s.eventRows req.expected.runId ++ [⟨req.expected.sequence + 1, req.event,
          semanticDigest req.event⟩])).eventRows req.expected.runId =
      s.eventRows req.expected.runId ++
        [⟨req.expected.sequence + 1, req.event, semanticDigest req.event⟩] := by
    rw [SQLiteLoopJournal.eventRows, SQLiteLoopJournal.writeEvent, Finmap.lookup_insert]
    rfl
  have hrun := h.run req.expected.runId
  refine h.write (r := req.expected.runId) h.killSwitch ?_ fun r' hne => ?_
  · refine
      { checkpoint := ?_, events := ?_, cancelled := ?_, runId := ?_, valid := ?_
        chain := ?_ }
    · simp only [SQLiteLoopJournal.writeEvent, hnew]
      exact Finmap.lookup_insert _
    · rw [hrows]
      simp only [SQLiteLoopJournal.writeEvent, hnew, hrun.events, hrow]
      simp
    · simp only [SQLiteLoopJournal.writeEvent, hnew]
      simpa [hrow] using hrun.cancelled
    · rintro row' hget
      simp only [SQLiteLoopJournal.writeEvent, hnew] at hget
      cases hget
      rfl
    · rintro row' hget
      simp only [SQLiteLoopJournal.writeEvent, hnew] at hget
      cases hget
      exact hvalid
    · rintro row' hget
      simp only [SQLiteLoopJournal.writeEvent, hnew] at hget
      cases hget
      obtain ⟨last, hchain⟩ := hrun.chain row hrow
      rw [hcurrent] at hchain
      rw [hrows]
      exact ⟨_, hchain.next⟩
  · exact
      { checkpoint := Finmap.lookup_insert_of_ne _ hne
        events := Finmap.lookup_insert_of_ne _ hne
        cancelled := Iff.rfl
        row := Finmap.lookup_insert_of_ne _ hne
        eventRows := by
          rw [SQLiteLoopJournal.eventRows, SQLiteLoopJournal.writeEvent,
            Finmap.lookup_insert_of_ne _ hne]
          rfl }

theorem agree_transition_refused (h : Mirrors semanticDigest m s)
    (hrefused : m.checkpoints.lookup req.expected.runId = some req.expected →
      ∃ err, req.refused = some err) :
    Agree definitionDigest semanticDigest m s (.transition req) := by
  rw [Agree]
  simp only [InMemoryLoopJournal.exec, SQLiteLoopJournal.exec,
    InMemoryLoopJournal.transition, SQLiteLoopJournal.transition]
  have hrun := h.run req.expected.runId
  cases hrow : s.runs.lookup req.expected.runId with
  | none =>
    rw [hrun.checkpoint, hrow, read_unknown hrow]
    exact ⟨rfl, h⟩
  | some row =>
    rw [hrun.checkpoint, hrow, Option.map_some] at hrefused
    rw [hrun.checkpoint, hrow, h.read hrow]
    simp only [Option.map_some]
    by_cases hcurrent : row.checkpoint = req.expected
    · obtain ⟨err, herr⟩ := hrefused (congrArg some hcurrent)
      rw [if_neg (not_not.mpr hcurrent), if_neg (not_not.mpr hcurrent), herr]
      exact ⟨rfl, h⟩
    · rw [if_pos hcurrent, if_pos hcurrent]
      split
      · exact ⟨rfl, h⟩
      · exact ⟨rfl, h⟩

/-- A transition that nothing refuses: the in-memory journal writes it, and the SQLite
journal does exactly if it can bind the integers. -/
theorem agree_transition_accepted
    (hdigest : ∀ event, matchesDigest (semanticDigest event) = true)
    (h : Mirrors semanticDigest m s) (hreq : EngineRequest req) (hmetered : req.Metered)
    (hcurrent : m.checkpoints.lookup req.expected.runId = some req.expected)
    (haccepted : req.refused = none) :
    ((m.exec definitionDigest semanticDigest (.transition req)).1 =
        (s.exec definitionDigest semanticDigest (.transition req)).1 ↔ req.Numbered) ∧
      (req.Numbered → Agree definitionDigest semanticDigest m s (.transition req)) := by
  have hrun := h.run req.expected.runId
  obtain ⟨row, hrow, hcheckpoint⟩ : ∃ row,
      s.runs.lookup req.expected.runId = some row ∧ row.checkpoint = req.expected := by
    rw [hrun.checkpoint, Option.map_eq_some_iff] at hcurrent
    exact hcurrent
  have hexpected : req.expected.invalid = none := by
    rw [← hcheckpoint]
    exact hrun.valid row hrow
  have hvalid := hreq.sound.next_valid hdigest hexpected
  have hstagnant := hreq.sound.stagnant
    (LoopCheckpoint.invalid_eq_none.mp hexpected).2.2.1
  have hread : s.read semanticDigest req.expected.runId = .ok req.expected := by
    rw [h.read hrow, hcheckpoint]
  have hnumbered : req.Numbered →
      Agree definitionDigest semanticDigest m s (.transition req) := by
    intro hnumbered
    have hbindable : SQLiteLoopJournal.columnsBindable (req.next semanticDigest) = true :=
      TransitionRequest.columnsBindable_next.mpr ⟨hmetered, hnumbered, by omega⟩
    have hnext := mirrors_transition h hrow hcheckpoint hvalid
    rw [Agree]
    simp only [InMemoryLoopJournal.exec, SQLiteLoopJournal.exec,
      InMemoryLoopJournal.transition, SQLiteLoopJournal.transition, hcurrent, hrow, hread,
      haccepted, hvalid, hbindable, ne_eq, not_true_eq_false, if_false, Bool.not_true,
      Bool.false_eq_true]
    refine ⟨?_, hnext⟩
    have hread' := hnext.read (r := req.expected.runId) (Finmap.lookup_insert s.runs)
    exact (congrArg (replyOf .checkpoint) hread').symm
  refine ⟨⟨fun heq => ?_, fun hn => (hnumbered hn).1⟩, hnumbered⟩
  by_contra hnot
  have hunbindable : SQLiteLoopJournal.columnsBindable (req.next semanticDigest) = false := by
    refine Bool.eq_false_iff.mpr fun htrue => hnot ?_
    exact (TransitionRequest.columnsBindable_next.mp htrue).2.1
  simp only [InMemoryLoopJournal.exec, SQLiteLoopJournal.exec,
    InMemoryLoopJournal.transition, SQLiteLoopJournal.transition, hcurrent, hrow, hread,
    haccepted, hvalid, hunbindable, ne_eq, not_true_eq_false, if_false, Bool.not_false,
    if_true] at heq
  cases heq

/-! ## Whole histories -/

section Steps

variable (hdigest : ∀ event, matchesDigest (semanticDigest event) = true)
  (h : Mirrors semanticDigest m s) {call : JournalCall} (hcall : call.FromEngine)

include h

theorem agree_stopReason_iff (r : String) :
    (m.exec definitionDigest semanticDigest (.stopReason r)).1 =
        (s.exec definitionDigest semanticDigest (.stopReason r)).1 ↔
      r ∈ m.checkpoints := by
  cases hrow : s.runs.lookup r with
  | none =>
    refine ⟨fun heq => ?_, fun hknown => ?_⟩
    · simp only [InMemoryLoopJournal.exec, SQLiteLoopJournal.exec,
        InMemoryLoopJournal.stopReason, SQLiteLoopJournal.stopReason, hrow] at heq
      split at heq
      · cases heq
      · split at heq
        · cases heq
        · cases heq
    · exact absurd (Finmap.lookup_eq_none.mp (h.unknown.mp hrow)) (not_not.mpr hknown)
  | some row =>
    have hknown : r ∈ m.checkpoints := by
      rw [Finmap.mem_iff, (h.run r).checkpoint, hrow]
      exact ⟨_, rfl⟩
    exact ⟨fun _ => hknown, fun _ => (agree_stopReason h hrow).1⟩

include hdigest hcall

/-- **One call.**  Related journals answer it alike exactly if it meets its condition. -/
theorem answers_iff :
    (m.exec definitionDigest semanticDigest call).1 =
      (s.exec definitionDigest semanticDigest call).1 ↔ call.Meets m := by
  cases call with
  | create r definition => exact iff_of_true (agree_create h r definition).1 trivial
  | load r => exact iff_of_true (agree_load h r).1 trivial
  | events r => exact iff_of_true (agree_events h r).1 trivial
  | requestCancel r => exact iff_of_true (agree_requestCancel h r).1 trivial
  | setKillSwitch enabled => exact iff_of_true (agree_setKillSwitch h enabled).1 trivial
  | stopReason r => exact agree_stopReason_iff h r
  | unencodable call =>
    cases call with
    | create => exact iff_of_true rfl rfl
    | load | events | requestCancel | stopReason =>
      exact iff_of_false (fun heq => by cases heq) (fun heq => by cases heq)
  | transition req =>
    by_cases haccepted : m.checkpoints.lookup req.expected.runId = some req.expected ∧
        req.refused = none
    · have hiff : (m.exec definitionDigest semanticDigest (.transition req)).1 =
          (s.exec definitionDigest semanticDigest (.transition req)).1 ↔ req.Numbered :=
        (agree_transition_accepted hdigest h hcall.1 hcall.2 haccepted.1 haccepted.2).1
      exact hiff.trans ⟨fun hn _ _ => hn, fun hn => hn haccepted.1 haccepted.2⟩
    · refine iff_of_true (agree_transition_refused h fun hcurrent => ?_).1 fun hcurrent hnone =>
        absurd ⟨hcurrent, hnone⟩ haccepted
      exact Option.ne_none_iff_exists'.mp fun hnone => haccepted ⟨hcurrent, hnone⟩

theorem mirrors_step (hmeets : call.Meets m) :
    Mirrors semanticDigest (m.exec definitionDigest semanticDigest call).2
      (s.exec definitionDigest semanticDigest call).2 := by
  cases call with
  | create r definition => exact (agree_create h r definition).2
  | requestCancel r => exact (agree_requestCancel h r).2
  | setKillSwitch enabled => exact (agree_setKillSwitch h enabled).2
  | load | events | stopReason | unencodable => exact h
  | transition req =>
    by_cases haccepted : m.checkpoints.lookup req.expected.runId = some req.expected ∧
        req.refused = none
    · exact ((agree_transition_accepted hdigest h hcall.1 hcall.2 haccepted.1
        haccepted.2).2 (hmeets haccepted.1 haccepted.2)).2
    · refine (agree_transition_refused h fun hcurrent => ?_).2
      exact Option.ne_none_iff_exists'.mp fun hnone => haccepted ⟨hcurrent, hnone⟩

end Steps

/-- **When the two loop journals are observationally equivalent.**  Over every finite
sequence of calls that the engine can make, started on two empty journals, both return
equal checkpoints, events and reasons and raise equal errors at every step exactly if
every call meets its condition on the state before it. -/
theorem loop_journals_equivalent (definitionDigest : LoopDefinition → String)
    (semanticDigest : LoopEvent → String)
    (hdigest : ∀ event, matchesDigest (semanticDigest event) = true)
    (calls : List JournalCall) (hcalls : ∀ call ∈ calls, call.FromEngine) :
    let inMemory := InMemoryLoopJournal.exec definitionDigest semanticDigest
    let sqlite := SQLiteLoopJournal.exec definitionDigest semanticDigest
    ForallSplit (fun before call =>
        (inMemory (runMachine inMemory {} before) call).1 =
          (sqlite (runMachine sqlite .empty before) call).1) calls ↔
      ForallSplit (fun before call => call.Meets (runMachine inMemory {} before)) calls := by
  intro inMemory sqlite
  refine lockstep_iff (R := Mirrors semanticDigest)
    (Q := fun m s call => (inMemory m call).1 = (sqlite s call).1) ?_ ?_ mirrors_empty hcalls
  · intro m s call h hcall
    exact answers_iff hdigest h hcall
  · intro m s call h hcall hmeets
    exact mirrors_step hdigest h hcall hmeets

end Laws

/-! ## A first transition, and a run that does not exist -/

def sampleDefinitionDigest : LoopDefinition → String :=
  fun _ => "92259495b20bc806c1e2ac743c6cbe9bdfcab2d2c5dba84302ca1aa332f85f1a"

def sampleEventDigest : LoopEvent → String :=
  fun _ => "d45630e3f56b0d9a6d91b65acf7eee484b00917b421945978e7c48ef56b24c2e"

/-- A run is created and made ready, and read back; an id with half of a surrogate
pair is no run's. -/
def sampleJournalCalls : List JournalCall :=
  [.create "run-1" sampleDefinition, .transition (readyRequest
      (initialCheckpoint sampleDefinitionDigest "run-1" sampleDefinition)),
    .load "run-1", .events "run-1", .stopReason "run-1", .unencodable .create]

theorem sampleJournalCalls_fromEngine : ∀ call ∈ sampleJournalCalls, call.FromEngine := by
  intro call hcall
  simp only [sampleJournalCalls, List.mem_cons, List.not_mem_nil, or_false] at hcall
  rcases hcall with rfl | rfl | rfl | rfl | rfl | rfl
  · trivial
  · exact ⟨.ready _, ⟨by decide, by decide, by decide, by decide, by decide⟩⟩
  · trivial
  · trivial
  · trivial
  · trivial

theorem sampleJournalCalls_meet : ForallSplit (fun before call => call.Meets
    (runMachine (InMemoryLoopJournal.exec sampleDefinitionDigest sampleEventDigest) {}
      before)) sampleJournalCalls := by
  refine forallSplit_cons.mpr ⟨trivial, forallSplit_cons.mpr ⟨?_, forallSplit_cons.mpr
    ⟨trivial, forallSplit_cons.mpr ⟨trivial, forallSplit_cons.mpr ⟨?_,
      forallSplit_cons.mpr ⟨rfl, forallSplit_nil⟩⟩⟩⟩⟩⟩
  · exact fun _ _ => ⟨by decide, by decide⟩
  · show "run-1" ∈ _
    decide +kernel

theorem loop_journals_equivalent_ready_run :
    (∀ event, matchesDigest (sampleEventDigest event) = true) ∧
    (∀ call ∈ sampleJournalCalls, call.FromEngine) ∧
    ForallSplit (fun before call =>
      (InMemoryLoopJournal.exec sampleDefinitionDigest sampleEventDigest
        (runMachine (InMemoryLoopJournal.exec sampleDefinitionDigest
          sampleEventDigest) {} before) call).1 =
      (SQLiteLoopJournal.exec sampleDefinitionDigest sampleEventDigest
        (runMachine (SQLiteLoopJournal.exec sampleDefinitionDigest
          sampleEventDigest) .empty before) call).1) sampleJournalCalls := by
  have hdigest : ∀ event, matchesDigest (sampleEventDigest event) = true := by
    intro event
    rw [sampleEventDigest]
    rfl
  exact ⟨hdigest, sampleJournalCalls_fromEngine,
    (loop_journals_equivalent sampleDefinitionDigest sampleEventDigest hdigest
      sampleJournalCalls sampleJournalCalls_fromEngine).mpr sampleJournalCalls_meet⟩

theorem stop_reason_of_unknown_run_differs : (JournalCall.stopReason "run-1").FromEngine ∧
    (InMemoryLoopJournal.exec sampleDefinitionDigest sampleEventDigest {}
      (.stopReason "run-1")).1 = .reason none ∧
    (SQLiteLoopJournal.exec sampleDefinitionDigest sampleEventDigest .empty
      (.stopReason "run-1")).1 = .raised runUnknown ∧
    (InMemoryLoopJournal.exec sampleDefinitionDigest sampleEventDigest {}
      (.stopReason "run-1")).1 ≠
      (SQLiteLoopJournal.exec sampleDefinitionDigest sampleEventDigest .empty
        (.stopReason "run-1")).1 :=
  ⟨trivial, rfl, rfl, nofun⟩

end Ecosystem.Loops
