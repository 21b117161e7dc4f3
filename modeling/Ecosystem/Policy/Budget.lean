import Ecosystem.Lib.Calls
import Ecosystem.Lib.Table

/-!
# Budget ledgers

`BudgetLedger` of `eco_runtime/budget.py`: the counters of one run under the limits of
its plan.  Bytes of input are reserved first and then committed or released.

A method holds the lock, so calls come one after another; one that raises keeps what it
has written.  `exceeds` decides how long the run has lasted.
-/

namespace Ecosystem.Policy

open Ecosystem.Lib

/-! ## Records -/

structure BudgetLimits where
  maxDurationSeconds : ℕ
  maxToolRequests : ℕ
  maxInputBytes : ℕ
  maxModelRequests : ℕ
  maxOutputBytes : ℕ
  maxTotalTokens : ℕ
  maxCostMicrousd : ℕ

/-- What a ledger reads of a plan: its digest is `semantic_digest`. -/
structure BudgetPlan where
  runId : String
  digest : String
  inputLengths : List ℕ
  budget : BudgetLimits

/-- `RuntimeBudgetError` and `ValueError`. -/
inductive BudgetError
  | runtime (code message : String)
  | value (message : String)
deriving DecidableEq

/-- An argument: an `int`, or a value of another type. -/
inductive Amount
  | int (n : ℤ)
  | other

structure InputByteReservation where
  reservationId : ℕ
  byteCount : ℕ
  finished : Bool := false

structure BudgetLedger (τ : Type) where
  runId : String
  planDigest : String
  limits : BudgetLimits
  startedAt : τ
  toolRequests : ℕ := 0
  inputBytes : ℕ
  reservedInputBytes : ℤ := 0
  nextReservationId : ℕ := 1
  inputReservations : Table ℕ ℕ := .empty
  outputBytes : ℕ := 0
  modelRequests : ℕ := 0
  totalTokens : ℕ := 0
  costMicrousd : ℕ := 0

/-- A ledger with the handles that it has given out. -/
structure Accounts (τ : Type) where
  ledger : BudgetLedger τ
  handles : List InputByteReservation := []

/-! ## Errors -/

def inputExhausted : BudgetError :=
  .runtime "ECO_INPUT_BUDGET_EXHAUSTED" "Input byte budget is exhausted"

def reservationInvalid : BudgetError :=
  .runtime "ECO_BUDGET_RESERVATION_INVALID" "Budget reservation is unknown"

/-! ## The ledger -/

variable {τ : Type}

/-- `BudgetLedger.__init__` on a plan that is valid. -/
def BudgetLedger.new (plan : BudgetPlan) (startedAt : τ) :
    Except BudgetError (BudgetLedger τ) :=
  if plan.inputLengths.sum > plan.budget.maxInputBytes then
    .error (.runtime "ECO_BUDGET_EXHAUSTED" "Initial inputs exceed the run budget")
  else
    .ok {
      runId := plan.runId
      planDigest := plan.digest
      limits := plan.budget
      startedAt := startedAt
      inputBytes := plan.inputLengths.sum }

abbrev BudgetM (τ : Type) := EStateM BudgetError (Accounts τ)

def writeLedger (f : BudgetLedger τ → BudgetLedger τ) : BudgetM τ Unit :=
  modify fun a => { a with ledger := f a.ledger }

def Amount.natural (amount : Amount) (message : String) : BudgetM τ ℕ :=
  match amount with
  | .int n => do
    check (0 ≤ n) (.value message)
    return n.toNat
  | .other => throw (.value message)

section Methods

variable (exceeds : τ → τ → ℕ → Bool)

/-- `_check_duration_locked`. -/
def checkDuration (clock : τ) : BudgetM τ Unit := do
  let a ← get
  check (!exceeds clock a.ledger.startedAt a.ledger.limits.maxDurationSeconds)
    (.runtime "ECO_DURATION_EXHAUSTED" "Run duration budget is exhausted")

/-- `reserve_tool_request`: what is left of the input bytes. -/
def reserveToolRequest (clock : τ) : BudgetM τ ℤ := do
  checkDuration exceeds clock
  let a ← get
  check (a.ledger.toolRequests < a.ledger.limits.maxToolRequests)
    (.runtime "ECO_TOOL_BUDGET_EXHAUSTED" "Tool request budget is exhausted")
  writeLedger fun l => { l with toolRequests := l.toolRequests + 1 }
  let a ← get
  return a.ledger.limits.maxInputBytes - a.ledger.inputBytes - a.ledger.reservedInputBytes

/-- The check that `reserve_input_bytes` and `consume_input_bytes` share. -/
def checkInput (byteCount : ℕ) : BudgetM τ Unit := do
  let a ← get
  check (a.ledger.inputBytes + a.ledger.reservedInputBytes + byteCount ≤
    a.ledger.limits.maxInputBytes) inputExhausted

/-- `reserve_input_bytes`; the handle goes to the caller. -/
def reserveInputBytes (amount : Amount) (clock : τ) : BudgetM τ Unit := do
  let byteCount ← amount.natural "byte_count must be a non-negative integer"
  checkDuration exceeds clock
  checkInput byteCount
  let a ← get
  let reservationId := a.ledger.nextReservationId
  writeLedger fun l => { l with nextReservationId := l.nextReservationId + 1 }
  writeLedger fun l =>
    { l with
      inputReservations :=
        l.inputReservations.upsert reservationId byteCount fun _ => byteCount }
  writeLedger fun l => { l with reservedInputBytes := l.reservedInputBytes + byteCount }
  modify fun a => { a with handles := a.handles ++ [⟨reservationId, byteCount, false⟩] }

def releaseInputReservation (reservationId : ℕ) : BudgetM τ Unit := do
  let a ← get
  writeLedger fun l =>
    { l with inputReservations := l.inputReservations.erase reservationId }
  match a.ledger.inputReservations.get? reservationId with
  | none => throw reservationInvalid
  | some byteCount =>
    writeLedger fun l =>
      { l with reservedInputBytes := l.reservedInputBytes - byteCount }

def commitInputReservation (reservationId : ℕ) (amount : Amount) : BudgetM τ Unit := do
  let actual ← amount.natural "actual_byte_count must be a non-negative integer"
  let a ← get
  match a.ledger.inputReservations.get? reservationId with
  | none => throw reservationInvalid
  | some reserved =>
    check (actual ≤ reserved)
      (.runtime "ECO_INPUT_BUDGET_EXHAUSTED" "Actual input exceeds its byte reservation")
    writeLedger fun l =>
      { l with inputReservations := l.inputReservations.erase reservationId }
    writeLedger fun l => { l with reservedInputBytes := l.reservedInputBytes - reserved }
    writeLedger fun l => { l with inputBytes := l.inputBytes + actual }

def consumeInputBytes (amount : Amount) (clock : τ) : BudgetM τ Unit := do
  let byteCount ← amount.natural "byte_count must be a non-negative integer"
  checkDuration exceeds clock
  checkInput byteCount
  writeLedger fun l => { l with inputBytes := l.inputBytes + byteCount }

/-- One of the four limits of `consume_model_usage`. -/
def checkUsage (proposed limit : ℕ) (code name : String) : BudgetM τ Unit :=
  check (proposed ≤ limit)
    (.runtime ("ECO_" ++ code ++ "_BUDGET_EXHAUSTED") (name ++ " budget is exhausted"))

def consumeModelUsage (outputBytes tokens costMicrousd : Amount) (clock : τ) :
    BudgetM τ Unit := do
  let outputBytes ← outputBytes.natural "usage values must be non-negative integers"
  let tokens ← tokens.natural "usage values must be non-negative integers"
  let costMicrousd ← costMicrousd.natural "usage values must be non-negative integers"
  checkDuration exceeds clock
  let a ← get
  checkUsage (a.ledger.modelRequests + 1) a.ledger.limits.maxModelRequests "MODEL"
    "Model request"
  checkUsage (a.ledger.outputBytes + outputBytes) a.ledger.limits.maxOutputBytes "OUTPUT"
    "Output byte"
  checkUsage (a.ledger.totalTokens + tokens) a.ledger.limits.maxTotalTokens "TOKEN" "Token"
  checkUsage (a.ledger.costMicrousd + costMicrousd) a.ledger.limits.maxCostMicrousd "COST"
    "Cost"
  writeLedger fun l => { l with modelRequests := a.ledger.modelRequests + 1 }
  writeLedger fun l => { l with outputBytes := a.ledger.outputBytes + outputBytes }
  writeLedger fun l => { l with totalTokens := a.ledger.totalTokens + tokens }
  writeLedger fun l => { l with costMicrousd := a.ledger.costMicrousd + costMicrousd }

/-! ## The handles -/

def finish (handle : ℕ) : BudgetM τ Unit :=
  modify fun a =>
    { a with handles := a.handles.modify handle fun h => { h with finished := true } }

def commit (handle : ℕ) (amount : Amount) : BudgetM τ Unit := do
  let a ← get
  match a.handles[handle]? with
  | none => return
  | some h =>
    check (!h.finished)
      (.runtime "ECO_BUDGET_RESERVATION_USED" "Budget reservation is already closed")
    commitInputReservation h.reservationId amount
    finish handle

/-- `InputByteReservation.release`, which `__exit__` calls too. -/
def release (handle : ℕ) : BudgetM τ Unit := do
  let a ← get
  match a.handles[handle]? with
  | none => return
  | some h =>
    if h.finished then return
    else
      releaseInputReservation h.reservationId
      finish handle

/-! ## Calls -/

inductive BudgetCall (τ : Type)
  | reserveToolRequest (clock : τ)
  | reserveInputBytes (amount : Amount) (clock : τ)
  | commit (handle : ℕ) (amount : Amount)
  | release (handle : ℕ)
  | consumeInputBytes (amount : Amount) (clock : τ)
  | consumeModelUsage (outputBytes tokens costMicrousd : Amount) (clock : τ)

def BudgetCall.run : BudgetCall τ → BudgetM τ Unit
  | .reserveToolRequest clock => do
    let _ ← Policy.reserveToolRequest exceeds clock
  | .reserveInputBytes amount clock => Policy.reserveInputBytes exceeds amount clock
  | .commit handle amount => Policy.commit handle amount
  | .release handle => Policy.release handle
  | .consumeInputBytes amount clock => Policy.consumeInputBytes exceeds amount clock
  | .consumeModelUsage outputBytes tokens costMicrousd clock =>
    Policy.consumeModelUsage exceeds outputBytes tokens costMicrousd clock

/-- The state behind a call, whether it returns or raises. -/
def Accounts.step (a : Accounts τ) (call : BudgetCall τ) : Accounts τ :=
  match call.run exceeds a with
  | .ok _ a' => a'
  | .error _ a' => a'

def Accounts.after (a : Accounts τ) (calls : List (BudgetCall τ)) : Accounts τ :=
  calls.foldl (Accounts.step exceeds) a

/-- The reservation of the handle that a call is made on, if it is not finished. -/
def BudgetCall.closing (a : Accounts τ) : BudgetCall τ → Option ℕ
  | .commit handle _ | .release handle =>
    (a.handles[handle]?).bind fun h => if h.finished then none else some h.reservationId
  | _ => none

/-- The reservation that a call commits or releases, if it returns. -/
def Accounts.closes (a : Accounts τ) (call : BudgetCall τ) : Option ℕ :=
  match call.run exceeds a with
  | .ok _ _ => call.closing a
  | .error _ _ => none

/-- The reservations that are committed or released, in the order of the calls. -/
def Accounts.closings (a : Accounts τ) : List (BudgetCall τ) → List ℕ
  | [] => []
  | call :: calls =>
    (a.closes exceeds call).toList ++ (a.step exceeds call).closings calls

end Methods

/-! ## What a call does -/

section Effects

variable {exceeds : τ → τ → ℕ → Bool} {a : Accounts τ}

def BudgetLedger.HasRoom (l : BudgetLedger τ) (byteCount : ℕ) : Prop :=
  l.inputBytes + l.reservedInputBytes + byteCount ≤ l.limits.maxInputBytes

/-- What a call that returns has done, with the reservation that it closed. -/
inductive Effect (a : Accounts τ) : Accounts τ → Option ℕ → Prop
  /-- `release` of a finished handle, or a handle that nobody holds -/
  | quiet : Effect a a none
  | tool (h : a.ledger.toolRequests < a.ledger.limits.maxToolRequests) :
      Effect a { a with
        ledger := { a.ledger with toolRequests := a.ledger.toolRequests + 1 } } none
  | opened (byteCount : ℕ) (room : a.ledger.HasRoom byteCount) :
      Effect a {
        ledger := { a.ledger with
          nextReservationId := a.ledger.nextReservationId + 1
          inputReservations := a.ledger.inputReservations.upsert
            a.ledger.nextReservationId byteCount fun _ => byteCount
          reservedInputBytes := a.ledger.reservedInputBytes + byteCount }
        handles := a.handles ++ [⟨a.ledger.nextReservationId, byteCount, false⟩] } none
  /-- a commit; a release commits nothing of the reservation -/
  | closed (handle id reserved actual : ℕ)
      (held : a.ledger.inputReservations.get? id = some reserved) (fits : actual ≤ reserved) :
      Effect a {
        ledger := { a.ledger with
          inputReservations := a.ledger.inputReservations.erase id
          reservedInputBytes := a.ledger.reservedInputBytes - reserved
          inputBytes := a.ledger.inputBytes + actual }
        handles := a.handles.modify handle fun h => { h with finished := true } } (some id)
  | consumed (byteCount : ℕ) (room : a.ledger.HasRoom byteCount) :
      Effect a { a with
        ledger := { a.ledger with inputBytes := a.ledger.inputBytes + byteCount } } none
  | used (outputBytes tokens cost : ℕ)
      (models : a.ledger.modelRequests + 1 ≤ a.ledger.limits.maxModelRequests)
      (output : a.ledger.outputBytes + outputBytes ≤ a.ledger.limits.maxOutputBytes)
      (total : a.ledger.totalTokens + tokens ≤ a.ledger.limits.maxTotalTokens)
      (price : a.ledger.costMicrousd + cost ≤ a.ledger.limits.maxCostMicrousd) :
      Effect a { a with
        ledger := { a.ledger with
          modelRequests := a.ledger.modelRequests + 1
          outputBytes := a.ledger.outputBytes + outputBytes
          totalTokens := a.ledger.totalTokens + tokens
          costMicrousd := a.ledger.costMicrousd + cost } } none

theorem wp_natural {amount : Amount} {message : String} {Q : ℕ → Accounts τ → Prop}
    (h : ∀ n, Q n a) :
    Wp (amount.natural message) Q (fun _ a' => a' = a) a := by
  cases amount with
  | other => exact rfl
  | int n =>
    rw [Amount.natural, wp_bind, wp_check]
    exact ⟨fun _ => h n.toNat, fun _ => rfl⟩

theorem wp_checkDuration {clock : τ} {Q : Unit → Accounts τ → Prop} (h : Q () a) :
    Wp (checkDuration exceeds clock) Q (fun _ a' => a' = a) a := by
  rw [checkDuration, wp_bind, wp_get, wp_check]
  exact ⟨fun _ => h, fun _ => rfl⟩

theorem wp_checkInput {byteCount : ℕ} {Q : Unit → Accounts τ → Prop}
    (h : a.ledger.HasRoom byteCount → Q () a) :
    Wp (checkInput byteCount) Q (fun _ a' => a' = a) a := by
  rw [checkInput, wp_bind, wp_get, wp_check]
  refine ⟨fun hroom => h ?_, fun _ => rfl⟩
  have hle := of_decide_eq_true hroom
  exact hle

theorem reserveToolRequest_effect (clock : τ) :
    Wp (reserveToolRequest exceeds clock) (fun _ a' => Effect a a' none)
      (fun _ a' => a' = a) a := by
  rw [reserveToolRequest, wp_bind]
  refine wp_checkDuration ?_
  rw [wp_bind, wp_get, wp_bind, wp_check]
  refine ⟨fun hcount => ?_, fun _ => rfl⟩
  exact .tool (of_decide_eq_true hcount)

theorem reserveInputBytes_effect (amount : Amount) (clock : τ) :
    Wp (reserveInputBytes exceeds amount clock) (fun _ a' => Effect a a' none)
      (fun _ a' => a' = a) a := by
  rw [reserveInputBytes, wp_bind]
  refine wp_natural fun byteCount => ?_
  rw [wp_bind]
  refine wp_checkDuration ?_
  rw [wp_bind]
  refine wp_checkInput fun hroom => ?_
  exact .opened byteCount hroom

theorem consumeInputBytes_effect (amount : Amount) (clock : τ) :
    Wp (consumeInputBytes exceeds amount clock) (fun _ a' => Effect a a' none)
      (fun _ a' => a' = a) a := by
  rw [consumeInputBytes, wp_bind]
  refine wp_natural fun byteCount => ?_
  rw [wp_bind]
  refine wp_checkDuration ?_
  rw [wp_bind]
  refine wp_checkInput fun hroom => ?_
  exact .consumed byteCount hroom

theorem consumeModelUsage_effect (outputBytes tokens cost : Amount) (clock : τ) :
    Wp (consumeModelUsage exceeds outputBytes tokens cost clock)
      (fun _ a' => Effect a a' none) (fun _ a' => a' = a) a := by
  rw [consumeModelUsage, wp_bind]
  refine wp_natural fun outputBytes => ?_
  rw [wp_bind]
  refine wp_natural fun tokens => ?_
  rw [wp_bind]
  refine wp_natural fun cost => ?_
  rw [wp_bind]
  refine wp_checkDuration ?_
  simp only [wp_bind, wp_get, checkUsage, wp_check, decide_eq_true_eq]
  refine ⟨fun hmodels => ⟨fun houtput => ⟨fun htotal => ⟨fun hprice => ?_, fun _ => trivial⟩,
    fun _ => trivial⟩, fun _ => trivial⟩, fun _ => trivial⟩
  exact .used outputBytes tokens cost hmodels houtput htotal hprice

theorem commit_effect (handle : ℕ) (amount : Amount) :
    Wp (commit handle amount)
      (fun _ a' => Effect a a' (BudgetCall.closing a (.commit handle amount)))
      (fun _ a' => a' = a) a := by
  rw [commit, wp_bind, wp_get, BudgetCall.closing]
  cases hhandle : a.handles[handle]? with
  | none => exact .quiet
  | some h =>
    rw [wp_bind, wp_check]
    refine ⟨fun hopen => ?_, fun _ => rfl⟩
    rw [Bool.not_eq_true'] at hopen
    rw [Option.bind_some, hopen, wp_bind, commitInputReservation, wp_bind]
    refine wp_natural fun actual => ?_
    rw [wp_bind, wp_get]
    cases hheld : a.ledger.inputReservations.get? h.reservationId with
    | none => exact rfl
    | some reserved =>
      rw [wp_bind, wp_check]
      refine ⟨fun hfits => ?_, fun _ => rfl⟩
      exact .closed handle h.reservationId reserved actual hheld
        (of_decide_eq_true hfits)

theorem release_effect (handle : ℕ) :
    Wp (release handle) (fun _ a' => Effect a a' (BudgetCall.closing a (.release handle)))
      (fun _ a' => a' = a) a := by
  rw [release, wp_bind, wp_get, BudgetCall.closing]
  cases hhandle : a.handles[handle]? with
  | none => exact .quiet
  | some h =>
    rw [Option.bind_some]
    cases hfinished : h.finished with
    | true =>
      dsimp only
      rw [if_pos hfinished, if_pos rfl]
      exact Effect.quiet
    | false =>
      dsimp only
      rw [hfinished, if_neg Bool.false_ne_true, wp_bind, releaseInputReservation,
        wp_bind, wp_get, wp_bind, writeLedger, wp_modify]
      cases hheld : a.ledger.inputReservations.get? h.reservationId with
      | none =>
        -- there was nothing to take out
        show ({ a with ledger := { a.ledger with
          inputReservations := a.ledger.inputReservations.erase _ } } : Accounts τ) = a
        rw [Table.erase_of_none hheld]
      | some reserved =>
        exact .closed handle h.reservationId reserved 0 hheld (Nat.zero_le _)

/-- **What a call does.**  One that returns has one of six effects, and one that raises
has none. -/
theorem run_effect (call : BudgetCall τ) :
    Wp (call.run exceeds) (fun _ a' => Effect a a' (call.closing a))
      (fun _ a' => a' = a) a := by
  cases call with
  | reserveToolRequest clock =>
    rw [BudgetCall.run, wp_bind]
    exact reserveToolRequest_effect clock
  | reserveInputBytes amount clock => exact reserveInputBytes_effect amount clock
  | commit handle amount => exact commit_effect handle amount
  | release handle => exact release_effect handle
  | consumeInputBytes amount clock => exact consumeInputBytes_effect amount clock
  | consumeModelUsage outputBytes tokens cost clock =>
    exact consumeModelUsage_effect outputBytes tokens cost clock

theorem step_effect (call : BudgetCall τ) :
    Effect a (a.step exceeds call) (a.closes exceeds call) := by
  have h := @run_effect _ exceeds a call
  rw [Wp] at h
  rw [Accounts.step, Accounts.closes]
  cases hrun : call.run exceeds a with
  | ok u a' =>
    rw [hrun] at h
    exact h
  | error e a' =>
    rw [hrun] at h
    obtain rfl : a' = a := h
    exact .quiet

theorem raised_unchanged {call : BudgetCall τ} {e : BudgetError} {a' : Accounts τ}
    (hrun : call.run exceeds a = .error e a') : a' = a := by
  have h := @run_effect _ exceeds a call
  rw [Wp, hrun] at h
  exact h

end Effects

/-! ## The invariant -/

/-- The counters agree with the open reservations and stay within the limits. -/
structure BudgetLedger.Balanced (l : BudgetLedger τ) : Prop where
  reserved : l.reservedInputBytes = (l.inputReservations.sumBy fun _ n => n : ℕ)
  input : l.inputBytes + l.reservedInputBytes ≤ l.limits.maxInputBytes
  tools : l.toolRequests ≤ l.limits.maxToolRequests
  models : l.modelRequests ≤ l.limits.maxModelRequests
  output : l.outputBytes ≤ l.limits.maxOutputBytes
  tokens : l.totalTokens ≤ l.limits.maxTotalTokens
  cost : l.costMicrousd ≤ l.limits.maxCostMicrousd
  issued : ∀ id n, l.inputReservations.get? id = some n → id < l.nextReservationId

/-- Reservations that were closed are closed for good. -/
structure BudgetLedger.Closed (l : BudgetLedger τ) (ids : List ℕ) : Prop where
  once : ids.Nodup
  gone : ∀ id ∈ ids, l.inputReservations.get? id = none ∧ id < l.nextReservationId

section Invariant

variable {exceeds : τ → τ → ℕ → Bool} {a a' : Accounts τ} {closed : Option ℕ}

theorem BudgetLedger.Balanced.vacant {l : BudgetLedger τ} (h : l.Balanced) :
    l.inputReservations.get? l.nextReservationId = none := by
  cases hget : l.inputReservations.get? l.nextReservationId with
  | none => rfl
  | some n => exact absurd (h.issued _ n hget) (lt_irrefl _)

theorem Effect.balanced (h : Effect a a' closed) (hbalanced : a.ledger.Balanced) :
    a'.ledger.Balanced := by
  cases h with
  | quiet => exact hbalanced
  | tool hcount => exact { hbalanced with tools := hcount }
  | opened byteCount room =>
    have hvacant := hbalanced.vacant
    refine { hbalanced with reserved := ?_, input := ?_, issued := ?_ }
    · show a.ledger.reservedInputBytes + byteCount = _
      rw [Table.upsert_of_none hvacant, Table.sumBy_insert _ hvacant, hbalanced.reserved]
      exact (Int.natCast_add _ _).symm
    · have hroom : a.ledger.inputBytes + a.ledger.reservedInputBytes + byteCount ≤
        a.ledger.limits.maxInputBytes := room
      show a.ledger.inputBytes + (a.ledger.reservedInputBytes + byteCount) ≤
        (a.ledger.limits.maxInputBytes : ℤ)
      omega
    · intro id n hget
      dsimp only at hget ⊢
      rw [Table.get?_upsert] at hget
      split at hget
      · omega
      exact Nat.lt_succ_of_lt (hbalanced.issued id n hget)
  | closed handle id reserved actual held fits =>
    have hsum := Table.sumBy_erase held fun _ n => n
    have hreserved := hbalanced.reserved
    have hinput := hbalanced.input
    refine { hbalanced with reserved := ?_, input := ?_, issued := ?_ }
    · show a.ledger.reservedInputBytes - reserved =
        (((a.ledger.inputReservations.erase id).sumBy fun _ n => n : ℕ) : ℤ)
      omega
    · show ((a.ledger.inputBytes + actual : ℕ) : ℤ) +
        (a.ledger.reservedInputBytes - reserved) ≤ (a.ledger.limits.maxInputBytes : ℤ)
      omega
    · intro id' n hget
      dsimp only at hget ⊢
      rw [Table.get?_erase] at hget
      split at hget
      · cases hget
      exact hbalanced.issued id' n hget
  | consumed byteCount room =>
    have hroom : a.ledger.inputBytes + a.ledger.reservedInputBytes + byteCount ≤
      a.ledger.limits.maxInputBytes := room
    refine { hbalanced with input := ?_ }
    show ((a.ledger.inputBytes + byteCount : ℕ) : ℤ) + a.ledger.reservedInputBytes ≤
      (a.ledger.limits.maxInputBytes : ℤ)
    omega
  | used outputBytes tokens cost models output total price =>
    exact { hbalanced with
      models := models, output := output, tokens := total, cost := price }

theorem Effect.limits (h : Effect a a' closed) : a'.ledger.limits = a.ledger.limits := by
  cases h <;> rfl

theorem Effect.closed_of {ids : List ℕ} (h : Effect a a' closed)
    (hbalanced : a.ledger.Balanced) (hids : a.ledger.Closed ids) :
    a'.ledger.Closed (ids ++ closed.toList) := by
  cases h with
  | quiet => simpa using hids
  | tool hcount | consumed byteCount room => simpa using ⟨hids.once, hids.gone⟩
  | opened byteCount room =>
    rw [Option.toList_none, List.append_nil]
    refine ⟨hids.once, fun id hid => ?_⟩
    obtain ⟨hnone, hlt⟩ := hids.gone id hid
    dsimp only
    rw [Table.get?_upsert, if_neg (Nat.ne_of_lt hlt)]
    exact ⟨hnone, Nat.lt_succ_of_lt hlt⟩
  | closed handle id reserved actual held fits =>
    have hnew : id ∉ ids := by
      intro hid
      rw [(hids.gone id hid).1] at held
      cases held
    refine ⟨?_, fun id' hid' => ?_⟩
    · rw [Option.toList_some, List.nodup_append]
      refine ⟨hids.once, List.nodup_singleton id, ?_⟩
      rintro x hx y hy rfl
      exact hnew (List.mem_singleton.mp hy ▸ hx)
    · dsimp only
      rw [Table.get?_erase]
      rw [Option.toList_some, List.mem_append, List.mem_singleton] at hid'
      rcases hid' with hold | rfl
      · obtain ⟨hnone, hlt⟩ := hids.gone id' hold
        exact ⟨by rw [hnone, ite_self], hlt⟩
      · exact ⟨if_pos rfl, hbalanced.issued _ reserved held⟩
  | used outputBytes tokens cost models output total price =>
    simpa using ⟨hids.once, hids.gone⟩

theorem after_balanced (calls : List (BudgetCall τ)) {ids : List ℕ}
    (hbalanced : a.ledger.Balanced) (hids : a.ledger.Closed ids) :
    (a.after exceeds calls).ledger.Balanced ∧
      (a.after exceeds calls).ledger.limits = a.ledger.limits ∧
      (ids ++ a.closings exceeds calls).Nodup := by
  induction calls generalizing a ids with
  | nil =>
    rw [Accounts.closings, List.append_nil]
    exact ⟨hbalanced, rfl, hids.once⟩
  | cons call calls ih =>
    have heffect := @step_effect _ exceeds a call
    obtain ⟨hafter, hlimits, hnodup⟩ :=
      ih (heffect.balanced hbalanced) (heffect.closed_of hbalanced hids)
    rw [Accounts.closings, ← List.append_assoc]
    exact ⟨hafter, hlimits.trans heffect.limits, hnodup⟩

theorem balanced_new {plan : BudgetPlan} {startedAt : τ} {l : BudgetLedger τ}
    (h : BudgetLedger.new plan startedAt = .ok l) :
    l.Balanced ∧ l.Closed [] ∧ l.limits = plan.budget := by
  rw [BudgetLedger.new] at h
  split at h
  · cases h
  next hfits =>
  cases h
  refine ⟨⟨rfl, ?_, Nat.zero_le _, Nat.zero_le _, Nat.zero_le _, Nat.zero_le _,
    Nat.zero_le _, ?_⟩, ⟨List.nodup_nil, fun _ h => nomatch h⟩, rfl⟩
  · show ((plan.inputLengths.sum : ℕ) : ℤ) + 0 ≤ (plan.budget.maxInputBytes : ℤ)
    omega
  · intro id n hget
    cases hget

/-- **The ledger is conserved.**  After any calls, refused ones included, what is
reserved is the sum of the open reservations, no counter has passed its limit, and no
reservation was closed twice; and a call that raises changes nothing. -/
theorem budget_ledger_conserved (exceeds : τ → τ → ℕ → Bool) (plan : BudgetPlan)
    (startedAt : τ) (ledger : BudgetLedger τ)
    (hnew : BudgetLedger.new plan startedAt = .ok ledger) (calls : List (BudgetCall τ)) :
    let a := Accounts.after exceeds ⟨ledger, []⟩ calls
    a.ledger.reservedInputBytes = (a.ledger.inputReservations.sumBy fun _ n => n : ℕ) ∧
      a.ledger.inputBytes + a.ledger.reservedInputBytes ≤ plan.budget.maxInputBytes ∧
      a.ledger.toolRequests ≤ plan.budget.maxToolRequests ∧
      a.ledger.modelRequests ≤ plan.budget.maxModelRequests ∧
      a.ledger.outputBytes ≤ plan.budget.maxOutputBytes ∧
      a.ledger.totalTokens ≤ plan.budget.maxTotalTokens ∧
      a.ledger.costMicrousd ≤ plan.budget.maxCostMicrousd ∧
      (Accounts.closings exceeds ⟨ledger, []⟩ calls).Nodup ∧
      ∀ (call : BudgetCall τ) (e : BudgetError) (a' : Accounts τ),
        call.run exceeds a = .error e a' → a' = a := by
  obtain ⟨hbalanced, hclosed, hlimits⟩ := balanced_new hnew
  obtain ⟨h, hafter, hnodup⟩ := @after_balanced _ exceeds ⟨ledger, []⟩ calls [] hbalanced
    hclosed
  rw [hlimits] at hafter
  have hinput := h.input
  have htools := h.tools
  have hmodels := h.models
  have houtput := h.output
  have htokens := h.tokens
  have hcost := h.cost
  rw [hafter] at hinput htools hmodels houtput htokens hcost
  exact ⟨h.reserved, hinput, htools, hmodels, houtput, htokens, hcost, hnodup,
    fun _ _ _ hrun => raised_unchanged hrun⟩

end Invariant

/-! ### A sample run -/

def samplePlan : BudgetPlan where
  runId := "run"
  digest := "digest"
  inputLengths := [10]
  budget :=
    { maxDurationSeconds := 60
      maxToolRequests := 2
      maxInputBytes := 100
      maxModelRequests := 1
      maxOutputBytes := 10
      maxTotalTokens := 10
      maxCostMicrousd := 0 }

/-- Two reservations of which one is committed in part and twice, and one too many. -/
def sampleCalls : List (BudgetCall ℕ) :=
  [.reserveToolRequest 1, .reserveInputBytes (.int 40) 2, .reserveInputBytes (.int 50) 3,
    .reserveInputBytes (.int 1) 4, .commit 0 (.int 30), .commit 0 (.int 30), .release 1,
    .consumeModelUsage (.int 4) (.int 4) (.int 0) 5]

def sampleLedger : BudgetLedger ℕ where
  runId := "run"
  planDigest := "digest"
  limits := samplePlan.budget
  startedAt := 0
  inputBytes := 10

def sampleExceeds (now startedAt limit : ℕ) : Bool := limit < now - startedAt

theorem budget_ledger_conserved_sample :
    let a := Accounts.after sampleExceeds ⟨sampleLedger, []⟩ sampleCalls
    a.ledger.inputBytes = 40 ∧ a.ledger.inputBytes + a.ledger.reservedInputBytes ≤ 100 ∧
      Accounts.closings sampleExceeds ⟨sampleLedger, []⟩ sampleCalls = [1, 2] := by
  have hnew : BudgetLedger.new samplePlan 0 = .ok sampleLedger := rfl
  have hrun := budget_ledger_conserved sampleExceeds samplePlan 0 sampleLedger hnew sampleCalls
  exact ⟨by decide, hrun.2.1, by decide⟩

end Ecosystem.Policy
