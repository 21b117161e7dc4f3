import Ecosystem.Lib.Checks
import Ecosystem.Policy.Budget

/-!
# Activating plans

The registers of `PolicyEngine`: decisions, plans, the active plan and the ledger of
each run.  An activation checks the plan, consumes the decision and makes the plan
active, each under a lock of its own.

What an engine decides, the refresh of its evidence and the binding of a no-model plan
are answers here.
-/

namespace Ecosystem.Policy

open Ecosystem.Lib

/-! ## Records -/

inductive DecisionEffect
  | allow
  | deny
deriving DecidableEq

/-- A `PolicyDecision`; an instant that cannot be parsed is missing. -/
structure DecisionRecord where
  id : String
  runId : String
  createdAt : Option ℤ
  subjectKind : String
  subjectId : String
  subjectDigest : String
  effect : DecisionEffect
  semanticConfigDigest : String
  expiresAt : Option ℤ
  rest : String

inductive PlanSpec
  | runPlan (inputLengths : List ℕ) (budget : BudgetLimits) (rest : String)
  | noModelRunPlan (rest : String)
  | other (kind rest : String)

structure PlanRecord where
  id : String
  runId : String
  spec : PlanSpec

def PlanSpec.kind : PlanSpec → String
  | .runPlan _ _ _ => "RunPlan"
  | .noModelRunPlan _ => "NoModelRunPlan"
  | .other kind _ => kind

structure Subject where
  kind : String
  id : String
  runId : Option String
  digest : String

inductive PolicyError
  | runtime (code message : String)
  | budget (e : BudgetError)
  /-- a record of the wrong shape, or a field that is not there -/
  | record (message : String)
deriving DecidableEq

/-- An argument that `validate_record` is called on. -/
abbrev Argument (α : Type) := Except PolicyError α

/-! ## The registers -/

structure IssuedDecision where
  digest : String
  consumed : Bool

/-- Run plans and no-model plans have registers of their own. -/
inductive Lane
  | run
  | noModel
deriving DecidableEq

structure Engine (τ : Type) where
  issuedDecisions : Table String IssuedDecision := .empty
  issuedPlans : Lane → Table String String := fun _ => .empty
  activePlans : Lane → Table String String := fun _ => .empty
  budgetLedgers : Table String (Accounts τ) := .empty

/-- What an engine is built with: its configuration, and `semantic_digest`. -/
structure Profile where
  configDigest : String
  planDigest : PlanRecord → String
  decisionDigest : DecisionRecord → String

variable {τ : Type}

abbrev EngineM (τ : Type) := EStateM PolicyError (Engine τ)

/-- `d[key] = value`. -/
def assign {ρ : Type} (t : Table String ρ) (key : String) (value : ρ) : Table String ρ :=
  t.upsert key value fun _ => value

@[simp] theorem get?_assign {ρ : Type} (t : Table String ρ) (key : String) (value : ρ)
    (k : String) : (assign t key value).get? k = if k = key then some value else t.get? k := by
  rw [assign, Table.get?_upsert]
  cases t.get? key <;> rfl

/-- The arguments and the answers that a call raises on. -/
def liftResult {α : Type} : Except PolicyError α → EngineM τ α
  | .ok a => pure a
  | .error e => throw e

def refuse (code message : String) : PolicyError :=
  .runtime code message

section Methods

variable (profile : Profile)

def PlanRecord.subject (plan : PlanRecord) : Subject where
  kind := plan.spec.kind
  id := plan.id
  runId := some plan.runId
  digest := profile.planDigest plan

/-! ## Issuing -/

/-- `_register_decision`: a decision that is issued again stays consumed. -/
def registerDecision (decision : DecisionRecord) : EngineM τ Unit := do
  let digest := profile.decisionDigest decision
  let e ← get
  let existing := e.issuedDecisions.get? decision.id
  check (existing.all fun issued => issued.digest = digest)
    (refuse "ECO_DECISION_ID_CONFLICT"
      "Decision id was already issued for different content")
  modify fun e =>
    { e with
      issuedDecisions := assign e.issuedDecisions decision.id
        ⟨digest, existing.elim false IssuedDecision.consumed⟩ }

/-- What `_register_plan` and `_register_no_model_plan` do. -/
def register (lane : Lane) (message : String) (plan : PlanRecord) : EngineM τ Unit := do
  let digest := profile.planDigest plan
  let e ← get
  check (((e.issuedPlans lane).get? plan.id).all fun existing => existing = digest)
    (refuse "ECO_PLAN_ID_CONFLICT" message)
  modify fun e =>
    { e with
      issuedPlans := Function.update e.issuedPlans lane
        (assign (e.issuedPlans lane) plan.id digest) }

def registerPlan : PlanRecord → EngineM τ Unit :=
  register profile .run "Plan id was already issued for different content"

def registerNoModelPlan : PlanRecord → EngineM τ Unit :=
  register profile .noModel "No-model plan id was already issued for different content"

/-! ## Decisions -/

/-- `_timestamp`: the clock has to know its zone. -/
def timestamp (now : Option ℤ) : Except PolicyError ℤ :=
  match now with
  | some now => .ok now
  | none => .error (refuse "ECO_CLOCK_INVALID" "Runtime clock must be timezone-aware")

def parseTimestamp (value : Option ℤ) : Except PolicyError ℤ :=
  match value with
  | some instant => .ok instant
  | none => .error (refuse "ECO_TIME_INVALID" "Runtime timestamp is invalid")

def expect (holds : Bool) (code message : String) : Except PolicyError Unit :=
  Checks.require holds (refuse code message)

/-- The decision was issued with this content and is still to be used. -/
def Engine.assertIssued (e : Engine τ) (decision : DecisionRecord) :
    Except PolicyError Unit := do
  let issued := e.issuedDecisions.get? decision.id
  expect (issued.any fun i => i.digest = profile.decisionDigest decision)
    "ECO_DECISION_UNTRUSTED" "Decision was not issued by this policy engine"
  expect (issued.all fun i => !i.consumed)
    "ECO_DECISION_REPLAYED" "Decision was already consumed"

/-- `assert_decision_current` on records that are valid. -/
def Engine.assertCurrent (e : Engine τ) (decision : DecisionRecord) (subject : Subject)
    (now : ℤ) : Except PolicyError Unit := do
  expect (decision.effect = .allow)
    "ECO_DECISION_DENIED" "Denied decision cannot authorize execution"
  expect (some decision.runId = subject.runId)
    "ECO_DECISION_MISMATCH" "Decision belongs to another run"
  expect (decision.semanticConfigDigest = profile.configDigest)
    "ECO_CONFIG_DRIFT" "Decision uses another policy snapshot"
  expect (decision.subjectKind = subject.kind && decision.subjectId = subject.id &&
      decision.subjectDigest = subject.digest)
    "ECO_DECISION_MISMATCH" "Decision subject does not match"
  let createdAt ← parseTimestamp decision.createdAt
  expect (createdAt ≤ now)
    "ECO_DECISION_TIME_INVALID" "Decision was created in the future"
  let expiresAt ← parseTimestamp decision.expiresAt
  expect (now < expiresAt) "ECO_DECISION_EXPIRED" "Decision has expired"
  e.assertIssued profile decision

def assertDecisionCurrent (decision : Argument DecisionRecord) (subject : Argument Subject)
    (now : Option ℤ) : EngineM τ DecisionRecord := do
  let now ← liftResult (timestamp now)
  let decision ← liftResult decision
  let subject ← liftResult subject
  let e ← get
  liftResult (e.assertCurrent profile decision subject now)
  return decision

/-- `consume_decision`: what was issued is looked up once more, under the lock. -/
def consumeDecision (decision : Argument DecisionRecord) (subject : Argument Subject)
    (now : Option ℤ) : EngineM τ Unit := do
  let decision ← assertDecisionCurrent profile decision subject now
  let e ← get
  liftResult (e.assertIssued profile decision)
  modify fun e =>
    { e with
      issuedDecisions := e.issuedDecisions.modify decision.id
        fun issued => { issued with consumed := true } }

/-! ## Activation -/

/-- The arguments of an activation, and what its surroundings answer. -/
structure Activation (τ : Type) where
  lane : Lane
  plan : Argument PlanRecord
  decision : Argument DecisionRecord
  now : Option ℤ
  /-- `_refresh_trusted_evidence` -/
  refreshed : Except PolicyError Unit
  /-- `_no_model_plan_binding_error` -/
  bindingError : Option String
  /-- the monotonic clock, which a new ledger reads -/
  startedAt : τ

def assertPlanIssued (lane : Lane) (plan : PlanRecord) : EngineM τ Unit := do
  let e ← get
  check ((e.issuedPlans lane).get? plan.id = some (profile.planDigest plan))
    (refuse "ECO_PLAN_UNTRUSTED" "Plan was not issued by this policy engine")

/-- What `activate_no_model_plan` asks of a plan beyond `activate_plan`. -/
def assertNoModel (plan : PlanRecord) : EngineM τ Unit :=
  check (plan.spec.kind = "NoModelRunPlan")
    (refuse "ECO_PLAN_UNTRUSTED" "Plan is not a no-model plan")

def assertBound (bindingError : Option String) : EngineM τ Unit :=
  match bindingError with
  | none => pure ()
  | some code =>
    throw (refuse code "No-model plan no longer matches trusted authority")

/-- An activation up to the consumption of its decision. -/
def Activation.grant (a : Activation τ) : EngineM τ PlanRecord := do
  let _ ← liftResult (timestamp a.now)
  liftResult a.refreshed
  let plan ← liftResult a.plan
  match a.lane with
  | .run => assertPlanIssued profile .run plan
  | .noModel => do
    assertNoModel plan
    assertPlanIssued profile .noModel plan
    assertBound a.bindingError
  consumeDecision profile a.decision (.ok (plan.subject profile)) a.now
  return plan

def makeActive (lane : Lane) (message : String) (plan : PlanRecord) : EngineM τ Unit := do
  let digest := profile.planDigest plan
  let e ← get
  check (((e.activePlans lane).get? plan.runId).all fun existing => existing = digest)
    (refuse "ECO_PLAN_ID_CONFLICT" message)
  modify fun e =>
    { e with
      activePlans := Function.update e.activePlans lane
        (assign (e.activePlans lane) plan.runId digest) }

/-- `BudgetLedger(plan)`. -/
def newLedger (plan : PlanRecord) (startedAt : τ) : Except PolicyError (BudgetLedger τ) :=
  match plan.spec with
  | .runPlan inputLengths budget _ =>
    (BudgetLedger.new ⟨plan.runId, profile.planDigest plan, inputLengths, budget⟩
      startedAt).mapError .budget
  | _ => .error (.record "inputs")

def openLedger (plan : PlanRecord) (startedAt : τ) : EngineM τ Unit := do
  let e ← get
  match e.budgetLedgers.get? plan.runId with
  | some _ => pure ()
  | none => do
    let ledger ← liftResult (newLedger profile plan startedAt)
    modify fun e =>
      { e with budgetLedgers := assign e.budgetLedgers plan.runId ⟨ledger, []⟩ }

/-- `activate_plan` and `activate_no_model_plan`. -/
def Activation.run (a : Activation τ) : EngineM τ Unit := do
  let plan ← a.grant profile
  match a.lane with
  | .run => do
    makeActive profile .run "Another plan is active for this run" plan
    openLedger profile plan a.startedAt
  | .noModel => makeActive profile .noModel "Another no-model plan is active for this run" plan

/-! ## Calls -/

/-- The public calls that touch a register.  `plan_run` and `plan_no_model_run` issue a
plan, unless they deny, and then a decision, and may raise before either; the three
`authorize` calls issue a decision; a ledger is used by whoever holds it. -/
inductive EngineCall (τ : Type)
  | planRun (plan : Option PlanRecord) (decision : Argument DecisionRecord)
  | planNoModelRun (plan : Option PlanRecord) (decision : Argument DecisionRecord)
  | authorize (decision : Argument DecisionRecord)
  | assertDecisionCurrent (decision : Argument DecisionRecord) (subject : Argument Subject)
      (now : Option ℤ)
  | consumeDecision (decision : Argument DecisionRecord) (subject : Argument Subject)
      (now : Option ℤ)
  | activate (a : Activation τ)
  | spend (runId : String) (call : BudgetCall τ)

def issue (decision : Argument DecisionRecord) : EngineM τ Unit := do
  let decision ← liftResult decision
  registerDecision profile decision

variable (exceeds : τ → τ → ℕ → Bool)

def EngineCall.run : EngineCall τ → EngineM τ Unit
  | .planRun plan decision => do
    match plan with
    | none => pure ()
    | some plan => registerPlan profile plan
    issue profile decision
  | .planNoModelRun plan decision => do
    match plan with
    | none => pure ()
    | some plan => registerNoModelPlan profile plan
    issue profile decision
  | .authorize decision => issue profile decision
  | .assertDecisionCurrent decision subject now => do
    let _ ← Policy.assertDecisionCurrent profile decision subject now
  | .consumeDecision decision subject now =>
    Policy.consumeDecision profile decision subject now
  | .activate a => a.run profile
  | .spend runId call =>
    modify fun e =>
      { e with
        budgetLedgers := e.budgetLedgers.modify runId fun a => a.step exceeds call }

/-- The engine behind a call, whether it returns or raises. -/
def Engine.step (e : Engine τ) (call : EngineCall τ) : Engine τ :=
  match call.run profile exceeds e with
  | .ok _ e' => e'
  | .error _ e' => e'

def Engine.after (e : Engine τ) (calls : List (EngineCall τ)) : Engine τ :=
  calls.foldl (Engine.step profile exceeds) e

def Engine.consumes {α : Type} (e : Engine τ) (c : EngineM τ α)
    (decision : Argument DecisionRecord) : Option String :=
  match c e, decision with
  | .ok _ _, .ok decision => some decision.id
  | _, _ => none

def Engine.consumption (e : Engine τ) : EngineCall τ → Option String
  | .consumeDecision decision subject now =>
    e.consumes (Policy.consumeDecision profile decision subject now) decision
  | .activate a => e.consumes (a.grant profile) a.decision
  | _ => none

def Engine.consumptions (e : Engine τ) : List (EngineCall τ) → List String
  | [] => []
  | call :: calls =>
    (e.consumption profile call).toList ++ (e.step profile exceeds call).consumptions calls

end Methods

/-! ## What an activation does -/

section Effects

variable {profile : Profile} {e : Engine τ} {a : Activation τ}

def Engine.Consumed (e : Engine τ) (id : String) : Prop :=
  ∃ issued, e.issuedDecisions.get? id = some issued ∧ issued.consumed = true

def Engine.consume (e : Engine τ) (id : String) : Engine τ :=
  { e with
    issuedDecisions := e.issuedDecisions.modify id
      fun issued => { issued with consumed := true } }

def Engine.markActive (e : Engine τ) (lane : Lane) (runId digest : String) : Engine τ :=
  { e with
    activePlans := Function.update e.activePlans lane
      (assign (e.activePlans lane) runId digest) }

theorem get?_markActive (lane lane' : Lane) (runId digest runId' : String) :
    ((e.markActive lane runId digest).activePlans lane').get? runId' =
      if lane' = lane ∧ runId' = runId then some digest
      else (e.activePlans lane').get? runId' := by
  show (Function.update e.activePlans lane (assign (e.activePlans lane) runId digest)
    lane').get? runId' = _
  rw [Function.update_apply]
  by_cases hlane : lane' = lane
  · rw [if_pos hlane, get?_assign, hlane]
    simp only [true_and]
  · rw [if_neg hlane, if_neg fun h => hlane h.1]

theorem get?_markActive_self (lane : Lane) (runId digest : String) :
    ((e.markActive lane runId digest).activePlans lane).get? runId = some digest := by
  rw [get?_markActive, if_pos ⟨rfl, rfl⟩]

/-- The consumed decisions, the active plans and the ledgers are the same. -/
structure Engine.SameGrants (e e' : Engine τ) : Prop where
  consumed : ∀ id, e'.Consumed id ↔ e.Consumed id
  active : e'.activePlans = e.activePlans
  ledgers : e'.budgetLedgers = e.budgetLedgers

/-- Every check in front of the consumption passes. -/
structure Activation.Admitted (profile : Profile) (e : Engine τ) (a : Activation τ)
    (plan : PlanRecord) (decision : DecisionRecord) (now : ℤ) : Prop where
  clock : a.now = some now
  evidence : a.refreshed = .ok ()
  planned : a.plan = .ok plan
  issued : (e.issuedPlans a.lane).get? plan.id = some (profile.planDigest plan)
  noModel : a.lane = .noModel → plan.spec.kind = "NoModelRunPlan" ∧ a.bindingError = none
  decided : a.decision = .ok decision
  current : e.assertCurrent profile decision (plan.subject profile) now = .ok ()

def Engine.OtherActive (profile : Profile) (e : Engine τ) (lane : Lane)
    (plan : PlanRecord) : Prop :=
  ∃ digest, (e.activePlans lane).get? plan.runId = some digest ∧
    digest ≠ profile.planDigest plan

/-- No ledger can be opened for the plan: its inputs exceed its budget. -/
def PlanRecord.Overdrawn (plan : PlanRecord) : Prop :=
  match plan.spec with
  | .runPlan inputLengths budget _ => budget.maxInputBytes < inputLengths.sum
  | _ => True

/-- The ledger is one of a plan: its counters may have moved on. -/
structure LedgerOf (profile : Profile) (plan : PlanRecord) (accounts : Accounts τ) :
    Prop where
  run : accounts.ledger.runId = plan.runId
  digest : accounts.ledger.planDigest = profile.planDigest plan
  limits : ∃ inputLengths rest, plan.spec = .runPlan inputLengths accounts.ledger.limits rest

def Engine.Settled (profile : Profile) (e : Engine τ) : Prop :=
  ∀ runId accounts, e.budgetLedgers.get? runId = some accounts →
    ∃ plan, LedgerOf profile plan accounts ∧ plan.runId = runId ∧
      (e.activePlans .run).get? runId = some (profile.planDigest plan)

/-! ### The rules -/

variable {E : PolicyError → Engine τ → Prop} {decision : DecisionRecord} {lane : Lane}
  {plan : PlanRecord} {Q : Unit → Engine τ → Prop} {startedAt : τ} {id : String}

theorem wp_liftResult {α : Type} {x : Except PolicyError α} {Q : α → Engine τ → Prop} :
    Wp (liftResult x) Q E e ↔ (∀ v, x = .ok v → Q v e) ∧ ∀ err, x = .error err → E err e := by
  cases x with
  | ok v => exact ⟨fun h => ⟨fun _ hv => by cases hv; exact h, nofun⟩, fun h => h.1 v rfl⟩
  | error err =>
    exact ⟨fun h => ⟨nofun, fun _ herr => by cases herr; exact h⟩, fun h => h.2 err rfl⟩

theorem expect_eq_ok {holds : Bool} {code message : String} {u : Unit} :
    expect holds code message = .ok u ↔ holds = true :=
  Checks.require_eq_ok

theorem timestamp_eq_ok {now : Option ℤ} {t : ℤ} : timestamp now = .ok t ↔ now = some t := by
  cases now with
  | none => exact ⟨nofun, nofun⟩
  | some t' => exact ⟨fun h => by cases h; rfl, fun h => by cases h; rfl⟩

theorem assertIssued_eq_ok (h : e.assertIssued profile decision = .ok ()) :
    ∃ issued, e.issuedDecisions.get? decision.id = some issued ∧ issued.consumed = false := by
  rw [Engine.assertIssued, bind_eq_ok] at h
  obtain ⟨_, hknown, hunused⟩ := h
  rw [expect_eq_ok] at hknown hunused
  cases hget : e.issuedDecisions.get? decision.id with
  | none =>
    rw [hget] at hknown
    cases hknown
  | some issued =>
    rw [hget, Option.all_some, Bool.not_eq_true'] at hunused
    exact ⟨issued, rfl, hunused⟩

theorem assertIssued_of_current {subject : Subject} {now : ℤ}
    (h : e.assertCurrent profile decision subject now = .ok ()) :
    e.assertIssued profile decision = .ok () := by
  simp only [Engine.assertCurrent, bind_eq_ok] at h
  obtain ⟨_, _, _, _, _, _, _, _, _, _, _, _, _, _, _, _, h⟩ := h
  exact h

/-- What `consume_decision` consumes was current, and it is refused without a trace. -/
theorem wp_consumeDecision {decision : Argument DecisionRecord} {subject : Argument Subject}
    {now : Option ℤ} :
    Wp (consumeDecision profile decision subject now)
      (fun _ e' => ∃ d s t, decision = .ok d ∧ subject = .ok s ∧ now = some t ∧
        e.assertCurrent profile d s t = .ok () ∧ e' = e.consume d.id)
      (fun _ e' => (∀ d s t, decision = .ok d → subject = .ok s → now = some t →
        e.assertCurrent profile d s t ≠ .ok ()) ∧ e' = e) e := by
  rw [consumeDecision, wp_bind, assertDecisionCurrent, wp_bind, wp_liftResult]
  refine ⟨fun t ht => ?_, fun err herr => ⟨fun d s t _ _ ht => ?_, rfl⟩⟩
  swap
  · rw [← timestamp_eq_ok, herr] at ht
    cases ht
  rw [timestamp_eq_ok] at ht
  rw [wp_bind, wp_liftResult]
  refine ⟨fun d hd => ?_, fun err herr => ⟨fun d s t hd _ _ => ?_, rfl⟩⟩
  swap
  · rw [herr] at hd
    cases hd
  rw [wp_bind, wp_liftResult]
  refine ⟨fun s hs => ?_, fun err herr => ⟨fun d s t _ hs _ => ?_, rfl⟩⟩
  swap
  · rw [herr] at hs
    cases hs
  rw [wp_bind, wp_get, wp_bind, wp_liftResult]
  refine ⟨fun u hcurrent => ?_, fun err herr => ⟨fun d' s' t' hd' hs' ht' hcurrent => ?_, rfl⟩⟩
  swap
  · rw [hd, Except.ok.injEq] at hd'
    rw [hs, Except.ok.injEq] at hs'
    rw [ht, Option.some.injEq] at ht'
    rw [hd', hs', ht', hcurrent] at herr
    cases herr
  rw [wp_pure, wp_bind, wp_get, wp_bind, wp_liftResult]
  refine ⟨fun _ _ => ⟨d, s, t, hd, hs, ht, hcurrent, rfl⟩, fun err herr => ?_⟩
  -- the second look finds what the first one found
  rw [assertIssued_of_current hcurrent] at herr
  cases herr

theorem wp_assertPlanIssued :
    Wp (assertPlanIssued profile lane plan) Q E e ↔
      ((e.issuedPlans lane).get? plan.id = some (profile.planDigest plan) → Q () e) ∧
        ((e.issuedPlans lane).get? plan.id ≠ some (profile.planDigest plan) →
          E (refuse "ECO_PLAN_UNTRUSTED" "Plan was not issued by this policy engine") e) := by
  rw [assertPlanIssued, wp_bind, wp_get, wp_check, decide_eq_true_eq, decide_eq_false_iff_not]

theorem wp_grant :
    Wp (a.grant profile)
      (fun plan e' => ∃ decision now, a.Admitted profile e plan decision now ∧
        e' = e.consume decision.id)
      (fun _ e' => (∀ plan decision now, ¬ a.Admitted profile e plan decision now) ∧ e' = e)
      e := by
  rw [Activation.grant, wp_bind, wp_liftResult]
  refine ⟨fun t ht => ?_, fun err herr => ⟨fun plan d now h => ?_, rfl⟩⟩
  swap
  · rw [timestamp_eq_ok.mpr h.clock] at herr
    cases herr
  rw [timestamp_eq_ok] at ht
  rw [wp_bind, wp_liftResult]
  refine ⟨fun _ hevidence => ?_, fun err herr => ⟨fun plan d now h => ?_, rfl⟩⟩
  swap
  · rw [h.evidence] at herr
    cases herr
  rw [wp_bind, wp_liftResult]
  refine ⟨fun plan hplan => ?_, fun err herr => ⟨fun plan d now h => ?_, rfl⟩⟩
  swap
  · rw [h.planned] at herr
    cases herr
  have hsame : ∀ plan' d now, a.Admitted profile e plan' d now → plan' = plan := by
    intro plan' d now h
    have heq := h.planned.symm.trans hplan
    rwa [Except.ok.injEq] at heq
  -- the consumption, behind the checks of either lane
  have hconsume : (e.issuedPlans a.lane).get? plan.id = some (profile.planDigest plan) →
      (a.lane = .noModel → plan.spec.kind = "NoModelRunPlan" ∧ a.bindingError = none) →
      Wp (consumeDecision profile a.decision (.ok (plan.subject profile)) a.now)
        (fun _ e' => ∃ decision now, a.Admitted profile e plan decision now ∧
          e' = e.consume decision.id)
        (fun _ e' => (∀ plan decision now, ¬ a.Admitted profile e plan decision now) ∧
          e' = e) e := by
    intro hissued hlane
    refine wp_consumeDecision.mono ?_ ?_
    · rintro _ e' ⟨d, s, now, hd, hs, hnow, hcurrent, rfl⟩
      cases hs
      exact ⟨d, now, ⟨hnow, hevidence, hplan, hissued, hlane, hd, hcurrent⟩, rfl⟩
    · rintro _ e' ⟨hnone, rfl⟩
      refine ⟨fun plan' d now h => ?_, rfl⟩
      obtain rfl := hsame plan' d now h
      exact hnone d _ now h.decided rfl h.clock h.current
  cases hlane : a.lane with
  | run =>
    rw [wp_bind, wp_assertPlanIssued]
    refine ⟨fun hissued => ?_, fun hissued => ⟨fun plan' d now h => ?_, rfl⟩⟩
    · rw [wp_bind]
      refine hconsume (hlane ▸ hissued) fun h => ?_
      rw [hlane] at h
      cases h
    · obtain rfl := hsame plan' d now h
      exact hissued (hlane ▸ h.issued)
  | noModel =>
    rw [wp_bind, assertNoModel, wp_check]
    refine ⟨fun hkind => ?_, fun hkind => ⟨fun plan' d now h => ?_, rfl⟩⟩
    swap
    · obtain rfl := hsame plan' d now h
      exact of_decide_eq_false hkind (h.noModel hlane).1
    rw [wp_bind, wp_assertPlanIssued]
    refine ⟨fun hissued => ?_, fun hissued => ⟨fun plan' d now h => ?_, rfl⟩⟩
    swap
    · obtain rfl := hsame plan' d now h
      exact hissued (hlane ▸ h.issued)
    cases hbinding : a.bindingError with
    | some code =>
      refine ⟨fun plan' d now h => ?_, rfl⟩
      rw [(h.noModel hlane).2] at hbinding
      cases hbinding
    | none =>
      rw [assertBound, wp_bind, wp_pure, wp_bind]
      exact hconsume (hlane ▸ hissued) fun _ => ⟨of_decide_eq_true hkind, hbinding⟩

theorem wp_makeActive {message : String} :
    Wp (makeActive profile lane message plan) Q E e ↔ (¬ e.OtherActive profile lane plan →
        Q () (e.markActive lane plan.runId (profile.planDigest plan))) ∧
      (e.OtherActive profile lane plan → E (refuse "ECO_PLAN_ID_CONFLICT" message) e) := by
  rw [makeActive, wp_bind, wp_get, wp_bind, wp_check]
  have hother : (((e.activePlans lane).get? plan.runId).all fun existing =>
      existing = profile.planDigest plan) = true ↔ ¬ e.OtherActive profile lane plan := by
    rw [Engine.OtherActive]
    cases (e.activePlans lane).get? plan.runId with
    | none | some digest => simp
  rw [hother, ← Bool.not_eq_true, hother, not_not]
  rfl

theorem newLedger_of_overdrawn {plan : PlanRecord} {startedAt : τ} (h : plan.Overdrawn) :
    ∃ err, newLedger profile plan startedAt = .error err := by
  rw [PlanRecord.Overdrawn] at h
  rw [newLedger]
  cases hspec : plan.spec with
  | runPlan inputLengths budget rest =>
    rw [hspec] at h
    dsimp only at h ⊢
    rw [BudgetLedger.new, if_pos h]
    exact ⟨_, rfl⟩
  | noModelRunPlan rest | other kind rest => exact ⟨_, rfl⟩

theorem newLedger_of_covered {plan : PlanRecord} {startedAt : τ} (h : ¬ plan.Overdrawn) :
    ∃ ledger, newLedger profile plan startedAt = .ok ledger ∧
      LedgerOf profile plan ⟨ledger, []⟩ := by
  rw [PlanRecord.Overdrawn] at h
  rw [newLedger]
  cases hspec : plan.spec with
  | runPlan inputLengths budget rest =>
    rw [hspec] at h
    dsimp only at h ⊢
    rw [BudgetLedger.new, if_neg h]
    exact ⟨_, rfl, rfl, rfl, inputLengths, rest, hspec⟩
  | noModelRunPlan rest | other kind rest =>
    rw [hspec] at h
    exact absurd trivial h

theorem wp_openLedger
    (hopen : ∀ accounts, e.budgetLedgers.get? plan.runId = some accounts → Q () e)
    (hnew : e.budgetLedgers.get? plan.runId = none → ¬ plan.Overdrawn →
      ∀ accounts, LedgerOf profile plan accounts →
        Q () { e with budgetLedgers := assign e.budgetLedgers plan.runId accounts })
    (hrefused : e.budgetLedgers.get? plan.runId = none → plan.Overdrawn → ∀ err, E err e) :
    Wp (openLedger profile plan startedAt) Q E e := by
  rw [openLedger, wp_bind, wp_get]
  cases hget : e.budgetLedgers.get? plan.runId with
  | some accounts => exact hopen accounts hget
  | none =>
    rw [wp_bind, wp_liftResult]
    by_cases hover : plan.Overdrawn
    · obtain ⟨err, herr⟩ := @newLedger_of_overdrawn τ profile plan startedAt hover
      rw [herr]
      exact ⟨nofun, fun _ _ => hrefused hget hover _⟩
    · obtain ⟨ledger, hledger, hof⟩ :=
        @newLedger_of_covered τ profile plan startedAt hover
      rw [hledger]
      refine ⟨fun l hl => ?_, nofun⟩
      cases hl
      exact hnew hget hover ⟨ledger, []⟩ hof

/-! ### The outcome -/

def Activation.Granted (profile : Profile) (a : Activation τ) (e : Engine τ) : Prop :=
  ∃ plan decision, a.plan = .ok plan ∧ a.decision = .ok decision ∧
    e.Consumed decision.id ∧
    (e.activePlans a.lane).get? plan.runId = some (profile.planDigest plan) ∧
    (a.lane = .run → ∃ accounts same, e.budgetLedgers.get? plan.runId = some accounts ∧
      LedgerOf profile same accounts ∧ profile.planDigest same = profile.planDigest plan)

/-- An activation that raises changes nothing, and one that returns grants its plan. -/
def Activation.Atomic (profile : Profile) (e : Engine τ) (a : Activation τ) : Prop :=
  Wp (a.run profile) (fun _ e' => a.Granted profile e') (fun _ e' => e.SameGrants e') e

/-- The checks pass and the last step does not: another plan is active for the run, or
the run has no ledger and the plan is overdrawn. -/
def Activation.Spoils (profile : Profile) (e : Engine τ) (a : Activation τ) : Prop :=
  ∃ plan decision now, a.Admitted profile e plan decision now ∧
    (e.OtherActive profile a.lane plan ∨
      (a.lane = .run ∧ e.budgetLedgers.get? plan.runId = none ∧ plan.Overdrawn))

theorem consumed_consume {issued : IssuedDecision}
    (h : e.issuedDecisions.get? id = some issued) : (e.consume id).Consumed id := by
  refine ⟨{ issued with consumed := true }, ?_, rfl⟩
  rw [Engine.consume, Table.get?_modify_self, h, Option.map_some]

theorem Engine.Consumed.consume (h : e.Consumed id) (id' : String) :
    (e.consume id').Consumed id := by
  obtain ⟨issued, hget, hconsumed⟩ := h
  rw [Engine.Consumed, Engine.consume, Table.get?_modify, hget]
  split
  · exact ⟨_, rfl, rfl⟩
  · exact ⟨issued, rfl, hconsumed⟩

theorem not_consumed {issued : IssuedDecision}
    (h : e.issuedDecisions.get? id = some issued) (hunused : issued.consumed = false) :
    ¬ e.Consumed id := by
  rintro ⟨issued', hget', hconsumed⟩
  rw [h, Option.some.injEq] at hget'
  rw [← hget', hunused] at hconsumed
  cases hconsumed

theorem Activation.Admitted.burns {now : ℤ} (h : a.Admitted profile e plan decision now) :
    ¬ e.Consumed decision.id ∧ (e.consume decision.id).Consumed decision.id := by
  obtain ⟨issued, hget, hunused⟩ := assertIssued_eq_ok (assertIssued_of_current h.current)
  exact ⟨not_consumed hget hunused, consumed_consume hget⟩

/-- **A late refusal burns the decision.** -/
theorem Activation.Spoils.not_atomic (h : a.Spoils profile e) : ¬ a.Atomic profile e := by
  intro hatomic
  obtain ⟨plan, decision, now, hadmitted, hlate⟩ := h
  obtain ⟨hunused, hburnt⟩ := hadmitted.burns
  have hraises : Wp (a.run profile) (fun _ _ => False)
      (fun _ e' => e'.Consumed decision.id) e := by
    rw [Activation.run, wp_bind]
    refine wp_grant.mono ?_ fun _ _ hnone => absurd hadmitted (hnone.1 plan decision now)
    rintro plan' e' ⟨decision', now', hadmitted', rfl⟩
    obtain rfl : plan' = plan := by
      simpa using hadmitted'.planned.symm.trans hadmitted.planned
    obtain rfl : decision' = decision := by
      simpa using hadmitted'.decided.symm.trans hadmitted.decided
    have hfirst : ∀ lane message, a.lane = lane → e.OtherActive profile a.lane plan' →
        ∀ Q : Unit → Engine τ → Prop, Wp (makeActive profile lane message plan') Q
          (fun _ e' => e'.Consumed decision'.id) (e.consume decision'.id) := by
      rintro lane message rfl hother Q
      rw [wp_makeActive]
      exact ⟨fun hnone => absurd hother hnone, fun _ => hburnt⟩
    cases hlane : a.lane with
    | noModel =>
      rcases hlate with hother | ⟨hrun, _⟩
      · exact hfirst .noModel _ hlane hother _
      · rw [hlane] at hrun
        cases hrun
    | run =>
      dsimp only
      rw [wp_bind]
      rcases hlate with hother | ⟨_, hnone, hover⟩
      · exact hfirst .run _ hlane hother _
      · rw [wp_makeActive]
        refine ⟨fun _ => ?_, fun _ => hburnt⟩
        refine wp_openLedger (fun accounts hget => ?_) (fun _ hcovered => ?_)
          fun _ _ _ => hburnt
        · have hget' : e.budgetLedgers.get? plan'.runId = some accounts := hget
          rw [hnone] at hget'
          cases hget'
        · exact absurd hover hcovered
  refine Wp.disjoint hatomic hraises (fun _ _ _ h => h) fun _ e' hsame hconsumed => ?_
  exact hunused ((hsame.consumed decision.id).mp hconsumed)

/-- **Otherwise an activation is atomic**, if each ledger is that of the active plan. -/
theorem atomic_of_settled (hsettled : e.Settled profile) (h : ¬ a.Spoils profile e) :
    a.Atomic profile e := by
  rw [Activation.Atomic, Activation.run, wp_bind]
  refine wp_grant.mono ?_ ?_
  · rintro plan e' ⟨decision, now, hadmitted, rfl⟩
    have hburnt := hadmitted.burns.2
    have hother : ¬ e.OtherActive profile a.lane plan := fun hother =>
      h ⟨plan, decision, now, hadmitted, .inl hother⟩
    cases hlane : a.lane with
    | noModel =>
      dsimp only
      rw [wp_makeActive]
      refine ⟨fun _ => ?_, fun hbusy => absurd (hlane ▸ hbusy) hother⟩
      refine ⟨plan, decision, hadmitted.planned, hadmitted.decided, hburnt, ?_, ?_⟩
      · rw [hlane, get?_markActive_self]
      · rw [hlane]
        nofun
    | run =>
      dsimp only
      rw [wp_bind, wp_makeActive]
      refine ⟨fun _ => ?_, fun hbusy => absurd (hlane ▸ hbusy) hother⟩
      refine wp_openLedger (fun accounts hget => ?_) (fun hfree hcovered accounts hof => ?_)
        fun hfree hover => absurd ⟨plan, decision, now, hadmitted, .inr ⟨hlane, hfree, hover⟩⟩ h
      · refine ⟨plan, decision, hadmitted.planned, hadmitted.decided, hburnt, ?_, fun _ => ?_⟩
        · rw [hlane, get?_markActive_self]
        · -- the ledger is that of the plan that was active before
          obtain ⟨same, hof, _, hactive⟩ := hsettled plan.runId accounts hget
          refine ⟨accounts, same, hget, hof, ?_⟩
          by_contra hne
          exact hother ⟨profile.planDigest same, hlane ▸ hactive, hne⟩
      · refine ⟨plan, decision, hadmitted.planned, hadmitted.decided, hburnt, ?_, fun _ => ?_⟩
        · rw [hlane, get?_markActive_self]
        · exact ⟨accounts, plan, by rw [get?_assign, if_pos rfl], hof, rfl⟩
  · rintro _ e' ⟨_, rfl⟩
    exact ⟨fun _ => Iff.rfl, rfl, rfl⟩

/-! ## Every history -/

/-- What any call leaves in place. -/
structure Engine.Advances (profile : Profile) (e e' : Engine τ) : Prop where
  settled : e.Settled profile → e'.Settled profile
  consumed : ∀ id, e.Consumed id → e'.Consumed id

theorem Engine.Advances.refl (e : Engine τ) : e.Advances profile e :=
  ⟨id, fun _ => id⟩

theorem Engine.Advances.trans {e₁ e₂ e₃ : Engine τ} (h : e₁.Advances profile e₂)
    (h' : e₂.Advances profile e₃) : e₁.Advances profile e₃ :=
  ⟨fun hsettled => h'.settled (h.settled hsettled),
    fun id hconsumed => h'.consumed id (h.consumed id hconsumed)⟩

/-- A call advances its engine, whether it returns or raises. -/
def Advancing (profile : Profile) {α : Type} (c : EngineM τ α) : Prop :=
  ∀ e, Wp c (fun _ e' => e.Advances profile e') (fun _ e' => e.Advances profile e') e

theorem Advancing.bind {α β : Type} {c : EngineM τ α} {k : α → EngineM τ β}
    (hc : Advancing profile c) (hk : ∀ v, Advancing profile (k v)) :
    Advancing profile (c >>= k) := by
  intro e
  rw [wp_bind]
  refine (hc e).mono (fun v e' h => ?_) fun _ _ h => h
  exact (hk v e').mono (fun _ _ h' => h.trans h') fun _ _ h' => h.trans h'

theorem advancing_pure {α : Type} (v : α) : Advancing profile (pure v : EngineM τ α) :=
  fun e => .refl e

theorem advancing_liftResult {α : Type} (x : Except PolicyError α) :
    Advancing (τ := τ) profile (liftResult x) := by
  intro e
  rw [wp_liftResult]
  exact ⟨fun _ _ => .refl e, fun _ _ => .refl e⟩

theorem Engine.Settled.congr {e' : Engine τ} (h : e.Settled profile)
    (hactive : e'.activePlans = e.activePlans) (hledgers : e'.budgetLedgers = e.budgetLedgers) :
    e'.Settled profile := by
  intro runId accounts hget
  rw [hledgers] at hget
  rw [hactive]
  exact h runId accounts hget

theorem advancing_registerDecision (decision : DecisionRecord) :
    Advancing (τ := τ) profile (registerDecision profile decision) := by
  intro e
  rw [registerDecision, wp_bind, wp_get, wp_bind, wp_check]
  refine ⟨fun _ => ⟨fun h => h.congr rfl rfl, ?_⟩, fun _ => .refl e⟩
  rintro id ⟨issued, hget, hconsumed⟩
  show ∃ issued, (assign e.issuedDecisions decision.id _).get? id = some issued ∧ _
  rw [get?_assign]
  by_cases hid : id = decision.id
  · -- a decision that is issued again
    rw [if_pos hid]
    refine ⟨_, rfl, ?_⟩
    rw [← hid, hget]
    exact hconsumed
  · rw [if_neg hid]
    exact ⟨issued, hget, hconsumed⟩

theorem advancing_issue (decision : Argument DecisionRecord) :
    Advancing (τ := τ) profile (issue profile decision) :=
  (advancing_liftResult decision).bind advancing_registerDecision

theorem advancing_register (lane : Lane) (message : String) (plan : PlanRecord) :
    Advancing (τ := τ) profile (register profile lane message plan) := by
  intro e
  rw [register, wp_bind, wp_get, wp_bind, wp_check]
  exact ⟨fun _ => ⟨fun h => h.congr rfl rfl, fun _ h => h⟩, fun _ => .refl e⟩

theorem advances_consume (id : String) : e.Advances profile (e.consume id) :=
  ⟨fun h => h.congr rfl rfl, fun _ h => h.consume id⟩

theorem advancing_consumeDecision (decision : Argument DecisionRecord)
    (subject : Argument Subject) (now : Option ℤ) :
    Advancing (τ := τ) profile (consumeDecision profile decision subject now) := by
  intro e
  refine wp_consumeDecision.mono ?_ ?_
  · rintro _ e' ⟨d, s, t, _, _, _, _, rfl⟩
    exact advances_consume d.id
  · rintro _ e' ⟨_, rfl⟩
    exact .refl e'

theorem advancing_grant (a : Activation τ) : Advancing profile (a.grant profile) := by
  intro e
  refine wp_grant.mono ?_ ?_
  · rintro _ e' ⟨decision, _, _, rfl⟩
    exact advances_consume decision.id
  · rintro _ e' ⟨_, rfl⟩
    exact .refl e'

theorem Engine.Settled.markActive
    (h : e.Settled profile) (hfree : ¬ e.OtherActive profile lane plan) :
    (e.markActive lane plan.runId (profile.planDigest plan)).Settled profile := by
  intro runId accounts hget
  obtain ⟨same, hof, hrun, hactive⟩ := h runId accounts hget
  refine ⟨same, hof, hrun, ?_⟩
  rw [get?_markActive]
  split
  · next hsame =>
      obtain ⟨rfl, rfl⟩ := hsame
      by_contra hne
      exact hfree ⟨profile.planDigest same, hactive, fun heq => hne (congrArg some heq.symm)⟩
  · exact hactive

theorem advancing_makeActive (lane : Lane) (message : String) (plan : PlanRecord) :
    Advancing (τ := τ) profile (makeActive profile lane message plan) := by
  intro e
  rw [wp_makeActive]
  exact ⟨fun hfree => ⟨fun h => h.markActive hfree, fun _ h => h⟩, fun _ => .refl e⟩

theorem wp_openLedger_settled
    (hactive : (e.activePlans .run).get? plan.runId = some (profile.planDigest plan)) :
    Wp (openLedger profile plan startedAt) (fun _ e' => e.Advances profile e')
      (fun _ e' => e.Advances profile e') e := by
  refine wp_openLedger (fun _ _ => .refl e) (fun hfree _ accounts hof => ?_)
    fun _ _ _ => .refl e
  refine ⟨fun h runId accounts' hget => ?_, fun _ h => h⟩
  dsimp only at hget ⊢
  rw [get?_assign] at hget
  split at hget
  · next hrun =>
      cases hget
      exact ⟨plan, hof, hrun.symm, hrun ▸ hactive⟩
  · exact h runId accounts' hget

theorem wp_install :
    Wp (match lane with
      | .run => do
        makeActive profile .run "Another plan is active for this run" plan
        openLedger profile plan startedAt
      | .noModel =>
        makeActive profile .noModel "Another no-model plan is active for this run" plan)
      (fun _ e' => e.Advances profile e') (fun _ e' => e.Advances profile e') e := by
  cases lane with
  | noModel => exact advancing_makeActive _ _ _ e
  | run =>
    dsimp only
    rw [wp_bind, wp_makeActive]
    refine ⟨fun hfree => ?_, fun _ => .refl e⟩
    have hmark : e.Advances profile (e.markActive .run plan.runId (profile.planDigest plan)) :=
      ⟨fun h => h.markActive hfree, fun _ h => h⟩
    refine (wp_openLedger_settled (get?_markActive_self ..)).mono ?_ ?_
    · exact fun _ _ h => hmark.trans h
    · exact fun _ _ h => hmark.trans h

theorem advancing_activation (a : Activation τ) : Advancing profile (a.run profile) :=
  (advancing_grant a).bind fun _ _ => wp_install

end Effects

theorem LedgerOf.step {profile : Profile} {plan : PlanRecord} {accounts : Accounts τ}
    (h : LedgerOf profile plan accounts) (exceeds : τ → τ → ℕ → Bool) (call : BudgetCall τ) :
    LedgerOf profile plan (accounts.step exceeds call) := by
  have hfixed : ∀ {a a' : Accounts τ} {closed : Option ℕ}, Effect a a' closed →
      a'.ledger.runId = a.ledger.runId ∧ a'.ledger.planDigest = a.ledger.planDigest ∧
        a'.ledger.limits = a.ledger.limits := by
    intro a a' closed heffect
    cases heffect <;> exact ⟨rfl, rfl, rfl⟩
  obtain ⟨hrun, hdigest, hlimits⟩ := hfixed (step_effect (a := accounts) call)
  exact ⟨hrun.trans h.run, hdigest.trans h.digest, by rw [hlimits]; exact h.limits⟩

section History

variable {profile : Profile} {exceeds : τ → τ → ℕ → Bool}

theorem advancing_call (call : EngineCall τ) :
    Advancing profile (call.run profile exceeds) := by
  cases call with
  | planRun plan decision =>
    cases plan with
    | none => exact (advancing_pure ()).bind fun _ => advancing_issue decision
    | some plan =>
      exact (advancing_register .run _ plan).bind fun _ => advancing_issue decision
  | planNoModelRun plan decision =>
    cases plan with
    | none => exact (advancing_pure ()).bind fun _ => advancing_issue decision
    | some plan =>
      exact (advancing_register .noModel _ plan).bind fun _ => advancing_issue decision
  | authorize decision => exact advancing_issue decision
  | assertDecisionCurrent decision subject now =>
    refine Advancing.bind ?_ fun _ => advancing_pure ()
    refine (advancing_liftResult _).bind fun now => ?_
    refine (advancing_liftResult _).bind fun d => (advancing_liftResult _).bind fun s => ?_
    intro e
    rw [wp_bind, wp_get]
    exact ((advancing_liftResult _).bind fun _ => advancing_pure d) e
  | consumeDecision decision subject now => exact advancing_consumeDecision decision subject now
  | activate a => exact advancing_activation a
  | spend runId call =>
    intro e
    refine ⟨fun h run accounts hget => ?_, fun _ h => h⟩
    dsimp only at hget ⊢
    rw [Table.get?_modify] at hget
    split at hget
    · obtain ⟨accounts', hget', rfl⟩ := Option.map_eq_some_iff.mp hget
      obtain ⟨plan, hof, hrun, hactive⟩ := h run accounts' hget'
      exact ⟨plan, hof.step exceeds call, hrun, hactive⟩
    · exact h run accounts hget

theorem step_of_wp {e : Engine τ} {call : EngineCall τ} {P : Engine τ → Prop}
    (h : Wp (call.run profile exceeds) (fun _ e' => P e') (fun _ e' => P e') e) :
    P (e.step profile exceeds call) := by
  rw [Wp] at h
  rw [Engine.step]
  cases hrun : call.run profile exceeds e with
  | ok _ e' | error _ e' =>
    rw [hrun] at h
    exact h

theorem advances_step (e : Engine τ) (call : EngineCall τ) :
    e.Advances profile (e.step profile exceeds call) :=
  step_of_wp (advancing_call call e)

theorem consumes_eq_some {α : Type} {e : Engine τ} {c : EngineM τ α}
    {decision : Argument DecisionRecord} {id : String} (h : e.consumes c decision = some id) :
    ∃ v e' d, c e = .ok v e' ∧ decision = .ok d ∧ d.id = id := by
  unfold Engine.consumes at h
  split at h
  · next v e' d hrun =>
      exact ⟨v, e', d, hrun, rfl, Option.some.inj h⟩
  · cases h

theorem burns_of_consumption {e : Engine τ} {call : EngineCall τ} {id : String}
    (h : e.consumption profile call = some id) :
    ¬ e.Consumed id ∧ (e.step profile exceeds call).Consumed id := by
  cases call with
  | planRun | planNoModelRun | authorize | assertDecisionCurrent | spend => cases h
  | consumeDecision decision subject now =>
    obtain ⟨u, e', d, hrun, rfl, rfl⟩ := consumes_eq_some h
    obtain ⟨d', s, t, hd, rfl, rfl, hcurrent, rfl⟩ := wp_consumeDecision.of_ok hrun
    cases hd
    obtain ⟨issued, hget, hunused⟩ := assertIssued_eq_ok (assertIssued_of_current hcurrent)
    refine ⟨not_consumed hget hunused, ?_⟩
    rw [Engine.step, EngineCall.run, hrun]
    exact consumed_consume hget
  | activate a =>
    obtain ⟨plan, e', d, hgrant, hd, rfl⟩ := consumes_eq_some h
    obtain ⟨d', now, hadmitted, rfl⟩ := wp_grant.of_ok hgrant
    obtain rfl : d' = d := by simpa using hadmitted.decided.symm.trans hd
    refine ⟨hadmitted.burns.1, step_of_wp (P := fun e' => e'.Consumed d'.id) ?_⟩
    -- the decision stays consumed in the rest of the call
    rw [EngineCall.run, Activation.run, wp_bind, Wp, hgrant]
    refine wp_install.mono ?_ ?_
    · exact fun _ _ h => h.consumed d'.id hadmitted.burns.2
    · exact fun _ _ h => h.consumed d'.id hadmitted.burns.2

theorem after_settled (calls : List (EngineCall τ)) {e : Engine τ} {ids : List String}
    (hsettled : e.Settled profile) (hids : ∀ id ∈ ids, e.Consumed id) (hnodup : ids.Nodup) :
    (e.after profile exceeds calls).Settled profile ∧
      (ids ++ e.consumptions profile exceeds calls).Nodup := by
  induction calls generalizing e ids with
  | nil =>
    rw [Engine.consumptions, List.append_nil]
    exact ⟨hsettled, hnodup⟩
  | cons call calls ih =>
    have hstep : e.Advances profile (e.step profile exceeds call) := advances_step e call
    have hnew : ∀ id, e.consumption profile call = some id → id ∉ ids := by
      intro id hid hmem
      obtain ⟨hunused, _⟩ := @burns_of_consumption _ _ exceeds _ _ _ hid
      exact hunused (hids id hmem)
    rw [Engine.consumptions, ← List.append_assoc]
    refine ih (hstep.settled hsettled) ?_ ?_
    · intro id hid
      rcases List.mem_append.mp hid with hold | hnow
      · exact hstep.consumed id (hids id hold)
      · rw [Option.mem_toList] at hnow
        exact (burns_of_consumption hnow).2
    · cases hcall : e.consumption profile call with
      | none => simpa using hnodup
      | some id =>
        rw [Option.toList_some, List.nodup_append]
        refine ⟨hnodup, List.nodup_singleton id, ?_⟩
        rintro x hx y hy rfl
        exact hnew x (by rw [hcall, List.mem_singleton.mp hy]) hx

end History

/-- **Activation is atomic unless its last step refuses.**  After any calls, an
activation that raises leaves the consumed decisions, the active plans and the ledgers
as they were, and one that returns has consumed its decision and made exactly its plan
active, with its ledger, if and only if it is not one whose checks all pass while
another plan is active for the run.  No decision is ever consumed twice. -/
theorem activation_atomic_iff (profile : Profile) (exceeds : τ → τ → ℕ → Bool)
    (calls : List (EngineCall τ)) :
    (∀ a : Activation τ, a.Atomic profile (Engine.after profile exceeds {} calls) ↔
        ¬ a.Spoils profile (Engine.after profile exceeds {} calls)) ∧
      (Engine.consumptions profile exceeds {} calls).Nodup := by
  have hempty : Engine.Settled profile ({} : Engine τ) := by
    intro runId accounts hget
    cases hget
  obtain ⟨hsettled, hnodup⟩ := after_settled calls hempty
    (fun _ h => absurd h List.not_mem_nil) List.nodup_nil
  exact ⟨fun a => ⟨fun hatomic hspoils => hspoils.not_atomic hatomic,
    fun h => atomic_of_settled hsettled h⟩, hnodup⟩

/-! ### Two plans for one run -/

def sampleProfile : Profile where
  configDigest := "config"
  planDigest := PlanRecord.id
  decisionDigest := DecisionRecord.id

def runPlan (id : String) : PlanRecord where
  id := id
  runId := "run"
  spec := .runPlan [10] samplePlan.budget ""

def allowed (planId : String) : DecisionRecord where
  id := planId ++ "-decision"
  runId := "run"
  createdAt := some 0
  subjectKind := "RunPlan"
  subjectId := planId
  subjectDigest := planId
  effect := .allow
  semanticConfigDigest := "config"
  expiresAt := some 900
  rest := ""

def activation (planId : String) : Activation ℕ where
  lane := .run
  plan := .ok (runPlan planId)
  decision := .ok (allowed planId)
  now := some 1
  refreshed := .ok ()
  bindingError := none
  startedAt := 0

def twoPlans : List (EngineCall ℕ) :=
  [.planRun (some (runPlan "one")) (.ok (allowed "one")),
    .planRun (some (runPlan "two")) (.ok (allowed "two")), .activate (activation "one")]

theorem second_plan_burns_decision :
    ¬ (activation "two").Atomic sampleProfile
      (Engine.after sampleProfile (fun _ _ _ => false) {} twoPlans) := by
  refine Activation.Spoils.not_atomic ⟨runPlan "two", allowed "two", 1, ?_, .inl ?_⟩
  · exact ⟨rfl, rfl, rfl, by decide, nofun, rfl, by decide⟩
  · exact ⟨"one", by decide, by decide⟩

end Ecosystem.Policy
