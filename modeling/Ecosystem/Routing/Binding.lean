import Ecosystem.Lib.Fold
import Ecosystem.Routing.Contracts

/-!
# Binding a route to its consumer

The pure part of `eco_routing/binding.py` and `verify_route_binding`: an allowed decision
is checked against its request and an exact deployment, and one effect is counted
against the ceilings of the call and of the workflow.  The consumer digest covers the
request and not the decision, so a route and its fallback draw on one account.
-/

namespace Ecosystem.Routing

open Ecosystem.Lib

/-! ## Parameters -/

/-- What `route_consumer_digest` hashes. -/
structure ConsumerBinding where
  consumerKind : String
  consumerId : String
  effectDigest : String
  executionPlanDigest : String
  routeRequestDigest : String
  policyDigest : String
  priceCatalogDigest : String
  aggregateBudget : AggregateBudget

structure RouteDigests extends RecordDigests where
  consumer : ConsumerBinding → String

/-- The clock that a caller passes: a `datetime` with or without a time zone. -/
inductive Clock
  | naive
  | aware (instant : ℤ)

/-- `_utc`; the text of an instant stands for the instant. -/
def utc : Clock → Except RoutingError ℤ
  | .naive => refuse "ECO_ROUTE_CLOCK_INVALID"
  | .aware instant => .ok instant

/-! ## Authority -/

/-- `VerifiedRouteAuthority`; `validUntil` is absent when its text is no time
with a zone. -/
structure VerifiedRouteAuthority where
  issuerId : String
  keyId : String
  algorithm : String
  evidenceDigest : String
  routeDecisionDigest : String
  routeRequestDigest : String
  policyDigest : String
  priceCatalogDigest : String
  executionPlanDigest : String
  validUntil : Option ℤ

/-- An external verifier: it attests, raises a routing error, or fails in some
other way. -/
abbrev RouteAuthorityVerifier :=
  ModelRouteDecision → ModelRouteRequest → ℤ →
    Except (Option RoutingError) VerifiedRouteAuthority

def VerifiedRouteAuthority.validate (a : VerifiedRouteAuthority) (now : ℤ) :
    Except RoutingError Unit :=
  require
    [(fullmatchIdentifier a.issuerId && fullmatchIdentifier a.keyId &&
        fullmatchAlgorithm a.algorithm && fullmatchDigest a.evidenceDigest &&
        fullmatchDigest a.routeDecisionDigest &&
        fullmatchDigest a.routeRequestDigest && fullmatchDigest a.policyDigest &&
        fullmatchDigest a.priceCatalogDigest &&
        fullmatchDigest a.executionPlanDigest, "ECO_ROUTE_AUTHORITY_INVALID"),
      (a.validUntil.isSome, "ECO_ROUTE_AUTHORITY_INVALID"),
      (a.validUntil.all (now < ·), "ECO_ROUTE_AUTHORITY_EXPIRED")]

structure TrustedAuthority where
  verifier : RouteAuthorityVerifier
  issuerId : String
  keyId : String
  algorithm : String
  policyDigest : String
  priceCatalogDigest : String
  executionPlanDigest : String

def verifyAuthenticatedRouteAuthority (trusted : TrustedAuthority)
    (decision : ModelRouteDecision) (request : ModelRouteRequest) (now : ℤ) :
    Except RoutingError Unit :=
  match trusted.verifier decision request now with
  | .error (some err) => .error err
  | .error none => refuse "ECO_ROUTE_AUTHORITY_INVALID"
  | .ok a => do
    a.validate now
    require
      [(a.issuerId = trusted.issuerId && a.keyId = trusted.keyId &&
          a.algorithm = trusted.algorithm &&
          a.routeDecisionDigest = decision.recordDigest &&
          a.routeRequestDigest = request.recordDigest &&
          a.policyDigest = trusted.policyDigest &&
          a.priceCatalogDigest = trusted.priceCatalogDigest &&
          a.executionPlanDigest = trusted.executionPlanDigest,
        "ECO_ROUTE_AUTHORITY_MISMATCH")]

/-! ## The route and its request -/

/-- What the caller of `verify_route_binding` expects. -/
structure RouteExpectation where
  deploymentId : String
  deploymentIdentityDigest : String
  costReservationMicrousd : Option ℤ := none
  policyDigest : Option String := none
  priceCatalogDigest : Option String := none
  executionPlanDigest : Option String := none
  authorityVerifier : Option RouteAuthorityVerifier := none
  routeIssuerId : Option String := none
  routeKeyId : Option String := none
  routeAlgorithm : Option String := none

def reservationConsistent (selected : SelectedDeployment)
    (reservation : AggregateReservation) (budget : AggregateBudget) : Bool :=
  reservation.maximumCalls = budget.maximumCalls &&
    reservation.inputTokenCeiling = budget.inputTokenCeiling &&
    reservation.outputTokenCeiling = budget.outputTokenCeiling &&
    reservation.reservedCostMicrousd = selected.reservedCostMicrousd &&
    selected.reservedCostMicrousd ≤ budget.maximumCostMicrousd

/-- The aggregate check of an exact binding. -/
def aggregateConsistent (selected : SelectedDeployment) (spec : RequestSpec) :
    Bool :=
  match selected.aggregateReservation, spec.aggregateBudget with
  | some reservation, some budget =>
    reservationConsistent selected reservation budget
  | _, _ => false

/-- The values that an authenticated verification needs, if all are given. -/
def RouteExpectation.trusted (e : RouteExpectation) : Option TrustedAuthority := do
  return ⟨← e.authorityVerifier, ← e.routeIssuerId, ← e.routeKeyId,
    ← e.routeAlgorithm, ← e.policyDigest, ← e.priceCatalogDigest,
    ← e.executionPlanDigest⟩

/-- The last part of `verify_route_binding`: the authority is verified when any
of its arguments is given, and then all have to be. -/
def verifyRouteAuthority (e : RouteExpectation) (decision : ModelRouteDecision)
    (request : ModelRouteRequest) (now : ℤ) : Except RoutingError Unit :=
  if e.authorityVerifier.isSome || e.routeIssuerId.isSome ||
      e.routeKeyId.isSome || e.routeAlgorithm.isSome then
    match e.trusted with
    | none => refuse "ECO_ROUTE_AUTHORITY_REQUIRED"
    | some trusted => verifyAuthenticatedRouteAuthority trusted decision request now
  else .ok ()

/-- The checks of `verify_route_binding` in front of the authority, of a
decision with a selection. -/
def routeBindingChecks (e : RouteExpectation) (decision : DecisionSpec)
    (request : ModelRouteRequest) (selected : SelectedDeployment) (current : ℤ) :
    List (Bool × String) :=
  [(decision.decision = .allowed, "ECO_ROUTE_NOT_ALLOWED"),
    (decision.requestDigest = request.recordDigest &&
        decision.policyDigest = request.spec.policyDigest,
      "ECO_ROUTE_BINDING_MISMATCH"),
    (e.policyDigest.all fun digest =>
        decision.policyDigest = digest && request.spec.policyDigest = digest,
      "ECO_ROUTE_TRUSTED_INPUT_MISMATCH"),
    (e.priceCatalogDigest.all (decision.priceCatalogDigest = ·),
      "ECO_ROUTE_TRUSTED_INPUT_MISMATCH"),
    (e.executionPlanDigest.isNone ||
        (request.spec.executionPlanDigest = e.executionPlanDigest &&
          decision.executionPlanDigest = e.executionPlanDigest),
      "ECO_ROUTE_EXECUTION_PLAN_MISMATCH"),
    (current < decision.validUntil.instant &&
        current < request.spec.deadlineAt.instant, "ECO_ROUTE_EXPIRED"),
    (selected.deploymentId = e.deploymentId &&
        selected.deploymentIdentityDigest = e.deploymentIdentityDigest,
      "ECO_ROUTE_BINDING_MISMATCH"),
    (selected.reservedCostMicrousd ≤ request.spec.maximumCostMicrousd,
      "ECO_ROUTE_BINDING_MISMATCH"),
    (e.executionPlanDigest.isNone || (request.spec.aggregateBudget.isSome &&
        selected.aggregateReservation.isSome),
      "ECO_ROUTE_EXACT_BINDING_REQUIRED"),
    (e.executionPlanDigest.isNone || aggregateConsistent selected request.spec,
      "ECO_ROUTE_BUDGET_MISMATCH"),
    (e.costReservationMicrousd.all ((selected.reservedCostMicrousd : ℤ) = ·),
      "ECO_ROUTE_BINDING_MISMATCH")]

section Evidence

variable (digests : RouteDigests)

/-- Both records pass `validate_routing_record`. -/
def evidenceValid (decision : ModelRouteDecision) (request : ModelRouteRequest) :
    Bool :=
  decision.valid digests.toRecordDigests && request.valid digests.toRecordDigests

/-- `verify_route_binding`: the selection of the decision. -/
def verifyRouteBinding (e : RouteExpectation) (now : Clock)
    (decision : ModelRouteDecision) (request : ModelRouteRequest) :
    Except RoutingError SelectedDeployment := do
  let current ← utc now
  require [(evidenceValid digests decision request, "ECO_ROUTE_EVIDENCE_INVALID")]
  match decision.spec.selected with
  | none => refuse "ECO_ROUTE_NOT_ALLOWED"
  | some selected =>
    require (routeBindingChecks e decision.spec request selected current)
    verifyRouteAuthority e decision request current
    return selected

/-! ## The consumer -/

/-- The workflow that consumes a route. -/
structure Consumer where
  kind : String
  id : String
  effectDigest : String

def routeConsumerDigest (decision : ModelRouteDecision)
    (request : ModelRouteRequest) (consumer : Consumer) :
    Except RoutingError String := do
  require
    [(evidenceValid digests decision request, "ECO_ROUTE_EVIDENCE_INVALID"),
      (fullmatchIdentifier consumer.kind && fullmatchIdentifier consumer.id &&
        fullmatchDigest consumer.effectDigest, "ECO_ROUTE_EVIDENCE_INVALID"),
      (decision.spec.decision = .allowed && decision.spec.selected.isSome,
        "ECO_ROUTE_NOT_ALLOWED")]
  match request.spec.executionPlanDigest, request.spec.aggregateBudget with
  | some plan, some budget =>
    require [(decision.spec.requestDigest = request.recordDigest &&
      decision.spec.executionPlanDigest = some plan,
      "ECO_ROUTE_BINDING_MISMATCH")]
    return digests.consumer
      { consumerKind := consumer.kind
        consumerId := consumer.id
        effectDigest := consumer.effectDigest
        executionPlanDigest := plan
        routeRequestDigest := request.recordDigest
        policyDigest := decision.spec.policyDigest
        priceCatalogDigest := decision.spec.priceCatalogDigest
        aggregateBudget := budget }
  | _, _ => refuse "ECO_ROUTE_EXACT_BINDING_REQUIRED"

/-! ## One effect -/

structure RouteAggregateUsage where
  calls : ℕ := 0
  inputTokens : ℕ := 0
  outputTokens : ℕ := 0
  costMicrousd : ℕ := 0
deriving DecidableEq

/-- The counters behind one more effect. -/
def RouteAggregateUsage.charge (u : RouteAggregateUsage)
    (inputTokens outputTokens costMicrousd : ℕ) : RouteAggregateUsage where
  calls := u.calls + 1
  inputTokens := u.inputTokens + inputTokens
  outputTokens := u.outputTokens + outputTokens
  costMicrousd := u.costMicrousd + costMicrousd

def RouteAggregateUsage.fits (u : RouteAggregateUsage) (budget : AggregateBudget)
    (reservation : AggregateReservation) : Bool :=
  u.calls ≤ budget.maximumCalls && u.inputTokens ≤ budget.inputTokenCeiling &&
    u.outputTokens ≤ budget.outputTokenCeiling &&
    u.costMicrousd ≤ budget.maximumCostMicrousd &&
    u.costMicrousd ≤ reservation.reservedCostMicrousd

def reserveRouteEffect (decision : ModelRouteDecision)
    (request : ModelRouteRequest) (current : RouteAggregateUsage)
    (inputTokens outputTokens costMicrousd : ℕ) :
    Except RoutingError RouteAggregateUsage := do
  require [(evidenceValid digests decision request, "ECO_ROUTE_EVIDENCE_INVALID")]
  match decision.spec.selected, decision.spec.selected.bind (·.aggregateReservation),
      request.spec.aggregateBudget with
  | some selected, some reservation, some budget =>
    require
      [(decision.spec.decision = .allowed &&
          request.spec.executionPlanDigest.isSome &&
          decision.spec.executionPlanDigest = request.spec.executionPlanDigest &&
          decision.spec.requestDigest = request.recordDigest,
        "ECO_ROUTE_EXACT_BINDING_REQUIRED"),
        (inputTokens ≤ request.spec.inputTokenCeiling &&
          outputTokens ≤ request.spec.outputTokenCeiling,
        "ECO_ROUTE_CALL_BUDGET_EXCEEDED"),
        (reservationConsistent selected reservation budget,
        "ECO_ROUTE_BUDGET_MISMATCH"),
        ((current.charge inputTokens outputTokens costMicrousd).fits budget
          reservation, "ECO_ROUTE_AGGREGATE_BUDGET_EXCEEDED")]
    return current.charge inputTokens outputTokens costMicrousd
  | _, _, _ => refuse "ECO_ROUTE_EXACT_BINDING_REQUIRED"

end Evidence

/-! ## What the checks give -/

section Laws

variable {digests : RouteDigests} {decision : ModelRouteDecision}
  {request : ModelRouteRequest}

theorem require_bind_eq_ok {α : Type} {checks : List (Bool × String)}
    {f : Unit → Except RoutingError α} {a : α} :
    (require checks >>= f) = .ok a ↔ (∀ check ∈ checks, check.1 = true) ∧ f () = .ok a := by
  rw [bind_eq_ok]
  constructor
  · rintro ⟨⟨⟩, hchecks, hf⟩
    exact ⟨require_eq_ok.mp hchecks, hf⟩
  · rintro ⟨hchecks, hf⟩
    exact ⟨(), require_eq_ok.mpr hchecks, hf⟩

theorem verifyRouteBinding_ok {e : RouteExpectation} {now : Clock}
    {selected : SelectedDeployment}
    (h : verifyRouteBinding digests e now decision request = .ok selected) :
    decision.valid digests.toRecordDigests = true ∧
      request.valid digests.toRecordDigests = true ∧
      decision.spec.selected = some selected ∧
      decision.spec.requestDigest = request.recordDigest := by
  rw [verifyRouteBinding, bind_eq_ok] at h
  obtain ⟨current, -, h⟩ := h
  rw [require_bind_eq_ok] at h
  obtain ⟨hvalid, h⟩ := h
  have hevidence := hvalid _ (List.mem_singleton_self _)
  simp only [evidenceValid, Bool.and_eq_true] at hevidence
  cases hselected : decision.spec.selected with
  | none =>
    rw [hselected] at h
    cases h
  | some chosen =>
    rw [hselected] at h
    obtain ⟨hchecks, h⟩ := require_bind_eq_ok.mp h
    obtain ⟨-, h⟩ := rest_ok h
    cases h
    simp only [routeBindingChecks, List.forall_mem_cons, Bool.and_eq_true,
      decide_eq_true_eq] at hchecks
    exact ⟨hevidence.1, hevidence.2, rfl, hchecks.2.1.1⟩

theorem routeConsumerDigest_ok {consumer : Consumer} {digest : String}
    (h : routeConsumerDigest digests decision request consumer = .ok digest) :
    decision.valid digests.toRecordDigests = true ∧
      request.valid digests.toRecordDigests = true ∧
      decision.spec.requestDigest = request.recordDigest := by
  simp only [routeConsumerDigest, require_bind_eq_ok, List.forall_mem_cons,
    evidenceValid, Bool.and_eq_true] at h
  obtain ⟨⟨hvalid, -⟩, h⟩ := h
  split at h
  · simp only [require_bind_eq_ok, List.forall_mem_cons, Bool.and_eq_true,
      decide_eq_true_eq] at h
    exact ⟨hvalid.1, hvalid.2, h.1.1.1⟩
  · cases h

theorem reserveRouteEffect_ok {current updated : RouteAggregateUsage}
    {inputTokens outputTokens costMicrousd : ℕ}
    (h : reserveRouteEffect digests decision request current inputTokens
      outputTokens costMicrousd = .ok updated) :
    updated = current.charge inputTokens outputTokens costMicrousd ∧
      ∃ selected reservation budget, decision.spec.selected = some selected ∧
        selected.aggregateReservation = some reservation ∧
        request.spec.aggregateBudget = some budget ∧
        reservationConsistent selected reservation budget = true ∧
        updated.fits budget reservation = true := by
  simp only [reserveRouteEffect, require_bind_eq_ok] at h
  obtain ⟨-, h⟩ := h
  split at h
  next selected reservation budget hselected hreservation hbudget =>
    simp only [require_bind_eq_ok, List.forall_mem_cons] at h
    obtain ⟨⟨-, -, hconsistent, hfits, -⟩, h⟩ := h
    cases h
    rw [hselected] at hreservation
    exact ⟨rfl, selected, reservation, budget, hselected, hreservation, hbudget,
      hconsistent, hfits⟩
  next => cases h

end Laws

end Ecosystem.Routing
