import Ecosystem.Routing.Routes
import Ecosystem.Routing.Spending

/-!
# What a route and a fallback decide

`route` denies, or it selects the least of the candidates without a rejection reason.  A
fallback is denied for a reason of its own or is such a route.
-/

namespace Ecosystem.Routing

open Ecosystem.Lib

variable {dig : RouterDigests}

/-! ## The selection of a route -/

section Selection

variable {m : ModelRouter dig} {request : ModelRouteRequest} {role : RolePolicy}
  {candidates : List (DeploymentCandidate dig)}
  {observations : List ObservedModelCapabilities} {current : ℤ} {call : RouteCall}
  {excluded : List String} {out : RoutingOutcome} {now : Option ℤ}

theorem decision_of_precondition {reason : ReasonCode} {limit : ℤ}
    (h : m.outcome request call current reason [] none limit = .ok out) :
    out.decision.spec = m.decisionSpec request call reason none
      (max (current + 1) limit) out.explain.recordDigest := by
  obtain ⟨_, record, -, -, -, hrecord, hdecision⟩ := outcome_eq_ok.mp h
  obtain ⟨-, hspec⟩ := sealDecision_eq_ok.mp hdecision
  rcases optionMapM_eq_ok.mp hrecord with ⟨-, rfl⟩ | ⟨_, _, hsome, -⟩
  · rw [hspec]
  · cases hsome

/-- **What a route decides.**  It denies for a precondition, denies because no candidate
is eligible, or selects the least of the eligible ones. -/
theorem routeWith_cases
    (h : m.routeWith request candidates observations now call excluded = .ok out) :
    ∃ current role, now = some current ∧ m.roleOf request.spec.role = .ok role ∧
      ((∃ reason, m.preconditionReason request.spec role current = some reason ∧
          out.decision.spec.selected = none ∧ out.decision.spec.decision = .denied) ∨
        (m.preconditionReason request.spec role current = none ∧
          m.NoneEligible request role candidates observations current excluded ∧
          out.decision.spec.selected = none ∧ out.decision.spec.decision = .denied) ∨
        (m.preconditionReason request.spec role current = none ∧ ∃ c o p rank,
          m.Least request role candidates observations current excluded c rank ∧
          observations.find? (·.key = c.key) = some o ∧
          Suitable c request.spec role current excluded o p ∧
          out.decision.spec = m.decisionSpec request call .eligible
            (some (recordOf request.spec c o p))
            (max (current + 1) (min (m.baseValidUntil request current)
              o.spec.validUntil.instant)) out.explain.recordDigest)) := by
  obtain ⟨current, role, hnow, -, hrole, -, hcases⟩ := routeWith_eq_ok.mp h
  refine ⟨current, role, hnow, hrole, ?_⟩
  rcases hcases with ⟨reason, hreason, hout⟩ | ⟨hreason, hout⟩
  · refine Or.inl ⟨reason, hreason, ?_⟩
    rw [decision_of_precondition hout]
    exact ⟨rfl, rfl⟩
  · rcases select_cases hout with ⟨hnone, hspec⟩ | ⟨c, o, p, rank, hselected⟩
    · refine Or.inr (Or.inl ⟨hreason, hnone, ?_⟩)
      rw [hspec]
      exact ⟨rfl, rfl⟩
    · exact Or.inr (Or.inr ⟨hreason, c, o, p, rank, hselected⟩)

end Selection

/-! ## A router with two deployments -/

section Sample

def sampleRouterDigests : RouterDigests where
  request := fun _ _ => hexDigest 'a'
  decision := fun _ _ => hexDigest 'b'
  policy := fun _ _ => hexDigest '1'
  prices := fun _ _ => hexDigest '4'
  observation := fun _ _ => hexDigest '7'
  explain := fun _ _ => hexDigest 'c'
  rank := fun _ => hexDigest 'f'
  deployment d :=
    if d.id = "second" then hexDigest 'e'
    else if d.allowedDataClasses = [.d1] then hexDigest '5' else hexDigest 'd'
  candidate _ d _ :=
    if d = hexDigest 'e' then hexDigest '9'
    else if d = hexDigest '5' then hexDigest '8' else hexDigest '3'
  timeText := fun _ => "1970-01-01T00:00:00Z"
  decision_hex := fun _ _ => matchesDigest_hexDigest (by decide)
  explain_hex := fun _ _ => matchesDigest_hexDigest (by decide)
  rank_hex := fun _ => matchesDigest_hexDigest (by decide)
  deployment_hex := by
    intro d
    split
    · exact matchesDigest_hexDigest (by decide)
    · split <;> exact matchesDigest_hexDigest (by decide)
  candidate_hex := by
    intro _ d _
    split
    · exact matchesDigest_hexDigest (by decide)
    · split <;> exact matchesDigest_hexDigest (by decide)
  timeText_zulu := fun _ => by decide

/-- A role that admits both deployments. -/
def sampleRolePolicy (role : ModelRole) : RolePolicy where
  role := role
  requiredCapabilities := []
  allowedActionClasses := [.a1]
  allowedDataClasses := [.d1]
  allowedZones := [.z1]
  allowedRetentions := [.noRetention]
  candidateIds := ["first", "second"]
  maximumCostMicrousd := 50
  maxRouteAttempts := 2
  retryableFailureClasses := [.capacity]

def samplePolicy : ModelRoutingPolicy where
  metadata := ⟨"policy", sampleInstant "1970-01-01T00:00:00Z" 0, some 1⟩
  recordDigest := hexDigest '1'
  spec := ⟨30, canonicalModelRoles.map sampleRolePolicy⟩

def samplePrices : TrustedPriceCatalog where
  metadata := ⟨"prices", sampleInstant "1970-01-01T00:00:00Z" 0, some 1⟩
  recordDigest := hexDigest '4'
  spec :=
    { validFrom := sampleInstant "1970-01-01T00:00:00Z" 0
      validUntil := sampleInstant "1970-01-01T00:01:00Z" 60000000
      sourceProvenanceDigest := hexDigest '0'
      entries := [⟨"first", hexDigest '6', 0, 0, 10⟩, ⟨"second", hexDigest '6', 0, 0, 20⟩] }

theorem samplePolicy_valid : samplePolicy.valid sampleRouterDigests = true := by
  simp (disch := decide) only [ModelRoutingPolicy.valid, Metadata.schemaOk, samplePolicy,
    matchesDigest_hexDigest]
  rfl

theorem samplePrices_valid : samplePrices.valid sampleRouterDigests = true := by
  simp (disch := decide) only [TrustedPriceCatalog.valid, Metadata.schemaOk, samplePrices,
    PriceEntry.schemaOk, matchesDigest_hexDigest, List.all_cons, List.all_nil]
  rfl

def sampleRouter : ModelRouter sampleRouterDigests where
  policy := samplePolicy
  priceCatalog := samplePrices
  policy_valid := samplePolicy_valid
  prices_valid := samplePrices_valid

def sampleDeployment (id : String) (dataClasses : List DataClass) : CanonicalDeployment where
  id := id
  provider := "local"
  adapter := "adapter"
  model := "model"
  endpointRef := "env:ENDPOINT"
  identity := ⟨"1", "1", "engine", "1", "none", hexDigest '0'⟩
  zone := .z1
  retention := "no-retention"
  allowedDataClasses := dataClasses
  enabled := true
  other := ""

/-- The projection of a sample deployment. -/
def sampleCandidate (id : String) (dataClasses : List DataClass) :
    DeploymentCandidate sampleRouterDigests where
  deploymentId := id
  deploymentDigest := sampleRouterDigests.deployment (sampleDeployment id dataClasses)
  identityDigest := hexDigest '6'
  candidateDigest := sampleRouterDigests.candidate id
    (sampleRouterDigests.deployment (sampleDeployment id dataClasses)) (hexDigest '6')
  providerClass := .local
  zone := .z1
  retention := .noRetention
  allowedDataClasses := dataClasses
  enabled := true
  deployment_hex := sampleRouterDigests.deployment_hex _
  identity_hex := matchesDigest_hexDigest (by decide)
  candidate_eq := rfl

def sampleObservation (id : String) : ObservedModelCapabilities where
  metadata := ⟨id, sampleInstant "1970-01-01T00:00:00Z" 0, none⟩
  recordDigest := hexDigest '7'
  spec :=
    { deploymentId := id
      deploymentIdentityDigest := hexDigest '6'
      capabilities := []
      contextWindowTokens := 1000
      latencyP95Millis := 10
      observedAt := sampleInstant "1970-01-01T00:00:00Z" 0
      validUntil := sampleInstant "1970-01-01T00:01:00Z" 60000000
      evidenceEnvelopeDigest := hexDigest '0'
      suiteDigest := hexDigest '0' }

theorem sampleRequest_routable :
    sampleRequest.valid sampleRouterDigests.toRecordDigests = true := by
  simp (disch := decide) only [ModelRouteRequest.valid, Metadata.schemaOk,
    RequestSpec.schemaOk, sampleRequest, matchesDigest_hexDigest, Option.all_some]
  rfl

theorem sampleObservation_valid {id : String} (h : matchesId id = true) :
    (sampleObservation id).valid sampleRouterDigests = true := by
  have hdigest : sampleRouterDigests.observation = fun _ _ => hexDigest '7' := rfl
  simp (disch := decide) only [ObservedModelCapabilities.valid, Metadata.schemaOk,
    sampleObservation, matchesDigest_hexDigest, h, hdigest, decide_true]
  rfl

end Sample

theorem sampleRouter_roleOf :
    sampleRouter.roleOf sampleRequest.spec.role = .ok (sampleRolePolicy .worker) := by
  decide

theorem sampleRouter_precondition :
    sampleRouter.preconditionReason sampleRequest.spec (sampleRolePolicy .worker) 1000 =
      none := by
  decide

/-! ## The parts of a fallback -/

section Fallback

variable {m : ModelRouter dig} {request : ModelRouteRequest} {role : RolePolicy}
  {candidates : List (DeploymentCandidate dig)}
  {observations : List ObservedModelCapabilities} {current : ℤ} {call : RouteCall}
  {excluded : List String} {out : RoutingOutcome} {now : Option ℤ}

/-- **The parts of a fallback.**  It is denied for a reason of its own, or it is a route
without the candidate that was selected before. -/
theorem fallback_eq_ok {previous : ModelRouteDecision} {failureClass : String}
    {decisionId explainId : String} :
    m.fallback request previous failureClass candidates observations now decisionId
        explainId = .ok out ↔
      ∃ current role, now = some current ∧ request.valid dig.toRecordDigests = true ∧
        previous.valid dig.toRecordDigests = true ∧ m.roleOf request.spec.role = .ok role ∧
        ((∃ reason, m.fallbackReason request previous role failureClass candidates current =
            some reason ∧ current + 1 ≤ datetimeMax ∧
            m.outcome request ⟨decisionId, explainId, 2, some previous.recordDigest⟩ current
              reason [] none (current + 1) = .ok out) ∨
          (m.fallbackReason request previous role failureClass candidates current = none ∧
            m.routeWith request candidates observations now
              ⟨decisionId, explainId, 2, some previous.recordDigest⟩
              (previous.spec.selected.toList.map (·.candidateDigest)) = .ok out)) := by
  simp only [ModelRouter.fallback, currentTime, checkRequest, Checks.expect_bind_eq_ok,
    Checks.require_bind_eq_ok]
  simp only [bind_eq_ok]
  constructor
  · rintro ⟨current, hnow, hrequest, hprevious, role, hrole, h⟩
    refine ⟨current, role, hnow, hrequest, hprevious, hrole, ?_⟩
    cases hreason : m.fallbackReason request previous role failureClass candidates
        current with
    | some reason =>
      simp only [hreason, bind_eq_ok, addTime_eq_ok] at h
      obtain ⟨_, ⟨hmax, rfl⟩, h⟩ := h
      exact Or.inl ⟨reason, rfl, hmax, h⟩
    | none =>
      simp only [hreason] at h
      exact Or.inr ⟨rfl, h⟩
  · rintro ⟨current, role, hnow, hrequest, hprevious, hrole, h⟩
    refine ⟨current, hnow, hrequest, hprevious, role, hrole, ?_⟩
    rcases h with ⟨reason, hreason, hmax, h⟩ | ⟨hreason, h⟩
    · simp only [hreason, bind_eq_ok, addTime_eq_ok]
      exact ⟨_, ⟨hmax, rfl⟩, h⟩
    · simp only [hreason]
      exact h

end Fallback

end Ecosystem.Routing
