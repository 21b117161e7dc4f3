import Ecosystem.Lib.Sorting
import Ecosystem.Routing.Candidates

/-!
# The deterministic model router

`DeterministicModelRouter` of `eco_routing/router.py`.  `candidateEvaluation` holds one
candidate against the request, the role, the observations and the prices; `routeWith`
sorts the eligible ones by their rank and seals a decision and an explanation.

A clock is the instant that it shows, or nothing where the source finds no time zone.
-/

namespace Ecosystem.Routing

open Ecosystem.Lib

structure ModelRouter (dig : RouterDigests) where
  policy : ModelRoutingPolicy
  priceCatalog : TrustedPriceCatalog
  policy_valid : policy.valid dig = true
  prices_valid : priceCatalog.valid dig = true

structure RoutingOutcome where
  decision : ModelRouteDecision
  explain : RoutingExplain

variable {dig : RouterDigests}

namespace ModelRouter

def policyDigest (m : ModelRouter dig) : String :=
  m.policy.recordDigest

def priceCatalogDigest (m : ModelRouter dig) : String :=
  m.priceCatalog.recordDigest

/-- `self._roles[role]`. -/
def roleOf (m : ModelRouter dig) (r : ModelRole) : Except RouterError RolePolicy :=
  Checks.expect .key (m.policy.spec.roles.find? (·.role = r))

/-- An entry of `_price_map`. -/
def price (m : ModelRouter dig) (key : String × String) : Option PriceEntry :=
  m.priceCatalog.spec.entries.find? (·.key = key)

end ModelRouter

/-! ## Observations -/

def ObservedModelCapabilities.key (o : ObservedModelCapabilities) : String × String :=
  (o.spec.deploymentId, o.spec.deploymentIdentityDigest)

/-- One turn of the loop of `_observation_map`. -/
def addObservation (dig : RouterDigests) (result : List ObservedModelCapabilities)
    (o : ObservedModelCapabilities) :
    Except RouterError (List ObservedModelCapabilities) := do
  Checks.require (o.valid dig) (.routing "ECO_ROUTING_CONTRACT_INVALID")
  Checks.require (!(result.any (·.key = o.key))) (.routing "ECO_ROUTING_EVIDENCE_CONFLICT")
  return result ++ [o]

/-- `_observation_map`, as the list of its values. -/
def observationMap (dig : RouterDigests) (observations : List ObservedModelCapabilities) :
    Except RouterError (List ObservedModelCapabilities) :=
  observations.foldlM (addObservation dig) []

/-! ## One candidate -/

/-- `_reservation` on integers; on integral floats the source rounds. -/
def reservation (price : PriceEntry) (spec : RequestSpec) : ℕ :=
  let maximumCalls := (spec.aggregateBudget.map (·.maximumCalls)).getD 1
  let inputCeiling :=
    (spec.aggregateBudget.map (·.inputTokenCeiling)).getD spec.inputTokenCeiling
  let outputCeiling :=
    (spec.aggregateBudget.map (·.outputTokenCeiling)).getD spec.outputTokenCeiling
  let tokenCost := inputCeiling * price.inputMicrousdPerMillionTokens +
    outputCeiling * price.outputMicrousdPerMillionTokens
  maximumCalls * price.fixedRequestMicrousd + (tokenCost + 999999) / 1000000

structure CandidateEvaluation (dig : RouterDigests) where
  candidate : DeploymentCandidate dig
  reasons : List Rejection
  cost : Option ℕ
  latency : Option ℕ
  evidenceDigest : Option String
  evidenceValidUntil : Option ℤ
  preference : ℕ

def CandidateEvaluation.eligible (e : CandidateEvaluation dig) : Bool :=
  e.reasons.isEmpty

def CandidateEvaluation.rank (e : CandidateEvaluation dig) : Except RouterError Rank := do
  let cost ← Checks.expect .assertion e.cost
  let latency ← Checks.expect .assertion e.latency
  return toLex (cost, toLex (latency, toLex (e.preference, e.candidate.candidateDigest)))

/-- `tuple(sorted(reasons))` for the reasons whose check has fired. -/
def sortedReasons (findings : List (Bool × Rejection)) : List Rejection :=
  sortOn Rejection.text ((findings.filter (·.1)).map (·.2)).dedup

def placementFindings (c : DeploymentCandidate dig) (spec : RequestSpec)
    (role : RolePolicy) (excluded : List String) : List (Bool × Rejection) :=
  [(c.candidateDigest ∈ excluded, .fallbackCandidateExcluded),
    (!c.enabled, .deploymentDisabled),
    (c.deploymentId ∉ role.candidateIds, .policyCandidateDenied),
    (c.zone ∉ role.allowedZones ∨ c.zone ∉ spec.allowedZones, .zoneDenied),
    (spec.dataClass ∉ role.allowedDataClasses ∨ spec.dataClass ∉ c.allowedDataClasses,
      .dataClassDenied),
    (c.retention ∉ role.allowedRetentions ∨ c.retention ∉ spec.allowedRetentions,
      .retentionDenied),
    (spec.allowCloud = false ∧ c.providerClass = .cloud, .cloudDenied),
    (spec.executionProfile = .localZeroCost ∧ c.providerClass ≠ .local,
      .localProfileDenied)]

def tokenRequirement (spec : RequestSpec) : ℕ :=
  max spec.requiredContextTokens (spec.inputTokenCeiling + spec.outputTokenCeiling)

/-- What the observation of the exact deployment says, or that there is none. -/
def evidenceFindings (c : DeploymentCandidate dig) (spec : RequestSpec)
    (role : RolePolicy) (observations : List ObservedModelCapabilities)
    (observation : Option ObservedModelCapabilities) (now : ℤ) :
    Except RouterError (List (Bool × Rejection)) :=
  match observation with
  | none =>
    let drifted := observations.any (·.spec.deploymentId = c.deploymentId)
    .ok [(drifted, .providerIdentityDrift), (!drifted, .capabilityEvidenceMissing)]
  | some o => do
    let arrival ← addTime now (o.spec.latencyP95Millis * 1000)
    return [(now < o.spec.observedAt.instant ∨ o.spec.validUntil.instant ≤ now,
        .capabilityEvidenceStale),
      (¬ ∀ x ∈ role.requiredCapabilities ++ spec.requiredCapabilities,
          x ∈ o.spec.capabilities, .capabilityMissing),
      (o.spec.contextWindowTokens < tokenRequirement spec, .contextWindowInsufficient),
      (spec.deadlineAt.instant < arrival, .deadlineInsufficient)]

/-- What the price of the exact deployment says, or that there is none. -/
def priceFindings (m : ModelRouter dig) (c : DeploymentCandidate dig) (spec : RequestSpec)
    (role : RolePolicy) (price : Option PriceEntry) : List (Bool × Rejection) :=
  match price with
  | none =>
    let drifted := m.priceCatalog.spec.entries.any (·.deploymentId = c.deploymentId)
    [(drifted, .providerIdentityDrift), (!drifted, .priceMissing)]
  | some p =>
    [(min spec.maximumCostMicrousd role.maximumCostMicrousd < reservation p spec,
        .costDenied),
      (spec.executionProfile = .localZeroCost ∧ reservation p spec ≠ 0,
        .localProfileCostDenied)]

/-- The binding under which evidence and prices are looked up. -/
def DeploymentCandidate.key (c : DeploymentCandidate dig) : String × String :=
  (c.deploymentId, c.identityDigest)

def ModelRouter.candidateEvaluation (m : ModelRouter dig) (c : DeploymentCandidate dig)
    (spec : RequestSpec) (role : RolePolicy)
    (observations : List ObservedModelCapabilities) (now : ℤ) (excluded : List String) :
    Except RouterError (CandidateEvaluation dig) := do
  let observation := observations.find? (·.key = c.key)
  let price := m.price c.key
  let evidence ← evidenceFindings c spec role observations observation now
  return {
    candidate := c
    reasons := sortedReasons (placementFindings c spec role excluded ++ evidence ++
      priceFindings m c spec role price)
    cost := price.map fun p => reservation p spec
    latency := observation.map (·.spec.latencyP95Millis)
    evidenceDigest := observation.map (·.recordDigest)
    evidenceValidUntil := observation.map (·.spec.validUntil.instant)
    preference := role.candidateIds.idxOf c.deploymentId }

/-! ## Outcomes -/

/-- An instant with the text that `_timestamp` writes. -/
def timestamp (dig : RouterDigests) (t : ℤ) : Timestamp :=
  ⟨dig.timeText t, t⟩

def rankDigest (e : CandidateEvaluation dig) : Except RouterError (Option String) :=
  if e.eligible then do
    let rank ← e.rank
    return some (dig.rank rank)
  else .ok none

def explainCandidate (e : CandidateEvaluation dig) : Except RouterError ExplainCandidate := do
  let digest ← rankDigest e
  return {
    candidateDigest := e.candidate.candidateDigest
    outcome :=
      if .fallbackCandidateExcluded ∈ e.reasons then .excluded
      else if e.eligible then .eligible else .rejected
    reasonCodes := e.reasons
    rankDigest := digest }

def selectedRecord (spec : RequestSpec) (e : CandidateEvaluation dig) :
    Except RouterError SelectedDeployment := do
  let cost ← Checks.expect .assertion e.cost
  let latency ← Checks.expect .assertion e.latency
  let evidenceDigest ← Checks.expect .assertion e.evidenceDigest
  return {
    deploymentId := e.candidate.deploymentId
    deploymentDigest := e.candidate.deploymentDigest
    deploymentIdentityDigest := e.candidate.identityDigest
    observedEvidenceDigest := evidenceDigest
    candidateDigest := e.candidate.candidateDigest
    reservedCostMicrousd := cost
    estimatedLatencyP95Millis := latency
    aggregateReservation := spec.aggregateBudget.map fun b =>
      ⟨b.maximumCalls, b.inputTokenCeiling, b.outputTokenCeiling, cost⟩ }

/-- `seal_routing_record` of an explanation, and its validation. -/
def sealExplain (dig : RouterDigests) (metadata : Metadata) (spec : ExplainSpec) :
    Except RouterError RoutingExplain := do
  let explain : RoutingExplain := ⟨metadata, dig.explain metadata spec, spec⟩
  Checks.require (explain.valid dig) .contract
  return explain

/-- `seal_routing_record` of a decision, and its validation. -/
def sealDecision (dig : RouterDigests) (metadata : Metadata) (spec : DecisionSpec) :
    Except RouterError ModelRouteDecision := do
  let decision : ModelRouteDecision := ⟨metadata, dig.decision metadata spec, spec⟩
  Checks.require (decision.valid dig.toRecordDigests) .contract
  return decision

/-- The ids and the attempt that a call of the router is made under. -/
structure RouteCall where
  decisionId : String
  explainId : String
  routeAttempt : ℕ
  fallbackFrom : Option String

def ModelRouter.outcome (m : ModelRouter dig) (request : ModelRouteRequest)
    (call : RouteCall) (now : ℤ) (reason : ReasonCode)
    (evaluations : List (CandidateEvaluation dig))
    (selected : Option (CandidateEvaluation dig)) (validityLimit : ℤ) :
    Except RouterError RoutingOutcome := do
  let effect : Verdict := if selected.isSome then .allowed else .denied
  let candidates ←
    (sortOn (·.candidate.candidateDigest) evaluations).mapM explainCandidate
  let explain ← sealExplain dig ⟨call.explainId, timestamp dig now, none⟩
    { requestDigest := request.recordDigest
      policyDigest := m.policyDigest
      priceCatalogDigest := m.priceCatalogDigest
      decision := effect
      reasonCode := reason
      selectedCandidateDigest := selected.map (·.candidate.candidateDigest)
      executionPlanDigest := request.spec.executionPlanDigest
      candidates := candidates }
  let soonest ← addTime now 1
  let selectedRecord ← selected.mapM (selectedRecord request.spec)
  let decision ← sealDecision dig ⟨call.decisionId, timestamp dig now, none⟩
    { requestDigest := request.recordDigest
      policyDigest := m.policyDigest
      priceCatalogDigest := m.priceCatalogDigest
      decision := effect
      reasonCode := reason
      routeAttempt := call.routeAttempt
      selected := selectedRecord
      validUntil := timestamp dig (max soonest validityLimit)
      fallbackFromDigest := call.fallbackFrom
      explainDigest := explain.recordDigest
      executionPlanDigest := request.spec.executionPlanDigest }
  return ⟨decision, explain⟩

/-! ## Routes -/

/-- Why the request is refused before any candidate is looked at. -/
def ModelRouter.preconditionReason (m : ModelRouter dig) (spec : RequestSpec)
    (role : RolePolicy) (now : ℤ) : Option ReasonCode :=
  if spec.policyDigest ≠ m.policyDigest then some .policyBindingMismatch
  else if spec.actionClass ∉ role.allowedActionClasses ∨
      spec.dataClass ∉ role.allowedDataClasses ∨ spec.deadlineAt.instant ≤ now ∨
      (spec.executionProfile = .localZeroCost ∧
        (spec.allowCloud = true ∨ spec.maximumCostMicrousd ≠ 0)) then
    some .requestPolicyDenied
  else if ¬ (m.priceCatalog.spec.validFrom.instant ≤ now ∧
      now < m.priceCatalog.spec.validUntil.instant) then
    some .priceCatalogStale
  else none

/-- `_safe_validate` of a request. -/
def checkRequest (dig : RouterDigests) (request : ModelRouteRequest) :
    Except RouterError Unit :=
  Checks.require (request.valid dig.toRecordDigests) (.routing "ECO_ROUTING_CONTRACT_INVALID")

def currentTime (now : Option ℤ) : Except RouterError ℤ :=
  Checks.expect (.routing "ECO_ROUTING_CLOCK_INVALID") now

/-- An evaluation with its rank in front, as the sort compares them. -/
def ranked (e : CandidateEvaluation dig) :
    Except RouterError (Rank × CandidateEvaluation dig) := do
  let rank ← e.rank
  return (rank, e)

/-- The first of the eligible evaluations sorted by their rank. -/
def pick (evaluations : List (CandidateEvaluation dig)) :
    Except RouterError (Option (CandidateEvaluation dig)) := do
  let eligible ← (evaluations.filter (·.eligible)).mapM ranked
  return (leastOn (·.1) eligible).map (·.2)

/-- The evaluation of all candidates and the pick among them, behind the
preconditions. -/
def ModelRouter.select (m : ModelRouter dig) (request : ModelRouteRequest)
    (role : RolePolicy) (candidates : List (DeploymentCandidate dig))
    (observations : List ObservedModelCapabilities) (current : ℤ) (call : RouteCall)
    (excluded : List String) (baseValidUntil : ℤ) :
    Except RouterError RoutingOutcome := do
  Checks.require (decide (candidates.map (·.deploymentId)).Nodup)
    (.routing "ECO_ROUTING_CANDIDATE_CONFLICT")
  let observed ← observationMap dig observations
  let evaluations ← candidates.mapM fun c =>
    m.candidateEvaluation c request.spec role observed current excluded
  let selected ← pick evaluations
  m.outcome request call current
    (if selected.isSome then .eligible else .noEligibleCandidate) evaluations selected
    (((selected.bind (·.evidenceValidUntil)).map (min baseValidUntil)).getD baseValidUntil)

/-- `route`, with the arguments that only `fallback` sets. -/
def ModelRouter.routeWith (m : ModelRouter dig) (request : ModelRouteRequest)
    (candidates : List (DeploymentCandidate dig))
    (observations : List ObservedModelCapabilities) (now : Option ℤ) (call : RouteCall)
    (excluded : List String) : Except RouterError RoutingOutcome := do
  let current ← currentTime now
  checkRequest dig request
  let role ← m.roleOf request.spec.role
  let ttlEnd ← addTime current (m.policy.spec.decisionTtlSeconds * 1000000)
  let baseValidUntil := min (min ttlEnd request.spec.deadlineAt.instant)
    m.priceCatalog.spec.validUntil.instant
  match m.preconditionReason request.spec role current with
  | some reason => m.outcome request call current reason [] none baseValidUntil
  | none =>
    m.select request role candidates observations current call excluded baseValidUntil

def ModelRouter.route (m : ModelRouter dig) (request : ModelRouteRequest)
    (candidates : List (DeploymentCandidate dig))
    (observations : List ObservedModelCapabilities) (now : Option ℤ)
    (decisionId explainId : String) : Except RouterError RoutingOutcome :=
  m.routeWith request candidates observations now ⟨decisionId, explainId, 1, none⟩ []

/-! ## Fallbacks -/

def nonFallbackFailures : List String :=
  ["policy", "privacy", "authority", "schema", "ambiguous", "provider-identity-drift",
    "deadline", "budget"]

def retryableFailures : List String :=
  ["capacity", "transport-retryable"]

/-- May a failure of this class be answered with a second attempt? -/
def failureRetryable (role : RolePolicy) (failureClass : String) : Bool :=
  failureClass ∉ nonFallbackFailures && failureClass ∈ retryableFailures &&
    failureClass ∈ role.retryableFailureClasses.map RetryableFailure.text

def ModelRouter.previousAuthorizes (m : ModelRouter dig) (request : ModelRouteRequest)
    (previous : ModelRouteDecision) (current : ℤ) : Bool :=
  previous.spec.decision = .allowed &&
    previous.spec.requestDigest = request.recordDigest &&
    previous.spec.policyDigest = m.policyDigest &&
    previous.spec.priceCatalogDigest = m.priceCatalogDigest &&
    previous.spec.executionPlanDigest = request.spec.executionPlanDigest &&
    previous.spec.selected.isSome && current < previous.spec.validUntil.instant

def identityDrifted (candidates : List (DeploymentCandidate dig))
    (selected : SelectedDeployment) : Bool :=
  match candidates.find? (·.deploymentId = selected.deploymentId) with
  | none => true
  | some current => current.identityDigest ≠ selected.deploymentIdentityDigest

/-- Why a fallback is denied before the candidates are ranked. -/
def ModelRouter.fallbackReason (m : ModelRouter dig) (request : ModelRouteRequest)
    (previous : ModelRouteDecision) (role : RolePolicy) (failureClass : String)
    (candidates : List (DeploymentCandidate dig)) (current : ℤ) : Option ReasonCode :=
  if ¬ m.previousAuthorizes request previous current then some .fallbackNotAuthorized
  else if role.maxRouteAttempts ≤ previous.spec.routeAttempt then some .fallbackExhausted
  else if ¬ failureRetryable role failureClass then some .fallbackNotAuthorized
  else if previous.spec.selected.any (identityDrifted candidates) then
    some .fallbackIdentityDrift
  else none

def ModelRouter.fallback (m : ModelRouter dig) (request : ModelRouteRequest)
    (previous : ModelRouteDecision) (failureClass : String)
    (candidates : List (DeploymentCandidate dig))
    (observations : List ObservedModelCapabilities) (now : Option ℤ)
    (decisionId explainId : String) : Except RouterError RoutingOutcome := do
  let current ← currentTime now
  checkRequest dig request
  Checks.require (previous.valid dig.toRecordDigests) (.routing "ECO_ROUTING_CONTRACT_INVALID")
  let role ← m.roleOf request.spec.role
  let call : RouteCall := ⟨decisionId, explainId, 2, some previous.recordDigest⟩
  match m.fallbackReason request previous role failureClass candidates current with
  | some reason =>
    let limit ← addTime current 1
    m.outcome request call current reason [] none limit
  | none =>
    m.routeWith request candidates observations now call
      (previous.spec.selected.toList.map (·.candidateDigest))

end Ecosystem.Routing
