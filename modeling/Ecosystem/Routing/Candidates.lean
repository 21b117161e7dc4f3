import Ecosystem.Lib.Checks
import Ecosystem.Routing.Contracts

/-!
# What the model router reads

The policy, the price catalog, the observation and the explanation of
`eco_routing/contracts.py`, and the projection of a deployment of `router.py`.

Instants are microseconds.  Digests and the text of an instant are parameters; what is
known of them is their form.
-/

namespace Ecosystem.Routing

open Ecosystem.Lib

/-! ## Records -/

inductive RetryableFailure
  | capacity | transportRetryable
deriving DecidableEq

def RetryableFailure.text : RetryableFailure → String
  | .capacity => "capacity"
  | .transportRetryable => "transport-retryable"

structure RolePolicy where
  role : ModelRole
  requiredCapabilities : List String
  allowedActionClasses : List ActionClass
  allowedDataClasses : List DataClass
  allowedZones : List Zone
  allowedRetentions : List Retention
  candidateIds : List String
  maximumCostMicrousd : ℕ
  maxRouteAttempts : ℕ
  retryableFailureClasses : List RetryableFailure
deriving DecidableEq

structure PolicySpec where
  decisionTtlSeconds : ℕ
  roles : List RolePolicy

structure ModelRoutingPolicy where
  metadata : Metadata
  recordDigest : String
  spec : PolicySpec

structure PriceEntry where
  deploymentId : String
  deploymentIdentityDigest : String
  inputMicrousdPerMillionTokens : ℕ
  outputMicrousdPerMillionTokens : ℕ
  fixedRequestMicrousd : ℕ
deriving DecidableEq

structure PriceSpec where
  validFrom : Timestamp
  validUntil : Timestamp
  sourceProvenanceDigest : String
  entries : List PriceEntry

structure TrustedPriceCatalog where
  metadata : Metadata
  recordDigest : String
  spec : PriceSpec

structure ObservationSpec where
  deploymentId : String
  deploymentIdentityDigest : String
  capabilities : List String
  contextWindowTokens : ℕ
  latencyP95Millis : ℕ
  observedAt : Timestamp
  validUntil : Timestamp
  evidenceEnvelopeDigest : String
  suiteDigest : String
deriving DecidableEq

structure ObservedModelCapabilities where
  metadata : Metadata
  recordDigest : String
  spec : ObservationSpec
deriving DecidableEq

inductive Rejection
  | fallbackCandidateExcluded | deploymentDisabled | policyCandidateDenied | zoneDenied
  | dataClassDenied | retentionDenied | cloudDenied | localProfileDenied
  | providerIdentityDrift | capabilityEvidenceMissing | capabilityEvidenceStale
  | capabilityMissing | contextWindowInsufficient | deadlineInsufficient
  | priceMissing | costDenied | localProfileCostDenied
deriving DecidableEq

def Rejection.text : Rejection → String
  | .fallbackCandidateExcluded => "fallback-candidate-excluded"
  | .deploymentDisabled => "deployment-disabled"
  | .policyCandidateDenied => "policy-candidate-denied"
  | .zoneDenied => "zone-denied"
  | .dataClassDenied => "data-class-denied"
  | .retentionDenied => "retention-denied"
  | .cloudDenied => "cloud-denied"
  | .localProfileDenied => "local-profile-denied"
  | .providerIdentityDrift => "provider-identity-drift"
  | .capabilityEvidenceMissing => "capability-evidence-missing"
  | .capabilityEvidenceStale => "capability-evidence-stale"
  | .capabilityMissing => "capability-missing"
  | .contextWindowInsufficient => "context-window-insufficient"
  | .deadlineInsufficient => "deadline-insufficient"
  | .priceMissing => "price-missing"
  | .costDenied => "cost-denied"
  | .localProfileCostDenied => "local-profile-cost-denied"

inductive CandidateOutcome
  | eligible | rejected | excluded

structure ExplainCandidate where
  candidateDigest : String
  outcome : CandidateOutcome
  reasonCodes : List Rejection
  rankDigest : Option String

structure ExplainSpec where
  requestDigest : String
  policyDigest : String
  priceCatalogDigest : String
  decision : Verdict
  reasonCode : ReasonCode
  selectedCandidateDigest : Option String
  executionPlanDigest : Option String
  candidates : List ExplainCandidate

structure RoutingExplain where
  metadata : Metadata
  recordDigest : String
  spec : ExplainSpec

/-- Cost, latency, preference and candidate digest, compared in this order. -/
abbrev Rank := ℕ ×ₗ ℕ ×ₗ ℕ ×ₗ String

structure DeploymentIdentity where
  adapterVersion : String
  modelRevision : String
  runtimeEngine : String
  runtimeVersion : String
  quantization : String
  endpointReferenceDigest : String

/-- A deployment of the catalog; `other` are the fields that routing does not read. -/
structure CanonicalDeployment where
  id : String
  provider : String
  adapter : String
  model : String
  endpointRef : String
  identity : DeploymentIdentity
  zone : Zone
  retention : String
  allowedDataClasses : List DataClass
  enabled : Bool
  other : String

structure RouterDigests extends RecordDigests where
  policy : Metadata → PolicySpec → String
  prices : Metadata → PriceSpec → String
  observation : Metadata → ObservationSpec → String
  explain : Metadata → ExplainSpec → String
  rank : Rank → String
  deployment : CanonicalDeployment → String
  candidate : String → String → String → String
  timeText : ℤ → String
  decision_hex : ∀ m s, matchesDigest (decision m s) = true
  explain_hex : ∀ m s, matchesDigest (explain m s) = true
  rank_hex : ∀ r, matchesDigest (rank r) = true
  deployment_hex : ∀ d, matchesDigest (deployment d) = true
  candidate_hex : ∀ id d i, matchesDigest (candidate id d i) = true
  timeText_zulu : ∀ t, (timeText t).toList.getLast? = some 'Z'

/-! ## Validation -/

def RolePolicy.schemaOk (r : RolePolicy) : Bool :=
  decide r.requiredCapabilities.Nodup && r.requiredCapabilities.all matchesCapability &&
    !r.allowedActionClasses.isEmpty && decide r.allowedActionClasses.Nodup &&
    !r.allowedDataClasses.isEmpty && decide r.allowedDataClasses.Nodup &&
    !r.allowedZones.isEmpty && decide r.allowedZones.Nodup &&
    !r.allowedRetentions.isEmpty && decide r.allowedRetentions.Nodup &&
    decide r.candidateIds.Nodup && r.candidateIds.all matchesId &&
    1 ≤ r.maxRouteAttempts && r.maxRouteAttempts ≤ 2 &&
    decide r.retryableFailureClasses.Nodup

def ActionClass.text : ActionClass → String
  | .a0 => "A0"
  | .a1 => "A1"
  | .a2 => "A2"
  | .a3 => "A3"
  | .a4 => "A4"

def DataClass.text : DataClass → String
  | .d0 => "D0"
  | .d1 => "D1"
  | .d2 => "D2"
  | .d3 => "D3"
  | .d4 => "D4"

def RolePolicy.sortedFields (r : RolePolicy) : Bool :=
  sortedTexts r.requiredCapabilities &&
    sortedTexts (r.allowedActionClasses.map ActionClass.text) &&
    sortedTexts (r.allowedDataClasses.map DataClass.text) &&
    sortedTexts (r.allowedZones.map Zone.text) &&
    sortedTexts (r.allowedRetentions.map Retention.text) &&
    sortedTexts (r.retryableFailureClasses.map RetryableFailure.text)

def canonicalModelRoles : List ModelRole :=
  [.orchestrator, .worker, .grader, .researcher, .coder]

/-- `validate_routing_record` accepts the policy. -/
def ModelRoutingPolicy.valid (dig : RouterDigests) (p : ModelRoutingPolicy) : Bool :=
  p.metadata.schemaOk p.recordDigest && p.metadata.revision.isSome &&
    1 ≤ p.spec.decisionTtlSeconds && p.spec.decisionTtlSeconds ≤ 3600 &&
    p.spec.roles.all RolePolicy.schemaOk &&
    p.recordDigest = dig.policy p.metadata p.spec &&
    p.spec.roles.map (·.role) = canonicalModelRoles &&
    p.spec.roles.all RolePolicy.sortedFields

def PriceEntry.schemaOk (e : PriceEntry) : Bool :=
  matchesId e.deploymentId && matchesDigest e.deploymentIdentityDigest

def PriceEntry.key (e : PriceEntry) : String × String :=
  (e.deploymentId, e.deploymentIdentityDigest)

def pairLE (a b : String × String) : Bool :=
  decide (toLex a ≤ toLex b)

/-- `validate_routing_record` accepts the price catalog. -/
def TrustedPriceCatalog.valid (dig : RouterDigests) (c : TrustedPriceCatalog) : Bool :=
  c.metadata.schemaOk c.recordDigest && c.metadata.revision.isSome &&
    c.spec.validFrom.schemaOk && c.spec.validUntil.schemaOk &&
    matchesDigest c.spec.sourceProvenanceDigest && !c.spec.entries.isEmpty &&
    c.spec.entries.all PriceEntry.schemaOk &&
    c.recordDigest = dig.prices c.metadata c.spec &&
    c.spec.validFrom.instant < c.spec.validUntil.instant &&
    decide ((c.spec.entries.map PriceEntry.key).Pairwise fun a b => pairLE a b) &&
    decide (c.spec.entries.map PriceEntry.key).Nodup

/-- `validate_routing_record` accepts the observation. -/
def ObservedModelCapabilities.valid (dig : RouterDigests)
    (o : ObservedModelCapabilities) : Bool :=
  o.metadata.schemaOk o.recordDigest && matchesId o.spec.deploymentId &&
    matchesDigest o.spec.deploymentIdentityDigest &&
    decide o.spec.capabilities.Nodup && o.spec.capabilities.all matchesCapability &&
    1 ≤ o.spec.contextWindowTokens && 1 ≤ o.spec.latencyP95Millis &&
    o.spec.latencyP95Millis ≤ 3600000 && o.spec.observedAt.schemaOk &&
    o.spec.validUntil.schemaOk && matchesDigest o.spec.evidenceEnvelopeDigest &&
    matchesDigest o.spec.suiteDigest &&
    o.recordDigest = dig.observation o.metadata o.spec &&
    sortedTexts o.spec.capabilities &&
    o.spec.observedAt.instant < o.spec.validUntil.instant

def ExplainCandidate.schemaOk (c : ExplainCandidate) : Bool :=
  matchesDigest c.candidateDigest && decide c.reasonCodes.Nodup &&
    c.rankDigest.all matchesDigest

/-- `validate_routing_record` accepts the explanation. -/
def RoutingExplain.valid (dig : RouterDigests) (e : RoutingExplain) : Bool :=
  e.metadata.schemaOk e.recordDigest && matchesDigest e.spec.requestDigest &&
    matchesDigest e.spec.policyDigest && matchesDigest e.spec.priceCatalogDigest &&
    e.spec.selectedCandidateDigest.all matchesDigest &&
    e.spec.executionPlanDigest.all matchesDigest &&
    e.spec.candidates.all ExplainCandidate.schemaOk &&
    e.recordDigest = dig.explain e.metadata e.spec &&
    sortedTexts (e.spec.candidates.map (·.candidateDigest)) &&
    (e.spec.candidates.all fun c => sortedTexts (c.reasonCodes.map Rejection.text)) &&
    decide ((e.spec.decision = .allowed) = e.spec.selectedCandidateDigest.isSome)

/-! ## Errors and instants -/

inductive RouterError
  | routing (code : String)
  /-- a record of the router itself does not validate -/
  | contract
  /-- an instant past the last one -/
  | overflow
  | assertion
  /-- a role that the policy does not have -/
  | key
deriving DecidableEq

/-- `datetime.max`, in microseconds. -/
def datetimeMax : ℤ := 253402300799999999

def addTime (t d : ℤ) : Except RouterError ℤ :=
  if t + d ≤ datetimeMax then .ok (t + d) else .error .overflow

/-! ## Candidates -/

inductive ProviderClass
  | local | cloud
deriving DecidableEq

/-- `DeploymentCandidate`.  Its digests are digests, and its own covers the other two
and the deployment id. -/
structure DeploymentCandidate (dig : RouterDigests) where
  deploymentId : String
  deploymentDigest : String
  identityDigest : String
  candidateDigest : String
  providerClass : ProviderClass
  zone : Zone
  retention : Retention
  allowedDataClasses : List DataClass
  enabled : Bool
  deployment_hex : matchesDigest deploymentDigest = true
  identity_hex : matchesDigest identityDigest = true
  candidate_eq :
    candidateDigest = dig.candidate deploymentId deploymentDigest identityDigest

end Ecosystem.Routing
