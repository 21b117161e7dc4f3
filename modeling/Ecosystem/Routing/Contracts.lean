import Mathlib

/-!
# Routing contracts

The route request and the route decision of `eco_routing/contracts.py`, on the structured
value of the JSON: `schemaOk` is what the schema asks of the fields, `semanticErrors` are
the checks behind it.  A number of a record is the integer that it denotes.

A timestamp keeps its text, which the digest of a record covers, beside its microseconds.
-/

namespace Ecosystem.Routing

/-! ## Patterns -/

def isHex (c : Char) : Bool :=
  c.isDigit || ('a' ≤ c && c ≤ 'f')

/-- The signs that an identifier may hold behind its first place. -/
def isIdentifierChar (c : Char) : Bool :=
  c.isAlphanum || c ∈ ['.', '_', ':', '-']

def isIdentifier : List Char → Bool
  | [] => false
  | c :: cs => c.isAlphanum && cs.length ≤ 127 && cs.all isIdentifierChar

def isDigest (cs : List Char) : Bool :=
  cs.length = 64 && cs.all isHex

/-- `_IDENTIFIER_RE.fullmatch`. -/
def fullmatchIdentifier (s : String) : Bool :=
  isIdentifier s.toList

/-- `_DIGEST_RE.fullmatch`. -/
def fullmatchDigest (s : String) : Bool :=
  isDigest s.toList

/-- `_CONSUMER_KIND_RE.fullmatch`. -/
def fullmatchConsumerKind (s : String) : Bool :=
  match s.toList with
  | [] => false
  | c :: cs =>
    c.isLower && cs.length ≤ 63 &&
      cs.all fun c => c.isLower || c.isDigit || c = '-'

/-- `_ALGORITHM_RE.fullmatch`. -/
def fullmatchAlgorithm (s : String) : Bool :=
  match s.toList with
  | [] => false
  | c :: cs =>
    (c.isLower || c.isDigit) && 1 ≤ cs.length && cs.length ≤ 63 &&
      cs.all fun c => c.isLower || c.isDigit || c ∈ ['.', '_', '-']

/-- A `$` of a schema pattern also matches before a final line feed. -/
def patternBody (s : String) : List Char :=
  let cs := s.toList
  if cs.getLast? = some '\n' then cs.dropLast else cs

/-- The schema pattern `id`. -/
def matchesId (s : String) : Bool :=
  isIdentifier (patternBody s)

/-- The schema pattern `digest`. -/
def matchesDigest (s : String) : Bool :=
  isDigest (patternBody s)

/-- The schema pattern `capability`. -/
def matchesCapability (s : String) : Bool :=
  match patternBody s with
  | [] => false
  | c :: cs =>
    c.isLower && 1 ≤ cs.length && cs.length ≤ 127 &&
      cs.all fun c => c.isLower || c.isDigit || c ∈ ['.', '_', '-']

/-! ## Errors -/

/-- What a routing operation raises: a `RoutingError` with its code, or the
error of an integer that the database cannot hold. -/
inductive RoutingError
  | routing (code : String)
  | overflow

def refuse {α : Type} (code : String) : Except RoutingError α :=
  .error (.routing code)

/-- Checks in the order of the source, each with the code that it raises. -/
def require : List (Bool × String) → Except RoutingError Unit
  | [] => .ok ()
  | (ok, code) :: checks => if ok then require checks else refuse code

theorem require_eq_ok {checks : List (Bool × String)} :
    require checks = .ok () ↔ ∀ check ∈ checks, check.1 = true := by
  induction checks with
  | nil => simp [require]
  | cons check checks ih =>
    obtain ⟨ok, code⟩ := check
    cases ok with
    | false => simp [require, refuse]
    | true => simp [require, ih]

/-! ## Records -/

structure Timestamp where
  text : String
  instant : ℤ
deriving DecidableEq

structure Metadata where
  id : String
  createdAt : Timestamp
  revision : Option ℕ := none
deriving DecidableEq

inductive ModelRole
  | orchestrator | worker | grader | researcher | coder
deriving DecidableEq

inductive ActionClass
  | a0 | a1 | a2 | a3 | a4
deriving DecidableEq

inductive DataClass
  | d0 | d1 | d2 | d3 | d4
deriving DecidableEq

inductive WorkloadClass
  | interactive | batch | review | research | coding
deriving DecidableEq

inductive Zone
  | z0 | z1 | z2 | z3 | z4
deriving DecidableEq

def Zone.text : Zone → String
  | .z0 => "Z0"
  | .z1 => "Z1"
  | .z2 => "Z2"
  | .z3 => "Z3"
  | .z4 => "Z4"

inductive Retention
  | noRetention | localRuntimeDependent | contractual
deriving DecidableEq

def Retention.text : Retention → String
  | .noRetention => "no-retention"
  | .localRuntimeDependent => "local-runtime-dependent"
  | .contractual => "contractual"

inductive ExecutionProfile
  | localZeroCost | standard
deriving DecidableEq

structure AggregateBudget where
  maximumCalls : ℕ
  inputTokenCeiling : ℕ
  outputTokenCeiling : ℕ
  maximumCostMicrousd : ℕ
deriving DecidableEq

structure RequestSpec where
  role : ModelRole
  actionClass : ActionClass
  dataClass : DataClass
  workloadClass : WorkloadClass
  requiredCapabilities : List String
  requiredContextTokens : ℕ
  inputTokenCeiling : ℕ
  outputTokenCeiling : ℕ
  allowedZones : List Zone
  allowedRetentions : List Retention
  allowCloud : Bool
  maximumCostMicrousd : ℕ
  deadlineAt : Timestamp
  executionProfile : ExecutionProfile
  policyDigest : String
  contextDigest : String
  executionPlanDigest : Option String
  aggregateBudget : Option AggregateBudget
deriving DecidableEq

structure ModelRouteRequest where
  metadata : Metadata
  recordDigest : String
  spec : RequestSpec

structure AggregateReservation where
  maximumCalls : ℕ
  inputTokenCeiling : ℕ
  outputTokenCeiling : ℕ
  reservedCostMicrousd : ℕ
deriving DecidableEq

structure SelectedDeployment where
  deploymentId : String
  deploymentDigest : String
  deploymentIdentityDigest : String
  observedEvidenceDigest : String
  candidateDigest : String
  reservedCostMicrousd : ℕ
  estimatedLatencyP95Millis : ℕ
  aggregateReservation : Option AggregateReservation
deriving DecidableEq

inductive Verdict
  | allowed | denied
deriving DecidableEq

inductive ReasonCode
  | eligible | policyBindingMismatch | requestPolicyDenied | priceCatalogStale
  | fallbackNotAuthorized | fallbackIdentityDrift | fallbackExhausted
  | noEligibleCandidate
deriving DecidableEq

structure DecisionSpec where
  requestDigest : String
  policyDigest : String
  priceCatalogDigest : String
  decision : Verdict
  reasonCode : ReasonCode
  routeAttempt : ℕ
  selected : Option SelectedDeployment
  validUntil : Timestamp
  fallbackFromDigest : Option String
  explainDigest : String
  executionPlanDigest : Option String
deriving DecidableEq

structure ModelRouteDecision where
  metadata : Metadata
  recordDigest : String
  spec : DecisionSpec

/-- `routing_record_digest` of the two kinds of records, over everything but the
digest that they carry. -/
structure RecordDigests where
  request : Metadata → RequestSpec → String
  decision : Metadata → DecisionSpec → String

/-! ## The schema -/

def Timestamp.schemaOk (t : Timestamp) : Bool :=
  t.text.toList.getLast? = some 'Z'

def Metadata.schemaOk (m : Metadata) (recordDigest : String) : Bool :=
  matchesId m.id && m.createdAt.schemaOk && m.revision.all (1 ≤ ·) &&
    matchesDigest recordDigest

def AggregateBudget.schemaOk (b : AggregateBudget) : Bool :=
  1 ≤ b.maximumCalls && b.maximumCalls ≤ 10000 && 1 ≤ b.outputTokenCeiling

def RequestSpec.schemaOk (s : RequestSpec) : Bool :=
  decide s.requiredCapabilities.Nodup &&
    s.requiredCapabilities.all matchesCapability &&
    1 ≤ s.requiredContextTokens && 1 ≤ s.outputTokenCeiling &&
    !s.allowedZones.isEmpty && decide s.allowedZones.Nodup &&
    !s.allowedRetentions.isEmpty && decide s.allowedRetentions.Nodup &&
    s.deadlineAt.schemaOk && matchesDigest s.policyDigest &&
    matchesDigest s.contextDigest && s.executionPlanDigest.all matchesDigest &&
    s.aggregateBudget.all AggregateBudget.schemaOk

def AggregateReservation.schemaOk (r : AggregateReservation) : Bool :=
  1 ≤ r.maximumCalls && r.maximumCalls ≤ 10000 && 1 ≤ r.outputTokenCeiling

def SelectedDeployment.schemaOk (s : SelectedDeployment) : Bool :=
  matchesId s.deploymentId && matchesDigest s.deploymentDigest &&
    matchesDigest s.deploymentIdentityDigest &&
    matchesDigest s.observedEvidenceDigest && matchesDigest s.candidateDigest &&
    1 ≤ s.estimatedLatencyP95Millis &&
    s.aggregateReservation.all AggregateReservation.schemaOk

def DecisionSpec.schemaOk (s : DecisionSpec) : Bool :=
  matchesDigest s.requestDigest && matchesDigest s.policyDigest &&
    matchesDigest s.priceCatalogDigest && 1 ≤ s.routeAttempt &&
    s.routeAttempt ≤ 2 && s.selected.all SelectedDeployment.schemaOk &&
    s.validUntil.schemaOk && s.fallbackFromDigest.all matchesDigest &&
    matchesDigest s.explainDigest && s.executionPlanDigest.all matchesDigest

/-! ## The checks behind the schema -/

def fieldErrors (kind : String) (checks : List (Bool × String)) : List String :=
  checks.filterMap fun check =>
    if check.1 then none else some (kind ++ check.2 ++ ": failed validation")

def sortedTexts (texts : List String) : Bool :=
  decide (texts.Pairwise (· ≤ ·))

/-- `_semantic_errors` of a route request. -/
def ModelRouteRequest.semanticErrors (digests : RecordDigests)
    (r : ModelRouteRequest) : List String :=
  fieldErrors "ModelRouteRequest"
    [(r.recordDigest = digests.request r.metadata r.spec, "$.metadata.recordDigest"),
      (sortedTexts r.spec.requiredCapabilities, "$.spec.requiredCapabilities"),
      (sortedTexts (r.spec.allowedZones.map Zone.text), "$.spec.allowedZones"),
      (sortedTexts (r.spec.allowedRetentions.map Retention.text),
        "$.spec.allowedRetentions"),
      (r.metadata.createdAt.instant < r.spec.deadlineAt.instant, "$.spec.deadlineAt"),
      (r.spec.executionPlanDigest.isNone = r.spec.aggregateBudget.isNone,
        "$.spec.aggregateBudget"),
      (r.spec.aggregateBudget.all fun b =>
          r.spec.inputTokenCeiling ≤ b.inputTokenCeiling &&
            r.spec.outputTokenCeiling ≤ b.outputTokenCeiling &&
            b.maximumCostMicrousd = r.spec.maximumCostMicrousd,
        "$.spec.aggregateBudget")]

/-- What `_semantic_errors` asks of the aggregate reservation of a decision:
none without an execution plan, one in an allowed decision with a plan. -/
def DecisionSpec.reservationFits (s : DecisionSpec) : Bool :=
  match s.executionPlanDigest with
  | none => (s.selected.bind (·.aggregateReservation)).isNone
  | some _ =>
    s.decision ≠ .allowed ||
      (s.selected.bind (·.aggregateReservation)).isSome

/-- `_semantic_errors` of a route decision. -/
def ModelRouteDecision.semanticErrors (digests : RecordDigests)
    (d : ModelRouteDecision) : List String :=
  fieldErrors "ModelRouteDecision"
    [(d.recordDigest = digests.decision d.metadata d.spec, "$.metadata.recordDigest"),
      ((d.spec.decision = .allowed) = d.spec.selected.isSome, "$.spec.selected"),
      ((d.spec.decision = .allowed) = (d.spec.reasonCode = .eligible), "$.spec.reasonCode"),
      (d.metadata.createdAt.instant < d.spec.validUntil.instant, "$.spec.validUntil"),
      ((d.spec.routeAttempt = 1) = d.spec.fallbackFromDigest.isNone,
        "$.spec.fallbackFromDigest"),
      (d.spec.reservationFits, "$.spec.selected.aggregateReservation"),
      (d.spec.selected.all fun s => s.aggregateReservation.all fun r =>
          r.reservedCostMicrousd = s.reservedCostMicrousd,
        "$.spec.selected.aggregateReservation")]

/-- `validate_routing_record` accepts the request. -/
def ModelRouteRequest.valid (digests : RecordDigests) (r : ModelRouteRequest) :
    Bool :=
  r.metadata.schemaOk r.recordDigest && r.spec.schemaOk &&
    (r.semanticErrors digests).isEmpty

/-- `validate_routing_record` accepts the decision. -/
def ModelRouteDecision.valid (digests : RecordDigests) (d : ModelRouteDecision) :
    Bool :=
  d.metadata.schemaOk d.recordDigest && d.spec.schemaOk &&
    (d.semanticErrors digests).isEmpty

/-! ## What validation gives -/

theorem fieldErrors_isEmpty {kind : String} {checks : List (Bool × String)} :
    (fieldErrors kind checks).isEmpty = true ↔ ∀ check ∈ checks, check.1 = true := by
  rw [List.isEmpty_iff, fieldErrors, List.filterMap_eq_nil_iff]
  refine forall₂_congr fun check _ => ?_
  cases check.1 with
  | false | true => simp

variable {digests : RecordDigests}

theorem ModelRouteRequest.digest_of_valid {r : ModelRouteRequest}
    (h : r.valid digests = true) :
    r.recordDigest = digests.request r.metadata r.spec := by
  simp only [valid, Bool.and_eq_true, semanticErrors, fieldErrors_isEmpty] at h
  simpa using h.2 _ (List.mem_cons_self ..)

theorem ModelRouteDecision.digest_of_valid {d : ModelRouteDecision}
    (h : d.valid digests = true) :
    d.recordDigest = digests.decision d.metadata d.spec := by
  simp only [valid, Bool.and_eq_true, semanticErrors, fieldErrors_isEmpty] at h
  simpa using h.2 _ (List.mem_cons_self ..)

theorem ModelRouteDecision.attempt_of_fallback {d : ModelRouteDecision}
    {digest : String} (h : d.valid digests = true)
    (hfallback : d.spec.fallbackFromDigest = some digest) :
    d.spec.routeAttempt = 2 := by
  simp only [valid, Bool.and_eq_true, semanticErrors, fieldErrors_isEmpty,
    List.forall_mem_cons] at h
  obtain ⟨⟨-, hschema⟩, -, -, -, -, hattempt, -⟩ := h
  simp only [DecisionSpec.schemaOk, Bool.and_eq_true, decide_eq_true_eq] at hschema
  have hne : d.spec.routeAttempt ≠ 1 := by
    simpa [hfallback] using hattempt
  have h1 : 1 ≤ d.spec.routeAttempt := hschema.1.1.1.1.1.1.2
  have h2 : d.spec.routeAttempt ≤ 2 := hschema.1.1.1.1.1.2
  omega

/-- No two valid records of a kind have one digest: `routing_record_digest` has
no collision among them. -/
structure RecordDigests.Injective (digests : RecordDigests) : Prop where
  request : ∀ {r r' : ModelRouteRequest}, r.valid digests = true →
    r'.valid digests = true →
    digests.request r.metadata r.spec = digests.request r'.metadata r'.spec →
    r.metadata = r'.metadata ∧ r.spec = r'.spec
  decision : ∀ {d d' : ModelRouteDecision}, d.valid digests = true →
    d'.valid digests = true →
    digests.decision d.metadata d.spec = digests.decision d'.metadata d'.spec →
    d.metadata = d'.metadata ∧ d.spec = d'.spec

theorem ModelRouteRequest.eq_of_digest (hinj : digests.Injective)
    {r r' : ModelRouteRequest} (h : r.valid digests = true)
    (h' : r'.valid digests = true) (heq : r.recordDigest = r'.recordDigest) :
    r = r' := by
  obtain ⟨hmeta, hspec⟩ := hinj.request h h'
    (by rw [← digest_of_valid h, ← digest_of_valid h', heq])
  cases r
  cases r'
  simp_all

theorem ModelRouteDecision.eq_of_digest (hinj : digests.Injective)
    {d d' : ModelRouteDecision} (h : d.valid digests = true)
    (h' : d'.valid digests = true) (heq : d.recordDigest = d'.recordDigest) :
    d = d' := by
  obtain ⟨hmeta, hspec⟩ := hinj.decision h h'
    (by rw [← digest_of_valid h, ← digest_of_valid h', heq])
  cases d
  cases d'
  simp_all

end Ecosystem.Routing
