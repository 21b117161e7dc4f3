import Ecosystem.Runtime.EventChain

/-!
# Runtime records

The documents of `SQLiteRuntimeStore`: the fields that it reads, and the record contract.
Properties that no operation reads are one text, `rest`.  A JSON number is its value; only
the length of an artifact keeps whether it is a float, because `verify_record` asks.
-/

namespace Ecosystem.Store

open Ecosystem.Lib Ecosystem.Runtime

/-! ## Errors -/

/-- What a call can raise: a `RuntimeStoreError`, an error of the reducer, a
violated record contract or database constraint, or an error of the interpreter
(a bad argument, a missing key, a date out of range). -/
inductive StoreError
  | store (code message : String)
  | state (error : RuntimeStateError)
  | contract
  | integrity
  | value (message : String)
  | missingKey
  | overflow
deriving DecidableEq

/-- Checks in the order of the source, each with the error of its failure. -/
def require : List (Bool × StoreError) → Except StoreError Unit
  | [] => .ok ()
  | (ok, err) :: checks => if ok then require checks else .error err

theorem require_eq_ok {checks : List (Bool × StoreError)} :
    require checks = .ok () ↔ ∀ check ∈ checks, check.1 = true := by
  induction checks with
  | nil => simp [require]
  | cons check checks ih =>
    obtain ⟨ok, err⟩ := check
    cases ok with
    | false => simp [require]
    | true => simp [require, ih]

theorem require_bind_eq_ok {α : Type} {checks : List (Bool × StoreError)}
    {f : Unit → Except StoreError α} {a : α} :
    require checks >>= f = .ok a ↔ (∀ check ∈ checks, check.1 = true) ∧ f () = .ok a := by
  rw [bind_eq_ok]
  constructor
  · rintro ⟨⟨⟩, hchecks, hf⟩
    exact ⟨require_eq_ok.mp hchecks, hf⟩
  · rintro ⟨hchecks, hf⟩
    exact ⟨(), require_eq_ok.mpr hchecks, hf⟩

/-- The value of a row or key that has to be there. -/
def expect {α : Type} (err : StoreError) : Option α → Except StoreError α
  | some a => .ok a
  | none => .error err

theorem expect_eq_ok {α : Type} {err : StoreError} {x : Option α} {a : α} :
    expect err x = .ok a ↔ x = some a := by
  cases x <;> simp [expect]

/-! ## Time -/

/-- The first and the last instant of a `datetime` in UTC, in microseconds. -/
def minInstant : ℤ := -62135596800000000
def maxInstant : ℤ := 253402300799999999

def representable (t : ℤ) : Bool := minInstant ≤ t && t ≤ maxInstant

/-- A clock reading: an aware `datetime` that has a value in UTC. -/
structure Instant where
  us : ℤ
  inRange : representable us = true
deriving DecidableEq

/-- The text of a timestamp: the instant it denotes, and what its spelling adds
to the one that `_utc` writes.  A text with an offset can denote an instant that
no `datetime` in UTC holds. -/
structure Stamp where
  instant : ℤ
  spelling : String := ""
deriving DecidableEq

def utc (now : Instant) : Stamp := { instant := now.us }

def parse (s : Stamp) : Except StoreError Instant :=
  if h : representable s.instant = true then .ok ⟨s.instant, h⟩
  else .error .overflow

/-- `+ timedelta(seconds=…)`. -/
def Instant.addSeconds (t : Instant) (seconds : ℕ) : Except StoreError Instant :=
  if h : representable (t.us + seconds * 1000000) = true then .ok ⟨_, h⟩
  else .error .overflow

theorem parse_eq_ok {s : Stamp} {t : Instant} : parse s = .ok t ↔ s.instant = t.us := by
  obtain ⟨us, hus⟩ := t
  unfold parse
  split
  · simp
  · next h =>
      refine iff_of_false (by simp) ?_
      rintro rfl
      exact h hus

@[simp] theorem parse_utc (now : Instant) : parse (utc now) = .ok now :=
  parse_eq_ok.mpr rfl

@[simp] theorem utc_instant (now : Instant) : (utc now).instant = now.us := rfl

/-! ## Enumerations -/

inductive DataClass
  | d0 | d1 | d2 | d3 | d4
deriving DecidableEq

inductive Trust
  | p0 | p1 | p2 | p3 | p4
deriving DecidableEq

inductive Effect
  | allow | deny
deriving DecidableEq

inductive RecordKind
  | runRequest | runPlan | policyDecision | runEvent | artifactRecord
  | errorRecord | adapterConformanceProfile | toolExecutionIntent
  | repositoryReadReceipt | toolExecutionOutcome | runCheckpoint
  | endpointBinding | modelRequest | modelResult
  | repositorySnapshot | toolRequest | other (name : String)
deriving DecidableEq

namespace RecordKind

/-- `SAFE_JOURNAL_KINDS`. -/
def isSafe : RecordKind → Bool
  | .repositorySnapshot | .toolRequest | .other _ => false
  | _ => true

/-- `AUTHORITY_MANAGED_KINDS`. -/
def isAuthorityManaged : RecordKind → Bool
  | .runPlan | .policyDecision | .toolExecutionIntent | .repositoryReadReceipt
  | .toolExecutionOutcome | .runEvent | .artifactRecord | .errorRecord
  | .runCheckpoint | .endpointBinding | .modelRequest | .modelResult => true
  | _ => false

end RecordKind

/-! ## Documents that callers supply -/

structure RunMetadata where
  id : String
  runId : String
  createdAt : Stamp
deriving DecidableEq

structure RunRequest where
  id : String
  createdAt : Stamp
  rest : String

structure PlanProject where
  semanticConfigDigest : String
  digestProfile : String
  contractProfile : String
  schemaBundleDigest : String
  policyEngineVersion : String

structure PlanInput where
  ref : String
  artifactRecordDigest : String
  contentDigest : String
  dataClass : DataClass
  byteLength : ℕ
deriving DecidableEq

structure SnapshotBinding where
  id : String
  digest : String
  rootIdentityDigest : String
  trust : Trust

structure PlanRoute where
  deploymentId : String
  deploymentIdentityDigest : String
  provider : String
  adapter : String
  adapterVersion : String
  model : String
  egressAllowed : Bool
  endpointReferenceDigest : String

structure PlanTool where
  id : String
  catalogDigest : String

structure BudgetLimits where
  maxDurationSeconds : ℕ
  maxModelRequests : ℕ
  maxToolRequests : ℕ
  maxInputBytes : ℕ
  maxOutputBytes : ℕ
  maxTotalTokens : ℕ
  maxCostMicrousd : ℕ

structure RunPlan where
  metadata : RunMetadata
  requestDigest : String
  project : PlanProject
  repositorySnapshot : Option SnapshotBinding
  inputs : List PlanInput
  route : PlanRoute
  tools : List PlanTool
  budget : BudgetLimits
  rest : String

def RunPlan.initialInputBytes (plan : RunPlan) : ℕ :=
  (plan.inputs.map (·.byteLength)).sum

structure DecisionSubject where
  kind : RecordKind
  id : String
  digest : String
deriving DecidableEq

structure PolicySnapshot where
  apiVersion : String
  semanticConfigDigest : String
  digestProfile : String
  contractProfile : String
  schemaBundleDigest : String
  policyEngineVersion : String
deriving DecidableEq

structure PolicyDecision where
  metadata : RunMetadata
  subject : DecisionSubject
  effect : Effect
  policySnapshot : PolicySnapshot
  expiresAt : Stamp
  rest : String
deriving DecidableEq

structure RecordBinding where
  id : String
  digest : String
deriving DecidableEq

structure SnapshotEntry where
  path : String
  contentDigest : String
  byteLength : ℕ
  dataClass : DataClass
  trust : Trust

structure RepositorySnapshot where
  id : String
  createdAt : Stamp
  rootIdentityDigest : String
  trust : Trust
  entries : List SnapshotEntry
  rest : String

structure ToolRequest where
  metadata : RunMetadata
  planDigest : String
  toolId : String
  path : Option String
  rest : String

structure RepositoryEntry where
  snapshotDigest : String
  pathDigest : String
  contentDigest : String
  byteLength : ℕ
  dataClass : DataClass
  trust : Trust
deriving DecidableEq

structure IntentReservation where
  toolRequests : ℕ
  inputBytes : ℕ
deriving DecidableEq

structure ToolExecutionIntent where
  metadata : RunMetadata
  idempotencyKeyDigest : String
  planDigest : String
  toolRequest : RecordBinding
  allowDecision : RecordBinding
  toolCatalogDigest : String
  reservation : IntentReservation
  repositoryEntry : RepositoryEntry
  rest : String

structure OperationMetadata extends RunMetadata where
  operationId : String
deriving DecidableEq

structure ReceiptSpec where
  intentDigest : String
  toolRequestDigest : String
  repositorySnapshotDigest : String
  contentDigest : String
  byteLength : ℕ
  dataClass : DataClass
  trust : Trust
deriving DecidableEq

structure RepositoryReadReceipt where
  metadata : OperationMetadata
  spec : ReceiptSpec
  rest : String

inductive ArtifactRole
  | input | output | evidence
deriving DecidableEq

inductive ProducerType
  | operator | model | tool | runtime
deriving DecidableEq

structure ArtifactProducer where
  type : ProducerType
  id : String
deriving DecidableEq

inductive Retention
  | ephemeral | run | projectPolicy
deriving DecidableEq

structure JsonInteger where
  value : ℕ
  isFloat : Bool := false

structure ArtifactSpec where
  role : ArtifactRole
  mediaType : String
  byteLength : JsonInteger
  sha256 : String
  dataClass : DataClass
  trust : Trust
  producer : ArtifactProducer
  storageRef : String
  parentRefs : Option (List String)
  retention : Retention

structure ArtifactRecord where
  metadata : RunMetadata
  spec : ArtifactSpec

inductive TransportProfile
  | localLoopbackHttp | directCloudHttps
deriving DecidableEq

inductive CredentialMode
  | none | transportOwned
deriving DecidableEq

structure EndpointBinding where
  id : String
  deploymentId : String
  resolvedAt : Stamp
  validUntil : Stamp
  deploymentIdentityDigest : String
  endpointReferenceDigest : String
  adapter : String
  adapterVersion : String
  model : String
  transportProfile : TransportProfile
  credentialMode : CredentialMode
  rest : String

structure ModelInput where
  artifactRecordDigest : String
  contentDigest : String
  byteLength : ℕ
  dataClass : DataClass
  trust : Trust
deriving DecidableEq

structure ModelRequest where
  metadata : RunMetadata
  planDigest : String
  deploymentId : String
  deploymentIdentityDigest : String
  endpointBindingDigest : String
  input : ModelInput
  maxOutputTokens : ℕ
  maxOutputBytes : ℕ
  rest : String

structure ModelOutput where
  contentDigest : String
  byteLength : ℕ
  dataClass : DataClass

structure RequestMetadata extends RunMetadata where
  requestId : String

structure ModelResult where
  metadata : RequestMetadata
  modelRequestDigest : String
  deploymentId : String
  deploymentIdentityDigest : String
  endpointBindingDigest : String
  adapterVersion : String
  output : ModelOutput
  totalTokens : ℕ
  rest : String

/-- A record of a kind that the store only ever looks at from outside: the
adapter conformance profiles that `put_record` takes, and the other subjects of
a consumed decision. -/
structure OtherRecord where
  /-- The name of the kind, unless it is `AdapterConformanceProfile`. -/
  kindName : Option String
  id : String
  runId : Option String
  createdAt : Stamp
  rest : String

/-! ## Documents that the store writes -/

inductive ErrorCategory
  | validation | policy | capability | budget | broker | adapter | internal
deriving DecidableEq

inductive ErrorStage
  | planning | policy | model | tool | finalization
deriving DecidableEq

structure ErrorMetadata where
  id : String
  runId : String
  requestId : Option String
  createdAt : Stamp
deriving DecidableEq

structure ErrorDetails where
  policyRule : Option String := none
  capability : Option String := none
  toolId : Option String := none
  deploymentId : Option String := none
  limitName : Option String := none
deriving DecidableEq

structure ErrorSpec where
  code : String
  category : ErrorCategory
  stage : ErrorStage
  retryable : Bool
  safeMessage : String
  causeRef : Option String := none
  details : Option ErrorDetails := none
deriving DecidableEq

structure ErrorRecord where
  metadata : ErrorMetadata
  spec : ErrorSpec
deriving DecidableEq

inductive OutcomeStatus
  | succeeded | failed
deriving DecidableEq

structure OutcomeSpec where
  intentDigest : String
  status : OutcomeStatus
  receiptDigest : Option String := none
  artifactRecordDigest : Option String := none
  errorRecordDigest : Option String := none
deriving DecidableEq

structure ToolExecutionOutcome where
  metadata : OperationMetadata
  spec : OutcomeSpec
deriving DecidableEq

/-- `_projection_payload`: the part of a projection that the adapter lifecycle
uses. -/
structure ProjectionPayload where
  state : RunState
  toolStates : Dict String (Phase × String)
  adapterCompleted : Bool
  adapterFailed : Bool
  budgetExhausted : Bool

def ProjectionPayload.ofProjection (p : RunProjection) : ProjectionPayload where
  state := p.state
  toolStates := p.toolStates
  adapterCompleted := p.adapterCompleted
  adapterFailed := p.adapterFailed
  budgetExhausted := p.budgetExhausted

/-- `_projection_from_payload`. -/
def ProjectionPayload.toProjection (p : ProjectionPayload) : RunProjection where
  state := p.state
  toolStates := p.toolStates
  adapterCompleted := p.adapterCompleted
  adapterFailed := p.adapterFailed
  budgetExhausted := p.budgetExhausted

structure CheckpointBudget where
  limitsDigest : String
  toolRequests : ℕ
  inputBytes : ℕ
  reservedInputBytes : ℕ
  outputBytes : ℕ
  modelRequests : ℕ
  totalTokens : ℕ
  costMicrousd : ℕ

structure CheckpointSpec where
  state : RunState
  projection : ProjectionPayload
  historyComplete : Bool
  historySource : String
  eventSequence : ℕ
  eventHeadDigest : Option String
  activePlanDigest : Option String
  budget : CheckpointBudget
  openOperationIds : List String
  startedAt : Stamp
  deadlineAt : Option Stamp

structure RunCheckpoint where
  metadata : RunMetadata
  revision : ℕ
  spec : CheckpointSpec

/-! ## Records -/

inductive Record
  | runRequest (r : RunRequest)
  | runPlan (r : RunPlan)
  | policyDecision (r : PolicyDecision)
  | runEvent (r : RunEvent)
  | artifactRecord (r : ArtifactRecord)
  | errorRecord (r : ErrorRecord)
  | toolExecutionIntent (r : ToolExecutionIntent)
  | repositoryReadReceipt (r : RepositoryReadReceipt)
  | toolExecutionOutcome (r : ToolExecutionOutcome)
  | runCheckpoint (r : RunCheckpoint)
  | endpointBinding (r : EndpointBinding)
  | modelRequest (r : ModelRequest)
  | modelResult (r : ModelResult)
  | repositorySnapshot (r : RepositorySnapshot)
  | toolRequest (r : ToolRequest)
  | other (r : OtherRecord)

namespace Record

def kind : Record → RecordKind
  | .runRequest _ => .runRequest
  | .runPlan _ => .runPlan
  | .policyDecision _ => .policyDecision
  | .runEvent _ => .runEvent
  | .artifactRecord _ => .artifactRecord
  | .errorRecord _ => .errorRecord
  | .toolExecutionIntent _ => .toolExecutionIntent
  | .repositoryReadReceipt _ => .repositoryReadReceipt
  | .toolExecutionOutcome _ => .toolExecutionOutcome
  | .runCheckpoint _ => .runCheckpoint
  | .endpointBinding _ => .endpointBinding
  | .modelRequest _ => .modelRequest
  | .modelResult _ => .modelResult
  | .repositorySnapshot _ => .repositorySnapshot
  | .toolRequest _ => .toolRequest
  | .other r => r.kindName.elim .adapterConformanceProfile .other

def id : Record → String
  | .runRequest r => r.id
  | .runPlan r => r.metadata.id
  | .policyDecision r => r.metadata.id
  | .runEvent r => r.metadata.id
  | .artifactRecord r => r.metadata.id
  | .errorRecord r => r.metadata.id
  | .toolExecutionIntent r => r.metadata.id
  | .repositoryReadReceipt r => r.metadata.id
  | .toolExecutionOutcome r => r.metadata.id
  | .runCheckpoint r => r.metadata.id
  | .endpointBinding r => r.id
  | .modelRequest r => r.metadata.id
  | .modelResult r => r.metadata.id
  | .repositorySnapshot r => r.id
  | .toolRequest r => r.metadata.id
  | .other r => r.id

/-- `metadata.get("runId")`. -/
def runId : Record → Option String
  | .runRequest _ => none
  | .runPlan r => some r.metadata.runId
  | .policyDecision r => some r.metadata.runId
  | .runEvent r => some r.metadata.runId
  | .artifactRecord r => some r.metadata.runId
  | .errorRecord r => some r.metadata.runId
  | .toolExecutionIntent r => some r.metadata.runId
  | .repositoryReadReceipt r => some r.metadata.runId
  | .toolExecutionOutcome r => some r.metadata.runId
  | .runCheckpoint r => some r.metadata.runId
  | .endpointBinding _ => none
  | .modelRequest r => some r.metadata.runId
  | .modelResult r => some r.metadata.runId
  | .repositorySnapshot _ => none
  | .toolRequest r => some r.metadata.runId
  | .other r => r.runId

/-- The timestamp that `_record_identity` takes. -/
def createdAt : Record → Stamp
  | .runRequest r => r.createdAt
  | .runPlan r => r.metadata.createdAt
  | .policyDecision r => r.metadata.createdAt
  | .runEvent r => { instant := r.metadata.occurredAt }
  | .artifactRecord r => r.metadata.createdAt
  | .errorRecord r => r.metadata.createdAt
  | .toolExecutionIntent r => r.metadata.createdAt
  | .repositoryReadReceipt r => r.metadata.createdAt
  | .toolExecutionOutcome r => r.metadata.createdAt
  | .runCheckpoint r => r.metadata.createdAt
  | .endpointBinding r => r.resolvedAt
  | .modelRequest r => r.metadata.createdAt
  | .modelResult r => r.metadata.createdAt
  | .repositorySnapshot r => r.createdAt
  | .toolRequest r => r.metadata.createdAt
  | .other r => r.createdAt

end Record

/-! ## The record contract -/

/-- `^[first][rest]{least,most}$`. -/
def matchesWord (first rest : Char → Bool) (least : ℕ) (most : Option ℕ)
    (s : String) : Bool :=
  match dropFinalNewline s.toList with
  | [] => false
  | c :: cs =>
    first c && least ≤ cs.length && most.all (cs.length ≤ ·) && cs.all rest

/-- `^ECO_[A-Z0-9_]+$`. -/
def matchesErrorCode (s : String) : Bool :=
  match s.toList with
  | 'E' :: 'C' :: 'O' :: '_' :: cs =>
    let cs := dropFinalNewline cs
    !cs.isEmpty && cs.all fun c => c.isUpper || c.isDigit || c = '_'
  | _ => false

/-- `^[A-Z][A-Z0-9_-]+$`. -/
def matchesRule : String → Bool :=
  matchesWord Char.isUpper
    (fun c => c.isUpper || c.isDigit || c ∈ ['_', '-']) 1 none

/-- `^[a-z][a-z0-9._-]+$`. -/
def matchesName : String → Bool :=
  matchesWord Char.isLower
    (fun c => c.isLower || c.isDigit || c ∈ ['.', '_', '-']) 1 none

/-- `^[a-z][A-Za-z0-9]+$`. -/
def matchesLimitName : String → Bool :=
  matchesWord Char.isLower Char.isAlphanum 1 none

/-- `^internal://` and 1 to 4096 letters, digits, dots, underscores, colons,
slashes and hyphens, of which the first is a letter or a digit. -/
def matchesCauseRef (s : String) : Bool :=
  "internal://".toList.isPrefixOf s.toList &&
    matchesWord Char.isAlphanum
      (fun c => c.isAlphanum || c ∈ ['.', '_', ':', '/', '-']) 0 (some 4095)
      (String.ofList (s.toList.drop "internal://".toList.length))

def errorValid (r : ErrorRecord) : Bool :=
  matchesId r.metadata.id && matchesId r.metadata.runId &&
    r.metadata.requestId.all matchesId &&
    matchesErrorCode r.spec.code &&
    1 ≤ r.spec.safeMessage.length && r.spec.safeMessage.length ≤ 512 &&
    r.spec.causeRef.all matchesCauseRef &&
    r.spec.details.all fun d =>
      d.policyRule.all matchesRule && d.capability.all matchesName &&
        d.toolId.all matchesName && d.deploymentId.all matchesId &&
        d.limitName.all matchesLimitName

def outcomeValid (r : ToolExecutionOutcome) : Bool :=
  matchesId r.metadata.id && matchesId r.metadata.runId &&
    matchesId r.metadata.operationId && matchesSha256 r.spec.intentDigest &&
    r.spec.receiptDigest.all matchesSha256 &&
    r.spec.artifactRecordDigest.all matchesSha256 &&
    r.spec.errorRecordDigest.all matchesSha256 &&
    match r.spec.status with
    | .succeeded =>
      r.spec.receiptDigest.isSome && r.spec.artifactRecordDigest.isSome &&
        r.spec.errorRecordDigest.isNone
    | .failed =>
      r.spec.errorRecordDigest.isSome && r.spec.receiptDigest.isNone &&
        r.spec.artifactRecordDigest.isNone

def checkpointValid (r : RunCheckpoint) : Bool :=
  matchesId r.metadata.id && matchesId r.metadata.runId &&
    decide (∀ id ∈ r.spec.projection.toolStates.keys, matchesId id = true) &&
    !(r.spec.projection.toolStates.anyValue fun v =>
      v.1 == .started || !matchesSha256 v.2) &&
    r.spec.projection.toolStates.keys.card ≤ 10000 &&
    matchesId r.spec.historySource &&
    r.spec.eventHeadDigest.all matchesSha256 &&
    r.spec.activePlanDigest.all matchesSha256 &&
    matchesSha256 r.spec.budget.limitsDigest &&
    r.spec.openOperationIds.length ≤ 10000 &&
    decide r.spec.openOperationIds.Nodup &&
    r.spec.openOperationIds.all matchesId

def budgetLimitsValid (b : BudgetLimits) : Bool :=
  1 ≤ b.maxDurationSeconds && b.maxDurationSeconds ≤ 86400 &&
    1 ≤ b.maxModelRequests && b.maxModelRequests ≤ 1000 &&
    b.maxToolRequests ≤ 10000 &&
    1 ≤ b.maxInputBytes && b.maxInputBytes ≤ 1073741824 &&
    1 ≤ b.maxOutputBytes && b.maxOutputBytes ≤ 1073741824 &&
    1 ≤ b.maxTotalTokens && b.maxTotalTokens ≤ 10000000 &&
    b.maxCostMicrousd ≤ 1000000000000

/-- The properties of a record that its schema declares as identifiers. -/
def Record.idFields : Record → List String
  | .runRequest r => [r.id]
  | .runPlan r =>
    [r.metadata.id, r.metadata.runId, r.route.deploymentId] ++
      r.repositorySnapshot.toList.map (·.id)
  | .policyDecision r => [r.metadata.id, r.metadata.runId, r.subject.id]
  | .artifactRecord r => [r.metadata.id, r.metadata.runId, r.spec.producer.id]
  | .toolExecutionIntent r =>
    [r.metadata.id, r.metadata.runId, r.toolRequest.id, r.allowDecision.id]
  | .repositoryReadReceipt r =>
    [r.metadata.id, r.metadata.runId, r.metadata.operationId]
  | .endpointBinding r => [r.id, r.deploymentId]
  | .modelRequest r => [r.metadata.id, r.metadata.runId, r.deploymentId]
  | .modelResult r =>
    [r.metadata.id, r.metadata.runId, r.metadata.requestId, r.deploymentId]
  | .repositorySnapshot r => [r.id]
  | .toolRequest r => [r.metadata.id, r.metadata.runId]
  | .other r => [r.id]
  | _ => []

def Record.digestFields : Record → List String
  | .runPlan r =>
    [r.requestDigest, r.project.semanticConfigDigest,
      r.project.schemaBundleDigest, r.route.deploymentIdentityDigest,
      r.route.endpointReferenceDigest] ++
      r.repositorySnapshot.toList.flatMap
        (fun s => [s.digest, s.rootIdentityDigest]) ++
      r.inputs.flatMap (fun i => [i.artifactRecordDigest, i.contentDigest]) ++
      r.tools.map (·.catalogDigest)
  | .policyDecision r =>
    [r.subject.digest, r.policySnapshot.semanticConfigDigest,
      r.policySnapshot.schemaBundleDigest]
  | .artifactRecord r => [r.spec.sha256]
  | .toolExecutionIntent r =>
    [r.idempotencyKeyDigest, r.planDigest, r.toolRequest.digest,
      r.allowDecision.digest, r.toolCatalogDigest,
      r.repositoryEntry.snapshotDigest, r.repositoryEntry.pathDigest,
      r.repositoryEntry.contentDigest]
  | .repositoryReadReceipt r =>
    [r.spec.intentDigest, r.spec.toolRequestDigest,
      r.spec.repositorySnapshotDigest, r.spec.contentDigest]
  | .endpointBinding r => [r.deploymentIdentityDigest, r.endpointReferenceDigest]
  | .modelRequest r =>
    [r.planDigest, r.deploymentIdentityDigest, r.endpointBindingDigest,
      r.input.artifactRecordDigest, r.input.contentDigest]
  | .modelResult r =>
    [r.modelRequestDigest, r.deploymentIdentityDigest,
      r.endpointBindingDigest, r.output.contentDigest]
  | .repositorySnapshot r =>
    r.rootIdentityDigest :: r.entries.map (·.contentDigest)
  | .toolRequest r => [r.planDigest]
  | _ => []

/-- `validate_record`.  `schema` stands for the checks of the remaining
properties of the documents that callers supply. -/
def Record.valid (schema : Record → Bool) : Record → Bool
  | .runEvent r => contractValid r
  | .errorRecord r => errorValid r
  | .toolExecutionOutcome r => outcomeValid r
  | .runCheckpoint r => checkpointValid r
  | r =>
    r.idFields.all matchesId && r.digestFields.all matchesSha256 &&
      (match r with
        | .runPlan plan => budgetLimitsValid plan.budget
        | _ => true) &&
      schema r

end Ecosystem.Store
