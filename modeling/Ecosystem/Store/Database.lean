import Ecosystem.Lib.Table
import Ecosystem.Store.Records

/-!
# The tables of the runtime store

The tables of `SQLiteRuntimeStore` and the helpers of its transactions.  `Book` is what
only grows: records, audit log, decisions with their nonces, revisions.  `Tables` is the
authority proper.

A helper raises or returns the database that it leaves; a transaction rolls back.
`UNIQUE` columns beside a primary key add nothing short of a collision of SHA-256.
-/

namespace Ecosystem.Store

open Ecosystem.Lib Ecosystem.Runtime

/-! ## Rows -/

inductive PlanStatus
  | issued | active | terminal

inductive OperationState
  | prepared | succeeded | failed | aborted
deriving DecidableEq

inductive ReservationState
  | reserved | committed | released | uncertain
deriving DecidableEq

inductive ModelState
  | prepared | started | succeeded | failed | ambiguous
deriving DecidableEq

inductive ModelReservationState
  | reserved | committed | uncertain
deriving DecidableEq

inductive RecoveryMode
  | noRetry

structure RunRow where
  requestDigest : String
  state : RunState
  activePlanId : Option String := none
  activePlanDigest : Option String := none
  nextEventSequence : ℕ := 1
  eventHeadDigest : Option String := none
  startedAt : Stamp
  deadlineAt : Option Stamp := none
  deadlineEpochUs : Option ℤ := none
  terminalAt : Option Stamp := none
  updatedAt : Stamp
  version : ℕ := 1

structure PlanRow where
  runId : String
  planDigest : String
  status : PlanStatus := .issued
  activatedAt : Option Stamp := none

structure BudgetRow where
  planDigest : String
  limits : BudgetLimits
  deadlineAt : Stamp
  deadlineEpochUs : ℤ
  toolRequests : ℕ := 0
  inputBytes : ℕ
  reservedInputBytes : ℕ := 0
  outputBytes : ℕ := 0
  modelRequests : ℕ := 0
  totalTokens : ℕ := 0
  costMicrousd : ℕ := 0
  updatedAt : Stamp

structure OperationRow where
  runId : String
  idempotencyKeyDigest : String
  intentDigest : String
  toolRequestDigest : String
  allowDecisionDigest : String
  state : OperationState := .prepared
  recoveryMode : RecoveryMode := .noRetry
  leaseOwnerId : Option String
  leaseEpoch : ℕ := 1
  leaseTokenDigest : Option String
  leaseUntilEpochUs : Option ℤ
  receiptDigest : Option String := none
  artifactRecordDigest : Option String := none
  errorRecordDigest : Option String := none
  outcomeDigest : Option String := none
  createdAt : Stamp
  updatedAt : Stamp

structure ReservationRow where
  runId : String
  planDigest : String
  reservedInputBytes : ℕ
  actualInputBytes : Option ℕ := none
  state : ReservationState := .reserved
  createdAt : Stamp
  updatedAt : Stamp

structure ModelOperationRow where
  runId : String
  idempotencyKeyDigest : String
  requestDigest : String
  planDigest : String
  endpointBindingDigest : String
  inputArtifactRecordDigest : String
  allowDecisionDigest : String
  state : ModelState := .prepared
  recoveryMode : RecoveryMode := .noRetry
  startedAt : Option Stamp := none
  resumeDecisionDigest : Option String := none
  finalizationDecisionDigest : Option String := none
  modelResultDigest : Option String := none
  outputArtifactRecordDigest : Option String := none
  errorRecordDigest : Option String := none
  createdAt : Stamp
  updatedAt : Stamp

structure ModelReservationRow where
  runId : String
  planDigest : String
  reservedOutputBytes : ℕ
  reservedTotalTokens : ℕ
  reservedCostMicrousd : ℕ
  actualOutputBytes : Option ℕ := none
  actualTotalTokens : Option ℕ := none
  chargedTotalTokens : Option ℕ := none
  chargedCostMicrousd : Option ℕ := none
  state : ModelReservationState := .reserved
  createdAt : Stamp
  updatedAt : Stamp

structure BaselineRow where
  projection : ProjectionPayload
  projectionDigest : String
  nextSequence : ℕ := 1
  headDigest : Option String := none
  lastOccurredAt : Stamp
  historyComplete : Bool
  source : String

structure EventRow where
  runId : String
  sequence : ℕ
  previousEventDigest : Option String
  eventDigest : String
  eventType : EventType
  outcome : Outcome
  producer : Producer
  producerIssuer : String
  subjectId : Option String
  subjectDigest : Option String
  resultDigest : Option String
  occurredAt : Stamp

structure CheckpointRow where
  checkpointId : String
  checkpointDigest : String
  runVersion : ℕ

structure RecordRow where
  runId : Option String
  kind : RecordKind
  recordDigest : String
  /-- `canonical_json`, read back. -/
  record : Record
  createdAt : Stamp

structure DecisionRow where
  runId : String
  decisionDigest : String
  subjectDigest : String
  effect : Effect
  expiresAt : Stamp
  expiresAtEpochUs : ℤ
  consumedAt : Option Stamp := none
  consumedNonce : Option String := none

structure NonceRow where
  purpose : String
  runId : String
  subjectDigest : String
  resultDigest : Option String := none
  createdAt : Stamp

structure RotationRow where
  transitionDigest : String
  fromKeyId : String
  toKeyId : String
  appliedAt : Stamp

/-! ## Entities, revisions and the audit log -/

inductive EntityType
  | run | plan | budget | operation | reservation | eventBaseline | checkpoint
  | modelOperation | modelReservation
deriving DecidableEq

inductive EntityRow
  | run (row : RunRow)
  | plan (row : PlanRow)
  | budget (row : BudgetRow)
  | operation (row : OperationRow)
  | reservation (row : ReservationRow)
  | eventBaseline (row : BaselineRow)
  | checkpoint (row : CheckpointRow)
  | modelOperation (row : ModelOperationRow)
  | modelReservation (row : ModelReservationRow)

structure RevisionRow where
  entityType : EntityType
  entityId : String
  revision : ℕ
  stateDigest : String
  auditSequence : ℕ
  occurredAt : Stamp

inductive AuditType
  | record (kind : RecordKind)
  | entity (type : EntityType)
  | hmacKeyRotation

inductive AuditAction
  | recorded | issued | consumed | authorityState | keyRotation
deriving DecidableEq

/-- What the hash of an audit entry covers, beside the store's id. -/
structure AuditPayload where
  sequence : ℕ
  transactionId : String
  recordType : AuditType
  recordId : String
  action : AuditAction
  payloadDigest : String
  previousEntryHash : String
  occurredAt : Stamp

structure AuditEntry extends AuditPayload where
  entryHash : String
  hmacTag : String
  keyId : String

/-- A signed change of the active audit key. -/
structure RotationTransition where
  storeId : String
  fromKeyId : String
  toKeyId : String
  issuedAt : Stamp
  expiresAt : Stamp
  nonce : String
  fromTag : String
  toTag : String

/-! ## The database -/

structure Tables where
  runs : Table String RunRow := .empty
  plans : Table String PlanRow := .empty
  budgets : Table String BudgetRow := .empty
  operations : Table String OperationRow := .empty
  reservations : Table String ReservationRow := .empty
  modelOperations : Table String ModelOperationRow := .empty
  modelReservations : Table String ModelReservationRow := .empty
  baselines : Table String BaselineRow := .empty
  events : Table String EventRow := .empty
  checkpoints : Table String CheckpointRow := .empty

structure Book where
  records : Table String RecordRow := .empty
  decisions : Table String DecisionRow := .empty
  nonces : Table String NonceRow := .empty
  /-- In the order of their sequence, the primary key. -/
  audit : List AuditEntry := []
  revisions : List RevisionRow := []
  rotations : Table String RotationRow := .empty
  /-- The key that the store signs with. -/
  keyId : String

structure Db where
  book : Book
  tables : Tables := {}

def Tables.entityRow (t : Tables) (type : EntityType) (id : String) :
    Option EntityRow :=
  match type with
  | .run => (t.runs.get? id).map .run
  | .plan => (t.plans.get? id).map .plan
  | .budget => (t.budgets.get? id).map .budget
  | .operation => (t.operations.get? id).map .operation
  | .reservation => (t.reservations.get? id).map .reservation
  | .eventBaseline => (t.baselines.get? id).map .eventBaseline
  | .checkpoint => (t.checkpoints.get? id).map .checkpoint
  | .modelOperation => (t.modelOperations.get? id).map .modelOperation
  | .modelReservation => (t.modelReservations.get? id).map .modelReservation

/-! ## Configuration -/

/-- Everything that the store puts under `semantic_digest`. -/
inductive Document
  | record (r : Record)
  | runId (runId : String)
  | requestId (requestId : String)
  | requestDecision (requestId decision : String)
  | operationLease (token : String)
  | modelIdempotency (key : String)
  | budgetLimits (limits : BudgetLimits)
  | projection (payload : ProjectionPayload)
  | authorityState (type : EntityType) (id : String) (row : EntityRow)
  | audit (storeId : String) (payload : AuditPayload)
  | rotation (transition : RotationTransition)

structure ArtifactAvailabilityProof where
  storageRef : String
  sha256 : String
  byteLength : ℕ
  keyId : String
  token : String

/-- The two answers that the store takes from its artifact store: does a proof
verify, and are the bytes of a reference there? -/
structure ArtifactStore where
  verifyAvailability : ArtifactAvailabilityProof → Bool
  verifyObject : String → String → ℕ → Bool

structure RuntimeProfile where
  digestProfile : String
  contractProfile : String
  schemaBundleDigest : String
  policyEngineVersion : String

/-- What is fixed when a store is opened.  `epochUs` is
`int(timestamp() * 1_000_000)`, a float computation. -/
structure StoreConfig where
  semanticDigest : Document → String
  digest_wellFormed : ∀ d, matchesSha256 (semanticDigest d) = true
  schema : Record → Bool
  epochUs : ℤ → ℤ
  issuer : Producer → String
  issuer_wellFormed : ∀ p, matchesId (issuer p) = true
  storeId : String
  profile : RuntimeProfile
  /-- The ids of `_audit_keys`, the HMAC under the key of an id, and whether both
  tags of a rotation verify. -/
  keyIds : List String
  hmacTag : String → String → String
  verifyRotation : RotationTransition → Bool
  pathReferenceDigest : String → String
  artifacts : Option ArtifactStore

def StoreConfig.recordDigest (cfg : StoreConfig) (r : Record) : String :=
  cfg.semanticDigest (.record r)

def StoreConfig.instantEpochUs (cfg : StoreConfig) (now : Instant) : ℤ :=
  cfg.epochUs now.us

/-- An opaque capability object, compared by identity. -/
inductive Capability
  | trusted (producer : Producer)
  | foreign (n : ℕ)
deriving DecidableEq

def requireCapability (producer : Producer) (capability : Capability) :
    Except StoreError Unit :=
  require [(capability = .trusted producer,
    match producer with
    | .policy => .store "ECO_POLICY_ISSUER_UNTRUSTED"
        "Caller lacks the configured policy capability"
    | .broker => .store "ECO_BROKER_ISSUER_UNTRUSTED"
        "Caller lacks the configured broker capability"
    | .runtime => .store "ECO_RUNTIME_ISSUER_UNTRUSTED"
        "Caller lacks the configured runtime capability"
    | .adapter => .store "ECO_ADAPTER_ISSUER_UNTRUSTED"
        "Caller lacks the configured adapter capability")]

def genesisDigest : String := String.ofList (List.replicate 64 '0')

def sliceDigest (digest : String) : String := String.ofList (digest.toList.take 16)

section Helpers

variable (cfg : StoreConfig)

def eventId (runId : String) (sequence : ℕ) : String :=
  "evt-" ++ sliceDigest (cfg.semanticDigest (.runId runId)) ++ "-" ++ toString sequence

def checkpointId (runId : String) (version : ℕ) : String :=
  "checkpoint-" ++ sliceDigest (cfg.semanticDigest (.runId runId)) ++ "-" ++
    toString version

def modelErrorId (requestId : String) : String :=
  "error-" ++ cfg.semanticDigest (.requestId requestId)

def modelOutputId (requestId : String) : String :=
  "model-output-" ++ cfg.semanticDigest (.requestId requestId)

/-! ## Book-keeping -/

/-- `COALESCE(MAX(sequence), 0) + 1`. -/
def Book.nextAuditSequence (book : Book) : ℕ :=
  book.audit.getLast?.elim 0 (·.sequence) + 1

/-- `_append_audit`, without the sequence that it returns. -/
def Db.appendAudit (db : Db) (transactionId : String) (recordType : AuditType)
    (recordId : String) (action : AuditAction) (payloadDigest : String)
    (occurredAt : Stamp) : Db :=
  let payload : AuditPayload :=
    { sequence := db.book.nextAuditSequence
      transactionId := transactionId
      recordType := recordType
      recordId := recordId
      action := action
      payloadDigest := payloadDigest
      previousEntryHash := db.book.audit.getLast?.elim genesisDigest (·.entryHash)
      occurredAt := occurredAt }
  let entryHash := cfg.semanticDigest (.audit cfg.storeId payload)
  { db with book := { db.book with
      audit := db.book.audit ++ [{ payload with
            entryHash := entryHash
            hmacTag := cfg.hmacTag db.book.keyId entryHash
            keyId := db.book.keyId }] } }

def Db.withRecord (db : Db) (r : Record) : Db :=
  { db with book := { db.book with
      records := db.book.records.insert r.id
        { runId := r.runId
          kind := r.kind
          recordDigest := cfg.recordDigest r
          record := r
          createdAt := r.createdAt } } }

def Db.insertRecord (db : Db) (r : Record) : Except StoreError (Db × Bool) := do
  require
    [(r.valid cfg.schema, .store "ECO_STORE_RECORD_INVALID" "Runtime record is invalid"),
      (r.kind.isSafe, .store "ECO_STORE_RECORD_UNSAFE"
        "Record kind may contain sensitive runtime data")]
  match db.book.records.get? r.id with
  | some row =>
    require [(row.recordDigest = cfg.recordDigest r,
      .store "ECO_STORE_ID_CONFLICT" "Record id is bound to another digest")]
    return (db, false)
  | none => return (db.withRecord cfg r, true)

def Db.auditRecord (db : Db) (transactionId : String) (r : Record)
    (action : AuditAction) : Db :=
  db.appendAudit cfg transactionId (.record r.kind) r.id action
    (cfg.recordDigest r) r.createdAt

/-- `_record_if_new_tx`. -/
def Db.recordIfNew (db : Db) (transactionId : String) (r : Record) :
    Except StoreError Db := do
  let (db, inserted) ← db.insertRecord cfg r
  return if inserted then db.auditRecord cfg transactionId r .recorded else db

/-- `_record_result_tx`, and its copies that differ in the error. -/
def Db.recordNew (db : Db) (transactionId : String) (r : Record)
    (err : StoreError) : Except StoreError Db := do
  let (db, inserted) ← db.insertRecord cfg r
  require [(inserted, err)]
  return db.auditRecord cfg transactionId r .recorded

def conflictError : StoreError :=
  .store "ECO_OPERATION_CONFLICT" "Result record already exists"

/-- `_load_record_tx`. -/
def Db.loadRecord (db : Db) (recordId : String) : Except StoreError Record := do
  let row ← expect (.store "ECO_STORE_INTERNAL"
    "Immutable operation record is missing") (db.book.records.get? recordId)
  return row.record

/-- `SELECT … FROM records WHERE record_digest = ?`. -/
def Db.recordByDigest? (db : Db) (digest : String) : Option RecordRow :=
  (db.book.records.entries.find? fun e => e.2.recordDigest = digest).map Prod.snd

def Book.revisionsOf (book : Book) (type : EntityType) (id : String) :
    List RevisionRow :=
  book.revisions.filter fun r => r.entityType = type && r.entityId = id

def Db.withRevision (db : Db) (type : EntityType) (id transactionId : String)
    (row : EntityRow) (occurredAt : Stamp) : Db :=
  let stateDigest := cfg.semanticDigest (.authorityState type id row)
  let revision :=
    ((db.book.revisionsOf type id).map (·.revision)).foldl max 0 + 1
  let audited := db.appendAudit cfg transactionId (.entity type) id
    .authorityState stateDigest occurredAt
  { audited with book := { audited.book with
      revisions := audited.book.revisions ++
        [{ entityType := type
           entityId := id
           revision := revision
           stateDigest := stateDigest
           auditSequence := db.book.nextAuditSequence
           occurredAt := occurredAt }] } }

def Db.recordAuthorityRevision (db : Db) (type : EntityType)
    (id transactionId : String) (occurredAt : Stamp) : Except StoreError Db := do
  let row ← expect (.store "ECO_STORE_INTERNAL" "Authority entity is missing")
    (db.tables.entityRow type id)
  return db.withRevision cfg type id transactionId row occurredAt

def Db.recordAuthorityRevisions (db : Db) (entities : List (EntityType × String))
    (transactionId : String) (occurredAt : Stamp) : Except StoreError Db :=
  entities.foldlM
    (fun db e => db.recordAuthorityRevision cfg e.1 e.2 transactionId occurredAt)
    db

/-! ## Decisions -/

def requireDecisionProfile (decision : PolicyDecision)
    (semanticConfigDigest : String) : Except StoreError Unit :=
  require [(decision.policySnapshot =
      { apiVersion := "ai.ecosystem/v1alpha1"
        semanticConfigDigest := semanticConfigDigest
        digestProfile := cfg.profile.digestProfile
        contractProfile := cfg.profile.contractProfile
        schemaBundleDigest := cfg.profile.schemaBundleDigest
        policyEngineVersion := cfg.profile.policyEngineVersion },
    .store "ECO_POLICY_PROVENANCE_MISMATCH"
      "Decision policy snapshot is not trusted")]

def requirePlanProfile (plan : RunPlan) : Except StoreError Unit :=
  require [(plan.project.digestProfile = cfg.profile.digestProfile &&
      plan.project.contractProfile = cfg.profile.contractProfile &&
      plan.project.schemaBundleDigest = cfg.profile.schemaBundleDigest &&
      plan.project.policyEngineVersion = cfg.profile.policyEngineVersion,
    .store "ECO_PLAN_PROFILE_MISMATCH" "Plan runtime profile is not trusted")]

def Db.withDecision (db : Db) (decision : PolicyDecision) (expiry : Instant) :
    Db :=
  { db with book := { db.book with
      decisions := db.book.decisions.insert decision.metadata.id
        { runId := decision.metadata.runId
          decisionDigest := cfg.recordDigest (.policyDecision decision)
          subjectDigest := decision.subject.digest
          effect := decision.effect
          expiresAt := decision.expiresAt
          expiresAtEpochUs := cfg.instantEpochUs expiry } } }

/-- The decision row of `_issue_decision_tx`: inserted, or already there. -/
def Db.ensureDecision (db : Db) (decision : PolicyDecision) :
    Except StoreError Db :=
  match db.book.decisions.get? decision.metadata.id with
  | some row => do
    require [(row.decisionDigest = cfg.recordDigest (.policyDecision decision),
      .store "ECO_STORE_ID_CONFLICT" "Decision id has another digest")]
    return db
  | none => do
    let expiry ← parse decision.expiresAt
    return db.withDecision cfg decision expiry

/-- `_issue_decision_tx`. -/
def Db.issueDecision (db : Db) (decision : PolicyDecision)
    (transactionId : String) : Except StoreError Db := do
  let (db, inserted) ← db.insertRecord cfg (.policyDecision decision)
  let db ← db.ensureDecision cfg decision
  return if inserted then
    db.auditRecord cfg transactionId (.policyDecision decision) .issued else db

def Db.withConsumption (db : Db) (decision : PolicyDecision)
    (subjectDigest nonce transactionId : String) (now : Instant) : Db :=
  let consumed : Db := { db with book := { db.book with
    decisions := db.book.decisions.modify decision.metadata.id fun row =>
      { row with consumedAt := some (utc now), consumedNonce := some nonce }
    nonces := db.book.nonces.insert nonce
      { purpose := "decision-consume"
        runId := decision.metadata.runId
        subjectDigest := subjectDigest
        createdAt := utc now } } }
  consumed.appendAudit cfg transactionId (.record .policyDecision)
    decision.metadata.id .consumed
    (cfg.recordDigest (.policyDecision decision)) (utc now)

/-- `_consume_decision_tx`.  A decision that this nonce already consumed for the
same run and subject is accepted and changes nothing. -/
def Db.consumeDecision (db : Db) (decision : PolicyDecision)
    (subjectDigest nonce transactionId : String) (now : Instant) :
    Except StoreError Db := do
  let untrusted : StoreError :=
    .store "ECO_DECISION_UNTRUSTED" "Decision was not durably issued"
  let row ← expect untrusted (db.book.decisions.get? decision.metadata.id)
  require
    [(row.decisionDigest = cfg.recordDigest (.policyDecision decision), untrusted),
      (cfg.instantEpochUs now < row.expiresAtEpochUs,
        .store "ECO_DECISION_EXPIRED" "Decision is expired")]
  match db.book.nonces.get? nonce with
  | some existing =>
    require [(existing.runId = decision.metadata.runId &&
        existing.subjectDigest = subjectDigest &&
        row.consumedNonce = some nonce,
      .store "ECO_NONCE_CONFLICT" "Nonce is bound to another operation")]
    return db
  | none =>
    require [(row.consumedAt.isNone,
      .store "ECO_DECISION_REPLAYED" "Decision was already consumed")]
    return db.withConsumption cfg decision subjectDigest nonce transactionId now

/-- `UPDATE nonces SET result_digest = ? WHERE nonce = ?`. -/
def Db.withNonceResult (db : Db) (nonce digest : String) : Db :=
  { db with book := { db.book with
      nonces := db.book.nonces.modify nonce fun row =>
        { row with resultDigest := some digest } } }

/-! ## Run events -/

structure Replay where
  projection : RunProjection
  sequence : ℕ
  head : Option String
  occurredAt : ℤ

/-- The rows of a run `ORDER BY sequence`, each with its record. -/
def Db.eventsOf (db : Db) (runId : String) : List (String × EventRow × Record) :=
  ((db.tables.events.select fun _ row => row.runId = runId).insertionSort
    fun a b => a.2.sequence ≤ b.2.sequence).filterMap fun e =>
      (db.book.records.get? e.1).map fun r => (e.1, e.2, r.record)

def chainInconsistent : StoreError :=
  .store "ECO_JOURNAL_CORRUPT" "Run event chain is inconsistent"

/-- Does a row repeat its event, and does the event continue the chain? -/
def eventRowMatches (runId : String) (replay : Replay) (row : EventRow)
    (event : RunEvent) : Bool :=
  let m := event.metadata
  let s := event.spec
  row.sequence = replay.sequence && row.previousEventDigest = replay.head &&
    m.runId = runId && m.sequence = replay.sequence &&
    m.previousEventDigest = replay.head && m.producer = row.producer &&
    m.producerIssuer = row.producerIssuer &&
    ({ instant := m.occurredAt } : Stamp) = row.occurredAt &&
    row.eventDigest = cfg.recordDigest (.runEvent event) &&
    row.eventType = s.type && row.outcome = s.outcome &&
    FieldValue.ofOption row.subjectId = s.subjectId &&
    FieldValue.ofOption row.subjectDigest = s.subjectDigest &&
    FieldValue.ofOption row.resultDigest = s.resultDigest &&
    s.outcome = (eventSemantics s.type).1 &&
    m.producer ∈ (eventSemantics s.type).2 &&
    m.producerIssuer = cfg.issuer m.producer &&
    replay.occurredAt ≤ m.occurredAt

/-- One turn of the loop of `_replay_event_projection_tx`. -/
def replayEvent (runId : String) (replay : Replay)
    (e : String × EventRow × Record) : Except StoreError Replay :=
  match e.2.2 with
  | .runEvent event => do
    require [(eventRowMatches cfg runId replay e.2.1 event, chainInconsistent)]
    match reduceRunEvent replay.projection event.spec with
    | .ok projection =>
      return {
        projection := projection
        sequence := replay.sequence + 1
        head := some (cfg.recordDigest (.runEvent event))
        occurredAt := event.metadata.occurredAt }
    | .error _ =>
      .error (.store "ECO_JOURNAL_CORRUPT" "Run event reducer replay failed")
  | _ => .error chainInconsistent

/-- `_replay_event_projection_tx`. -/
def Db.replay (db : Db) (runId : String) : Except StoreError Replay := do
  let baseline ← expect (.store "ECO_JOURNAL_CORRUPT" "Run event baseline is missing")
    (db.tables.baselines.get? runId)
  require [(cfg.semanticDigest (.projection baseline.projection) =
      baseline.projectionDigest,
    .store "ECO_JOURNAL_CORRUPT" "Run event baseline projection digest differs")]
  let occurredAt ← parse baseline.lastOccurredAt
  (db.eventsOf runId).foldlM (replayEvent cfg runId)
    { projection := baseline.projection.toProjection
      sequence := baseline.nextSequence
      head := baseline.headDigest
      occurredAt := occurredAt.us }

/-- What an operation says about the event that it appends. -/
structure GeneratedEvent where
  type : EventType
  producer : Producer
  subjectId : Option String := none
  subjectDigest : Option String := none
  resultDigest : Option String := none

def GeneratedEvent.spec (e : GeneratedEvent) : EventSpec where
  type := e.type
  outcome := (eventSemantics e.type).1
  subjectId := .ofOption e.subjectId
  subjectDigest := .ofOption e.subjectDigest
  resultDigest := .ofOption e.resultDigest

def GeneratedEvent.record (e : GeneratedEvent) (runId : String) (sequence : ℕ)
    (head : Option String) (now : Instant) : RunEvent where
  metadata :=
    { id := eventId cfg runId sequence
      runId := runId
      sequence := sequence
      occurredAt := now.us
      producer := e.producer
      producerIssuer := cfg.issuer e.producer
      previousEventDigest := head }
  spec := e.spec

def GeneratedEvent.row (e : GeneratedEvent) (runId : String) (sequence : ℕ)
    (head : Option String) (now : Instant) : EventRow where
  runId := runId
  sequence := sequence
  previousEventDigest := head
  eventDigest := cfg.recordDigest (.runEvent (e.record cfg runId sequence head now))
  eventType := e.type
  outcome := (eventSemantics e.type).1
  producer := e.producer
  producerIssuer := cfg.issuer e.producer
  subjectId := e.subjectId
  subjectDigest := e.subjectDigest
  resultDigest := e.resultDigest
  occurredAt := utc now

def Db.withEvent (db : Db) (runId : String) (event : EventRow) (state : RunState)
    (now : Instant) (sequence : ℕ) : Db :=
  { db with tables := { db.tables with
      events := db.tables.events.insert (eventId cfg runId sequence) event
      runs := db.tables.runs.modify runId fun run =>
        { run with
          state := state
          nextEventSequence := sequence + 1
          eventHeadDigest := some event.eventDigest
          terminalAt := if state.isTerminal then some (utc now) else run.terminalAt
          updatedAt := utc now
          version := run.version + 1 } } }

/-- `_append_generated_event_tx`. -/
def Db.appendGeneratedEvent (db : Db) (runId : String) (e : GeneratedEvent)
    (capability : Capability) (now : Instant) (transactionId : String) :
    Except StoreError Db := do
  require [(e.producer ∈ (eventSemantics e.type).2 &&
      capability = .trusted e.producer,
    .store "ECO_EVENT_PRODUCER_UNTRUSTED" "Event producer is not trusted")]
  let run ← expect (.store "ECO_RUN_UNKNOWN" "Run does not exist")
    (db.tables.runs.get? runId)
  let replay ← db.replay cfg runId
  require
    [(replay.projection.state = run.state &&
        replay.sequence = run.nextEventSequence &&
        replay.head = run.eventHeadDigest,
        .store "ECO_JOURNAL_CORRUPT" "Run cache differs from event replay"),
      (!replay.projection.state.isTerminal,
        .store "ECO_RUN_TERMINAL" "No event may follow a terminal state"),
      (replay.occurredAt ≤ now.us,
        .store "ECO_EVENT_TIME_REVERSED" "Event time moved backwards")]
  let next ← (reduceRunEvent replay.projection e.spec).mapError .state
  let event := e.record cfg runId replay.sequence replay.head now
  require [(contractValid event, .contract)]
  let db ← db.recordNew cfg transactionId (.runEvent event)
    (.store "ECO_EVENT_ID_REUSED" "Generated event id already exists")
  let row := e.row cfg runId replay.sequence replay.head now
  require [((db.tables.events.get? event.metadata.id).isNone, .integrity)]
  let db := db.withEvent cfg runId row next.state now replay.sequence
  db.recordAuthorityRevision cfg .run runId transactionId (utc now)

end Helpers

end Ecosystem.Store
