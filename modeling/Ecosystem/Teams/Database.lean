import Ecosystem.Lib.Table
import Ecosystem.Teams.Contracts

/-!
# The database of a team coordinator

The tables of `TeamCoordinator` and its transaction: the state is verified, the body reads
and writes the tables, and one that changed them is followed by a new state digest, its
MAC and the next event.  An exception rolls everything back.

Hashes, MACs, the conversions of the clock and the depth at which the interpreter gives up
are parameters (`Primitives`).
-/

namespace Ecosystem.Teams

open Ecosystem.Lib

/-! ## Rows -/

structure ManifestRow where
  projectId : String
  teamId : String
  digest : String
  document : AgentTeamManifest

structure RunRow where
  manifestId : String
  teamId : String
  projectId : String
  status : RunStatus
  cancellationRequested : Bool := false
  maxTokens : ℕ
  maxCost : ℕ
  resultDocument : Option TeamRunResult := none

structure TaskRow where
  digest : String
  document : TeamTask
  status : TaskStatus
  attempt : ℕ := 0
  workerDigest : Option String := none
  leaseHash : Option String := none
  leaseExpiresUs : Option ℤ := none
  reservedTokens : ℕ := 0
  reservedCost : ℕ := 0
  chargedTokens : ℕ := 0
  chargedCost : ℕ := 0
  outcomeDigest : Option String := none
  cancellationRequested : Bool := false

structure HandoffRow where
  fromTaskId : String
  toTaskId : String
  artifactDigest : String
  digest : String
  document : TeamHandoff

structure RouteRow where
  taskDigest : String
  consumedAtUs : ℤ

/-- The tables that the operations read and write.  Tasks are keyed by run and
task, handoffs by run and handoff, consumed routes by the digest of the route. -/
structure TeamTables where
  manifests : Table String ManifestRow := .empty
  runs : Table String RunRow := .empty
  tasks : Table (String × String) TaskRow := .empty
  handoffs : Table (String × String) HandoffRow := .empty
  consumedRoutes : Table String RouteRow := .empty

structure StoreMeta where
  storeId : String
  schemaVersion : ℕ := 1
  keyId : String
  createdAt : String
  lastObservedUs : ℤ

structure StateAuth where
  revision : ℕ
  stateDigest : String
  mac : String

structure StateEvent where
  revision : ℕ
  stateDigest : String
  previousEventDigest : String
  eventDigest : String
  mac : String

structure TeamDb where
  tables : TeamTables := {}
  storeMeta : StoreMeta
  auth : StateAuth
  events : List StateEvent

/-! ## What workers hold -/

structure LeaseClaim where
  runId : String
  taskId : String
  taskDigest : String
  workerDigest : String
  leaseToken : String
  leaseExpiresAt : ℤ
  attempt : ℕ
deriving DecidableEq

/-- What the execution authorizer answers. -/
structure Authorization where
  effect : String
  taskDigest : String
  runtimeDecisionDigest : String
  teamRequestDigest : String
  authoritySnapshotDigest : String

structure ExecutionAuthorization (E : Type) where
  runId : String
  taskId : String
  taskDigest : String
  claimDigest : String
  authorization : Authorization
  evidence : E
  expiresAt : ℤ
  sealId : ℕ

/-- `TaskEffectResult`; its `__post_init__` admits two statuses and a digest. -/
structure TaskEffectResult where
  succeeded : Bool
  outcomeDigest : String
  usedTokens : ℕ
  usedCostMicrousd : ℕ
  outcome_ok : outcomeDigest.toList.length = 64 ∧
    outcomeDigest.toList.all (fun c => c.isDigit || ('a' ≤ c && c ≤ 'f')) = true

def TaskEffectResult.status (result : TaskEffectResult) : TaskStatus :=
  if result.succeeded then .succeeded else .failed

/-! ## Route evidence -/

structure SelectedRoute where
  deploymentId : String
  deploymentIdentityDigest : String
  reservedCostMicrousd : ℕ

/-- The fields of the routing records and of the model request that the
coordinator reads. -/
structure RouteEvidence where
  decisionId : String
  decisionDigest : String
  allowed : Bool
  selected : Option SelectedRoute
  requestDigest : String
  policyDigest : String
  priceCatalogDigest : String
  validUntil : ℤ
  routeAttempt : ℕ
  fallbackFromDigest : String
  requestRecordDigest : String
  requestPolicyDigest : String
  deadlineAt : Timestamp
  actionClass : String
  dataClass : DataClass
  allowedZones : List String
  maximumCostMicrousd : ℕ
  outputTokenCeiling : ℕ
  subjectRunId : String
  subjectDeploymentId : String
  subjectDeploymentIdentityDigest : String
  subjectDataClass : DataClass
  subjectArtifactDigest : String
  subjectMaxOutputTokens : ℕ

/-! ## Parameters -/

/-- What the coordinator takes from outside: `W` are worker bindings and `E` is
the evidence of the execution authorizer. -/
structure Primitives (W E : Type) where
  /-- `semantic_digest` of a record without its digest -/
  semanticDigest : TeamRecord → String
  /-- `_binding_digest` -/
  bindingDigest : W → String
  /-- `_claim_hash` -/
  claimHash : String → String
  /-- `_claim_digest` of the claim's other fields, the hash of its token and the
  text of its expiry -/
  claimDigest : LeaseClaim → String → String → String
  /-- the validated route records in the evidence, if it has them -/
  routeEvidence : E → Option RouteEvidence
  /-- `_epoch` and its inverse at the start of a coordinator -/
  epoch : ℤ → ℤ
  fromEpoch : ℤ → ℤ
  /-- `_time_text` -/
  timeText : ℤ → String
  stateDigest : TeamTables → StoreMeta → String
  /-- `_auth_mac` under a key and its id -/
  authMac : String → String → ℕ → String → String
  /-- the digest of a state event -/
  eventDigest : ℕ → String → String → String
  /-- `_event_mac` under a key and its id -/
  eventMac : String → String → String → String
  /-- the digest that `create_run` returns -/
  runDigest : String → String → List String → String
  /-- how deep a recursion may go before the interpreter raises -/
  recursionLimit : ℕ

structure Session where
  hmacKey : String
  keyId : String
  sealId : ℕ
  lastObserved : ℤ
  trustedRouteDecisionDigests : List String := []
  trustedRoutePolicyDigests : List String := []
  trustedPriceCatalogDigests : List String := []

/-- The authority guard and the execution authorizer, as they answer now. -/
structure Gates (W E : Type) where
  manifestCurrent : AgentTeamManifest → ℤ → Except TeamError Unit
  claimCurrent : AgentTeamManifest → TeamTask → W → ℤ → Except TeamError String
  authorize : AgentTeamManifest → TeamTask → W → E → ℤ →
    Except TeamError Authorization
  assertCurrent : AgentTeamManifest → TeamTask → W → E → Authorization → ℤ →
    Except TeamError Unit

/-- What an operation leaves: its answer, and the coordinator and the database
behind it. -/
structure Outcome (α : Type) where
  answer : Except TeamError α
  session : Session
  db : TeamDb

def raised {α : Type} (code : String) : Except TeamError α :=
  .error (.runtime code)

/-! ## The clock -/

def observedTime (ses : Session) (asserted clock : ℤ) : Except TeamError ℤ :=
  if clock < ses.lastObserved then raised "ECO_TEAM_CLOCK_ROLLBACK"
  else if clock < asserted then raised "ECO_TEAM_CLOCK_ASSERTION_AHEAD"
  else .ok clock

section Authentication

variable {W E : Type} (prim : Primitives W E)

/-! ## Authentication -/

/-- The digest that the first event of the chain names as its predecessor. -/
def zeroDigest : String := String.ofList (List.replicate 64 '0')

/-- The loop of `_verify_event_chain_locked`. -/
def chainOk (ses : Session) : ℕ → String → List StateEvent → Bool
  | _, _, [] => true
  | revision, previous, event :: rest =>
    let digest := prim.eventDigest revision event.stateDigest previous
    event.revision = revision && event.previousEventDigest = previous &&
      event.eventDigest = digest &&
      event.mac = prim.eventMac ses.hmacKey ses.keyId digest &&
      chainOk ses (revision + 1) digest rest

/-- `_verify_event_chain_locked`. -/
def verifyEventChain (ses : Session) (events : List StateEvent)
    (headRevision : ℕ) (headStateDigest : String) : Bool :=
  events.length = headRevision + 1 && chainOk prim ses 0 zeroDigest events &&
    (events.getLast?.map (·.stateDigest)) = some headStateDigest

/-- `_verify_state_locked`. -/
def verifyState (ses : Session) (db : TeamDb) : Except TeamError Unit :=
  if db.storeMeta.keyId ≠ ses.keyId ∨ db.storeMeta.schemaVersion ≠ 1 then
    raised "ECO_TEAM_STORE_AUTH_FAILED"
  else if prim.epoch ses.lastObserved < db.storeMeta.lastObservedUs then
    raised "ECO_TEAM_CLOCK_ROLLBACK"
  else
    let digest := prim.stateDigest db.tables db.storeMeta
    if digest ≠ db.auth.stateDigest ∨
        db.auth.mac ≠ prim.authMac ses.hmacKey ses.keyId db.auth.revision digest then
      raised "ECO_TEAM_STORE_AUTH_FAILED"
    else if !verifyEventChain prim ses db.events db.auth.revision digest then
      raised "ECO_TEAM_STORE_AUTH_FAILED"
    else .ok ()

/-- The observed time is kept unless a later one is stored. -/
def StoreMeta.observe (m : StoreMeta) (us : ℤ) : StoreMeta :=
  if m.lastObservedUs ≤ us then { m with lastObservedUs := us } else m

def authenticate (ses : Session) (tables : TeamTables) (storeMeta : StoreMeta)
    (events : List StateEvent) (revision : ℕ) : TeamDb :=
  let digest := prim.stateDigest tables storeMeta
  let previous := (events.getLast?.map (·.eventDigest)).getD zeroDigest
  let eventDigest := prim.eventDigest revision digest previous
  { tables := tables
    storeMeta := storeMeta
    auth := ⟨revision, digest, prim.authMac ses.hmacKey ses.keyId revision digest⟩
    events := events ++ [⟨revision, digest, previous, eventDigest,
      prim.eventMac ses.hmacKey ses.keyId eventDigest⟩] }

/-- `_write_state_auth_locked` behind a body that left these tables. -/
def writeStateAuth (ses : Session) (db : TeamDb) (tables : TeamTables) : TeamDb :=
  authenticate prim ses tables
    (db.storeMeta.observe (prim.epoch ses.lastObserved)) db.events
    (db.auth.revision + 1)

/-- The database that a coordinator makes when it finds none. -/
def newStore (ses : Session) (storeId : String) : TeamDb :=
  authenticate prim ses {}
    { storeId := storeId
      keyId := ses.keyId
      createdAt := prim.timeText ses.lastObserved
      lastObservedUs := prim.epoch ses.lastObserved } [] 0

/-- One transaction.  The body answers and returns the tables that it wrote, if
it wrote any; what it raises is rolled back. -/
def transaction {α : Type} (ses : Session) (db : TeamDb)
    (body : TeamTables → Except TeamError (α × Option TeamTables)) : Outcome α :=
  match verifyState prim ses db with
  | .error err => ⟨.error err, ses, db⟩
  | .ok () =>
    match body db.tables with
    | .error err => ⟨.error err, ses, db⟩
    | .ok (answer, none) => ⟨.ok answer, ses, db⟩
    | .ok (answer, some tables) =>
      ⟨.ok answer, ses, writeStateAuth prim ses db tables⟩

/-- An operation that reads the clock before it does anything else. -/
def timed {α : Type} (ses : Session) (db : TeamDb) (now clock : ℤ)
    (operation : Session → ℤ → Outcome α) : Outcome α :=
  match observedTime ses now clock with
  | .error err => ⟨.error err, ses, db⟩
  | .ok observed => operation { ses with lastObserved := observed } observed

/-- `_observed_time` alone, as `execute_claimed` calls it. -/
def observe (ses : Session) (db : TeamDb) (now clock : ℤ) : Outcome Unit :=
  timed ses db now clock fun ses _ => ⟨.ok (), ses, db⟩

/-- `__init__` over an existing database. -/
def reopen (ses : Session) (db : TeamDb) (sealId : ℕ) (clock : ℤ) : Outcome Unit :=
  let fresh := { ses with sealId := sealId, lastObserved := clock }
  match verifyState prim fresh db with
  | .error err => ⟨.error err, ses, db⟩
  | .ok () =>
    let persisted := prim.fromEpoch db.storeMeta.lastObservedUs
    if clock < persisted then ⟨raised "ECO_TEAM_CLOCK_ROLLBACK", ses, db⟩
    else ⟨.ok (), { fresh with lastObserved := max clock persisted }, db⟩

end Authentication

end Ecosystem.Teams
