import Ecosystem.Store.Models

/-!
# Runs of the store

The public operations as one type of calls, and what a sequence of calls leaves:
every call is one transaction, which commits or is rolled back.
-/

namespace Ecosystem.Store

open Ecosystem.Lib Ecosystem.Runtime

/-- The operations that can write.  Status queries and scans only read. -/
inductive Call
  | putRecord (record : Record) (transactionId : String)
  | startRun (runId : String) (request : RunRequest) (capability : Capability)
      (transactionId : String)
  | validateRun (runId : String) (now : Instant) (capability : Capability)
      (transactionId : String)
  | issuePlan (plan : RunPlan) (decision : PolicyDecision)
      (policyCapability : Capability) (runtimeCapability : Option Capability)
      (transactionId : String)
  | activatePlan (plan : RunPlan) (decision : PolicyDecision) (nonce : String)
      (now : Instant) (capability : Capability) (transactionId : String)
  | denyPlan (plan : RunPlan) (decision : PolicyDecision) (nonce : String)
      (now : Instant) (capability : Capability) (transactionId : String)
  | adapterEvent (event : AdapterEvent) (runId : String) (now : Instant)
      (capability : Capability) (transactionId : String)
  | finishRun (runId : String) (outcome : RunOutcome) (now : Instant)
      (capability : Capability) (transactionId : String)
  | createTerminalCheckpoint (runId : String) (now : Instant)
      (capability : Capability) (transactionId : String)
  | issueDecision (decision : PolicyDecision) (semanticConfigDigest : String)
      (capability : Capability) (transactionId : String)
  | consumeDecision (decision : PolicyDecision) (subject : Record)
      (nonce : String) (now : Instant) (semanticConfigDigest : String)
      (capability : Capability) (transactionId : String)
  | rotateAuditKey (transition : RotationTransition) (now : Instant)
      (transactionId : String)
  | prepareRepositoryRead (request : ReadRequest) (ownerId : String)
      (leaseSeconds : ℕ) (now : Instant)
      (policyCapability brokerCapability runtimeCapability : Capability)
      (transactionId leaseToken : String)
  | claimOperation (operationId ownerId : String) (leaseSeconds : ℕ)
      (capability : Capability)
  | abortExpiredOperation (operationId : String) (now : Instant)
      (capability : Capability) (observedLeaseEpoch : Option ℕ)
      (transactionId : String)
  | completeRepositoryRead (operationId leaseToken : String)
      (result : ReadResult) (proof : Option ArtifactAvailabilityProof)
      (now : Instant) (capability : Capability) (transactionId : String)
  | failRepositoryRead (operationId leaseToken : String) (error : ErrorRecord)
      (outcome : ToolExecutionOutcome) (now : Instant) (capability : Capability)
      (transactionId : String)
  | prepareModelInvocation (request : InvocationRequest)
      (proof : ArtifactAvailabilityProof) (idempotencyKey : String) (cost : ℕ)
      (now : Instant)
      (policyCapability runtimeCapability adapterCapability : Capability)
      (transactionId : String)
  | startModelInvocation (requestId : String) (now : Instant)
      (capability : Capability) (transactionId : String)
  | resumePreparedModelInvocation (request : ModelRequest)
      (decision : PolicyDecision) (now : Instant)
      (policyCapability adapterCapability : Capability) (transactionId : String)
  | abortPreparedModelInvocation (request : ModelRequest) (reason : AbortReason)
      (now : Instant) (capability : Capability) (transactionId : String)
  | completeModelInvocation (requestId : String) (result : InvocationResult)
      (proof : ArtifactAvailabilityProof) (now : Instant)
      (capability : Capability) (transactionId : String)
  | failModelInvocation (requestId : String) (error : ErrorRecord)
      (now : Instant) (capability : Capability) (transactionId : String)
  | resolveAmbiguousModelInvocation (requestId : String)
      (observedStartedAt : Stamp) (now : Instant)
      (runtimeCapability adapterCapability : Capability) (transactionId : String)

section Calls

variable (cfg : StoreConfig)

def Call.exec (db : Db) : Call → Result
  | .putRecord record tx => db.putRecord cfg record tx
  | .startRun runId request cap tx => db.startRun cfg runId request cap tx
  | .validateRun runId now cap tx => db.validateRun cfg runId now cap tx
  | .issuePlan plan decision cap runtimeCap tx =>
    db.issuePlan cfg plan decision cap runtimeCap tx
  | .activatePlan plan decision nonce now cap tx =>
    db.activatePlan cfg plan decision nonce now cap tx
  | .denyPlan plan decision nonce now cap tx =>
    db.denyPlan cfg plan decision nonce now cap tx
  | .adapterEvent event runId now cap tx =>
    db.adapterEvent cfg event runId now cap tx
  | .finishRun runId outcome now cap tx =>
    db.finishRun cfg runId outcome now cap tx
  | .createTerminalCheckpoint runId now cap tx =>
    db.createTerminalCheckpoint cfg runId now cap tx
  | .issueDecision decision semanticConfigDigest cap tx =>
    db.issueDecisionCall cfg decision semanticConfigDigest cap tx
  | .consumeDecision decision subject nonce now semanticConfigDigest cap tx =>
    db.consumeDecisionCall cfg decision subject nonce now semanticConfigDigest
      cap tx
  | .rotateAuditKey transition now tx => db.rotateAuditKey cfg transition now tx
  | .prepareRepositoryRead request ownerId leaseSeconds now policyCap brokerCap
      runtimeCap tx token =>
    db.prepareRepositoryRead cfg request ownerId leaseSeconds now policyCap
      brokerCap runtimeCap tx token
  | .claimOperation operationId ownerId leaseSeconds cap =>
    db.claimOperation operationId ownerId leaseSeconds cap
  | .abortExpiredOperation operationId now cap observedLeaseEpoch tx =>
    db.abortExpiredOperation cfg operationId now cap observedLeaseEpoch tx
  | .completeRepositoryRead operationId token result proof now cap tx =>
    db.completeRepositoryRead cfg operationId token result proof now cap tx
  | .failRepositoryRead operationId token error outcome now cap tx =>
    db.failRepositoryRead cfg operationId token error outcome now cap tx
  | .prepareModelInvocation request proof key cost now policyCap runtimeCap
      adapterCap tx =>
    db.prepareModelInvocation cfg request proof key cost now policyCap
      runtimeCap adapterCap tx
  | .startModelInvocation requestId now cap tx =>
    db.startModelInvocation cfg requestId now cap tx
  | .resumePreparedModelInvocation request decision now policyCap adapterCap tx =>
    db.resumePreparedModelInvocation cfg request decision now policyCap
      adapterCap tx
  | .abortPreparedModelInvocation request reason now cap tx =>
    db.abortPreparedModelInvocation cfg request reason now cap tx
  | .completeModelInvocation requestId result proof now cap tx =>
    db.completeModelInvocation cfg requestId result proof now cap tx
  | .failModelInvocation requestId error now cap tx =>
    db.failModelInvocation cfg requestId error now cap tx
  | .resolveAmbiguousModelInvocation requestId observed now runtimeCap adapterCap
      tx =>
    db.resolveAmbiguousModelInvocation cfg requestId observed now runtimeCap
      adapterCap tx

/-- A call on a store: a transaction that raises is rolled back. -/
def Db.call (db : Db) (call : Call) : Db :=
  match call.exec cfg db with
  | .ok (db', _) => db'
  | .error _ => db

def Db.new (keyId : String) : Db where
  book := { keyId := keyId }

def storeAfter (keyId : String) (calls : List Call) : Db :=
  calls.foldl (Db.call cfg) (Db.new keyId)

/-- **The run rule.**  What holds of a new store and is kept by every committed
transaction of the sequence holds after it. -/
theorem storeAfter_induction_of_mem {P : Db → Prop} {keyId : String}
    (init : P (Db.new keyId)) (calls : List Call)
    (step : ∀ db, ∀ call ∈ calls, ∀ db' answer, P db →
      Call.exec cfg db call = .ok (db', answer) → P db') :
    P (storeAfter cfg keyId calls) := by
  induction calls using List.reverseRecOn with
  | nil => exact init
  | append_singleton calls call ih =>
    have hbefore := ih fun db call' hcall' =>
      step db call' (List.mem_append_left [call] hcall')
    rw [storeAfter, List.foldl_append]
    change P (Db.call cfg (storeAfter cfg keyId calls) call)
    unfold Db.call
    split
    · next db' answer h =>
        exact step _ call (List.mem_append_right calls (List.mem_singleton_self _))
          db' answer hbefore h
    · exact hbefore

theorem storeAfter_induction {P : Db → Prop} {keyId : String} (init : P (Db.new keyId))
    (step : ∀ db call db' answer, P db → Call.exec cfg db call = .ok (db', answer) → P db')
    (calls : List Call) : P (storeAfter cfg keyId calls) :=
  storeAfter_induction_of_mem cfg init calls
    fun db call _ db' answer => step db call db' answer

theorem call_of_error {db : Db} {call : Call} {err : StoreError}
    (h : Call.exec cfg db call = .error err) : Db.call cfg db call = db := by
  rw [Db.call, h]

theorem call_cases (db : Db) (call : Call) :
    Db.call cfg db call = db ∨
      ∃ answer, Call.exec cfg db call = .ok (Db.call cfg db call, answer) := by
  unfold Db.call
  split
  · next db' answer h => exact .inr ⟨answer, h⟩
  · exact .inl rfl

theorem storeAfter_append (keyId : String) (calls more : List Call) :
    storeAfter cfg keyId (calls ++ more) =
      more.foldl (Db.call cfg) (storeAfter cfg keyId calls) := by
  rw [storeAfter, List.foldl_append]
  rfl

end Calls

/-! ## A sample run

One run with a read and two model invocations, under a digest that spells the kind
and the id of a document in hexadecimal. -/

def hexChar (c : Char) : Char :=
  Char.ofNat (if c.toNat % 16 < 10 then 48 + c.toNat % 16 else 87 + c.toNat % 16)

def hexText (s : String) : String :=
  String.ofList ((s.toList.map hexChar ++ List.replicate 64 '0').take 64)

theorem hexChar_valid (c : Char) :
    ((hexChar c).isDigit || ('a' ≤ hexChar c && hexChar c ≤ 'f')) = true ∧
      hexChar c ≠ '\n' := by
  have hall : ∀ n < 16, ((Char.ofNat (if n < 10 then 48 + n else 87 + n)).isDigit ||
        ('a' ≤ Char.ofNat (if n < 10 then 48 + n else 87 + n) &&
          Char.ofNat (if n < 10 then 48 + n else 87 + n) ≤ 'f')) = true ∧
      Char.ofNat (if n < 10 then 48 + n else 87 + n) ≠ '\n' := by
    decide
  exact hall _ (Nat.mod_lt _ (by decide))

theorem matchesSha256_hexText (s : String) : matchesSha256 (hexText s) = true := by
  have hall : ∀ c ∈ (s.toList.map hexChar ++ List.replicate 64 '0').take 64,
      (c.isDigit || ('a' ≤ c && c ≤ 'f')) = true ∧ c ≠ '\n' := by
    intro c hc
    rcases List.mem_append.mp (List.mem_of_mem_take hc) with h | h
    · obtain ⟨d, -, rfl⟩ := List.mem_map.mp h
      exact hexChar_valid d
    · rw [(List.mem_replicate.mp h).2]
      decide
  have hlast : dropFinalNewline (hexText s).toList =
      (s.toList.map hexChar ++ List.replicate 64 '0').take 64 := by
    rw [hexText, String.toList_ofList, dropFinalNewline, if_neg]
    intro h
    exact (hall _ (List.mem_of_getLast? h)).2 rfl
  unfold matchesSha256
  rw [hlast]
  simp only [Bool.and_eq_true, decide_eq_true_eq, List.all_eq_true]
  refine ⟨?_, fun c hc => (hall c hc).1⟩
  simp

def kindTag : RecordKind → String
  | .runPlan => "1"
  | .policyDecision => "2"
  | .runEvent => "3"
  | .artifactRecord => "4"
  | .errorRecord => "5"
  | .toolExecutionIntent => "6"
  | .endpointBinding => "7"
  | .modelRequest => "8"
  | .repositorySnapshot => "9"
  | .toolRequest => "a"
  | _ => "b"

def sampleSemanticDigest : Document → String
  | .record r => hexText (kindTag r.kind ++ r.id)
  | .runId runId => hexText runId
  | .requestId requestId => hexText requestId
  | .requestDecision requestId decision => hexText (requestId ++ decision)
  | .operationLease token => hexText token
  | .modelIdempotency key => hexText key
  | _ => hexText ""

def sampleConfig : StoreConfig where
  semanticDigest := sampleSemanticDigest
  digest_wellFormed d := by cases d <;> exact matchesSha256_hexText _
  schema _ := true
  epochUs := id
  issuer _ := "issuer"
  issuer_wellFormed _ := by rfl
  storeId := "store"
  profile := ⟨"digest-v1", "contract-v1", hexText "schema", "engine-v1"⟩
  keyIds := ["key"]
  hmacTag _ entryHash := entryHash
  verifyRotation _ := true
  pathReferenceDigest := hexText
  artifacts := some
    { verifyAvailability := fun _ => true
      verifyObject := fun _ _ _ => true }

def sampleMetadata (id : String) : RunMetadata where
  id := id
  runId := "run"
  createdAt := { instant := 0 }

def sampleInput : ArtifactRecord where
  metadata := sampleMetadata "input"
  spec :=
    { role := .input
      mediaType := "text/plain"
      byteLength := { value := 8 }
      sha256 := hexText "content"
      dataClass := .d0
      trust := .p0
      producer := ⟨.operator, "operator"⟩
      storageRef := "artifact://runs/run/input"
      parentRefs := none
      retention := .run }

def sampleSnapshot : RepositorySnapshot where
  id := "snapshot"
  createdAt := { instant := 0 }
  rootIdentityDigest := hexText "root"
  trust := .p0
  entries := [⟨"README.md", hexText "readme", 5, .d0, .p0⟩]
  rest := ""

def samplePlan : RunPlan where
  metadata := sampleMetadata "plan"
  requestDigest := hexText "request"
  project :=
    ⟨hexText "config", "digest-v1", "contract-v1", hexText "schema", "engine-v1"⟩
  repositorySnapshot := some
    ⟨"snapshot", sampleConfig.recordDigest (.repositorySnapshot sampleSnapshot),
      hexText "root", .p0⟩
  inputs :=
    [⟨"artifact://runs/run/input",
      sampleConfig.recordDigest (.artifactRecord sampleInput), hexText "content",
      .d0, 8⟩]
  route :=
    ⟨"deployment", hexText "identity", "local", "adapter", "1", "model", true,
      hexText "endpoint"⟩
  tools := [⟨"repository.read", hexText "catalog"⟩]
  budget := ⟨3600, 4, 4, 100, 100, 100, 0⟩
  rest := ""

def sampleDecision (id : String) (subject : DecisionSubject) : PolicyDecision where
  metadata := sampleMetadata id
  subject := subject
  effect := .allow
  policySnapshot :=
    ⟨"ai.ecosystem/v1alpha1", hexText "config", "digest-v1", "contract-v1",
      hexText "schema", "engine-v1"⟩
  expiresAt := { instant := 1000000 }
  rest := ""

def samplePlanDecision : PolicyDecision :=
  sampleDecision "allow-plan" (planSubject sampleConfig samplePlan)

def sampleEndpoint : EndpointBinding where
  id := "endpoint"
  deploymentId := "deployment"
  resolvedAt := { instant := 0 }
  validUntil := { instant := 1000000 }
  deploymentIdentityDigest := hexText "identity"
  endpointReferenceDigest := hexText "endpoint"
  adapter := "adapter"
  adapterVersion := "1"
  model := "model"
  transportProfile := .localLoopbackHttp
  credentialMode := .none
  rest := ""

def sampleRequest (id : String) : ModelRequest where
  metadata := sampleMetadata id
  planDigest := sampleConfig.recordDigest (.runPlan samplePlan)
  deploymentId := "deployment"
  deploymentIdentityDigest := hexText "identity"
  endpointBindingDigest := sampleConfig.recordDigest (.endpointBinding sampleEndpoint)
  input :=
    ⟨sampleConfig.recordDigest (.artifactRecord sampleInput), hexText "content", 8,
      .d0, .p0⟩
  maxOutputTokens := 4
  maxOutputBytes := 16
  rest := ""

def sampleInvocation (id : String) : InvocationRequest where
  plan := samplePlan
  request := sampleRequest id
  endpointBinding := sampleEndpoint
  inputArtifact := sampleInput
  decision := sampleDecision ("allow-" ++ id)
    ⟨.modelRequest, id, sampleConfig.recordDigest (.modelRequest (sampleRequest id))⟩

def sampleToolRequest : ToolRequest where
  metadata := sampleMetadata "tool-request"
  planDigest := sampleConfig.recordDigest (.runPlan samplePlan)
  toolId := "repository.read"
  path := some "README.md"
  rest := ""

def sampleReadDecision : PolicyDecision :=
  sampleDecision "allow-read"
    ⟨.toolRequest, "tool-request",
      sampleConfig.recordDigest (.toolRequest sampleToolRequest)⟩

def sampleRead : ReadRequest where
  plan := samplePlan
  snapshot := sampleSnapshot
  toolRequest := sampleToolRequest
  decision := sampleReadDecision
  intent :=
    { metadata := sampleMetadata "read"
      idempotencyKeyDigest := hexText "key"
      planDigest := sampleConfig.recordDigest (.runPlan samplePlan)
      toolRequest :=
        ⟨"tool-request", sampleConfig.recordDigest (.toolRequest sampleToolRequest)⟩
      allowDecision :=
        ⟨"allow-read", sampleConfig.recordDigest (.policyDecision sampleReadDecision)⟩
      toolCatalogDigest := hexText "catalog"
      reservation := ⟨1, 5⟩
      repositoryEntry :=
        ⟨sampleConfig.recordDigest (.repositorySnapshot sampleSnapshot),
          hexText "README.md", hexText "readme", 5, .d0, .p0⟩
      rest := "" }

def sampleInstant (n : ℕ) (h : representable n = true := by exact Eq.refl true) : Instant :=
  ⟨n, h⟩

/-- The plan is active and the adapter has started. -/
def sampleOpening : List Call :=
  [.issuePlan samplePlan samplePlanDecision (.trusted .policy) none "tx-1",
    .activatePlan samplePlan samplePlanDecision "nonce" (sampleInstant 1)
      (.trusted .policy) "tx-2",
    .adapterEvent .started "run" (sampleInstant 2) (.trusted .adapter) "tx-3"]

def samplePrepare (id : String) (now : Instant) : Call :=
  .prepareModelInvocation (sampleInvocation id)
    ⟨"artifact://runs/run/input", hexText "content", 8, "key", ""⟩ id 0 now
    (.trusted .policy) (.trusted .runtime) (.trusted .adapter) ("prepare-" ++ id)

def sampleStart (id : String) (now : Instant) : Call :=
  .startModelInvocation id now (.trusted .adapter) ("start-" ++ id)

def sampleReadCall : Call :=
  .prepareRepositoryRead sampleRead "owner" 60 (sampleInstant 3) (.trusted .policy)
    (.trusted .broker) (.trusted .runtime) "prepare-read" "token"

/-- A read and two invocations under way. -/
def sampleCalls : List Call :=
  sampleOpening ++ [sampleReadCall, samplePrepare "first" (sampleInstant 4),
      sampleStart "first" (sampleInstant 5), samplePrepare "second" (sampleInstant 6),
      sampleStart "second" (sampleInstant 7)]

end Ecosystem.Store
