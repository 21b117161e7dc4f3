import Ecosystem.Changes.Soundness

/-!
# What the holder of a lease can do

A transition by the holder of a running lease succeeds once its own checks pass.  The
one transition that the verifier does not forgive is among them, which settles along
which runs the verifier accepts every store.
-/

namespace Ecosystem.Changes

open Ecosystem.Lib

variable {cfg : ChangeConfig} {t t' : Tables} {db db' : Db}

/-! ## Transitions that succeed -/

theorem auditRow_ok {entity : EntityType} {id digest : String}
    (h : db.rowDigest? cfg entity id = some digest) (tx : String)
    (action : AuditAction) (at_ : Stamp) :
    ∃ db', db.auditRow cfg entity id tx action at_ = .ok db' ∧ db'.toTables = db.toTables :=
  ⟨_, bind_eq_ok.mpr ⟨digest, expect_eq_ok.mpr h, rfl⟩, rfl⟩

theorem setLock_ok {id : String} {row : OperationRow} {lock : LockRow} (active : Bool)
    (hlock : db.locks.get? row.targetRefDigest = some lock) (hid : lock.operationId = id)
    (now : Instant) (tx : String) :
    ∃ db', db.setLock cfg id row active now tx = .ok db' ∧
      db'.toTables = db.relock id row.targetRefDigest now (some active) := by
  have hdigest : ∃ digest,
      ((db.put (db.relock id row.targetRefDigest now (some active))).rowDigest? cfg
        .targetLock row.targetRefDigest) = some digest := by
    rw [← Option.isSome_iff_exists, Tables.rowDigest?, Option.isSome_map]
    cases active with
    | true =>
      change ((db.acquire row.targetRefDigest id now).locks.get? _).isSome = true
      rw [get?_acquire, if_pos rfl, Option.isSome_some]
    | false =>
      change ((db.release row.targetRefDigest id now).locks.get? _).isSome = true
      rw [get?_release, if_pos rfl, hlock, Option.isSome_map, Option.isSome_some]
  obtain ⟨digest, hdigest⟩ := hdigest
  obtain ⟨db', hok, htables⟩ := auditRow_ok hdigest tx
    (if active then .acquired else .released) (utc now)
  refine ⟨db', require_bind_eq_ok.mpr ⟨?_, ?_⟩, htables⟩
  · intro check hcheck
    rw [List.mem_singleton.mp hcheck]
    cases active <;> simp [hlock, hid]
  · cases active <;> exact hok

theorem enter_ok (h : db.Sound cfg) {tr : Transition} {id : String} {active : Bool}
    {row : OperationRow} {lease : LeaseClaim} (tx : String)
    (hactive : tr.lockActive = some active)
    (hrow : db.operations.get? id = some row) (hopen : row.state.terminal = false)
    (hchecks : ∀ check ∈ tr.checks cfg lease row, check.1 = true)
    (hupdate : ∀ check ∈ db.updateFree id (tr.update cfg id lease.now row),
      check.1 = true) :
    ∃ db', db.enter cfg tr id row lease tx = .ok (db', tr.update cfg id lease.now row) ∧
      db'.toTables = (db.setOperation id (tr.update cfg id lease.now row)).relock id
        row.targetRefDigest lease.now (some active) := by
  obtain ⟨lock, hlock, -, hid⟩ := h.locked id row hrow hopen
  have htarget : (tr.update cfg id lease.now row).targetRefDigest = row.targetRefDigest :=
    update_sameIdentity.targetRefDigest
  obtain ⟨db₁, hok₁, htables₁⟩ :=
    @setLock_ok _ (db.put (db.setOperation id (tr.update cfg id lease.now row))) _ _ _
      active (by rw [htarget]; exact hlock) hid lease.now tx
  rw [htarget] at htables₁
  have hget : db₁.operations.get? id = some (tr.update cfg id lease.now row) := by
    rw [htables₁, relock_operations]
    exact (get?_setOperation hrow id).trans (if_pos rfl)
  obtain ⟨db₂, hok₂, htables₂⟩ := @auditRow_ok cfg _ .operation _ _
    (by rw [Tables.rowDigest?, hget, Option.map_some]) tx (.entered tr.target)
    (utc lease.now)
  refine ⟨db₂, ?_, htables₂.trans htables₁⟩
  refine require_bind_eq_ok.mpr ⟨?_, ?_⟩
  · intro check hcheck
    rcases List.mem_append.mp hcheck with hcheck | hcheck
    · exact hchecks check hcheck
    · exact hupdate check hcheck
  · refine bind_eq_ok.mpr ⟨db₁, ?_, bind_eq_ok.mpr ⟨db₂, hok₂, rfl⟩⟩
    rw [hactive]
    exact hok₁

/-- **The holder of a running lease moves its operation.** -/
theorem transition_ok (h : db.Sound cfg) {call : Call} {tr : Transition}
    {id tx : String} {lease : LeaseClaim} {row : OperationRow}
    (hcall : call.transition? = some (tr, id, lease, tx))
    (hreceipt : ∀ c, tr.receipt = some c → isHexDigest c.2 = true)
    (hreason : ∀ c, tr.reason = some c → isHexDigest c.2 = true)
    (hrow : db.operations.get? id = some row) (hstate : row.state ≠ tr.target)
    (hchecks : ∀ check ∈ tr.checks cfg lease row, check.1 = true)
    (hupdate : ∀ check ∈ db.updateFree id (tr.update cfg id lease.now row),
      check.1 = true) :
    ∃ db', db.transition cfg tr id lease tx = .ok (db', tr.update cfg id lease.now row) ∧
      db'.toTables = (db.setOperation id (tr.update cfg id lease.now row)).relock id
        row.targetRefDigest lease.now tr.lockActive := by
  obtain ⟨hlock, hopens⟩ := transition?_spec hcall
  obtain ⟨hallowed, -, -, hheld, -⟩ := checks_iff.mp hchecks
  obtain ⟨db', hok, htables⟩ :=
    enter_ok h tx hlock hrow (hopens _ hallowed) hchecks hupdate
  refine ⟨db', ?_, hlock ▸ htables⟩
  have hintact := h.intact id row hrow
  simp only [OperationRow.heldBy, Bool.and_eq_true, decide_eq_true_eq] at hheld
  refine require_bind_eq_ok.mpr ⟨?_, bind_eq_ok.mpr ⟨row, expect_eq_ok.mpr hrow, ?_⟩⟩
  · intro check hcheck
    simp only [List.mem_append, List.mem_cons, List.not_mem_nil, or_false,
      Option.mem_toList, Option.map_eq_some_iff] at hcheck
    rcases hcheck with ((rfl | rfl) | ⟨c, hc, rfl⟩) | ⟨c, hc, rfl⟩
    · exact hintact.identifier
    · exact hintact.owner _ hheld.1.1
    · exact hreceipt c hc
    · exact hreason c hc
  · rw [if_neg hstate]
    exact hok

theorem updateFree_of_recovery (h : t.Sound cfg) {tr : Transition} {id : String}
    {now : Instant} {row : OperationRow} (hrow : t.operations.get? id = some row)
    (hrecovery : tr.recovery = none) :
    ∀ check ∈ t.updateFree id (tr.update cfg id now row), check.1 = true := by
  have hsame : (tr.update cfg id now row).recovery = row.recovery ∧
      (tr.update cfg id now row).intentDigest = row.intentDigest := by
    refine update_induction
      (P := fun r => r.recovery = row.recovery ∧ r.intentDigest = row.intentDigest)
      (fun _ => ⟨rfl, rfl⟩) ?_ ?_ (fun r hr => hr)
    · intro r digest c hr
      cases c <;> exact hr
    · intro r artifact hsome
      rw [hrecovery] at hsome
      cases hsome
  have hothers : (t.operations.select fun k other =>
      k ≠ id && other.intentDigest = row.intentDigest) = [] := by
    rw [Table.select, List.filter_eq_nil_iff]
    rintro ⟨k, other⟩ hmem hboth
    simp only [Bool.and_eq_true, decide_eq_true_eq] at hboth
    exact hboth.1 (h.intents k other id row (Table.mem_entries.mp hmem) hrow hboth.2)
  simp only [Tables.updateFree, hsame.1, hsame.2, List.forall_mem_cons]
  refine ⟨decide_eq_true (h.intact id row hrow).fits, ?_, by simp⟩
  exact List.isEmpty_iff.mpr hothers

/-! ## The step that the verifier does not forgive -/

/-- `mark_rolling_back` by the holder of the lease, on an operation in
`recovery_required` for which no before-proof or no execution intent was recorded. -/
def Call.RollsBackUnproven (cfg : ChangeConfig) (t : Tables) (call : Call) : Prop :=
  ∃ id lease tx row, call = .markRollingBack id lease tx ∧
    t.operations.get? id = some row ∧ row.state = .recoveryRequired ∧
    row.proven = false ∧ row.heldBy cfg lease = true ∧
    row.leaseRunning cfg lease.now = true

theorem update_proven {tr : Transition} {id : String} {now : Instant}
    {row : OperationRow} (h : row.proven = true) :
    (tr.update cfg id now row).proven = true := by
  refine update_induction (P := fun r => r.proven = true) (fun _ => h) ?_
    (fun r artifact _ hr => hr) (fun r hr => hr)
  intro r digest c hr
  simp only [OperationRow.proven, Bool.and_eq_true] at hr ⊢
  cases c
  case beforeProof => exact ⟨rfl, hr.2⟩
  case executionIntent => exact ⟨hr.1, rfl⟩
  all_goals exact hr

theorem moved_proven {call : Call} {tr : Transition} {id tx : String}
    {lease : LeaseClaim} {row : OperationRow} (h : t.Proven)
    (hcall : call.transition? = some (tr, id, lease, tx))
    (hrow : t.operations.get? id = some row)
    (hchecks : ∀ check ∈ tr.checks cfg lease row, check.1 = true)
    (hstep : ¬call.RollsBackUnproven cfg t) (hneeds : tr.target.needsProof = true) :
    (tr.update cfg id lease.now row).proven = true := by
  by_cases hproven : row.proven = true
  · exact update_proven hproven
  · rw [Bool.not_eq_true] at hproven
    have hstate : row.state.needsProof = false := by
      by_contra hrequired
      rw [h id row hrow (Bool.not_eq_false _ ▸ hrequired)] at hproven
      cases hproven
    obtain ⟨hallowed, -, hready, hheld, hrunning⟩ := checks_iff.mp hchecks
    cases call <;> cases hcall
    case neg.markRollbackReady => rfl
    case neg.markApplying =>
      rw [hready rfl] at hproven
      cases hproven
    case neg.markRollingBack =>
      rcases List.mem_pair.mp hallowed with happlied | hrequired
      · rw [happlied] at hstate
        cases hstate
      · exact absurd ⟨id, lease, tx, row, rfl, hrow, hrequired, hproven, hheld,
          hrunning⟩ hstep
    case neg.markFailed => cases hneeds
    case neg.markRecoveryRequired => cases hneeds
    all_goals
      rw [List.mem_singleton.mp hallowed] at hstate
      cases hstate

theorem effect_proven {call : Call} {keys : List EntityKey} (h : t.Proven)
    (heffect : Effect cfg t call t' keys) (hstep : ¬call.RollsBackUnproven cfg t) :
    t'.Proven := by
  cases heffect with
  | quiet | registered | granted => exact h
  | prepared hid howner hrecovery hproposal happroval hbound hchecks =>
    intro k row hrow hneeds
    rw [get?_addOperation (preparable_of_checks hchecks).absent] at hrow
    split at hrow
    · cases hrow
      cases hneeds
    · exact h k row hrow hneeds
  | moved hcall hrecovery hrow' hstate hchecks hupdate hlock =>
    intro k row hrow hneeds
    rw [relock_operations, get?_setOperation hrow'] at hrow
    split at hrow
    · cases hrow
      rw [update_state] at hneeds
      exact moved_proven h hcall hrow' hchecks hstep hneeds
    · exact h k row hrow hneeds
  | conflicted hrow' hstate hlease =>
    intro k row hrow hneeds
    rw [get?_setOperation hrow'] at hrow
    split at hrow
    · cases hrow
      have hproven := h _ _ hrow' hneeds
      exact hproven
    · exact h k row hrow hneeds
  | claimed howner hrow' hstate hexpired =>
    intro k row hrow hneeds
    rw [get?_setOperation hrow'] at hrow
    split at hrow
    · cases hrow
      cases hneeds
    · exact h k row hrow hneeds

/-- The step commits, and leaves an operation that rolls back without proofs. -/
theorem not_proven_of_rollsBackUnproven (h : db.Sound cfg) {call : Call}
    (hstep : call.RollsBackUnproven cfg db.toTables) :
    ¬(Db.call cfg db call).Proven := by
  obtain ⟨id, lease, tx, row, rfl, hrow, hstate, hproven, hheld, hrunning⟩ := hstep
  obtain ⟨db', hok, htables⟩ := @transition_ok _ _ h (.markRollingBack id lease tx) _ _ _
    _ _ rfl (by rintro c ⟨⟩) (by rintro c ⟨⟩) hrow (by rw [hstate]; decide)
    (checks_iff.mpr ⟨by rw [hstate]; decide, fun _ => rfl, (fun h => by cases h), hheld,
      hrunning⟩) (updateFree_of_recovery h hrow rfl)
  have hexec : Call.exec cfg db (.markRollingBack id lease tx) = .ok db' :=
    map_fst_eq_ok.mpr ⟨_, hok⟩
  have hcall : Db.call cfg db (.markRollingBack id lease tx) = db' := by
    rw [Db.call, hexec]
  intro hall
  have := hall id (rollingBackTransition.update cfg id lease.now row)
    (by
      rw [hcall, htables, relock_operations]
      exact (get?_setOperation hrow id).trans (if_pos rfl))
    (by rw [update_state]; rfl)
  rw [show (rollingBackTransition.update cfg id lease.now row).proven = row.proven from
    rfl, hproven] at this
  cases this

/-- **The verifier accepts every store along a run exactly when no step of the run
rolls an unproven operation back.** -/
theorem verify_accepts_iff (cfg : ChangeConfig) (calls : List Call) :
    (∀ before after, calls = before ++ after →
        (storeAfter cfg before).verify cfg = .ok ()) ↔
      ForallSplit (fun before call =>
        ¬call.RollsBackUnproven cfg (storeAfter cfg before).toTables) calls := by
  simp only [verify_storeAfter]
  constructor
  · rintro h before call after rfl hstep
    refine not_proven_of_rollsBackUnproven (storeAfter_sound cfg before).1 hstep ?_
    rw [← storeAfter_concat]
    exact h (before ++ [call]) after (by simp)
  · intro h before
    induction before using List.reverseRecOn with
    | nil =>
      rintro after - id row hrow
      cases hrow
    | append_singleton before call ih =>
      rintro after rfl
      have hbefore := ih (call :: after) (by simp)
      have hstep := h before call after (by simp)
      rw [storeAfter_concat]
      rcases call_cases cfg (storeAfter cfg before) call with hsame | hexec
      · rw [hsame]
        exact hbefore
      · obtain ⟨keys, heffect, -⟩ := exec_committed hexec
        exact effect_proven hbefore heffect hstep

/-! ## A sample run -/

def sampleHex (s : String) : String :=
  String.ofList (List.replicate 64 (s.toList.headD '0'))

def sampleDigest : Document → String
  | .lease token => sampleHex token
  | .intent intent => sampleHex intent.operationId
  | .proposal _ => sampleHex "a"
  | .limits _ => sampleHex "b"
  | .subject _ => sampleHex "c"
  | .envelope _ => sampleHex "d"
  | .audit _ sequence _ _ => sampleHex (toString sequence)
  | _ => sampleHex "e"

def sampleConfig : ChangeConfig where
  storeId := "store"
  keyId := "audit-key"
  semanticDigest := sampleDigest
  hmacTag hash := hash
  epochUs := id
  trust :=
    { policies := fun _ => some ⟨"human", "webauthn", "secret"⟩
      hmac := fun _ _ => sampleHex "f" }

def sampleInstant (n : ℕ) (h : Store.representable n = true := by exact Eq.refl true) : Instant :=
  ⟨n, h⟩

def sampleProposal : Proposal where
  proposalId := "proposal"
  projectId := "project"
  runId := "run"
  planDigest := sampleHex "1"
  policyDecisionDigest := sampleHex "2"
  actionClass := "A2"
  operationKind := "replace"
  rootIdentityDigest := sampleHex "3"
  baseDigest := sampleHex "4"
  targetRefDigest := sampleHex "5"
  desiredDigest := sampleHex "6"
  rollbackDigest := sampleHex "7"
  displayDigest := sampleHex "8"
  limits := ⟨1024, 1, 1, .aware { instant := 100 }⟩

def sampleEnvelope : Envelope where
  protocol := "eco-approval-envelope-v1"
  approvalId := "approval"
  subjectDigest := sampleHex "c"
  humanId := "human"
  assurance := "webauthn"
  keyId := "key"
  challengeNonce := "nonce"
  issuedAt := .aware { instant := 0 }
  expiresAt := .aware { instant := 100 }
  signature := sampleHex "f"

def samplePrepare : PrepareRequest where
  operationId := "operation"
  proposalId := "proposal"
  approvalId := "approval"
  idempotencyKey := "key"
  recovery := ⟨"artifact://recovery/operation", sampleHex "9", 16, sampleHex "0"⟩
  ownerId := "worker-1"
  leaseSeconds := 1

/-- An operation is prepared, and claimed once its lease has run out. -/
def sampleClaimed : List Call :=
  [.registerProposal sampleProposal (sampleInstant 1) "tx-1",
    .recordVerifiedGrant sampleEnvelope (sampleInstant 2) "tx-2",
    .prepareOperation samplePrepare (sampleInstant 3) "tx-3" "1",
    .claimOperation { operationId := "operation", ownerId := "worker-2" }
      (sampleInstant 2000000) "tx-4" "2"]

/-- The new holder takes the operation back although it never began. -/
def sampleUnproven : List Call :=
  sampleClaimed ++
    [.markRollingBack "operation" ⟨"worker-2", "2", 2, sampleInstant 2000001⟩ "tx-5"]

theorem verify_rejects_sampleUnproven :
    (storeAfter sampleConfig sampleUnproven).verify sampleConfig ≠ .ok () := by
  have hrow : ((storeAfter sampleConfig sampleUnproven).operations.get? "operation").map
      (fun row => (row.state, row.proven)) = some (.rollingBack, false) := by
    delta storeAfter Db.call Call.exec Db.registerProposal Db.recordVerifiedGrant
      Db.prepareOperation Db.claimOperation Db.markRollingBack validatedProposal
      approvalSubjectPayload ApprovalTrustStore.verify ApprovalTrustStore.verifySignature
    rw [changeDigest_eq, approvalDigest_eq]
    decide +kernel
  obtain ⟨row, hget, hvalues⟩ := Option.map_eq_some_iff.mp hrow
  obtain ⟨hstate, hproven⟩ := Prod.mk.inj hvalues
  intro haccepted
  have := (verify_storeAfter sampleConfig sampleUnproven).mp haccepted "operation" row
    hget (by rw [hstate]; rfl)
  rw [hproven] at this
  cases this

end Ecosystem.Changes
