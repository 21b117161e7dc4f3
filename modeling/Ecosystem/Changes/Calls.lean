import Ecosystem.Changes.Authority

/-!
# Runs of the change authority

The public operations as one type of calls, and what one committed call can do.
`Effect` lists the six ways in which a call writes; every law about runs is proved from it.
-/

namespace Ecosystem.Changes

open Ecosystem.Lib

/-! ## Calls -/

/-- The operations that can write, with the secrets that each draws. -/
inductive Call
  | registerProposal (candidate : Proposal) (now : Instant) (transactionId : String)
  | recordVerifiedGrant (envelope : Envelope) (now : Instant) (transactionId : String)
  | prepareOperation (request : PrepareRequest) (now : Instant)
      (transactionId leaseToken : String)
  | claimOperation (request : ClaimRequest) (now : Instant)
      (transactionId leaseToken : String)
  | markRollbackReady (operationId beforeProofDigest executionIntentDigest : String)
      (recovery : RecoveryArtifact) (lease : LeaseClaim) (transactionId : String)
  | markApplying (operationId : String) (lease : LeaseClaim) (transactionId : String)
  | markCommitReady (operationId : String) (lease : LeaseClaim) (transactionId : String)
  | markApplied (operationId receiptDigest : String) (lease : LeaseClaim)
      (transactionId : String)
  | markCommitted (operationId : String) (lease : LeaseClaim) (transactionId : String)
  | markRollingBack (operationId : String) (lease : LeaseClaim) (transactionId : String)
  | markRolledBack (operationId receiptDigest : String) (lease : LeaseClaim)
      (transactionId : String)
  | markFailed (operationId failureDigest : String) (lease : LeaseClaim)
      (transactionId : String)
  | markRecoveryRequired (operationId reasonDigest : String) (lease : LeaseClaim)
      (transactionId : String)
  | recordRecoveryConflict (operationId reasonDigest : String) (lease : LeaseClaim)
      (transactionId : String)

/-- The transition that a `mark_*` passes on. -/
def Call.transition? : Call → Option (Transition × String × LeaseClaim × String)
  | .markRollbackReady id before intent recovery lease tx =>
    some (rollbackReadyTransition before intent recovery, id, lease, tx)
  | .markApplying id lease tx => some (applyingTransition, id, lease, tx)
  | .markCommitReady id lease tx => some (commitReadyTransition, id, lease, tx)
  | .markApplied id receipt lease tx => some (appliedTransition receipt, id, lease, tx)
  | .markCommitted id lease tx => some (committedTransition, id, lease, tx)
  | .markRollingBack id lease tx => some (rollingBackTransition, id, lease, tx)
  | .markRolledBack id receipt lease tx =>
    some (rolledBackTransition receipt, id, lease, tx)
  | .markFailed id failure lease tx => some (failedTransition failure, id, lease, tx)
  | .markRecoveryRequired id reason lease tx =>
    some (recoveryRequiredTransition reason, id, lease, tx)
  | _ => none

section Calls

variable (cfg : ChangeConfig)

def Call.exec (db : Db) : Call → Except StoreError Db
  | .registerProposal candidate now tx =>
    (db.registerProposal cfg candidate now tx).map Prod.fst
  | .recordVerifiedGrant envelope now tx =>
    (db.recordVerifiedGrant cfg envelope now tx).map Prod.fst
  | .prepareOperation request now tx token =>
    (db.prepareOperation cfg request now tx token).map Prod.fst
  | .claimOperation request now tx token =>
    (db.claimOperation cfg request now tx token).map Prod.fst
  | .markRollbackReady id before intent recovery lease tx =>
    (db.markRollbackReady cfg id before intent recovery lease tx).map Prod.fst
  | .markApplying id lease tx => (db.markApplying cfg id lease tx).map Prod.fst
  | .markCommitReady id lease tx => (db.markCommitReady cfg id lease tx).map Prod.fst
  | .markApplied id receipt lease tx =>
    (db.markApplied cfg id receipt lease tx).map Prod.fst
  | .markCommitted id lease tx => (db.markCommitted cfg id lease tx).map Prod.fst
  | .markRollingBack id lease tx => (db.markRollingBack cfg id lease tx).map Prod.fst
  | .markRolledBack id receipt lease tx =>
    (db.markRolledBack cfg id receipt lease tx).map Prod.fst
  | .markFailed id failure lease tx =>
    (db.markFailed cfg id failure lease tx).map Prod.fst
  | .markRecoveryRequired id reason lease tx =>
    (db.markRecoveryRequired cfg id reason lease tx).map Prod.fst
  | .recordRecoveryConflict id reason lease tx =>
    (db.recordRecoveryConflict cfg id reason lease tx).map Prod.fst

/-- A call on an authority: a transaction that raises is rolled back. -/
def Db.call (db : Db) (call : Call) : Db :=
  match call.exec cfg db with
  | .ok db' => db'
  | .error _ => db

/-- What a sequence of calls makes of an empty authority. -/
def storeAfter (calls : List Call) : Db := calls.foldl (Db.call cfg) {}

/-- **The run rule.**  What holds of the empty authority and is kept by every
committed call of the sequence holds after it. -/
theorem storeAfter_induction {P : Db → Prop} (init : P {})
    (step : ∀ db call db', P db → Call.exec cfg db call = .ok db' → P db')
    (calls : List Call) : P (storeAfter cfg calls) := by
  induction calls using List.reverseRecOn with
  | nil => exact init
  | append_singleton calls call ih =>
    rw [storeAfter, List.foldl_append]
    change P (Db.call cfg (storeAfter cfg calls) call)
    unfold Db.call
    split
    · next db' h => exact step _ call db' ih h
    · exact ih

theorem storeAfter_concat (calls : List Call) (call : Call) :
    storeAfter cfg (calls ++ [call]) = Db.call cfg (storeAfter cfg calls) call := by
  rw [storeAfter, List.foldl_append]
  rfl

theorem call_cases (db : Db) (call : Call) :
    Db.call cfg db call = db ∨ Call.exec cfg db call = .ok (Db.call cfg db call) := by
  unfold Db.call
  split
  · next db' h => exact .inr h
  · exact .inl rfl

end Calls

/-! ## What an update of an operation leaves alone -/

structure OperationRow.SameIdentity (row row' : OperationRow) : Prop where
  runId : row'.runId = row.runId
  proposalId : row'.proposalId = row.proposalId
  approvalId : row'.approvalId = row.approvalId
  idempotencyKeyDigest : row'.idempotencyKeyDigest = row.idempotencyKeyDigest
  policyDecisionDigest : row'.policyDecisionDigest = row.policyDecisionDigest
  targetRefDigest : row'.targetRefDigest = row.targetRefDigest

section Update

variable {cfg : ChangeConfig} {tr : Transition} {id : String} {now : Instant}
  {row : OperationRow}

theorem update_stages {P : OperationRow → Prop} (moved : ∀ phase, P { row with
      state := tr.target, updatedAt := utc now, recoveryPhase := phase })
    (column : ∀ r c, (tr.receipt = some c ∨ tr.reason = some c) → P r →
      P (r.setColumn c.2 c.1))
    (rebind : ∀ r artifact, tr.recovery = some artifact → P r →
      P (r.rebind cfg id artifact))
    (clear : ∀ r, P r → P r.clearLease) : P (tr.update cfg id now row) := by
  have hmoved := moved ((tr.phaseFrom row).orElse fun _ => row.recoveryPhase)
  have hcolumn : ∀ (c : Option (DigestColumn × String)),
      (∀ c', c = some c' → tr.receipt = some c' ∨ tr.reason = some c') → ∀ r, P r →
      P (c.elim r fun c => r.setColumn c.2 c.1) := by
    intro c hc r hr
    cases c with
    | none => exact hr
    | some c => exact column r c (hc c rfl) hr
  have hrebind : ∀ r, P r → P (tr.recovery.elim r (r.rebind cfg id)) := by
    intro r hr
    cases hrecovery : tr.recovery with
    | none => exact hr
    | some artifact => exact rebind r artifact hrecovery hr
  have hall := hrebind _ (hcolumn tr.reason (fun _ h => .inr h) _
    (hcolumn tr.receipt (fun _ h => .inl h) _ hmoved))
  unfold Transition.update
  split
  · exact clear _ hall
  · exact hall

theorem update_induction {P : OperationRow → Prop} (moved : ∀ phase, P { row with
      state := tr.target, updatedAt := utc now, recoveryPhase := phase })
    (column : ∀ r digest c, P r → P (r.setColumn digest c))
    (rebind : ∀ r artifact, tr.recovery = some artifact → P r →
      P (r.rebind cfg id artifact))
    (clear : ∀ r, P r → P r.clearLease) : P (tr.update cfg id now row) :=
  update_stages moved (fun r c _ => column r c.2 c.1) rebind clear

theorem update_sameIdentity : row.SameIdentity (tr.update cfg id now row) := by
  refine update_induction (P := row.SameIdentity) ?_ ?_ ?_ ?_
  · intro phase
    exact ⟨rfl, rfl, rfl, rfl, rfl, rfl⟩
  · intro r digest c hr
    cases c <;> exact ⟨hr.1, hr.2, hr.3, hr.4, hr.5, hr.6⟩
  · intro r artifact _ hr
    exact ⟨hr.1, hr.2, hr.3, hr.4, hr.5, hr.6⟩
  · intro r hr
    exact ⟨hr.1, hr.2, hr.3, hr.4, hr.5, hr.6⟩

theorem update_state : (tr.update cfg id now row).state = tr.target := by
  refine update_induction (P := fun r => r.state = tr.target) (fun _ => rfl) ?_
    (fun r artifact _ hr => hr) (fun r hr => hr)
  intro r digest c hr
  cases c <;> exact hr

theorem update_leaseEpoch : (tr.update cfg id now row).leaseEpoch = row.leaseEpoch := by
  refine update_induction (P := fun r => r.leaseEpoch = row.leaseEpoch) (fun _ => rfl) ?_
    (fun r artifact _ hr => hr) (fun r hr => hr)
  intro r digest c hr
  cases c <;> exact hr

end Update

/-! ## What a committed call does -/

/-- The recovery artifact passes the checks of the calls that name one. -/
structure RecoveryArtifact.Valid (artifact : RecoveryArtifact) : Prop where
  storageRef : isRecoveryReference artifact.storageRef = true
  sha256 : isHexDigest artifact.sha256 = true
  byteLength : 0 ≤ artifact.byteLength
  metadataDigest : isHexDigest artifact.metadataDigest = true

/-- The lock of a target behind a transition. -/
def Tables.relock (t : Tables) (operationId target : String) (now : Instant) :
    Option Bool → Tables
  | none => t
  | some true => t.acquire target operationId now
  | some false => t.release target operationId now

/-- The entities that a call audits. -/
abbrev EntityKey := EntityType × String

section Effects

variable (cfg : ChangeConfig)

/-- What a committed call does to the tables, and which rows it audits. -/
inductive Effect (t : Tables) : Call → Tables → List EntityKey → Prop
  | quiet {call} : Effect t call t []
  | registered {p now tx subject}
      (hvalid : validatedProposal p = .ok p)
      (hsubject : approvalSubjectPayload (cfg.subjectOf p) = .ok subject)
      (hid : t.proposals.get? p.proposalId = none)
      (hunique : t.proposalFree (cfg.proposalRow p now) = true) :
      Effect t (.registerProposal p now tx)
        (t.addProposal p.proposalId (cfg.proposalRow p now)) [(.proposal, p.proposalId)]
  | granted {envelope now tx proposalId proposal window}
      (hproposal : t.proposals.get? proposalId = some proposal)
      (hsubject : proposal.subjectDigest = envelope.subjectDigest)
      (hverify : cfg.trust.verify envelope envelope.subjectDigest now = .ok window)
      (hid : t.approvals.get? envelope.approvalId = none)
      (hunique : t.approvalFree (cfg.approvalRow proposalId envelope window.2) = true) :
      Effect t (.recordVerifiedGrant envelope now tx)
        (t.addApproval envelope.approvalId
          (cfg.approvalRow proposalId envelope window.2))
        [(.approval, envelope.approvalId)]
  | prepared {request now tx token leaseUntil proposal approval}
      (hid : isChangeId request.operationId = true)
      (howner : isChangeId request.ownerId = true)
      (hrecovery : request.recovery.Valid)
      (hproposal : t.proposals.get? request.proposalId = some proposal)
      (happroval : t.approvals.get? request.approvalId = some approval)
      (hbound : approval.proposalId = request.proposalId)
      (hchecks : ∀ check ∈ t.prepareChecks cfg proposal approval request.operationId
          (cfg.operationRow request proposal token leaseUntil now) now,
        check.1 = true) :
      Effect t (.prepareOperation request now tx token)
        (t.addOperation request (cfg.operationRow request proposal token leaseUntil now)
          now)
        [(.approval, request.approvalId), (.operation, request.operationId),
          (.targetLock, proposal.targetRefDigest)]
  | moved {call tr id lease tx row}
      (hcall : call.transition? = some (tr, id, lease, tx))
      (hrecovery : ∀ artifact, tr.recovery = some artifact → artifact.Valid)
      (hrow : t.operations.get? id = some row)
      (hstate : row.state ≠ tr.target)
      (hchecks : ∀ check ∈ tr.checks cfg lease row, check.1 = true)
      (hupdate : ∀ check ∈ t.updateFree id (tr.update cfg id lease.now row), check.1 = true)
      (hlock : tr.lockActive = some true →
        (t.locks.get? row.targetRefDigest).any
          (fun lock => lock.state = .active && lock.operationId ≠ id) = false) :
      Effect t call
        ((t.setOperation id (tr.update cfg id lease.now row)).relock id
          row.targetRefDigest lease.now tr.lockActive)
        ((tr.lockActive.map fun _ => (EntityType.targetLock, row.targetRefDigest)).toList ++
          [(.operation, id)])
  | conflicted {id reason lease tx row}
      (hrow : t.operations.get? id = some row)
      (hstate : row.state = .recoveryRequired)
      (hlease : ∀ check ∈ row.requireLease cfg lease, check.1 = true) :
      Effect t (.recordRecoveryConflict id reason lease tx)
        (t.setOperation id
          { row with recoveryReasonDigest := some reason, updatedAt := utc lease.now })
        [(.operation, id)]
  | claimed {request now tx token leaseUntil row}
      (howner : isChangeId request.ownerId = true)
      (hrow : t.operations.get? request.operationId = some row)
      (hstate : row.state ∈ nonterminal ∨ row.state = .applied)
      (hexpired : row.leaseRunning cfg now = false) :
      Effect t (.claimOperation request now tx token)
        (t.setOperation request.operationId
          (row.claim cfg request token leaseUntil now))
        [(.operation, request.operationId)]

def Audited (t : Tables) (keys : List EntityKey) (log log' : List (LogEntry AuditBody)) :
    Prop :=
  ∃ bodies : List AuditBody, bodies.map (fun b => (b.entityType, b.entityId)) = keys ∧
      (∀ b ∈ bodies, t.rowDigest? cfg b.entityType b.entityId = some b.stateDigest) ∧
      log' = bodies.foldl cfg.auditKeys.append log

theorem audited_nil (t : Tables) (log : List (LogEntry AuditBody)) :
    Audited cfg t [] log log :=
  ⟨[], rfl, by simp, rfl⟩

variable {cfg} {db db' : Db}

theorem auditRow_eq_ok {entity : EntityType} {id tx : String} {action : AuditAction}
    {at_ : Stamp} {keys : List EntityKey} {log : List (LogEntry AuditBody)}
    (h : db.auditRow cfg entity id tx action at_ = .ok db')
    (hkeys : Audited cfg db.toTables keys log db.audit) :
    db'.toTables = db.toTables ∧
      Audited cfg db.toTables (keys ++ [(entity, id)]) log db'.audit := by
  rw [Db.auditRow, bind_eq_ok] at h
  obtain ⟨digest, hdigest, h⟩ := h
  cases h
  obtain ⟨bodies, rfl, hbodies, hlog⟩ := hkeys
  refine ⟨rfl, bodies ++ [⟨tx, entity, id, action, digest, at_⟩],
    by rw [List.map_append]; rfl, ?_, ?_⟩
  · intro b hb
    rcases List.mem_append.mp hb with hb | hb
    · exact hbodies b hb
    · rw [List.mem_singleton.mp hb]
      exact expect_eq_ok.mp hdigest
  · rw [List.foldl_append, ← hlog]
    rfl

theorem put_auditRow_eq_ok {t : Tables} {entity : EntityType} {id tx : String}
    {action : AuditAction} {at_ : Stamp}
    (h : (db.put t).auditRow cfg entity id tx action at_ = .ok db') :
    db'.toTables = t ∧ Audited cfg t [(entity, id)] db.audit db'.audit :=
  auditRow_eq_ok h (audited_nil cfg t db.audit)

theorem map_fst_eq_ok {α : Type} {x : Except StoreError (Db × α)} :
    x.map Prod.fst = .ok db' ↔ ∃ answer, x = .ok (db', answer) := by
  cases x with
  | error err => simp [Except.map]
  | ok a =>
    obtain ⟨db'', answer⟩ := a
    simp [Except.map]

end Effects

section Spec

variable {cfg : ChangeConfig} {db db' : Db}

def Committed (cfg : ChangeConfig) (db : Db) (call : Call) (db' : Db) : Prop :=
  ∃ keys, Effect cfg db.toTables call db'.toTables keys ∧
    Audited cfg db'.toTables keys db.audit db'.audit

theorem committed_quiet (call : Call) : Committed cfg db call db :=
  ⟨[], .quiet, audited_nil cfg _ _⟩

theorem validatedProposal_eq {p p' : Proposal} (h : validatedProposal p = .ok p') :
    p' = p := by
  rw [validatedProposal, require_bind_eq_ok, bind_eq_ok] at h
  obtain ⟨-, _, -, h⟩ := h
  cases h
  rfl

variable {tx : String} {call : Call} {lease : LeaseClaim} {updated : OperationRow}

theorem registerProposal_committed {candidate : Proposal} {now : Instant}
    {answer : String × String}
    (h : db.registerProposal cfg candidate now tx = .ok (db', answer)) :
    Committed cfg db (.registerProposal candidate now tx) db' := by
  rw [Db.registerProposal, bind_eq_ok] at h
  obtain ⟨p, hvalid, h⟩ := h
  obtain rfl := validatedProposal_eq hvalid
  obtain ⟨subject, hsubject, h⟩ := bind_eq_ok.mp h
  obtain ⟨db'', hinsert, h⟩ := bind_eq_ok.mp h
  cases h
  rw [Db.insertProposal] at hinsert
  split at hinsert
  · rw [require_bind_eq_ok] at hinsert
    cases hinsert.2
    exact committed_quiet _
  · next hid =>
      rw [require_bind_eq_ok] at hinsert
      obtain ⟨hunique, hinsert⟩ := hinsert
      obtain ⟨htables, haudit⟩ := put_auditRow_eq_ok hinsert
      refine ⟨_, ?_, htables ▸ haudit⟩
      rw [htables]
      exact .registered hvalid hsubject hid (hunique _ (List.mem_singleton_self _))

theorem recordVerifiedGrant_committed {envelope : Envelope} {now : Instant}
    {row : ApprovalRow} (h : db.recordVerifiedGrant cfg envelope now tx = .ok (db', row)) :
    Committed cfg db (.recordVerifiedGrant envelope now tx) db' := by
  rw [Db.recordVerifiedGrant, bind_eq_ok] at h
  obtain ⟨⟨proposalId, proposal⟩, hproposal, h⟩ := h
  obtain ⟨window, hverify, h⟩ := bind_eq_ok.mp h
  have hmem := List.mem_of_head? (expect_eq_ok.mp hproposal)
  rw [Table.select, List.mem_filter, decide_eq_true_eq] at hmem
  rw [Db.insertApproval] at h
  split at h
  · rw [require_bind_eq_ok] at h
    cases h.2
    exact committed_quiet _
  · next hid =>
      rw [require_bind_eq_ok, bind_eq_ok] at h
      obtain ⟨hunique, db'', hinsert, h⟩ := h
      cases h
      obtain ⟨htables, haudit⟩ := put_auditRow_eq_ok hinsert
      refine ⟨_, ?_, htables ▸ haudit⟩
      rw [htables]
      exact .granted (Table.mem_entries.mp hmem.1) hmem.2 hverify hid
        (hunique _ (List.mem_singleton_self _))

theorem insertOperation_eq_ok {request : PrepareRequest} {row : OperationRow}
    {now : Instant} (h : db.insertOperation cfg request row now tx = .ok db') :
    db'.toTables = db.addOperation request row now ∧
      Audited cfg (db.addOperation request row now)
        [(.approval, request.approvalId), (.operation, request.operationId),
          (.targetLock, row.targetRefDigest)] db.audit db'.audit := by
  rw [Db.insertOperation, bind_eq_ok] at h
  obtain ⟨db₁, h₁, h⟩ := h
  obtain ⟨db₂, h₂, h₃⟩ := bind_eq_ok.mp h
  obtain ⟨ht₁, ha₁⟩ := put_auditRow_eq_ok h₁
  rw [← ht₁] at ha₁
  obtain ⟨ht₂, ha₂⟩ := auditRow_eq_ok h₂ ha₁
  rw [← ht₂] at ha₂
  obtain ⟨ht₃, ha₃⟩ := auditRow_eq_ok h₃ ha₂
  rw [ht₂, ht₁] at ht₃ ha₃
  exact ⟨ht₃, ha₃⟩

theorem prepareOperation_committed {request : PrepareRequest} {now : Instant}
    {tx token : String} {answer : Prepared}
    (h : db.prepareOperation cfg request now tx token = .ok (db', answer)) :
    Committed cfg db (.prepareOperation request now tx token) db' := by
  rw [Db.prepareOperation, require_bind_eq_ok] at h
  obtain ⟨hargs, h⟩ := h
  obtain ⟨leaseUntil, h⟩ := rest_ok h
  obtain ⟨proposal, hproposal, h⟩ := bind_eq_ok.mp h
  obtain ⟨approval, happroval, h⟩ := bind_eq_ok.mp h
  obtain ⟨hbound, h⟩ := require_bind_eq_ok.mp h
  rw [Db.prepareRow] at h
  split at h
  · rw [require_bind_eq_ok] at h
    cases h.2
    exact committed_quiet _
  · rw [require_bind_eq_ok, bind_eq_ok] at h
    obtain ⟨hchecks, db'', hinsert, h⟩ := h
    cases h
    obtain ⟨htables, haudit⟩ := insertOperation_eq_ok hinsert
    refine ⟨_, ?_, htables ▸ haudit⟩
    rw [htables]
    refine .prepared ?_ ?_ ⟨?_, ?_, ?_, ?_⟩ (expect_eq_ok.mp hproposal)
      (expect_eq_ok.mp happroval) ?_ hchecks
    · exact hargs (changeId request.operationId "operation id") (by simp)
    · exact hargs (changeId request.ownerId "owner id") (by simp)
    · exact hargs (recoveryReference request.recovery.storageRef) (by simp)
    · exact hargs (changeDigest request.recovery.sha256 "recovery artifact digest")
        (by simp)
    · exact of_decide_eq_true (hargs (recoveryLength request.recovery.byteLength) (by simp))
    · exact hargs (changeDigest request.recovery.metadataDigest
        "recovery metadata digest") (by simp)
    · simpa using hbound _ (List.mem_cons_self ..)

theorem setLock_eq_ok {id tx : String} {row : OperationRow} {active : Bool}
    {now : Instant} (h : db.setLock cfg id row active now tx = .ok db') :
    (active = true → (db.locks.get? row.targetRefDigest).any
        (fun lock => lock.state = .active && lock.operationId ≠ id) = false) ∧
      db'.toTables = db.relock id row.targetRefDigest now (some active) ∧
      Audited cfg (db.relock id row.targetRefDigest now (some active))
        [(.targetLock, row.targetRefDigest)] db.audit db'.audit := by
  rw [Db.setLock, require_bind_eq_ok] at h
  obtain ⟨hlock, h⟩ := h
  refine ⟨?_, ?_⟩
  · rintro rfl
    simpa using hlock _ (List.mem_singleton_self _)
  · cases active with
    | true | false => exact put_auditRow_eq_ok h

theorem enter_committed {tr : Transition} {id tx : String} {row updated : OperationRow}
    (hcall : call.transition? = some (tr, id, lease, tx))
    (hrecovery : ∀ artifact, tr.recovery = some artifact → artifact.Valid)
    (hrow : db.operations.get? id = some row) (hstate : row.state ≠ tr.target)
    (h : db.enter cfg tr id row lease tx = .ok (db', updated)) :
    Committed cfg db call db' ∧ updated = tr.update cfg id lease.now row := by
  rw [Db.enter, require_bind_eq_ok] at h
  obtain ⟨hchecks, h⟩ := h
  obtain ⟨db₁, hlocked, h⟩ := bind_eq_ok.mp h
  obtain ⟨db₂, haudited, h⟩ := bind_eq_ok.mp h
  cases h
  refine ⟨?_, rfl⟩
  have htarget : (tr.update cfg id lease.now row).targetRefDigest = row.targetRefDigest :=
    update_sameIdentity.targetRefDigest
  have hchecks' : ∀ check ∈ tr.checks cfg lease row, check.1 = true :=
    fun check hmem => hchecks check (List.mem_append_left _ hmem)
  have hupdate := fun check hmem => hchecks check (List.mem_append_right _ hmem)
  cases hactive : tr.lockActive with
  | none =>
    rw [hactive] at hlocked
    cases hlocked
    obtain ⟨htables, haudit⟩ := put_auditRow_eq_ok haudited
    have heffect := Effect.moved hcall hrecovery hrow hstate hchecks' hupdate
      (by rw [hactive]; intro h; cases h)
    rw [hactive] at heffect
    refine ⟨_, ?_, htables ▸ haudit⟩
    rw [htables]
    exact heffect
  | some active =>
    rw [hactive] at hlocked
    obtain ⟨hfree, htables₁, haudit₁⟩ := setLock_eq_ok hlocked
    rw [htarget] at hfree htables₁ haudit₁
    rw [← htables₁] at haudit₁
    obtain ⟨htables₂, haudit₂⟩ := auditRow_eq_ok haudited haudit₁
    have heffect := Effect.moved hcall hrecovery hrow hstate hchecks' hupdate
      (by rw [hactive]; rintro ⟨⟩; exact hfree rfl)
    rw [hactive] at heffect
    rw [htables₁] at htables₂ haudit₂
    refine ⟨_, ?_, htables₂ ▸ haudit₂⟩
    rw [htables₂]
    exact heffect

theorem transition_committed {tr : Transition} {id tx : String}
    (hcall : call.transition? = some (tr, id, lease, tx))
    (hrecovery : ∀ artifact, tr.recovery = some artifact → artifact.Valid)
    (h : db.transition cfg tr id lease tx = .ok (db', updated)) :
    Committed cfg db call db' := by
  rw [Db.transition, require_bind_eq_ok] at h
  obtain ⟨row, hrow, h⟩ := bind_eq_ok.mp h.2
  split at h
  · rw [Db.repeat, require_bind_eq_ok] at h
    cases h.2
    exact committed_quiet _
  · next hstate =>
      exact (enter_committed hcall hrecovery (expect_eq_ok.mp hrow) hstate h).1

theorem markRollbackReady_committed {id before intent tx : String}
    {recovery : RecoveryArtifact}
    (h : db.markRollbackReady cfg id before intent recovery lease tx = .ok (db', updated)) :
    Committed cfg db (.markRollbackReady id before intent recovery lease tx) db' := by
  rw [Db.markRollbackReady, require_bind_eq_ok] at h
  obtain ⟨hargs, h⟩ := h
  refine transition_committed
    rfl ?_ h
  rintro artifact ⟨⟩
  refine ⟨?_, ?_, ?_, ?_⟩
  · exact hargs (recoveryReference recovery.storageRef) (by simp)
  · exact hargs (changeDigest recovery.sha256 "recovery artifact digest") (by simp)
  · exact of_decide_eq_true (hargs (recoveryLength recovery.byteLength) (by simp))
  · exact hargs (changeDigest recovery.metadataDigest "recovery metadata digest")
      (by simp)

theorem recordRecoveryConflict_committed {id reason tx : String}
    (h : db.recordRecoveryConflict cfg id reason lease tx = .ok (db', updated)) :
    Committed cfg db (.recordRecoveryConflict id reason lease tx) db' := by
  rw [Db.recordRecoveryConflict, require_bind_eq_ok] at h
  obtain ⟨row, hrow, h⟩ := bind_eq_ok.mp h.2
  obtain ⟨hchecks, h⟩ := require_bind_eq_ok.mp h
  obtain ⟨db'', haudited, h⟩ := bind_eq_ok.mp h
  cases h
  obtain ⟨htables, haudit⟩ := put_auditRow_eq_ok haudited
  refine ⟨_, ?_, htables ▸ haudit⟩
  rw [htables]
  refine .conflicted (expect_eq_ok.mp hrow)
    (of_decide_eq_true (hchecks _ (List.mem_cons_self ..))) ?_
  exact fun check hmem => hchecks check (List.mem_cons_of_mem _ hmem)

theorem claimOperation_committed {request : ClaimRequest} {now : Instant}
    {tx token : String} {answer : Claimed}
    (h : db.claimOperation cfg request now tx token = .ok (db', answer)) :
    Committed cfg db (.claimOperation request now tx token) db' := by
  rw [Db.claimOperation, require_bind_eq_ok] at h
  obtain ⟨hargs, h⟩ := h
  obtain ⟨leaseUntil, h⟩ := rest_ok h
  obtain ⟨row, hrow, h⟩ := bind_eq_ok.mp h
  split at h
  · next hstate =>
      rw [Db.takeOver, require_bind_eq_ok, bind_eq_ok] at h
      obtain ⟨hexpired, db'', haudited, h⟩ := h
      cases h
      obtain ⟨htables, haudit⟩ := put_auditRow_eq_ok haudited
      refine ⟨_, ?_, htables ▸ haudit⟩
      rw [htables]
      exact .claimed (hargs (changeId request.ownerId "owner id") (by simp))
        (expect_eq_ok.mp hrow) hstate
        (by simpa using hexpired _ (List.mem_singleton_self _))
  · cases h
    exact committed_quiet _

/-- **What a committed call has done.** -/
theorem exec_committed (h : Call.exec cfg db call = .ok db') :
    Committed cfg db call db' := by
  have plain : ∀ {tr : Transition} {id tx : String} {lease : LeaseClaim},
      call.transition? = some (tr, id, lease, tx) → tr.recovery = none →
      (∃ updated, db.transition cfg tr id lease tx = .ok (db', updated)) →
      Committed cfg db call db' := by
    rintro tr id tx lease hcall hnone ⟨updated, htransition⟩
    refine transition_committed hcall ?_ htransition
    intro artifact hsome
    rw [hnone] at hsome
    cases hsome
  cases call with
  | registerProposal candidate now tx =>
    obtain ⟨answer, h⟩ := map_fst_eq_ok.mp h
    exact registerProposal_committed h
  | recordVerifiedGrant envelope now tx =>
    obtain ⟨answer, h⟩ := map_fst_eq_ok.mp h
    exact recordVerifiedGrant_committed h
  | prepareOperation request now tx token =>
    obtain ⟨answer, h⟩ := map_fst_eq_ok.mp h
    exact prepareOperation_committed h
  | claimOperation request now tx token =>
    obtain ⟨answer, h⟩ := map_fst_eq_ok.mp h
    exact claimOperation_committed h
  | markRollbackReady id before intent recovery lease tx =>
    obtain ⟨answer, h⟩ := map_fst_eq_ok.mp h
    exact markRollbackReady_committed h
  | markApplying id lease tx | markCommitReady id lease tx
  | markApplied id receipt lease tx | markCommitted id lease tx
  | markRollingBack id lease tx | markRolledBack id receipt lease tx
  | markFailed id failure lease tx | markRecoveryRequired id reason lease tx =>
    exact plain rfl rfl (map_fst_eq_ok.mp h)
  | recordRecoveryConflict id reason lease tx =>
    obtain ⟨answer, h⟩ := map_fst_eq_ok.mp h
    exact recordRecoveryConflict_committed h

end Spec

end Ecosystem.Changes
