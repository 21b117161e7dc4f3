import Ecosystem.Changes.Calls

/-!
# The verifier of the change authority

`verify` of `SQLiteChangeAuthority`: the audit log is recomputed, the inventory of live
rows is compared with it, and the rows of the four tables with each other.

`Sound` is everything that `verify` asks but `Proven`: an operation beyond `prepared`
has its before-proof and its intent.  One call can break it: `mark_rolling_back` takes
an operation out of `recovery_required` whatever its history.
-/

namespace Ecosystem.Changes

open Ecosystem.Lib

/-! ## The verifier -/

def checkRows {ρ : Type} (table : Table String ρ)
    (check : String → ρ → Except StoreError Unit) : Except StoreError Unit :=
  forM table.entries fun e => check e.1 e.2

def OperationState.needsProof (s : OperationState) : Bool :=
  s ∈ [.rollbackReady, .applying, .commitReady, .applied, .committed, .rollingBack,
    .rolledBack]

def OperationState.lockRequired (s : OperationState) : Bool :=
  s ∈ [.prepared, .rollbackReady, .applying, .commitReady, .applied, .rollingBack,
    .recoveryRequired]

def OperationRow.proven (row : OperationRow) : Bool :=
  row.beforeProofDigest.isSome && row.executionIntentDigest.isSome

def OperationRow.receipted (row : OperationRow) : Bool :=
  (row.state ∉ [.applied, .committed] || row.applyReceiptDigest.isSome) &&
    (row.state ≠ .rolledBack || row.rollbackReceiptDigest.isSome) &&
    (row.state ≠ .failed || row.failureDigest.isSome) &&
    (row.state ≠ .recoveryRequired || row.recoveryReasonDigest.isSome ||
      row.leaseEpoch ≠ 1)

section Verify

variable (cfg : ChangeConfig)

def Tables.live (t : Tables) : Dict EntityKey String :=
  inventory .targetLock (fun id row => cfg.semanticDigest (.lockRow id row)) t.locks
    (inventory .operation (fun id row => cfg.semanticDigest (.operationRow id row))
      t.operations
      (inventory .approval (fun id row => cfg.semanticDigest (.approvalRow id row))
        t.approvals
        (inventory .proposal (fun id row => cfg.semanticDigest (.proposalRow id row))
          t.proposals ∅)))

def Db.reported (db : Db) : Dict EntityKey String :=
  latest (fun b => (b.entityType, b.entityId)) AuditBody.stateDigest db.audit

def verifyProposal (_ : String) (row : ProposalRow) : Except StoreError Unit := do
  let checked ← validatedProposal row.record.proposal
  let subject ← approvalSubjectPayload (cfg.subjectOf checked)
  require
    [(row.proposalDigest = cfg.semanticDigest (.proposal checked) &&
        row.subjectDigest = cfg.semanticDigest (.subject subject) &&
        row.record.proposalDigest = cfg.semanticDigest (.proposal checked) &&
        row.record.subjectDigest = row.subjectDigest,
      corrupt "Proposal binding differs")]

/-- A `RuntimeStoreError` of the trust store is a corrupt store. -/
def untrustedApproval : StoreError → StoreError
  | .store _ _ => corrupt "Stored human approval is untrusted"
  | err => err

def ApprovalRow.repeatsEnvelope (row : ApprovalRow) (id : String)
    (expiresAt : Instant) : Bool :=
  cfg.semanticDigest (.envelope row.envelope) = row.envelopeDigest &&
    row.envelope.approvalId = id && row.envelope.subjectDigest = row.subjectDigest &&
    row.envelope.humanId = row.humanId && row.envelope.assurance = row.assurance &&
    row.envelope.keyId = row.keyId &&
    row.envelope.challengeNonce = row.challengeNonce &&
    row.envelope.issuedAt = row.issuedAt && row.envelope.expiresAt = row.expiresAt &&
    row.expiresAtEpochUs = cfg.epoch expiresAt

def Tables.verifyApproval (t : Tables) (id : String) (row : ApprovalRow) :
    Except StoreError Unit := do
  let proposal := t.proposals.get? row.proposalId
  let operation := row.consumedOperationId.bind t.operations.get?
  let window ← (cfg.trust.verifySignature row.envelope row.subjectDigest).mapError
    untrustedApproval
  require
    [(proposal.any (fun p => row.subjectDigest = p.subjectDigest) &&
        row.repeatsEnvelope cfg id window.2 &&
        (row.state ≠ .issued || (row.consumedAt.isNone && operation.isNone)) &&
        (row.state ≠ .consumed || (row.consumedAt.isSome && operation.isSome)),
      corrupt "Approval binding differs")]

def Tables.verifyOperation (t : Tables) (id : String) (row : OperationRow) :
    Except StoreError Unit := do
  let proposal := t.proposals.get? row.proposalId
  let approval := t.approvals.get? row.approvalId
  require
    [(proposal.any (fun p => row.runId = p.runId &&
            row.targetRefDigest = p.targetRefDigest &&
            row.policyDecisionDigest = p.record.proposal.policyDecisionDigest) &&
        approval.any (fun a => a.consumedOperationId = some id) &&
        isRecoveryReference row.recovery.storageRef && isHexDigest row.recovery.sha256 &&
        0 ≤ row.recovery.byteLength && isHexDigest row.recovery.metadataDigest &&
        row.intentDigest = cfg.intentDigest id row &&
        (!row.state.needsProof || row.proven) && row.receipted,
      corrupt "Operation binding differs")]

def Tables.verifyOperationLock (t : Tables) (id : String) (row : OperationRow) :
    Except StoreError Unit :=
  require
    [(!row.state.lockRequired ||
        (t.locks.get? row.targetRefDigest).any
          (fun lock => lock.state = .active && lock.operationId = id),
      corrupt "Operation target lock differs")]

def Tables.verifyLock (t : Tables) (target : String) (lock : LockRow) :
    Except StoreError Unit :=
  require
    [(lock.state ≠ .active ||
        (t.operations.get? lock.operationId).any
          (fun row => row.targetRefDigest = target && row.state.lockRequired),
      corrupt "Active target lock is orphaned")]

def Db.verify (db : Db) : Except StoreError Unit := do
  require
    [(cfg.auditKeys.verify db.audit, corrupt "Audit authentication failed"),
      (db.live cfg = db.reported, corrupt "Authority and audit inventories differ")]
  checkRows db.proposals (verifyProposal cfg)
  checkRows db.approvals (db.verifyApproval cfg)
  checkRows db.operations (db.verifyOperation cfg)
  checkRows db.operations db.verifyOperationLock
  checkRows db.locks db.verifyLock

end Verify

theorem checkRows_eq_ok {ρ : Type} {table : Table String ρ}
    {check : String → ρ → Except StoreError Unit} :
    checkRows table check = .ok () ↔
      ∀ id row, table.get? id = some row → check id row = .ok () := by
  rw [checkRows, forM_eq_ok]
  constructor
  · intro h id row hrow
    exact h (id, row) (Table.mem_entries.mpr hrow)
  · rintro h ⟨id, row⟩ hmem
    exact h id row (Table.mem_entries.mp hmem)

/-! ## The invariant -/

section Invariant

variable (cfg : ChangeConfig)

structure OperationRow.Intact (id : String) (row : OperationRow) : Prop where
  identifier : isChangeId id = true
  owner : ∀ owner, row.leaseOwnerId = some owner → isChangeId owner = true
  recovery : row.recovery.Valid
  fits : row.recovery.byteLength ≤ maxInteger
  intent : row.intentDigest = cfg.intentDigest id row
  epoch : 1 ≤ row.leaseEpoch
  receipted : row.receipted = true

structure Tables.ApprovalSound (t : Tables) (id : String) (row : ApprovalRow) : Prop where
  verified : ∃ window,
    cfg.trust.verifySignature row.envelope row.subjectDigest = .ok window ∧
      row.repeatsEnvelope cfg id window.2 = true
  proposal : ∃ p, t.proposals.get? row.proposalId = some p ∧
    row.subjectDigest = p.subjectDigest
  issued : row.state = .issued →
    row.consumedAt = none ∧ row.consumedOperationId = none
  consumed : row.state = .consumed → row.consumedAt.isSome = true ∧
    ∃ op operation, row.consumedOperationId = some op ∧
      t.operations.get? op = some operation

def Tables.Bound (t : Tables) (id : String) (row : OperationRow) : Prop :=
  ∃ p a, t.proposals.get? row.proposalId = some p ∧
    t.approvals.get? row.approvalId = some a ∧ row.runId = p.runId ∧
    row.targetRefDigest = p.targetRefDigest ∧
    row.policyDecisionDigest = p.record.proposal.policyDecisionDigest ∧
    a.consumedOperationId = some id

/-- What every call keeps. -/
structure Tables.Sound (t : Tables) : Prop where
  proposals : ∀ id row, t.proposals.get? id = some row →
    verifyProposal cfg id row = .ok ()
  approvals : ∀ id row, t.approvals.get? id = some row → t.ApprovalSound cfg id row
  intact : ∀ id row, t.operations.get? id = some row → row.Intact cfg id
  intents : ∀ id row id' row', t.operations.get? id = some row →
    t.operations.get? id' = some row' → row.intentDigest = row'.intentDigest → id = id'
  bound : ∀ id row, t.operations.get? id = some row → t.Bound id row
  locked : ∀ id row, t.operations.get? id = some row → row.state.terminal = false →
    ∃ lock, t.locks.get? row.targetRefDigest = some lock ∧ lock.state = .active ∧
      lock.operationId = id
  held : ∀ target lock, t.locks.get? target = some lock → lock.state = .active →
    ∃ row, t.operations.get? lock.operationId = some row ∧
      row.targetRefDigest = target ∧ row.state.terminal = false

/-- The clause that a call can break. -/
def Tables.Proven (t : Tables) : Prop :=
  ∀ id row, t.operations.get? id = some row → row.state.needsProof = true →
    row.proven = true

/-- The log is authentic and reports the rows that are there. -/
structure Db.Inventoried (db : Db) : Prop where
  authentic : cfg.auditKeys.verify db.audit = true
  reported : ∀ k : EntityKey, db.reported.lookup k = db.rowDigest? cfg k.1 k.2

end Invariant

theorem lockRequired_eq (s : OperationState) : s.lockRequired = !s.terminal := by
  cases s <;> rfl

variable {cfg : ChangeConfig} {t : Tables} {db : Db}

theorem lookup_live (k : EntityKey) : (t.live cfg).lookup k = t.rowDigest? cfg k.1 k.2 := by
  obtain ⟨entity, id⟩ := k
  rw [Tables.live]
  simp only [lookup_inventory]
  cases entity <;> simp [Tables.rowDigest?]

theorem verifyApproval_eq_ok {id : String} {row : ApprovalRow}
    (h : t.ApprovalSound cfg id row) : t.verifyApproval cfg id row = .ok () := by
  obtain ⟨window, hverified, hrepeats⟩ := h.verified
  obtain ⟨p, hp, hsubject⟩ := h.proposal
  rw [Tables.verifyApproval, hverified]
  refine require_eq_ok.mpr ?_
  intro check hcheck
  rw [List.mem_singleton.mp hcheck]
  simp only [hp, Option.any_some, hsubject, decide_true, hrepeats, Bool.true_and]
  cases hstate : row.state with
  | issued =>
    obtain ⟨hat, hop⟩ := h.issued hstate
    simp [hat, hop]
  | consumed =>
    obtain ⟨hat, op, operation, hop, hoperation⟩ := h.consumed hstate
    simp [hat, hop, hoperation]

theorem verifyOperation_eq_ok {id : String} {row : OperationRow}
    (hintact : row.Intact cfg id) (hbound : t.Bound id row) :
    t.verifyOperation cfg id row = .ok () ↔
      (row.state.needsProof = true → row.proven = true) := by
  obtain ⟨p, a, hp, ha, hrun, htarget, hpolicy, hconsumed⟩ := hbound
  rw [Tables.verifyOperation, require_eq_ok]
  simp only [List.mem_singleton, forall_eq, hp, ha, Option.any_some, hrun, htarget,
    hpolicy, hconsumed, decide_true, Bool.true_and, hintact.recovery.storageRef,
    hintact.recovery.sha256, hintact.recovery.byteLength,
    hintact.recovery.metadataDigest, hintact.receipted, Bool.and_true]
  rw [decide_eq_true hintact.intent, Bool.true_and]
  cases row.state.needsProof <;> simp

/-- **What the verifier asks beyond the invariant.** -/
theorem verify_eq_ok (hsound : db.Sound cfg) (hlog : db.Inventoried cfg) :
    db.verify cfg = .ok () ↔ db.Proven := by
  have hlive : db.live cfg = db.reported := by
    refine Finmap.ext_lookup fun k => ?_
    rw [lookup_live, hlog.reported]
  have hlock : checkRows db.operations db.verifyOperationLock = .ok () := by
    refine checkRows_eq_ok.mpr fun id row hrow => require_eq_ok.mpr ?_
    simp only [List.mem_singleton, forall_eq, lockRequired_eq, Bool.not_not]
    cases hopen : row.state.terminal with
    | true => rfl
    | false =>
      obtain ⟨lock, hget, hactive, hid⟩ := hsound.locked id row hrow hopen
      simp [hget, hactive, hid]
  have hheld : checkRows db.locks db.verifyLock = .ok () := by
    refine checkRows_eq_ok.mpr fun target lock hget => require_eq_ok.mpr ?_
    simp only [List.mem_singleton, forall_eq, lockRequired_eq]
    by_cases hactive : lock.state = .active
    · obtain ⟨row, hrow, htarget, hopen⟩ := hsound.held target lock hget hactive
      simp [hrow, htarget, hopen]
    · simp [hactive]
  rw [Db.verify, require_bind_eq_ok]
  simp only [bind_eq_ok, hlock, hheld]
  constructor
  · rintro ⟨-, _, -, _, -, _, hoperations, -⟩ id row hrow
    exact (verifyOperation_eq_ok (hsound.intact id row hrow)
      (hsound.bound id row hrow)).mp (checkRows_eq_ok.mp hoperations id row hrow)
  · intro hproven
    refine ⟨by simp [hlog.authentic, hlive], (), ?_, (), ?_, (), ?_, by simp⟩
    · exact checkRows_eq_ok.mpr hsound.proposals
    · exact checkRows_eq_ok.mpr fun id row hrow =>
        verifyApproval_eq_ok (hsound.approvals id row hrow)
    · exact checkRows_eq_ok.mpr fun id row hrow =>
        (verifyOperation_eq_ok (hsound.intact id row hrow)
          (hsound.bound id row hrow)).mpr (hproven id row hrow)

end Ecosystem.Changes
