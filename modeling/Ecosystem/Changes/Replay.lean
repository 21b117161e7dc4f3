import Ecosystem.Changes.Rows
import Ecosystem.Lib.JsonText

/-!
# Repeated calls of `prepare_operation`

The key of an operation is bound to its intent: operation, proposal, approval, policy
decision and recovery bundle.  A repeated call compares the stored digest of the intent.

`mark_rollback_ready` may bind another recovery bundle and rewrites the digest, so the
laws about the recovery arguments hold as long as none is bound.
-/

namespace Ecosystem.Changes

open Ecosystem.Lib

variable {cfg : ChangeConfig} {t t' : Tables} {db db' : Db}

/-! ## One operation for each key -/

structure Tables.Keyed (t : Tables) : Prop where
  paired : ∀ id row, t.operations.get? id = some row →
    ∃ a, t.approvals.get? row.approvalId = some a ∧ a.proposalId = row.proposalId
  unique : ∀ id row id' row', t.operations.get? id = some row →
    t.operations.get? id' = some row' → row.runId = row'.runId →
    row.idempotencyKeyDigest = row'.idempotencyKeyDigest → id = id'

variable {call : Call} {id : String} {request : PrepareRequest} {proposal : ProposalRow}
  {row : OperationRow} {now : Instant} {answer : Prepared}

theorem effect_approvals {keys : List EntityKey}
    (heffect : Effect cfg t call t' keys) {k : String} {a : ApprovalRow}
    (ha : t.approvals.get? k = some a) :
    ∃ a', t'.approvals.get? k = some a' ∧ a'.proposalId = a.proposalId := by
  cases heffect with
  | granted hproposal hsubject hverify hid hunique =>
    refine ⟨a, (Table.get?_insert hid k).trans ?_, rfl⟩
    rw [if_neg, ha]
    rintro rfl
    rw [hid] at ha
    cases ha
  | prepared =>
    rw [get?_addOperation_approvals, ha]
    split
    · exact ⟨_, rfl, rfl⟩
    · exact ⟨a, rfl, rfl⟩
  | moved =>
    refine ⟨a, ?_, rfl⟩
    rw [relock_approvals]
    exact ha
  | _ => exact ⟨a, ha, rfl⟩

theorem keyed_setOperation (h : t.Keyed) {row row' : OperationRow}
    (hrow : t.operations.get? id = some row) (hsame : row.SameIdentity row')
    (hoperations : t'.operations = (t.setOperation id row').operations)
    (happrovals : t'.approvals = t.approvals) : t'.Keyed := by
  have hget := origin_setOperation hrow hsame hoperations
  refine ⟨?_, ?_⟩
  · intro k r hr
    obtain ⟨r₀, hr₀, hs⟩ := hget k r hr
    obtain ⟨a, ha, hproposal⟩ := h.paired k r₀ hr₀
    refine ⟨a, ?_, ?_⟩
    · rw [happrovals, hs.approvalId, ha]
    · rw [hproposal, hs.proposalId]
  · intro k r k' r' hr hr' hrun hkey
    obtain ⟨r₀, hr₀, hs⟩ := hget k r hr
    obtain ⟨r₁, hr₁, hs'⟩ := hget k' r' hr'
    refine h.unique k r₀ k' r₁ hr₀ hr₁ ?_ ?_
    · rw [← hs.runId, ← hs'.runId, hrun]
    · rw [← hs.idempotencyKeyDigest, ← hs'.idempotencyKeyDigest, hkey]

theorem keyFree_of_checks {approval : ApprovalRow}
    (h : ∀ check ∈ t.prepareChecks cfg proposal approval request.operationId row now,
      check.1 = true) {k : String} {other : OperationRow}
    (hother : t.operations.get? k = some other) (hrun : other.runId = row.runId)
    (hkey : other.idempotencyKeyDigest = row.idempotencyKeyDigest) : False := by
  simp only [Tables.prepareChecks, List.forall_mem_cons, Tables.operationFree,
    Bool.and_eq_true] at h
  obtain ⟨-, -, -, -, -, -, ⟨-, hfree⟩, -⟩ := h
  have := not_of_select_isEmpty hfree hother
  simp [hrun, hkey] at this

theorem effect_keyed {keys : List EntityKey} (h : t.Keyed)
    (heffect : Effect cfg t call t' keys) : t'.Keyed := by
  have hpaired : ∀ row : OperationRow,
      (∃ a, t.approvals.get? row.approvalId = some a ∧ a.proposalId = row.proposalId) →
      ∃ a, t'.approvals.get? row.approvalId = some a ∧
        a.proposalId = row.proposalId := by
    rintro row ⟨a, ha, hproposal⟩
    obtain ⟨a', ha', hsame⟩ := effect_approvals heffect ha
    exact ⟨a', ha', hsame.trans hproposal⟩
  cases heffect with
  | quiet => exact h
  | registered => exact ⟨h.paired, h.unique⟩
  | granted => exact ⟨fun id row hrow => hpaired row (h.paired id row hrow), h.unique⟩
  | @prepared request now tx token leaseUntil proposal approval _ _ _ hproposal
      happroval hbound hchecks =>
    have habsent := (preparable_of_checks hchecks).absent
    refine ⟨?_, ?_⟩
    · intro k r hr
      rw [get?_addOperation habsent] at hr
      split at hr
      · cases hr
        exact hpaired _ ⟨approval, happroval, hbound⟩
      · exact hpaired r (h.paired k r hr)
    · intro k r k' r' hr hr' hrun hkey
      rw [get?_addOperation habsent] at hr hr'
      split at hr <;> split at hr'
      · next hk hk' => rw [hk, hk']
      · cases hr
        exact (keyFree_of_checks hchecks hr' hrun.symm hkey.symm).elim
      · cases hr'
        exact (keyFree_of_checks hchecks hr hrun hkey).elim
      · exact h.unique k r k' r' hr hr' hrun hkey
  | moved _ _ hrow _ _ _ _ =>
    exact keyed_setOperation h hrow update_sameIdentity (relock_operations ..)
      (relock_approvals ..)
  | conflicted hrow _ _ | claimed _ hrow _ _ =>
    refine keyed_setOperation h hrow ?_ rfl rfl
    exact ⟨rfl, rfl, rfl, rfl, rfl, rfl⟩

theorem keyed_storeAfter (cfg : ChangeConfig) (calls : List Call) :
    (storeAfter cfg calls).Keyed := by
  refine storeAfter_induction cfg (P := fun db => db.Keyed) ?_ ?_ calls
  · refine ⟨?_, ?_⟩
    · intro id row hrow
      cases hrow
    · intro id row id' row' hrow
      cases hrow
  · intro db call db' h hexec
    obtain ⟨keys, heffect, -⟩ := exec_committed hexec
    exact effect_keyed h heffect

/-! ## The answer for a key that is taken -/

/-- The arguments of `prepare_operation` pass their own checks. -/
structure PrepareRequest.Valid (request : PrepareRequest) : Prop where
  operationId : isChangeId request.operationId = true
  proposalId : isChangeId request.proposalId = true
  approvalId : isChangeId request.approvalId = true
  ownerId : isChangeId request.ownerId = true
  idempotencyKey : isChangeId request.idempotencyKey = true
  recovery : request.recovery.Valid
  lease : 1 ≤ request.leaseSeconds ∧ request.leaseSeconds ≤ 3600

def ChangeConfig.intentOf (cfg : ChangeConfig) (request : PrepareRequest)
    (proposal : ProposalRow) : Intent where
  operationId := request.operationId
  proposalId := request.proposalId
  approvalId := request.approvalId
  policyDecisionDigest := proposal.record.proposal.policyDecisionDigest
  idempotencyKeyDigest := cfg.semanticDigest (.idempotency request.idempotencyKey)
  recovery := request.recovery

def OperationRow.intent (row : OperationRow) (operationId : String) : Intent where
  operationId := operationId
  proposalId := row.proposalId
  approvalId := row.approvalId
  policyDecisionDigest := row.policyDecisionDigest
  idempotencyKeyDigest := row.idempotencyKeyDigest
  recovery := row.recovery

/-- What `prepare_operation` has read and checked before it searches the key. -/
structure PrepareRequest.Admitted (cfg : ChangeConfig) (request : PrepareRequest)
    (t : Tables) (now : Instant) (proposal : ProposalRow) : Prop where
  valid : request.Valid
  clock : ∃ leaseUntil, now.addSeconds request.leaseSeconds = .ok leaseUntil
  found : t.proposals.get? request.proposalId = some proposal
  approved : ∃ approval, t.approvals.get? request.approvalId = some approval ∧
    approval.proposalId = request.proposalId
  decision : isHexDigest proposal.record.proposal.policyDecisionDigest = true

def Tables.ofKey (t : Tables) (runId key : String) : Option (String × OperationRow) :=
  (t.operations.select fun _ other =>
    other.runId = runId && other.idempotencyKeyDigest = key).head?

theorem Tables.Keyed.ofKey_eq_some (h : t.Keyed) {runId key id : String}
    (hrow : t.operations.get? id = some row)
    (hrun : row.runId = runId) (hkey : row.idempotencyKeyDigest = key) :
    t.ofKey runId key = some (id, row) := by
  have hmem : (id, row) ∈ t.operations.select fun _ other =>
      other.runId = runId && other.idempotencyKeyDigest = key := by
    refine List.mem_filter.mpr ⟨Table.mem_entries.mpr hrow, ?_⟩
    simp [hrun, hkey]
  obtain ⟨⟨id', row'⟩, hhead⟩ : ∃ entry, t.ofKey runId key = some entry :=
    ⟨_, List.head?_eq_some_head (List.ne_nil_of_mem hmem)⟩
  obtain ⟨hentry, hfound⟩ := List.mem_filter.mp (List.mem_of_head? hhead)
  have hrow' := Table.mem_entries.mp hentry
  simp only [Bool.and_eq_true, decide_eq_true_eq] at hfound
  obtain rfl := h.unique id row id' row' hrow hrow' (hrun.trans hfound.1.symm)
    (hkey.trans hfound.2.symm)
  rw [hrow] at hrow'
  cases hrow'
  exact hhead

theorem prepareOperation_admitted {tx token : String}
    (h : db.prepareOperation cfg request now tx token = .ok (db', answer)) :
    ∃ proposal leaseUntil approval, request.Admitted cfg db.toTables now proposal ∧
      db.prepareRow cfg request proposal approval
        (cfg.operationRow request proposal token leaseUntil now) token leaseUntil now tx =
        .ok (db', answer) := by
  rw [Db.prepareOperation, require_bind_eq_ok] at h
  obtain ⟨hvalid, h⟩ := h
  obtain ⟨leaseUntil, hclock, h⟩ := bind_eq_ok.mp h
  obtain ⟨proposal, hproposal, h⟩ := bind_eq_ok.mp h
  obtain ⟨approval, happroval, h⟩ := bind_eq_ok.mp h
  rw [require_bind_eq_ok] at h
  obtain ⟨hbound, h⟩ := h
  simp only [List.forall_mem_cons, changeId, changeDigest, recoveryReference,
    recoveryLength, decide_eq_true_eq, Bool.and_eq_true] at hvalid hbound
  obtain ⟨h1, h2, h3, h4, h5, h6, h7, h8, h9, h10, -⟩ := hvalid
  exact ⟨proposal, leaseUntil, approval,
    { valid := ⟨h1, h2, h3, h4, h5, ⟨h6, h7, h8, h9⟩, h10⟩
      clock := ⟨leaseUntil, hclock⟩
      found := expect_eq_ok.mp hproposal
      approved := ⟨approval, expect_eq_ok.mp happroval, hbound.1⟩
      decision := hbound.2.1 }, h⟩

theorem prepareOperation_taken (hkeyed : db.Keyed) {tx token id : String}
    (hproposal : db.proposals.get? request.proposalId = some proposal)
    (hrow : db.operations.get? id = some row) (hrun : row.runId = proposal.runId)
    (hkey : row.idempotencyKeyDigest =
      cfg.semanticDigest (.idempotency request.idempotencyKey))
    (h : db.prepareOperation cfg request now tx token = .ok (db', answer)) :
    row.intentDigest = cfg.semanticDigest (.intent (cfg.intentOf request proposal)) ∧
      db' = db ∧ answer = .replayed row := by
  obtain ⟨proposal', leaseUntil, approval, hadmitted, h⟩ := prepareOperation_admitted h
  have hsame := hadmitted.found
  rw [hproposal] at hsame
  cases hsame
  have hfound := hkeyed.ofKey_eq_some hrow hrun hkey
  rw [Tables.ofKey] at hfound
  unfold Db.prepareRow at h
  split at h
  · next existing hexisting =>
      have heq := hexisting.symm.trans hfound
      cases heq
      rw [require_bind_eq_ok] at h
      obtain ⟨hintent, h⟩ := h
      simp only [List.forall_mem_cons, decide_eq_true_eq] at hintent
      cases h
      exact ⟨hintent.1, rfl, rfl⟩
  · next hnone =>
      have heq := hnone.symm.trans hfound
      cases heq

theorem prepareOperation_replays (hkeyed : db.Keyed) {tx token id : String}
    (hadmitted : request.Admitted cfg db.toTables now proposal)
    (hrow : db.operations.get? id = some row) (hrun : row.runId = proposal.runId)
    (hkey : row.idempotencyKeyDigest =
      cfg.semanticDigest (.idempotency request.idempotencyKey))
    (hintent : row.intentDigest =
      cfg.semanticDigest (.intent (cfg.intentOf request proposal))) :
    db.prepareOperation cfg request now tx token = .ok (db, .replayed row) := by
  obtain ⟨leaseUntil, hclock⟩ := hadmitted.clock
  obtain ⟨approval, happroval, hbound⟩ := hadmitted.approved
  have hvalid := hadmitted.valid
  rw [Db.prepareOperation, require_bind_eq_ok]
  refine ⟨?_, bind_eq_ok.mpr ⟨leaseUntil, hclock, bind_eq_ok.mpr ⟨proposal,
    expect_eq_ok.mpr hadmitted.found, bind_eq_ok.mpr ⟨approval,
    expect_eq_ok.mpr happroval, require_bind_eq_ok.mpr ⟨?_, ?_⟩⟩⟩⟩⟩
  · simp only [List.forall_mem_cons, changeId, changeDigest, recoveryReference,
      recoveryLength, decide_eq_true_eq, Bool.and_eq_true]
    exact ⟨hvalid.operationId, hvalid.proposalId, hvalid.approvalId, hvalid.ownerId,
      hvalid.idempotencyKey, hvalid.recovery.storageRef, hvalid.recovery.sha256,
      hvalid.recovery.byteLength, hvalid.recovery.metadataDigest, hvalid.lease,
      List.forall_mem_nil _⟩
  · simp only [List.forall_mem_cons, changeDigest, decide_eq_true_eq]
    exact ⟨hbound, hadmitted.decision, List.forall_mem_nil _⟩
  · have hfound := hkeyed.ofKey_eq_some hrow hrun hkey
    rw [Tables.ofKey] at hfound
    unfold Db.prepareRow
    split
    · next existing hexisting =>
        have heq := hexisting.symm.trans hfound
        cases heq
        rw [require_bind_eq_ok]
        refine ⟨?_, rfl⟩
        simp only [List.forall_mem_cons, decide_eq_true_eq]
        exact ⟨hintent, List.forall_mem_nil _⟩
    · next hnone =>
        have heq := hnone.symm.trans hfound
        cases heq

/-! ## The row along a run -/

/-- A call that names another recovery bundle for the operation. -/
def Call.Rebinds (request : PrepareRequest) (call : Call) : Prop :=
  ∃ before intent recovery lease tx,
    call = .markRollbackReady request.operationId before intent recovery lease tx ∧
      recovery ≠ request.recovery

structure OperationRow.PreparedFor (cfg : ChangeConfig) (row : OperationRow)
    (request : PrepareRequest) (proposal : ProposalRow) : Prop where
  runId : row.runId = proposal.runId
  proposalId : row.proposalId = request.proposalId
  approvalId : row.approvalId = request.approvalId
  idempotencyKeyDigest : row.idempotencyKeyDigest =
    cfg.semanticDigest (.idempotency request.idempotencyKey)
  policyDecisionDigest : row.policyDecisionDigest =
    proposal.record.proposal.policyDecisionDigest

theorem OperationRow.PreparedFor.of_same {row row' : OperationRow}
    (h : row.PreparedFor cfg request proposal) (hsame : row.SameIdentity row') :
    row'.PreparedFor cfg request proposal where
  runId := hsame.runId.trans h.runId
  proposalId := hsame.proposalId.trans h.proposalId
  approvalId := hsame.approvalId.trans h.approvalId
  idempotencyKeyDigest := hsame.idempotencyKeyDigest.trans h.idempotencyKeyDigest
  policyDecisionDigest := hsame.policyDecisionDigest.trans h.policyDecisionDigest

theorem RowStep.sameIdentity {row row' : OperationRow}
    (h : RowStep cfg call id row row') : row.SameIdentity row' := by
  cases h with
  | same heq =>
    rw [heq]
    exact ⟨rfl, rfl, rfl, rfl, rfl, rfl⟩
  | held lease _ _ _ _ _ _ hsame => exact hsame
  | claimed request now leaseUntil tx token _ _ _ _ hrow =>
    rw [hrow]
    exact ⟨rfl, rfl, rfl, rfl, rfl, rfl⟩

/-- **The recovery bundle of a row** changes only where `mark_rollback_ready` binds
another one to its operation. -/
theorem call_recovery (cfg : ChangeConfig) (db : Db) (call : Call) {row row' : OperationRow}
    (hrow : db.operations.get? request.operationId = some row)
    (hrow' : (Db.call cfg db call).operations.get? request.operationId = some row')
    (hrecovery : row.recovery = request.recovery)
    (hcall : (∃ db', Call.exec cfg db call = .ok db') → ¬ call.Rebinds request) :
    row'.recovery = request.recovery := by
  rcases call_cases cfg db call with hsame | hexec
  · rw [hsame, hrow] at hrow'
    cases hrow'
    exact hrecovery
  · have hcall := hcall ⟨_, hexec⟩
    obtain ⟨keys, heffect, -⟩ := exec_committed hexec
    have horigin : call.bindsRecovery = false → row'.recovery = request.recovery := by
      intro hplain
      obtain ⟨row₀, hrow₀, hcontinues⟩ := effect_origin heffect hplain hrow'
      rw [hrow] at hrow₀
      cases hrow₀
      rw [hcontinues.recovery, hrecovery]
    have hother : call.operationId? ≠ some request.operationId →
        row'.recovery = request.recovery := by
      intro hid
      rw [effect_other heffect hid, hrow] at hrow'
      cases hrow'
      exact hrecovery
    cases call with
    | prepareOperation request' now tx token =>
      obtain ⟨row'', hrow'', hstep⟩ := effect_row heffect hrow
      rw [hrow'] at hrow''
      cases hrow''
      cases hstep with
      | same heq => rw [heq, hrecovery]
      | held lease hlease => cases hlease
      | claimed request now leaseUntil tx token hcall => cases hcall
    | markRollbackReady id before intent recovery lease tx =>
      by_cases hid : id = request.operationId
      swap
      · exact hother fun heq => hid (Option.some.inj heq)
      have hbound : recovery = request.recovery := by
        by_contra hne
        exact hcall ⟨before, intent, recovery, lease, tx, by rw [hid], hne⟩
      generalize Db.call cfg db _ = db' at heffect hrow'
      generalize db'.toTables = t' at heffect hrow'
      cases heffect with
      | quiet =>
        rw [hrow] at hrow'
        cases hrow'
        exact hrecovery
      | moved hmoved _ hrow₀ _ _ _ _ =>
        cases hmoved
        rw [relock_operations, get?_setOperation hrow₀, if_pos hid.symm] at hrow'
        cases hrow'
        exact hbound
    | _ => exact horigin rfl

/-! ## Prepared operations -/

section Runs

variable (cfg)

/-- The state of an operation behind a call that prepared it. -/
structure Tables.Holds (t : Tables) (request : PrepareRequest) (proposal : ProposalRow)
    (row : OperationRow) : Prop where
  found : t.proposals.get? request.proposalId = some proposal
  operation : t.operations.get? request.operationId = some row
  prepared : row.PreparedFor cfg request proposal

variable {cfg}

variable {request : PrepareRequest} {proposal : ProposalRow} {row : OperationRow}

theorem effect_holds {call : Call} {keys : List EntityKey}
    (heffect : Effect cfg t call t' keys) (h : t.Holds cfg request proposal row) :
    ∃ row', t'.Holds cfg request proposal row' := by
  obtain ⟨row', hrow', hstep⟩ := effect_row heffect h.operation
  exact ⟨row', effect_proposals heffect h.found, hrow',
    h.prepared.of_same hstep.sameIdentity⟩

theorem call_holds (call : Call) (h : db.Holds cfg request proposal row) :
    ∃ row', (Db.call cfg db call).Holds cfg request proposal row' := by
  rcases call_cases cfg db call with hsame | hexec
  · rw [hsame]
    exact ⟨row, h⟩
  · obtain ⟨keys, heffect, -⟩ := exec_committed hexec
    exact effect_holds heffect h

theorem holds_of_intent (hintents : ∀ a b : Intent,
      cfg.semanticDigest (.intent a) = cfg.semanticDigest (.intent b) → a = b)
    (hsound : t.Sound cfg) {id : String} (hrow : t.operations.get? id = some row)
    (hintent : row.intentDigest =
      cfg.semanticDigest (.intent (cfg.intentOf request proposal))) :
    row.intent id = cfg.intentOf request proposal := by
  have hbound : row.intentDigest = cfg.semanticDigest (.intent (row.intent id)) :=
    (hsound.intact id row hrow).intent
  exact hintents _ _ (hbound.symm.trans hintent)

theorem prepareRow_replayed
    {approval : ApprovalRow} {now leaseUntil : Instant} {tx token : String}
    {existing : OperationRow} (h : db.prepareRow cfg request proposal approval
        (cfg.operationRow request proposal token leaseUntil now) token leaseUntil now tx =
        .ok (db', .replayed existing)) :
    ∃ id, db.operations.get? id = some existing ∧ existing.runId = proposal.runId ∧
      existing.intentDigest =
        cfg.semanticDigest (.intent (cfg.intentOf request proposal)) ∧ db' = db := by
  unfold Db.prepareRow at h
  split at h
  · next id existing' hfound =>
      rw [require_bind_eq_ok] at h
      obtain ⟨hintent, h⟩ := h
      cases h
      simp only [List.forall_mem_cons, decide_eq_true_eq] at hintent
      obtain ⟨hentry, hmatch⟩ := List.mem_filter.mp (List.mem_of_head? hfound)
      simp only [Bool.and_eq_true, decide_eq_true_eq] at hmatch
      exact ⟨id, Table.mem_entries.mp hentry, hmatch.1, hintent.1, rfl⟩
  · rw [require_bind_eq_ok] at h
    obtain ⟨db₁, h⟩ := rest_ok h.2
    cases h

/-- **A successful call leaves its operation**, with the recovery bundle that it
named. -/
theorem prepareOperation_holds (hintents : ∀ a b : Intent,
      cfg.semanticDigest (.intent a) = cfg.semanticDigest (.intent b) → a = b)
    (hsound : db.Sound cfg) {now : Instant} {tx token : String} {answer : Prepared}
    (h : db.prepareOperation cfg request now tx token = .ok (db', answer)) :
    ∃ proposal row, request.Admitted cfg db.toTables now proposal ∧
      db'.Holds cfg request proposal row ∧ row.recovery = request.recovery := by
  obtain ⟨proposal, leaseUntil, approval, hadmitted, hrow⟩ := prepareOperation_admitted h
  cases answer with
  | fresh token' leaseUntil' intentDigest =>
    obtain ⟨-, -, proposal', hproposal', hnew⟩ := prepareOperation_fresh h
    rw [hadmitted.found] at hproposal'
    cases hproposal'
    have hexec : Call.exec cfg db (.prepareOperation request now tx token) = .ok db' := by
      rw [Call.exec, h]
      rfl
    obtain ⟨keys, heffect, -⟩ := exec_committed hexec
    exact ⟨proposal, _, hadmitted,
      ⟨effect_proposals heffect hadmitted.found, hnew, ⟨rfl, rfl, rfl, rfl, rfl⟩⟩, rfl⟩
  | replayed existing =>
    obtain ⟨id, hexisting, hrun, hdigest, rfl⟩ := prepareRow_replayed hrow
    have hintent := holds_of_intent hintents hsound hexisting hdigest
    simp only [OperationRow.intent, ChangeConfig.intentOf, Intent.mk.injEq] at hintent
    obtain ⟨rfl, hproposal, happroval, hdecision, hkey, hrecovery⟩ := hintent
    exact ⟨proposal, existing, hadmitted, ⟨hadmitted.found, hexisting,
      ⟨hrun, hproposal, happroval, hkey, hdecision⟩⟩, hrecovery⟩

/-- No call that succeeds binds another recovery bundle to the operation. -/
def KeepsRecovery (cfg : ChangeConfig) (request : PrepareRequest) (calls more : List Call) :
    Prop :=
  ∀ before call after, more = before ++ call :: after →
    (∃ db', Call.exec cfg (storeAfter cfg (calls ++ before)) call = .ok db') →
    ¬ call.Rebinds request

/-- The operation along a run: it stays, and so does its recovery bundle as long as
no call binds another. -/
theorem holds_after (calls : List Call)
    (h : (storeAfter cfg calls).Holds cfg request proposal row)
    (hrecovery : row.recovery = request.recovery) (more : List Call) :
    ∃ row', (storeAfter cfg (calls ++ more)).Holds cfg request proposal row' ∧
      (KeepsRecovery cfg request calls more → row'.recovery = request.recovery) := by
  induction more using List.reverseRecOn with
  | nil => exact ⟨row, by rw [List.append_nil]; exact h, fun _ => hrecovery⟩
  | append_singleton more call ih =>
    obtain ⟨row', hholds, hkept⟩ := ih
    rw [← List.append_assoc, storeAfter_concat]
    obtain ⟨row'', hholds'⟩ := call_holds call hholds
    refine ⟨row'', hholds', fun hcalls => ?_⟩
    have hbefore := hkept fun before c after hmore => hcalls before c (after ++ [call])
      (by rw [hmore, List.append_assoc, List.cons_append])
    exact call_recovery cfg _ call hholds.operation hholds'.operation hbefore
      (hcalls more call [] rfl)

end Runs

/-! ## Repeated and conflicting calls -/

/-- Two calls with the same intent; the worker and its lease are no part of it. -/
structure PrepareRequest.SameIntent (request request' : PrepareRequest) : Prop where
  operationId : request'.operationId = request.operationId
  proposalId : request'.proposalId = request.proposalId
  approvalId : request'.approvalId = request.approvalId
  idempotencyKey : request'.idempotencyKey = request.idempotencyKey
  recovery : request'.recovery = request.recovery

def Refused (cfg : ChangeConfig) (db : Db) (request : PrepareRequest) (now : Instant)
    (tx token : String) : Prop :=
  (∃ err, db.prepareOperation cfg request now tx token = .error err) ∧
    Db.call cfg db (.prepareOperation request now tx token) = db

theorem call_of_error {tx token : String}
    {err : StoreError} (h : db.prepareOperation cfg request now tx token = .error err) :
    Db.call cfg db (.prepareOperation request now tx token) = db := by
  rw [Db.call, Call.exec, h]
  rfl

theorem call_of_ok {tx token : String}
    (h : db.prepareOperation cfg request now tx token = .ok (db', answer)) :
    Db.call cfg db (.prepareOperation request now tx token) = db' := by
  rw [Db.call, Call.exec, h]
  rfl

theorem refused_of_not_ok {tx token : String}
    (h : ∀ db' answer, db.prepareOperation cfg request now tx token ≠ .ok (db', answer)) :
    Refused cfg db request now tx token := by
  cases hcall : db.prepareOperation cfg request now tx token with
  | ok result => exact absurd hcall (h result.1 result.2)
  | error err => exact ⟨⟨err, hcall⟩, call_of_error hcall⟩

theorem replays_of_holds (hsound : db.Sound cfg) (hkeyed : db.Keyed)
    (hholds : db.Holds cfg request proposal row) (hrecovery : row.recovery = request.recovery)
    (hvalid : request.Valid)
    (hdecision : isHexDigest proposal.record.proposal.policyDecisionDigest = true)
    {request' : PrepareRequest} (hsame : request.SameIntent request')
    (howner : isChangeId request'.ownerId = true)
    (hlease : 1 ≤ request'.leaseSeconds ∧ request'.leaseSeconds ≤ 3600)
    (hclock : ∃ leaseUntil, now.addSeconds request'.leaseSeconds = .ok leaseUntil)
    (tx token : String) :
    db.prepareOperation cfg request' now tx token = .ok (db, .replayed row) := by
  obtain ⟨a, ha, hpaired⟩ := hkeyed.paired _ _ hholds.operation
  have hadmitted : request'.Admitted cfg db.toTables now proposal :=
    { valid :=
        { operationId := hsame.operationId ▸ hvalid.operationId
          proposalId := hsame.proposalId ▸ hvalid.proposalId
          approvalId := hsame.approvalId ▸ hvalid.approvalId
          ownerId := howner
          idempotencyKey := hsame.idempotencyKey ▸ hvalid.idempotencyKey
          recovery := hsame.recovery ▸ hvalid.recovery
          lease := hlease }
      clock := hclock
      found := by rw [hsame.proposalId, hholds.found]
      approved := by
        refine ⟨a, ?_, ?_⟩
        · rw [hsame.approvalId, ← hholds.prepared.approvalId, ha]
        · rw [hpaired, hholds.prepared.proposalId, hsame.proposalId]
      decision := hdecision }
  have hintent : row.intent request.operationId = cfg.intentOf request' proposal := by
    rw [OperationRow.intent, ChangeConfig.intentOf, hholds.prepared.proposalId,
      hholds.prepared.approvalId, hholds.prepared.policyDecisionDigest,
      hholds.prepared.idempotencyKeyDigest, hrecovery, hsame.operationId,
      hsame.proposalId, hsame.approvalId, hsame.idempotencyKey, hsame.recovery]
  have hbound : row.intentDigest =
      cfg.semanticDigest (.intent (row.intent request.operationId)) :=
    (hsound.intact _ _ hholds.operation).intent
  refine prepareOperation_replays hkeyed hadmitted hholds.operation hholds.prepared.runId
    ?_ ?_
  · rw [hholds.prepared.idempotencyKeyDigest, hsame.idempotencyKey]
  · rw [hbound, hintent]

theorem refused_of_holds (hintents : ∀ a b : Intent,
      cfg.semanticDigest (.intent a) = cfg.semanticDigest (.intent b) → a = b)
    (hsound : db.Sound cfg) (hkeyed : db.Keyed) {proposal proposal' : ProposalRow}
    (hholds : db.Holds cfg request proposal row) {request' : PrepareRequest}
    (hproposal' : db.proposals.get? request'.proposalId = some proposal')
    (hrun : proposal'.runId = proposal.runId)
    (hkey : request'.idempotencyKey = request.idempotencyKey)
    (hother : request'.operationId ≠ request.operationId ∨
      request'.proposalId ≠ request.proposalId ∨
      request'.approvalId ≠ request.approvalId ∨ request'.recovery ≠ row.recovery)
    (now : Instant) (tx token : String) : Refused cfg db request' now tx token := by
  refine refused_of_not_ok fun db' answer hok => ?_
  obtain ⟨hdigest, -, -⟩ := prepareOperation_taken hkeyed hproposal' hholds.operation
    (hholds.prepared.runId.trans hrun.symm)
    (by rw [hholds.prepared.idempotencyKeyDigest, hkey]) hok
  have hintent := holds_of_intent hintents hsound hholds.operation hdigest
  simp only [OperationRow.intent, ChangeConfig.intentOf, Intent.mk.injEq] at hintent
  obtain ⟨hoperation, hproposalId, happrovalId, -, -, hrecovery⟩ := hintent
  rcases hother with hne | hne | hne | hne
  · exact hne hoperation.symm
  · exact hne (by rw [← hproposalId, hholds.prepared.proposalId])
  · exact hne (by rw [← happrovalId, hholds.prepared.approvalId])
  · exact hne hrecovery.symm

/-- **Preparing is idempotent.**  Behind a successful call, and whatever was called
since, a call with the same key in the same run is refused if it names another
operation, proposal or approval.  While no other recovery bundle has been bound to
the operation, a call with the same intent is a replay that changes nothing, whoever
makes it and whenever, and a call with another recovery bundle is refused. -/
theorem prepare_operation_idempotent (cfg : ChangeConfig) (hintents : ∀ a b : Intent,
      cfg.semanticDigest (.intent a) = cfg.semanticDigest (.intent b) → a = b)
    (calls : List Call) {request : PrepareRequest} {now : Instant} {tx token : String}
    {db' : Db} {answer : Prepared}
    (hprepared : (storeAfter cfg calls).prepareOperation cfg request now tx token =
      .ok (db', answer)) (more : List Call) (request' : PrepareRequest) (now' : Instant)
    (tx' token' : String) :
    (request.SameIntent request' → isChangeId request'.ownerId = true →
      1 ≤ request'.leaseSeconds ∧ request'.leaseSeconds ≤ 3600 →
      (∃ leaseUntil, now'.addSeconds request'.leaseSeconds = .ok leaseUntil) →
      KeepsRecovery cfg request (calls ++ [.prepareOperation request now tx token]) more →
      ∃ row, (storeAfter cfg (calls ++ .prepareOperation request now tx token ::
            more)).operations.get? request.operationId = some row ∧
        (storeAfter cfg (calls ++ .prepareOperation request now tx token ::
            more)).prepareOperation cfg request' now' tx' token' =
          .ok (storeAfter cfg (calls ++ .prepareOperation request now tx token :: more),
            .replayed row)) ∧ (∀ proposal proposal',
      (storeAfter cfg (calls ++ .prepareOperation request now tx token ::
        more)).proposals.get? request.proposalId = some proposal →
      (storeAfter cfg (calls ++ .prepareOperation request now tx token ::
        more)).proposals.get? request'.proposalId = some proposal' →
      proposal'.runId = proposal.runId → request'.idempotencyKey = request.idempotencyKey →
      (request'.operationId ≠ request.operationId ∨
        request'.proposalId ≠ request.proposalId ∨
        request'.approvalId ≠ request.approvalId ∨ (request'.recovery ≠ request.recovery ∧
          KeepsRecovery cfg request (calls ++ [.prepareOperation request now tx token])
            more)) →
      Refused cfg (storeAfter cfg (calls ++ .prepareOperation request now tx token ::
        more)) request' now' tx' token') := by
  obtain ⟨proposal, row, hadmitted, hholds, hrecovery⟩ :=
    prepareOperation_holds hintents (storeAfter_sound cfg calls).1 hprepared
  have hfirst : storeAfter cfg (calls ++ [.prepareOperation request now tx token]) =
      db' := by
    rw [storeAfter_concat, call_of_ok hprepared]
  rw [← hfirst] at hholds
  obtain ⟨row', hafter, hkept⟩ := holds_after _ hholds hrecovery more
  rw [List.append_assoc, List.singleton_append] at hafter
  have hsound := (storeAfter_sound cfg
    (calls ++ .prepareOperation request now tx token :: more)).1
  have hkeyed := keyed_storeAfter cfg
    (calls ++ .prepareOperation request now tx token :: more)
  generalize storeAfter cfg (calls ++ .prepareOperation request now tx token :: more) =
    db at hafter hsound hkeyed
  refine ⟨fun hsame howner hlease hclock hcalls => ⟨row', hafter.operation, ?_⟩,
    fun proposal₀ proposal' hproposal hproposal' hrun hkey hother => ?_⟩
  · exact replays_of_holds hsound hkeyed hafter (hkept hcalls) hadmitted.valid
      hadmitted.decision hsame howner hlease hclock tx' token'
  · rw [hafter.found] at hproposal
    cases hproposal
    refine refused_of_holds hintents hsound hkeyed hafter hproposal' hrun hkey ?_ now' tx'
      token'
    rcases hother with hne | hne | hne | ⟨hne, hcalls⟩
    · exact .inl hne
    · exact .inr (.inl hne)
    · exact .inr (.inr (.inl hne))
    · refine .inr (.inr (.inr ?_))
      rw [hkept hcalls]
      exact hne

/-! ### A sample operation -/

def Intent.text (intent : Intent) : String :=
  noFloats.codec.dumps (.arr
    [.str intent.operationId, .str intent.proposalId, .str intent.approvalId,
      .str intent.policyDecisionDigest, .str intent.idempotencyKeyDigest,
      .str intent.recovery.storageRef, .str intent.recovery.sha256,
      .int intent.recovery.byteLength, .str intent.recovery.metadataDigest])

theorem Intent.text_injective {a b : Intent} (h : a.text = b.text) : a = b := by
  have hvalues := noFloats.codec.dumps_injective
    (.arr _ (by simp [Json.Ordered.str, Json.Ordered.int]))
    (.arr _ (by simp [Json.Ordered.str, Json.Ordered.int])) h
  simp only [Json.arr.injEq, List.cons.injEq, Json.str.injEq, Json.int.injEq,
    and_true] at hvalues
  obtain ⟨h1, h2, h3, h4, h5, h6, h7, h8, h9⟩ := hvalues
  obtain ⟨o, p, a, d, k, ⟨r, s, l, m⟩⟩ := a
  cases b
  simp_all

def replayDigest : Document → String
  | .intent intent => intent.text
  | document => sampleDigest document

def replayConfig : ChangeConfig := { sampleConfig with semanticDigest := replayDigest }

theorem replayConfig_intents (a b : Intent)
    (h : replayConfig.semanticDigest (.intent a) = replayConfig.semanticDigest (.intent b)) :
    a = b :=
  Intent.text_injective h

def sampleApproved : List Call :=
  [.registerProposal sampleProposal (sampleInstant 1) "tx-1",
    .recordVerifiedGrant sampleEnvelope (sampleInstant 2) "tx-2"]

def samplePrepareCall : Call :=
  .prepareOperation samplePrepare (sampleInstant 3) "tx-3" "1"

/-- The bundle of the execution takes the place of the prepared one. -/
def sampleReadyCall : Call :=
  .markRollbackReady "operation" (sampleHex "1") (sampleHex "2")
    ⟨"artifact://recovery/execution", sampleHex "3", 32, sampleHex "4"⟩
    ⟨"worker-1", "1", 1, sampleInstant 4⟩ "tx-4"

theorem call_absent
    (hcall : ∀ request now tx token, call ≠ .prepareOperation request now tx token)
    (hnone : db.operations.get? id = none) :
    (Db.call cfg db call).operations.get? id = none := by
  rcases call_cases cfg db call with hsame | hexec
  · rw [hsame, hnone]
  · obtain ⟨keys, heffect, -⟩ := exec_committed hexec
    cases hrow : (Db.call cfg db call).operations.get? id with
    | none => rfl
    | some row =>
      obtain ⟨request, now, tx, token, -, -, hprepare, -⟩ :=
        effect_new heffect hnone hrow
      exact absurd hprepare (hcall request now tx token)

theorem storeAfter_absent (calls : List Call)
    (hcalls : ∀ call ∈ calls, ∀ request now tx token,
      call ≠ .prepareOperation request now tx token) :
    (storeAfter cfg calls).operations.get? id = none := by
  induction calls using List.reverseRecOn with
  | nil => rfl
  | append_singleton calls call ih =>
    rw [storeAfter_concat]
    refine call_absent (hcalls call ?_) (ih fun c hc => hcalls c ?_)
    · exact List.mem_append_right _ (List.mem_singleton.mpr rfl)
    · exact List.mem_append_left _ hc

theorem sampleClock : ∃ leaseUntil, (sampleInstant 5).addSeconds 1 = .ok leaseUntil := by
  have h : Store.representable ((sampleInstant 5).us + (1 : ℕ) * 1000000) = true := by
    decide
  exact ⟨_, dif_pos h⟩

theorem sampleReady_recovery : ((storeAfter replayConfig (sampleApproved ++
        [samplePrepareCall, sampleReadyCall])).operations.get? "operation").map
        (·.recovery.byteLength) = some 32 := by
  delta storeAfter Db.call Call.exec Db.registerProposal Db.recordVerifiedGrant
    Db.prepareOperation Db.markRollbackReady Db.transition validatedProposal
    approvalSubjectPayload ApprovalTrustStore.verify ApprovalTrustStore.verifySignature
  rw [changeDigest_eq, approvalDigest_eq]
  rfl

theorem samplePrepare_ok :
    ∃ db' answer, (storeAfter replayConfig sampleApproved).prepareOperation replayConfig
      samplePrepare (sampleInstant 3) "tx-3" "1" = .ok (db', answer) := by
  have hnone : (storeAfter replayConfig sampleApproved).operations.get? "operation" =
      none := by
    refine storeAfter_absent sampleApproved fun call hcall request now tx token heq => ?_
    rw [heq] at hcall
    simp [sampleApproved] at hcall
  cases hcall : (storeAfter replayConfig sampleApproved).prepareOperation replayConfig
      samplePrepare (sampleInstant 3) "tx-3" "1" with
  | ok result => exact ⟨result.1, result.2, rfl⟩
  | error err =>
    have hsame : storeAfter replayConfig (sampleApproved ++ [samplePrepareCall]) =
        storeAfter replayConfig sampleApproved := by
      rw [storeAfter_concat, samplePrepareCall, call_of_error hcall]
    have hready := sampleReady_recovery
    have hlast : (storeAfter replayConfig (sampleApproved ++
        [samplePrepareCall, sampleReadyCall])).operations.get? "operation" = none := by
      rw [List.append_cons, storeAfter_concat, hsame]
      refine call_absent ?_ hnone
      intro request now tx token hcall
      rw [sampleReadyCall] at hcall
      exact Call.noConfusion hcall
    rw [hlast] at hready
    cases hready

def sampleOther : PrepareRequest := { samplePrepare with ownerId := "worker-2" }

theorem sampleOther_sameIntent : samplePrepare.SameIntent sampleOther :=
  ⟨rfl, rfl, rfl, rfl, rfl⟩

theorem sampleOther_valid : isChangeId sampleOther.ownerId = true ∧
    1 ≤ sampleOther.leaseSeconds ∧ sampleOther.leaseSeconds ≤ 3600 := by
  refine ⟨?_, Nat.le_refl 1, ?_⟩
  · rfl
  · decide

/-- The premises of the law hold of a prepared operation that another worker asks for
again. -/
theorem prepare_operation_idempotent_sample :
    ∃ db' answer row,
      (storeAfter replayConfig sampleApproved).prepareOperation replayConfig samplePrepare
          (sampleInstant 3) "tx-3" "1" = .ok (db', answer) ∧
      (storeAfter replayConfig (sampleApproved ++ [samplePrepareCall])).prepareOperation
          replayConfig sampleOther (sampleInstant 5) "tx-9" "9" =
        .ok (storeAfter replayConfig (sampleApproved ++ [samplePrepareCall]),
          .replayed row) := by
  obtain ⟨db', answer, hprepared⟩ := samplePrepare_ok
  obtain ⟨row, -, hreplay⟩ := (prepare_operation_idempotent replayConfig
    replayConfig_intents sampleApproved hprepared [] sampleOther (sampleInstant 5) "tx-9"
    "9").1 sampleOther_sameIntent sampleOther_valid.1 sampleOther_valid.2 sampleClock
    (fun _ _ _ h => absurd h (by simp))
  exact ⟨db', answer, row, hprepared, hreplay⟩

theorem samplePrepare_holds :
    ∃ proposal row, samplePrepare.Valid ∧
      isHexDigest proposal.record.proposal.policyDecisionDigest = true ∧
      (storeAfter replayConfig (sampleApproved ++ [samplePrepareCall])).Holds replayConfig
        samplePrepare proposal row ∧ row.recovery = samplePrepare.recovery := by
  obtain ⟨db', answer, hprepared⟩ := samplePrepare_ok
  obtain ⟨proposal, row, hadmitted, hholds, hrecovery⟩ := prepareOperation_holds
    replayConfig_intents (storeAfter_sound replayConfig sampleApproved).1 hprepared
  refine ⟨proposal, row, hadmitted.valid, hadmitted.decision, ?_, hrecovery⟩
  rw [storeAfter_concat, samplePrepareCall, call_of_ok hprepared]
  exact hholds

/-- Once the bundle of the execution is bound, the same call is refused; and before
that, a call with another worker is not refused. -/
theorem prepare_operation_refuses_repetition :
    (∃ db' answer, (storeAfter replayConfig sampleApproved).prepareOperation replayConfig
      samplePrepare (sampleInstant 3) "tx-3" "1" = .ok (db', answer)) ∧
    Refused replayConfig (storeAfter replayConfig (sampleApproved ++
      [samplePrepareCall, sampleReadyCall])) samplePrepare (sampleInstant 5) "tx-9" "9" ∧
    ∃ db' row, (storeAfter replayConfig (sampleApproved ++
        [samplePrepareCall])).prepareOperation replayConfig sampleOther (sampleInstant 5)
        "tx-9" "9" = .ok (db', .replayed row) := by
  obtain ⟨proposal, row, hvalid, hdecision, hholds, hrecovery⟩ := samplePrepare_holds
  refine ⟨samplePrepare_ok, ?_, ?_⟩
  · obtain ⟨row', hafter, -⟩ := holds_after _ hholds hrecovery [sampleReadyCall]
    rw [List.append_assoc, List.singleton_append] at hafter
    refine refused_of_holds replayConfig_intents (storeAfter_sound _ _).1
      (keyed_storeAfter _ _) hafter hafter.found rfl rfl (.inr (.inr (.inr ?_))) _ _ _
    intro hsame
    have hready := sampleReady_recovery
    have hoperation : (storeAfter replayConfig (sampleApproved ++ [samplePrepareCall,
      sampleReadyCall])).operations.get? "operation" = some row' := hafter.operation
    rw [hoperation, Option.map_some, ← hsame] at hready
    cases hready
  · have hreplay := replays_of_holds
      (storeAfter_sound replayConfig (sampleApproved ++ [samplePrepareCall])).1
      (keyed_storeAfter replayConfig (sampleApproved ++ [samplePrepareCall])) hholds
      hrecovery hvalid hdecision sampleOther_sameIntent sampleOther_valid.1
      sampleOther_valid.2 sampleClock "tx-9" "9"
    exact ⟨_, row, hreplay⟩

end Ecosystem.Changes
