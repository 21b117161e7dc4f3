import Ecosystem.Changes.Verification

/-!
# Every call keeps the invariant

`Sound` and the agreement of log and inventory are kept by every committed call,
effect by effect.  What remains is `Proven`: it is kept by every call but one, and
broken by that one, so that the verifier accepts every store along a run exactly
when the call is not made on an operation without proofs.
-/

namespace Ecosystem.Changes

open Ecosystem.Lib

variable {cfg : ChangeConfig} {t t' : Tables} {db db' : Db}

/-! ## Reading the tables behind a write -/

theorem not_of_select_isEmpty {ρ : Type} {table : Table String ρ}
    {p : String → ρ → Bool} (h : (table.select p).isEmpty = true) {k : String} {r : ρ}
    (hr : table.get? k = some r) : p k r = false := by
  rw [Table.select, List.isEmpty_iff, List.filter_eq_nil_iff] at h
  simpa using h (k, r) (Table.mem_entries.mpr hr)

variable {id : String} {call : Call} {tr : Transition} {lease : LeaseClaim}
  {row : OperationRow} {keys : List EntityKey}

theorem get?_setOperation {row row' : OperationRow}
    (hrow : t.operations.get? id = some row) (k : String) :
    (t.setOperation id row').operations.get? k =
      if k = id then some row' else t.operations.get? k := by
  rw [Tables.setOperation, Table.get?_modify]
  split
  · next hk => rw [hk, hrow, Option.map_some]
  · rfl

theorem get?_acquire (target id : String) (now : Instant) (k : String) :
    (t.acquire target id now).locks.get? k =
      if k = target then some { operationId := id, updatedAt := utc now }
      else t.locks.get? k := by
  rw [Tables.acquire, Table.get?_upsert]
  split
  · cases t.locks.get? target <;> rfl
  · rfl

theorem get?_release (target id : String) (now : Instant) (k : String) :
    (t.release target id now).locks.get? k =
      if k = target then
        (t.locks.get? target).map fun lock =>
          if lock.operationId = id then
            { lock with state := .released, updatedAt := utc now }
          else lock
      else t.locks.get? k := by
  rw [Tables.release, Table.get?_modify]
  split
  · next hk => rw [hk]
  · rfl

@[simp] theorem relock_proposals (id target : String) (now : Instant)
    (active : Option Bool) : (t.relock id target now active).proposals = t.proposals := by
  rcases active with _ | _ | _ <;> rfl

@[simp] theorem relock_approvals (id target : String) (now : Instant)
    (active : Option Bool) : (t.relock id target now active).approvals = t.approvals := by
  rcases active with _ | _ | _ <;> rfl

@[simp] theorem relock_operations (id target : String) (now : Instant)
    (active : Option Bool) :
    (t.relock id target now active).operations = t.operations := by
  rcases active with _ | _ | _ <;> rfl

theorem get?_relock_of_ne {id target k : String} {now : Instant} {active : Option Bool}
    (hk : k ≠ target) :
    (t.relock id target now active).locks.get? k = t.locks.get? k := by
  rcases active with _ | _ | _
  · rfl
  · exact (get?_release target id now k).trans (if_neg hk)
  · exact (get?_acquire target id now k).trans (if_neg hk)

/-! ## The transitions -/

/-- Every transition leaves an open state, and holds the lock as long as its target
is open. -/
theorem transition?_spec {id tx : String}
    (h : call.transition? = some (tr, id, lease, tx)) :
    tr.lockActive = some (!tr.target.terminal) ∧ ∀ s ∈ tr.allowed, s.terminal = false := by
  have hall : tr.lockActive = some (!tr.target.terminal) ∧
      tr.allowed.all (fun s => !s.terminal) = true := by
    cases call <;> cases h <;> exact ⟨rfl, rfl⟩
  refine ⟨hall.1, fun s hs => ?_⟩
  simpa using List.all_eq_true.mp hall.2 s hs

theorem checks_iff : (∀ check ∈ tr.checks cfg lease row, check.1 = true) ↔
      row.state ∈ tr.allowed ∧ (row.state = .recoveryRequired →
          tr.recoverySourcePhase.all (row.recoveryPhase = some ·) = true) ∧
        (tr.target = .applying → row.proven = true) ∧
        row.heldBy cfg lease = true ∧ row.leaseRunning cfg lease.now = true := by
  simp only [Transition.checks, OperationRow.requireLease, List.forall_mem_cons,
    OperationRow.proven, Bool.or_eq_true, decide_eq_true_eq, ne_eq, List.not_mem_nil,
    false_implies, implies_true, and_true, ← imp_iff_not_or]

theorem update_receipted {id tx : String}
    (h : call.transition? = some (tr, id, lease, tx)) (hrow : row.receipted = true)
    (hallowed : row.state ∈ tr.allowed) :
    (tr.update cfg id lease.now row).receipted = true := by
  cases call <;> cases h
  case markCommitted =>
    have happlied : row.state = .applied := List.mem_singleton.mp hallowed
    simpa [OperationRow.receipted, happlied, Transition.update, committedTransition,
      OperationState.terminal, OperationRow.clearLease] using hrow
  all_goals
    simp [OperationRow.receipted, Transition.update, rollbackReadyTransition,
      applyingTransition, commitReadyTransition, appliedTransition,
      rollingBackTransition, rolledBackTransition, failedTransition,
      recoveryRequiredTransition, OperationState.terminal, OperationRow.rebind,
      OperationRow.clearLease, OperationRow.setColumn]

theorem update_intact {id tx : String}
    (h : call.transition? = some (tr, id, lease, tx)) (hrow : row.Intact cfg id)
    (hallowed : row.state ∈ tr.allowed)
    (hrecovery : ∀ artifact, tr.recovery = some artifact → artifact.Valid)
    (hfits : (tr.update cfg id lease.now row).recovery.byteLength ≤ maxInteger) :
    (tr.update cfg id lease.now row).Intact cfg id where
  identifier := hrow.identifier
  owner := by
    refine update_induction
      (P := fun r => ∀ owner, r.leaseOwnerId = some owner → isChangeId owner = true)
      (fun _ => hrow.owner) ?_ (fun r artifact _ hr => hr) ?_
    · intro r digest c hr
      cases c <;> exact hr
    · intro r _ owner howner
      cases howner
  fits := hfits
  recovery := by
    refine update_induction (P := fun r => r.recovery.Valid) (fun _ => hrow.recovery) ?_
      (fun r artifact hsome _ => hrecovery artifact hsome) (fun r hr => hr)
    intro r digest c hr
    cases c <;> exact hr
  intent := by
    refine update_induction (P := fun r => r.intentDigest = cfg.intentDigest id r)
      (fun _ => hrow.intent) ?_ (fun r artifact _ _ => rfl) (fun r hr => hr)
    intro r digest c hr
    cases c <;> exact hr
  epoch := by
    rw [update_leaseEpoch]
    exact hrow.epoch
  receipted := update_receipted h hrow.receipted hallowed

/-! ## A write to one operation -/

/-- The lock of a target behind the update of the operation that holds it: held by
the operation while it is open, free when it is closed. -/
def Tables.LockFollows (t : Tables) (id : String) (row : OperationRow) : Prop :=
  if row.state.terminal then
    ∀ lock, t.locks.get? row.targetRefDigest = some lock → lock.state ≠ .active
  else
    ∃ lock, t.locks.get? row.targetRefDigest = some lock ∧ lock.state = .active ∧
      lock.operationId = id

/-- An open operation is replaced by a row of the same identity, and the lock of its
target follows. -/
theorem sound_of_update (h : t.Sound cfg) {row row' : OperationRow}
    (hrow : t.operations.get? id = some row) (hopen : row.state.terminal = false)
    (hsame : row.SameIdentity row') (hintact : row'.Intact cfg id)
    (hintent : ∀ k r, t.operations.get? k = some r → k ≠ id →
      r.intentDigest ≠ row'.intentDigest)
    (hproposals : t'.proposals = t.proposals) (happrovals : t'.approvals = t.approvals)
    (hoperations : ∀ k, t'.operations.get? k =
      if k = id then some row' else t.operations.get? k)
    (hlocks : ∀ k, k ≠ row.targetRefDigest → t'.locks.get? k = t.locks.get? k)
    (hlock : t'.LockFollows id row') : t'.Sound cfg where
  proposals := by
    rw [hproposals]
    exact h.proposals
  approvals k approval happroval := by
    rw [happrovals] at happroval
    obtain ⟨hverified, hproposal, hissued, hconsumed⟩ := h.approvals k approval happroval
    refine ⟨hverified, hproposals ▸ hproposal, hissued, fun hstate => ?_⟩
    obtain ⟨hat, op, operation, hop, hget⟩ := hconsumed hstate
    refine ⟨hat, op, ?_⟩
    by_cases hk : op = id
    · exact ⟨row', hop, by rw [hoperations, if_pos hk]⟩
    · exact ⟨operation, hop, by rw [hoperations, if_neg hk, hget]⟩
  intact k r hr := by
    rw [hoperations] at hr
    split at hr
    · next hk =>
        cases hr
        rw [hk]
        exact hintact
    · exact h.intact k r hr
  intents k r k' r' hr hr' heq := by
    rw [hoperations] at hr hr'
    split at hr
    · next hk =>
        cases hr
        split at hr'
        · next hk' => rw [hk, hk']
        · next hk' => exact absurd heq.symm (hintent k' r' hr' hk')
    · next hk =>
        split at hr'
        · next hk' =>
            cases hr'
            exact absurd heq (hintent k r hr hk)
        · exact h.intents k r k' r' hr hr' heq
  bound k r hr := by
    rw [hoperations] at hr
    unfold Tables.Bound
    rw [hproposals, happrovals]
    split at hr
    · next hk =>
        cases hr
        have hbound := h.bound id row hrow
        unfold Tables.Bound at hbound
        rw [hk, hsame.proposalId, hsame.approvalId, hsame.runId, hsame.targetRefDigest,
          hsame.policyDecisionDigest]
        exact hbound
    · exact h.bound k r hr
  locked k r hr hr_open := by
    rw [hoperations] at hr
    split at hr
    · next hk =>
        cases hr
        rw [Tables.LockFollows, hr_open] at hlock
        rw [hk]
        exact hlock
    · next hk =>
        obtain ⟨lock, hget, hactive, hid⟩ := h.locked k r hr hr_open
        refine ⟨lock, ?_, hactive, hid⟩
        rw [hlocks, hget]
        intro htarget
        obtain ⟨lock', hget', -, hid'⟩ := h.locked id row hrow hopen
        rw [← htarget, hget] at hget'
        cases hget'
        exact hk (hid.symm.trans hid')
  held target lock hget hactive := by
    by_cases htarget : target = row.targetRefDigest
    · rw [htarget, ← hsame.targetRefDigest] at hget
      rw [Tables.LockFollows] at hlock
      split at hlock
      · exact absurd hactive (hlock lock hget)
      next hr_open =>
      obtain ⟨lock', hget', -, hid⟩ := hlock
      rw [hget] at hget'
      cases hget'
      refine ⟨row', by rw [hoperations, if_pos hid], ?_, by simpa using hr_open⟩
      rw [htarget, hsame.targetRefDigest]
    · rw [hlocks target htarget] at hget
      obtain ⟨r, hr, hr_target, hr_open⟩ := h.held target lock hget hactive
      refine ⟨r, ?_, hr_target, hr_open⟩
      rw [hoperations, if_neg, hr]
      intro hid
      rw [hid, hrow] at hr
      cases hr
      exact htarget hr_target.symm

theorem lockFollows_of_open (h : t.Sound cfg) {row row' : OperationRow}
    (hrow : t.operations.get? id = some row) (hopen : row.state.terminal = false)
    (htarget : row'.targetRefDigest = row.targetRefDigest)
    (hopen' : row'.state.terminal = false) (hlocks : t'.locks = t.locks) :
    t'.LockFollows id row' := by
  rw [Tables.LockFollows, hopen', htarget, hlocks]
  exact h.locked id row hrow hopen

theorem sound_setOperation (h : t.Sound cfg) {row row' : OperationRow}
    (hrow : t.operations.get? id = some row) (hopen : row.state.terminal = false)
    (hsame : row.SameIdentity row') (hintact : row'.Intact cfg id)
    (hintent : row'.intentDigest = row.intentDigest)
    (hopen' : row'.state.terminal = false) : (t.setOperation id row').Sound cfg := by
  refine sound_of_update h hrow hopen hsame hintact ?_ rfl rfl (get?_setOperation hrow)
    (fun _ _ => rfl) (lockFollows_of_open h hrow hopen hsame.targetRefDigest hopen' rfl)
  intro k r hr hk heq
  exact hk (h.intents k r id row hr hrow (heq.trans hintent))

/-! ## The effects keep the invariant -/

theorem moved_sound (h : t.Sound cfg) {id tx : String}
    (hcall : call.transition? = some (tr, id, lease, tx))
    (hrecovery : ∀ artifact, tr.recovery = some artifact → artifact.Valid)
    (hrow : t.operations.get? id = some row) (hallowed : row.state ∈ tr.allowed)
    (hupdate : ∀ check ∈ t.updateFree id (tr.update cfg id lease.now row), check.1 = true) :
    ((t.setOperation id (tr.update cfg id lease.now row)).relock id
      row.targetRefDigest lease.now tr.lockActive).Sound cfg := by
  obtain ⟨hlock, hopens⟩ := transition?_spec hcall
  have hopen := hopens _ hallowed
  have hsame : row.SameIdentity (tr.update cfg id lease.now row) := update_sameIdentity
  simp only [Tables.updateFree, List.forall_mem_cons, decide_eq_true_eq] at hupdate
  obtain ⟨hfits, hintents, -⟩ := hupdate
  refine sound_of_update h hrow hopen hsame
    (update_intact hcall (h.intact id row hrow) hallowed hrecovery hfits) ?_ ?_ ?_ ?_ ?_ ?_
  · intro k r hr hk heq
    have := not_of_select_isEmpty hintents hr
    simp [hk, heq] at this
  · rw [relock_proposals]
    rfl
  · rw [relock_approvals]
    rfl
  · intro k
    rw [relock_operations]
    exact get?_setOperation hrow k
  · intro k hk
    exact get?_relock_of_ne hk
  · rw [Tables.LockFollows, update_state, hsame.targetRefDigest, hlock]
    cases hterminal : tr.target.terminal with
    | true =>
      simp only [Bool.not_true, Tables.relock, if_true]
      intro lock hget
      rw [get?_release, if_pos rfl, Option.map_eq_some_iff] at hget
      obtain ⟨lock', hget', rfl⟩ := hget
      obtain ⟨lock'', hget'', -, hid⟩ := h.locked id row hrow hopen
      have hlocks : t.locks.get? row.targetRefDigest = some lock' := hget'
      rw [hget''] at hlocks
      cases hlocks
      rw [if_pos hid]
      intro hactive
      cases hactive
    | false =>
      refine ⟨_, (get?_acquire _ _ _ _).trans (if_pos rfl), rfl, rfl⟩

theorem conflicted_sound (h : t.Sound cfg) {id reason : String} {now : Instant}
    (hrow : t.operations.get? id = some row) (hstate : row.state = .recoveryRequired) :
    (t.setOperation id
      { row with recoveryReasonDigest := some reason, updatedAt := utc now }).Sound cfg := by
  have hintact := h.intact id row hrow
  refine sound_setOperation h hrow (by rw [hstate]; rfl) ⟨rfl, rfl, rfl, rfl, rfl, rfl⟩
    ⟨hintact.identifier, hintact.owner, hintact.recovery, hintact.fits, hintact.intent,
      hintact.epoch, ?_⟩ rfl ?_
  · simp [OperationRow.receipted, hstate]
  · change row.state.terminal = false
    rw [hstate]
    rfl

theorem open_of_claimable {s : OperationState} (h : s ∈ nonterminal ∨ s = .applied) :
    s.terminal = false := by
  cases s <;> revert h <;> decide

theorem claimed_sound (h : t.Sound cfg) {request : ClaimRequest} {token : String}
    {leaseUntil now : Instant} (howner : isChangeId request.ownerId = true)
    (hrow : t.operations.get? request.operationId = some row)
    (hstate : row.state ∈ nonterminal ∨ row.state = .applied) :
    (t.setOperation request.operationId
      (row.claim cfg request token leaseUntil now)).Sound cfg := by
  have hintact := h.intact _ row hrow
  refine sound_setOperation h hrow (open_of_claimable hstate)
    ⟨rfl, rfl, rfl, rfl, rfl, rfl⟩
    ⟨hintact.identifier, ?_, hintact.recovery, hintact.fits, hintact.intent,
      Nat.le_add_left 1 _, ?_⟩ rfl rfl
  · rintro owner ⟨⟩
    exact howner
  have hepoch : row.leaseEpoch ≠ 0 := Nat.one_le_iff_ne_zero.mp hintact.epoch
  simp [OperationRow.receipted, OperationRow.claim, hepoch]

theorem registered_sound (h : t.Sound cfg) {p : Proposal} {now : Instant}
    {subject : Subject} (hvalid : validatedProposal p = .ok p)
    (hsubject : approvalSubjectPayload (cfg.subjectOf p) = .ok subject)
    (hid : t.proposals.get? p.proposalId = none) :
    (t.addProposal p.proposalId (cfg.proposalRow p now)).Sound cfg := by
  have hget : ∀ k, (t.addProposal p.proposalId (cfg.proposalRow p now)).proposals.get? k =
      if k = p.proposalId then some (cfg.proposalRow p now)
      else t.proposals.get? k := Table.get?_insert hid
  have hkeep : ∀ k row, t.proposals.get? k = some row →
      (t.addProposal p.proposalId (cfg.proposalRow p now)).proposals.get? k =
        some row := by
    intro k row hrow
    rw [hget, if_neg, hrow]
    rintro rfl
    rw [hid] at hrow
    cases hrow
  refine ⟨fun k row hrow => ?_, fun k row hrow => ?_, h.intact, h.intents,
    fun k row hrow => ?_, h.locked, h.held⟩
  · rw [hget] at hrow
    split at hrow
    · cases hrow
      have hpayload : subject = cfg.subjectOf p := by
        rw [approvalSubjectPayload, require_bind_eq_ok] at hsubject
        cases hsubject.2
        rfl
      refine bind_eq_ok.mpr
        ⟨p, hvalid, bind_eq_ok.mpr ⟨subject, hsubject, require_eq_ok.mpr ?_⟩⟩
      simp [hpayload, ChangeConfig.proposalRow]
    · exact h.proposals k row hrow
  · obtain ⟨hverified, ⟨proposal, hproposal, hdigest⟩, hissued, hconsumed⟩ :=
      h.approvals k row hrow
    exact ⟨hverified, ⟨proposal, hkeep _ _ hproposal, hdigest⟩, hissued, hconsumed⟩
  · obtain ⟨proposal, approval, hproposal, hrest⟩ := h.bound k row hrow
    exact ⟨proposal, approval, hkeep _ _ hproposal, hrest⟩

theorem granted_sound (h : t.Sound cfg) {envelope : Envelope} {now : Instant}
    {proposalId : String} {proposal : ProposalRow} {window : Instant × Instant}
    (hproposal : t.proposals.get? proposalId = some proposal)
    (hsubject : proposal.subjectDigest = envelope.subjectDigest)
    (hverify : cfg.trust.verify envelope envelope.subjectDigest now = .ok window)
    (hid : t.approvals.get? envelope.approvalId = none) :
    (t.addApproval envelope.approvalId
      (cfg.approvalRow proposalId envelope window.2)).Sound cfg := by
  have hget : ∀ k, (t.addApproval envelope.approvalId
      (cfg.approvalRow proposalId envelope window.2)).approvals.get? k =
      if k = envelope.approvalId then some (cfg.approvalRow proposalId envelope window.2)
      else t.approvals.get? k := Table.get?_insert hid
  refine ⟨h.proposals, fun k row hrow => ?_, h.intact, h.intents, fun k row hrow => ?_,
    h.locked, h.held⟩
  · rw [hget] at hrow
    split at hrow
    · next hk =>
        cases hrow
        rw [ApprovalTrustStore.verify, bind_eq_ok] at hverify
        obtain ⟨window', hsigned, hverify⟩ := hverify
        rw [require_bind_eq_ok] at hverify
        cases hverify.2
        exact ⟨⟨_, hsigned, by simp [ApprovalRow.repeatsEnvelope,
          ChangeConfig.approvalRow, hk]⟩, ⟨proposal, hproposal, hsubject.symm⟩,
          fun _ => ⟨rfl, rfl⟩, (fun hstate => by cases hstate)⟩
    · obtain ⟨hverified, hproposal', hissued, hconsumed⟩ := h.approvals k row hrow
      exact ⟨hverified, hproposal', hissued, hconsumed⟩
  · obtain ⟨p, approval, hp, happroval, hrest⟩ := h.bound k row hrow
    refine ⟨p, approval, hp, ?_, hrest⟩
    rw [hget, if_neg, happroval]
    intro heq
    rw [heq, hid] at happroval
    cases happroval

/-! ## Preparing an operation -/

section Prepare

variable {request : PrepareRequest} {now leaseUntil : Instant} {token : String}
  {proposal : ProposalRow} {approval : ApprovalRow}

/-- What the checks of `prepare_operation` say of the tables. -/
structure Tables.Preparable (t : Tables) (proposal : ProposalRow)
    (approval : ApprovalRow) (id : String) (row : OperationRow) (now : Instant) :
    Prop where
  budget : ((t.operations.select fun _ other => other.runId = proposal.runId).length : ℤ) <
    proposal.record.proposal.limits.maxOperations
  issued : approval.state = .issued
  fresh : cfg.epoch now < approval.expiresAtEpochUs
  unlocked : ∀ lock, t.locks.get? proposal.targetRefDigest = some lock →
    lock.state ≠ .active
  absent : t.operations.get? id = none
  approvalFree : ∀ k other, t.operations.get? k = some other →
    other.approvalId ≠ row.approvalId
  decisionFree : ∀ k other, t.operations.get? k = some other →
    other.policyDecisionDigest ≠ row.policyDecisionDigest
  intentFree : ∀ k other, t.operations.get? k = some other →
    other.intentDigest ≠ row.intentDigest
  fits : row.recovery.byteLength ≤ maxInteger

variable {row : OperationRow}

theorem preparable_of_checks {id : String}
    (h : ∀ check ∈ t.prepareChecks cfg proposal approval id row now, check.1 = true) :
    @Tables.Preparable cfg t proposal approval id row now := by
  simp only [Tables.prepareChecks, List.forall_mem_cons, decide_eq_true_eq,
    Bool.not_eq_true', Tables.operationFree, Bool.and_eq_true, Option.isNone_iff_eq_none]
    at h
  obtain ⟨hbudget, hissued, hfresh, -, hunlocked, hfits, ⟨habsent, hfree⟩, -⟩ := h
  refine ⟨hbudget, hissued, hfresh, fun lock hlock hactive => ?_, habsent,
    fun k other hother heq => ?_, fun k other hother heq => ?_,
    fun k other hother heq => ?_, hfits⟩
  · simp [hlock, hactive] at hunlocked
  all_goals
    have := not_of_select_isEmpty hfree hother
    simp [heq] at this

theorem get?_addOperation
    (habsent : t.operations.get? request.operationId = none) (k : String) :
    (t.addOperation request row now).operations.get? k =
      if k = request.operationId then some row else t.operations.get? k :=
  Table.get?_insert habsent k

theorem get?_addOperation_approvals (k : String) :
    (t.addOperation request row now).approvals.get? k =
      if k = request.approvalId then
        (t.approvals.get? k).map (·.consume request.operationId now)
      else t.approvals.get? k :=
  Table.get?_modify ..

theorem get?_addOperation_locks (k : String) :
    (t.addOperation request row now).locks.get? k =
      if k = row.targetRefDigest then
        some { operationId := request.operationId, updatedAt := utc now }
      else t.locks.get? k :=
  get?_acquire ..

theorem prepared_sound (h : t.Sound cfg) (hid : isChangeId request.operationId = true)
    (howner : isChangeId request.ownerId = true) (hrecovery : request.recovery.Valid)
    (hproposal : t.proposals.get? request.proposalId = some proposal)
    (happroval : t.approvals.get? request.approvalId = some approval)
    (hchecks : ∀ check ∈ t.prepareChecks cfg proposal approval request.operationId
      (cfg.operationRow request proposal token leaseUntil now) now, check.1 = true) :
    (t.addOperation request (cfg.operationRow request proposal token leaseUntil now)
      now).Sound cfg := by
  have hprep := preparable_of_checks hchecks
  have hissued := (h.approvals _ _ happroval).issued hprep.issued
  refine ⟨h.proposals, fun k row hrow => ?_, fun k row hrow => ?_,
    fun k row k' row' hrow hrow' heq => ?_, fun k row hrow => ?_,
    fun k row hrow hopen => ?_, fun target lock hlock hactive => ?_⟩
  · rw [get?_addOperation_approvals] at hrow
    split at hrow
    · next hk =>
        rw [hk, happroval, Option.map_some, Option.some.injEq] at hrow
        subst hrow
        have hsound := h.approvals _ _ happroval
        rw [hk]
        exact ⟨hsound.verified, hsound.proposal, (fun hstate => by cases hstate),
          fun _ => ⟨rfl, _, _, rfl, (get?_addOperation hprep.absent _).trans (if_pos rfl)⟩⟩
    · obtain ⟨hverified, hprop, hiss, hcons⟩ := h.approvals k row hrow
      refine ⟨hverified, hprop, hiss, fun hstate => ?_⟩
      obtain ⟨hat, op, operation, hop, hget⟩ := hcons hstate
      refine ⟨hat, op, operation, hop, ?_⟩
      rw [get?_addOperation hprep.absent, if_neg, hget]
      rintro rfl
      rw [hprep.absent] at hget
      cases hget
  · rw [get?_addOperation hprep.absent] at hrow
    split at hrow
    · next hk =>
        cases hrow
        rw [hk]
        refine ⟨hid, ?_, hrecovery, hprep.fits, rfl, Nat.le_refl 1, rfl⟩
        rintro owner ⟨⟩
        exact howner
    · exact h.intact k row hrow
  · rw [get?_addOperation hprep.absent] at hrow hrow'
    split at hrow
    · next hk =>
        cases hrow
        split at hrow'
        · next hk' => rw [hk, hk']
        · exact absurd heq.symm (hprep.intentFree k' row' hrow')
    · split at hrow'
      · cases hrow'
        exact absurd heq (hprep.intentFree k row hrow)
      · exact h.intents k row k' row' hrow hrow' heq
  · rw [get?_addOperation hprep.absent] at hrow
    split at hrow
    · next hk =>
        cases hrow
        refine ⟨proposal, approval.consume request.operationId now, hproposal, ?_, rfl, rfl,
          rfl, by rw [hk]; rfl⟩
        rw [get?_addOperation_approvals]
        change (if request.approvalId = request.approvalId then _ else _) = _
        rw [if_pos rfl]
        change (t.approvals.get? request.approvalId).map _ = _
        rw [happroval, Option.map_some]
    · obtain ⟨p, a, hp, ha, hrest⟩ := h.bound k row hrow
      refine ⟨p, a, hp, ?_, hrest⟩
      rw [get?_addOperation_approvals, if_neg, ha]
      exact hprep.approvalFree k row hrow
  · rw [get?_addOperation hprep.absent] at hrow
    rw [get?_addOperation_locks]
    split at hrow
    · next hk =>
        cases hrow
        exact ⟨_, if_pos rfl, rfl, hk.symm⟩
    · obtain ⟨lock, hlock, hactive, hid⟩ := h.locked k row hrow hopen
      refine ⟨lock, ?_, hactive, hid⟩
      rw [if_neg, hlock]
      intro htarget
      rw [htarget] at hlock
      exact hprep.unlocked lock hlock hactive
  · rw [get?_addOperation_locks] at hlock
    split at hlock
    · next htarget =>
        cases hlock
        exact ⟨_, (get?_addOperation hprep.absent _).trans (if_pos rfl), htarget.symm, rfl⟩
    · obtain ⟨row, hrow, htarget, hopen⟩ := h.held target lock hlock hactive
      refine ⟨row, ?_, htarget, hopen⟩
      rw [get?_addOperation hprep.absent, if_neg, hrow]
      intro hid
      rw [hid, hprep.absent] at hrow
      cases hrow

end Prepare

/-- **Every committed call keeps the invariant.** -/
theorem effect_sound (h : t.Sound cfg)
    (heffect : Effect cfg t call t' keys) : t'.Sound cfg := by
  cases heffect with
  | quiet => exact h
  | registered hvalid hsubject hid _ => exact registered_sound h hvalid hsubject hid
  | granted hproposal hsubject hverify hid _ =>
    exact granted_sound h hproposal hsubject hverify hid
  | prepared hid howner hrecovery hproposal happroval _ hchecks =>
    exact prepared_sound h hid howner hrecovery hproposal happroval hchecks
  | moved hcall hrecovery hrow _ hchecks hupdate _ =>
    exact moved_sound h hcall hrecovery hrow
      (checks_iff.mp hchecks).1 hupdate
  | conflicted hrow hstate _ => exact conflicted_sound h hrow hstate
  | claimed howner hrow hstate _ => exact claimed_sound h howner hrow hstate

/-! ## The log and the inventory -/

theorem effect_frame (heffect : Effect cfg t call t' keys) {k : EntityKey} (hk : k ∉ keys) :
    t'.rowDigest? cfg k.1 k.2 = t.rowDigest? cfg k.1 k.2 := by
  obtain ⟨entity, id⟩ := k
  cases heffect with
  | quiet => rfl
  | registered _ _ hid _ =>
    cases entity with
    | proposal =>
      have hne : id ≠ _ := fun h => hk (by rw [h]; exact List.mem_singleton_self _)
      simp [Tables.rowDigest?, Tables.addProposal, Table.get?_insert hid, hne]
    | approval | operation | targetLock => rfl
  | granted _ _ _ hid _ =>
    cases entity with
    | proposal | operation | targetLock => rfl
    | approval =>
      have hne : id ≠ _ := fun h => hk (by rw [h]; exact List.mem_singleton_self _)
      simp [Tables.rowDigest?, Tables.addApproval, Table.get?_insert hid, hne]
  | @prepared request now tx token leaseUntil proposal approval _ _ _ _ _ _ hchecks =>
    have habsent := (preparable_of_checks hchecks).absent
    cases entity with
    | proposal => rfl
    | approval =>
      have hne : id ≠ request.approvalId := fun h => hk (by simp [h])
      simp [Tables.rowDigest?, get?_addOperation_approvals, hne]
    | operation =>
      have hne : id ≠ request.operationId := fun h => hk (by simp [h])
      simp [Tables.rowDigest?, get?_addOperation habsent, hne]
    | targetLock =>
      have hne : id ≠ proposal.targetRefDigest := fun h => hk (by simp [h])
      rw [Tables.rowDigest?, Tables.rowDigest?, get?_addOperation_locks]
      exact congrArg _ (if_neg hne)
  | @moved _ tr op lease tx row _ _ hrow _ _ _ _ =>
    cases entity with
    | proposal | approval => simp [Tables.rowDigest?, Tables.setOperation]
    | operation =>
      have hne : id ≠ op := fun h => hk (by simp [h])
      simp [Tables.rowDigest?, get?_setOperation hrow, hne]
    | targetLock =>
      cases hactive : tr.lockActive with
      | none => rfl
      | some active =>
        have hne : id ≠ row.targetRefDigest :=
          fun h => hk (by simp [h, hactive])
        rw [Tables.rowDigest?, Tables.rowDigest?, get?_relock_of_ne hne]
        rfl
  | conflicted hrow _ _ | claimed _ hrow _ _ =>
    cases entity with
    | proposal | approval | targetLock => rfl
    | operation =>
      have hne : id ≠ _ := fun h => hk (by rw [h]; exact List.mem_singleton_self _)
      simp [Tables.rowDigest?, get?_setOperation hrow, hne]

theorem audited_lookup {log log' : List (LogEntry AuditBody)}
    (h : Audited cfg t keys log log') (k : EntityKey) :
    (latest (fun b => (b.entityType, b.entityId)) AuditBody.stateDigest log').lookup k =
      if k ∈ keys then t.rowDigest? cfg k.1 k.2
      else (latest (fun b => (b.entityType, b.entityId)) AuditBody.stateDigest
        log).lookup k := by
  obtain ⟨bodies, rfl, hbodies, rfl⟩ := h
  induction bodies using List.reverseRecOn with
  | nil => simp
  | append_singleton bodies b ih =>
    rw [List.foldl_append, List.foldl_cons, List.foldl_nil, lookup_latest_append,
      ih fun b' hb' => hbodies b' (List.mem_append_left _ hb')]
    simp only [List.map_append, List.mem_append]
    by_cases hk : k = (b.entityType, b.entityId)
    · subst hk
      simp [hbodies b (by simp)]
    · simp [hk]

theorem audited_authentic {log log' : List (LogEntry AuditBody)}
    (h : Audited cfg t keys log log') (hlog : cfg.auditKeys.verify log = true) :
    cfg.auditKeys.verify log' = true := by
  obtain ⟨bodies, -, -, rfl⟩ := h
  induction bodies using List.reverseRecOn with
  | nil => exact hlog
  | append_singleton bodies b ih =>
    rw [List.foldl_append]
    exact cfg.auditKeys.verify_append b ih

theorem committed_inventoried (h : db.Inventoried cfg)
    (hcommitted : Committed cfg db call db') : db'.Inventoried cfg := by
  obtain ⟨keys, heffect, haudited⟩ := hcommitted
  refine ⟨audited_authentic haudited h.authentic, fun k => ?_⟩
  rw [Db.reported, audited_lookup haudited]
  split
  · rfl
  next hk =>
  rw [effect_frame heffect hk, ← h.reported]
  rfl

/-! ## Runs -/

theorem sound_empty : ({} : Tables).Sound cfg := by
  refine ⟨?_, ?_, ?_, ?intents, ?_, ?_, ?_⟩
  case intents =>
    intro id row id' row' h
    cases h
  all_goals
    intro id row h
    cases h

theorem inventoried_empty : ({} : Db).Inventoried cfg := by
  refine ⟨rfl, fun k => ?_⟩
  obtain ⟨entity, id⟩ := k
  cases entity <;> rfl

/-- **The invariant holds along every run.** -/
theorem storeAfter_sound (cfg : ChangeConfig) (calls : List Call) :
    (storeAfter cfg calls).Sound cfg ∧ (storeAfter cfg calls).Inventoried cfg := by
  refine storeAfter_induction cfg
    (P := fun db => db.Sound cfg ∧ db.Inventoried cfg)
    ⟨sound_empty, inventoried_empty⟩ ?_ calls
  rintro db call db' ⟨hsound, hlog⟩ h
  obtain ⟨keys, heffect, -⟩ := exec_committed h
  exact ⟨effect_sound hsound heffect, committed_inventoried hlog (exec_committed h)⟩

theorem verify_storeAfter (cfg : ChangeConfig) (calls : List Call) :
    (storeAfter cfg calls).verify cfg = .ok () ↔ (storeAfter cfg calls).Proven :=
  verify_eq_ok (storeAfter_sound cfg calls).1 (storeAfter_sound cfg calls).2

end Ecosystem.Changes
