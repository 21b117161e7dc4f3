import Ecosystem.Changes.Fencing

/-!
# Rows behind a call, and the rows they come from

`Changes.Fencing` follows a row forwards.  Here a row behind a call is traced back, and
the answers that a caller relies on are tied to the rows that they leave.
-/

namespace Ecosystem.Changes

open Ecosystem.Lib

variable {cfg : ChangeConfig} {t t' : Tables} {db db' : Db}

/-! ## Tracing a row back -/

def Call.operationId? : Call → Option String
  | .prepareOperation request _ _ _ => some request.operationId
  | .claimOperation request _ _ _ => some request.operationId
  | call => call.lease?.map Prod.fst

def Call.bindsRecovery : Call → Bool
  | .prepareOperation _ _ _ _ => true
  | .markRollbackReady _ _ _ _ _ _ => true
  | _ => false

variable {call : Call} {tr : Transition} {lease : LeaseClaim} {keys : List EntityKey}

theorem operationId?_of_transition? {id tx : String}
    (h : call.transition? = some (tr, id, lease, tx)) :
    call.operationId? = some id := by
  cases call <;> cases h <;> rfl

theorem effect_other (heffect : Effect cfg t call t' keys) {k : String}
    (hk : call.operationId? ≠ some k) :
    t'.operations.get? k = t.operations.get? k := by
  cases heffect with
  | quiet | registered | granted => rfl
  | prepared hid howner hrecovery hproposal happroval hbound hchecks =>
    rw [get?_addOperation (preparable_of_checks hchecks).absent, if_neg]
    rintro rfl
    exact hk rfl
  | moved hcall hrecovery hrow hstate hchecks hupdate hlock =>
    rw [relock_operations, get?_setOperation hrow, if_neg]
    rintro rfl
    exact hk (operationId?_of_transition? hcall)
  | conflicted hrow hstate hlease | claimed howner hrow hstate hexpired =>
    rw [get?_setOperation hrow, if_neg]
    rintro rfl
    exact hk rfl

theorem effect_proposals
    (heffect : Effect cfg t call t' keys) {k : String} {p : ProposalRow}
    (hp : t.proposals.get? k = some p) : t'.proposals.get? k = some p := by
  cases heffect with
  | registered hvalid hsubject hid hunique =>
    refine (Table.get?_insert hid k).trans ?_
    rw [if_neg, hp]
    rintro rfl
    rw [hid] at hp
    cases hp
  | @moved _ tr id lease tx row hcall hrecovery hrow hstate hchecks hupdate hlock =>
    cases hactive : tr.lockActive with
    | none => exact hp
    | some active => cases active <;> exact hp
  | _ => exact hp

def Tables.ProposalColumns (t : Tables) : Prop :=
  ∀ k p, t.proposals.get? k = some p →
    p.runId = p.record.proposal.runId ∧
      p.targetRefDigest = p.record.proposal.targetRefDigest ∧
      p.record.proposal.proposalId = k

theorem effect_proposalColumns
    (heffect : Effect cfg t call t' keys) (h : t.ProposalColumns) : t'.ProposalColumns := by
  cases heffect with
  | registered hvalid hsubject hid hunique =>
    intro k p hp
    replace hp := (Table.get?_insert hid k).symm.trans hp
    split at hp
    · next heq =>
        cases hp
        exact ⟨rfl, rfl, heq.symm⟩
    · exact h k p hp
  | @moved _ tr id lease tx row hcall hrecovery hrow hstate hchecks hupdate hlock =>
    cases hactive : tr.lockActive with
    | none => exact h
    | some active => cases active <;> exact h
  | _ => exact h

structure OperationRow.Continues (row row' : OperationRow) : Prop where
  same : row.SameIdentity row'
  recovery : row'.recovery = row.recovery
  proven : row'.proven = row.proven
  opened : row'.state.terminal = false → row.state.terminal = false

theorem OperationRow.Continues.refl (row : OperationRow) : row.Continues row :=
  ⟨⟨rfl, rfl, rfl, rfl, rfl, rfl⟩, rfl, rfl, id⟩

theorem update_continues {id tx : String} {row : OperationRow}
    (hcall : call.transition? = some (tr, id, lease, tx))
    (hplain : call.bindsRecovery = false) (hopen : row.state.terminal = false) :
    row.Continues (tr.update cfg id lease.now row) := by
  have hkeeps : tr.recovery = none ∧ ∀ c, (tr.receipt = some c ∨ tr.reason = some c) →
      c.1 ≠ .beforeProof ∧ c.1 ≠ .executionIntent := by
    cases call <;> cases hcall
    case markRollbackReady => cases hplain
    all_goals
      refine ⟨rfl, ?_⟩
      rintro c (hc | hc) <;> cases hc <;> exact ⟨nofun, nofun⟩
  have hkept : (tr.update cfg id lease.now row).recovery = row.recovery ∧
      (tr.update cfg id lease.now row).proven = row.proven := by
    refine update_stages
      (P := fun r => r.recovery = row.recovery ∧ r.proven = row.proven)
      (fun _ => ⟨rfl, rfl⟩) ?_ ?_ (fun r hr => hr)
    · rintro r ⟨c, digest⟩ hc hr
      obtain ⟨hbefore, hintent⟩ := hkeeps.2 _ hc
      cases c
      case beforeProof => exact absurd rfl hbefore
      case executionIntent => exact absurd rfl hintent
      all_goals exact hr
    · intro r artifact hsome
      rw [hkeeps.1] at hsome
      cases hsome
  exact ⟨update_sameIdentity, hkept.1, hkept.2, fun _ => hopen⟩

/-- **Where a row comes from.** -/
theorem effect_origin
    (heffect : Effect cfg t call t' keys) (hplain : call.bindsRecovery = false)
    {id : String} {row' : OperationRow} (hrow' : t'.operations.get? id = some row') :
    ∃ row, t.operations.get? id = some row ∧ row.Continues row' := by
  by_cases hid : call.operationId? = some id
  swap
  · exact ⟨row', effect_other heffect hid ▸ hrow', .refl row'⟩
  cases heffect with
  | quiet | registered | granted => exact ⟨row', hrow', .refl row'⟩
  | prepared => cases hplain
  | moved hcall hrecovery hrow hstate hchecks hupdate hlock =>
    rw [operationId?_of_transition? hcall] at hid
    cases hid
    rw [relock_operations, get?_setOperation hrow, if_pos rfl] at hrow'
    cases hrow'
    exact ⟨_, hrow, update_continues hcall hplain
      ((transition?_spec hcall).2 _ (checks_iff.mp hchecks).1)⟩
  | @conflicted id₀ reason lease tx row hrow hstate hlease =>
    cases hid
    rw [get?_setOperation hrow, if_pos rfl] at hrow'
    cases hrow'
    exact ⟨row, hrow, ⟨rfl, rfl, rfl, rfl, rfl, rfl⟩, rfl, rfl, id⟩
  | @claimed request now tx token leaseUntil row howner hrow hstate hexpired =>
    cases hid
    rw [get?_setOperation hrow, if_pos rfl] at hrow'
    cases hrow'
    exact ⟨row, hrow, ⟨rfl, rfl, rfl, rfl, rfl, rfl⟩, rfl, rfl,
      fun _ => open_of_claimable hstate⟩

theorem open_unique (h : t.Sound cfg) {id id' : String} {row row' : OperationRow}
    (hrow : t.operations.get? id = some row) (hopen : row.state.terminal = false)
    (hrow' : t.operations.get? id' = some row') (hopen' : row'.state.terminal = false)
    (htarget : row.targetRefDigest = row'.targetRefDigest) : id = id' := by
  obtain ⟨lock, hlock, -, hid⟩ := h.locked id row hrow hopen
  obtain ⟨lock', hlock', -, hid'⟩ := h.locked id' row' hrow' hopen'
  rw [← htarget, hlock] at hlock'
  cases hlock'
  exact hid.symm.trans hid'

/-! ## Answers and rows -/

theorem enter_eq_ok {id tx : String}
    {row updated : OperationRow} (hrow : db.operations.get? id = some row)
    (h : db.enter cfg tr id row lease tx = .ok (db', updated)) :
    updated = tr.update cfg id lease.now row ∧
      (∀ check ∈ tr.checks cfg lease row, check.1 = true) ∧
      db'.operations.get? id = some updated := by
  rw [Db.enter, require_bind_eq_ok] at h
  obtain ⟨hchecks, h⟩ := h
  obtain ⟨db₁, hlocked, h⟩ := bind_eq_ok.mp h
  obtain ⟨db₂, haudited, h⟩ := bind_eq_ok.mp h
  cases h
  have hset : (db.setOperation id (tr.update cfg id lease.now row)).operations.get? id =
      some (tr.update cfg id lease.now row) :=
    (get?_setOperation hrow id).trans (if_pos rfl)
  refine ⟨rfl, fun check hmem => hchecks check (List.mem_append_left _ hmem), ?_⟩
  cases hactive : tr.lockActive with
  | none =>
    rw [hactive] at hlocked
    cases hlocked
    rw [(put_auditRow_eq_ok haudited).1]
    exact hset
  | some active =>
    rw [hactive] at hlocked
    obtain ⟨-, htables, haudit⟩ := setLock_eq_ok hlocked
    rw [← htables] at haudit
    rw [(auditRow_eq_ok haudited haudit).1, htables, relock_operations]
    exact hset

theorem transition_eq_ok {id tx : String}
    {row updated : OperationRow} (hrow : db.operations.get? id = some row)
    (h : db.transition cfg tr id lease tx = .ok (db', updated)) :
    db'.operations.get? id = some updated ∧ (row.state = tr.target ∧ updated = row ∨
        row.state ≠ tr.target ∧ updated = tr.update cfg id lease.now row ∧
          ∀ check ∈ tr.checks cfg lease row, check.1 = true) := by
  rw [Db.transition, require_bind_eq_ok] at h
  obtain ⟨row', hrow', h⟩ := bind_eq_ok.mp h.2
  rw [expect_eq_ok, hrow] at hrow'
  cases hrow'
  split at h
  · next hstate =>
      rw [Db.repeat, require_bind_eq_ok] at h
      cases h.2
      exact ⟨hrow, .inl ⟨hstate, rfl⟩⟩
  · next hstate =>
      obtain ⟨hupdated, hchecks, hget⟩ := enter_eq_ok hrow h
      exact ⟨hget, .inr ⟨hstate, hupdated, hchecks⟩⟩

theorem transition_state {id tx : String}
    {row updated : OperationRow} (hrow : db.operations.get? id = some row)
    (h : db.transition cfg tr id lease tx = .ok (db', updated)) :
    updated.state = tr.target := by
  rcases (transition_eq_ok hrow h).2 with ⟨hstate, rfl⟩ | ⟨-, rfl, -⟩
  · exact hstate
  · exact update_state

theorem prepareOperation_fresh {request : PrepareRequest} {now leaseUntil : Instant}
    {tx secret token intentDigest : String}
    (h : db.prepareOperation cfg request now tx secret =
      .ok (db', .fresh token leaseUntil intentDigest)) :
    token = secret ∧ db.operations.get? request.operationId = none ∧
      ∃ proposal, db.proposals.get? request.proposalId = some proposal ∧
        db'.operations.get? request.operationId =
          some (cfg.operationRow request proposal secret leaseUntil now) := by
  rw [Db.prepareOperation, require_bind_eq_ok] at h
  obtain ⟨until', h⟩ := rest_ok h.2
  obtain ⟨proposal, hproposal, h⟩ := bind_eq_ok.mp h
  obtain ⟨approval, h⟩ := rest_ok h
  rw [require_bind_eq_ok] at h
  replace h := h.2
  unfold Db.prepareRow at h
  split at h
  · rw [require_bind_eq_ok] at h
    cases h.2
  · rw [require_bind_eq_ok] at h
    obtain ⟨hchecks, h⟩ := h
    obtain ⟨db₁, hinsert, h⟩ := bind_eq_ok.mp h
    cases h
    have habsent := (preparable_of_checks hchecks).absent
    refine ⟨rfl, habsent, proposal, expect_eq_ok.mp hproposal, ?_⟩
    rw [(insertOperation_eq_ok hinsert).1, get?_addOperation habsent, if_pos rfl]

theorem prepareOperation_replayed {request : PrepareRequest} {now : Instant}
    {tx secret : String} {row : OperationRow}
    (h : db.prepareOperation cfg request now tx secret = .ok (db', .replayed row)) :
    db' = db := by
  rw [Db.prepareOperation, require_bind_eq_ok] at h
  obtain ⟨until', h⟩ := rest_ok h.2
  obtain ⟨proposal, h⟩ := rest_ok h
  obtain ⟨approval, h⟩ := rest_ok h
  rw [require_bind_eq_ok] at h
  replace h := h.2
  unfold Db.prepareRow at h
  split at h
  · rw [require_bind_eq_ok] at h
    cases h.2
    rfl
  · rw [require_bind_eq_ok] at h
    obtain ⟨db₁, h⟩ := rest_ok h.2
    cases h

theorem claimOperation_lease {request : ClaimRequest} {now leaseUntil : Instant}
    {tx secret token : String} {row' : OperationRow}
    (h : db.claimOperation cfg request now tx secret =
      .ok (db', .lease token leaseUntil row')) :
    token = secret ∧ db'.operations.get? request.operationId = some row' ∧
      ∃ row, db.operations.get? request.operationId = some row ∧
        row' = row.claim cfg request secret leaseUntil now ∧
        row.state.terminal = false := by
  rw [Db.claimOperation, require_bind_eq_ok] at h
  obtain ⟨until', h⟩ := rest_ok h.2
  obtain ⟨row, hrow, h⟩ := bind_eq_ok.mp h
  rw [expect_eq_ok] at hrow
  split at h
  · next hstate =>
      rw [Db.takeOver, require_bind_eq_ok] at h
      obtain ⟨db₁, haudited, h⟩ := bind_eq_ok.mp h.2
      cases h
      refine ⟨rfl, ?_, row, hrow, rfl, open_of_claimable hstate⟩
      rw [(put_auditRow_eq_ok haudited).1]
      exact (get?_setOperation hrow _).trans (if_pos rfl)
  · cases h

/-- A claimed operation goes on with its row. -/
theorem claimOperation_continues {request : ClaimRequest} {now leaseUntil : Instant}
    {tx secret token : String} {row row' : OperationRow}
    (hrow : db.operations.get? request.operationId = some row)
    (h : db.claimOperation cfg request now tx secret =
      .ok (db', .lease token leaseUntil row')) :
    db'.operations.get? request.operationId = some row' ∧ row.Continues row' ∧
      ∃ keys, Effect cfg db.toTables (.claimOperation request now tx secret)
        db'.toTables keys := by
  obtain ⟨-, hget, -⟩ := claimOperation_lease h
  obtain ⟨keys, heffect, -⟩ := exec_committed
    (show Call.exec cfg db (.claimOperation request now tx secret) = .ok db' from
      map_fst_eq_ok.mpr ⟨_, h⟩)
  obtain ⟨row₁, hrow₁, hcontinues⟩ := effect_origin heffect rfl hget
  rw [hrow] at hrow₁
  cases hrow₁
  exact ⟨hget, hcontinues, keys, heffect⟩

end Ecosystem.Changes
