import Ecosystem.Changes.Progress

/-!
# Fencing, locks and single use

One call does nothing to the row of an operation, changes it as the holder of a running
lease, or takes it over behind the lease.  Hence the laws of a run: a lease that was
taken over never writes, closed states absorb, a target has one open operation, and
approvals, challenges, decisions and operations are spent once.
-/

namespace Ecosystem.Changes

open Ecosystem.Lib

variable {cfg : ChangeConfig} {t t' : Tables} {db db' : Db}

/-! ## One step of a row -/

/-- The operation that a call wants to change, and the lease that it presents. -/
def Call.lease? : Call → Option (String × LeaseClaim)
  | .recordRecoveryConflict id _ lease _ => some (id, lease)
  | call => call.transition?.map fun c => (c.2.1, c.2.2.1)

def Call.leaseToken? : Call → Option String
  | .prepareOperation _ _ _ token => some token
  | .claimOperation _ _ _ token => some token
  | _ => none

inductive RowStep (cfg : ChangeConfig) (call : Call) (id : String)
    (row row' : OperationRow) : Prop
  | same (heq : row' = row)
  | held (lease : LeaseClaim) (hlease : call.lease? = some (id, lease))
      (hheld : row.heldBy cfg lease = true)
      (hrunning : row.leaseRunning cfg lease.now = true)
      (hopen : row.state.terminal = false)
      (hepoch : row'.leaseEpoch = row.leaseEpoch)
      (htoken : row'.leaseTokenDigest = row.leaseTokenDigest ∨
        row'.leaseTokenDigest = none)
      (hsame : row.SameIdentity row')
  | claimed (request : ClaimRequest) (now leaseUntil : Instant) (tx token : String)
      (hcall : call = .claimOperation request now tx token)
      (hid : request.operationId = id)
      (hexpired : row.leaseRunning cfg now = false)
      (hopen : row.state.terminal = false)
      (hrow : row' = row.claim cfg request token leaseUntil now)

variable {id : String} {row : OperationRow} {call : Call} {keys : List EntityKey}

theorem update_token {tr : Transition} {now : Instant} :
    (tr.update cfg id now row).leaseTokenDigest = row.leaseTokenDigest ∨
      (tr.update cfg id now row).leaseTokenDigest = none := by
  refine update_induction
    (P := fun r => r.leaseTokenDigest = row.leaseTokenDigest ∨ r.leaseTokenDigest = none)
    (fun _ => .inl rfl) ?_ (fun r artifact _ hr => hr) (fun r _ => .inr rfl)
  intro r digest c hr
  cases c <;> exact hr

theorem lease?_of_transition? {tr : Transition} {id tx : String}
    {lease : LeaseClaim} (h : call.transition? = some (tr, id, lease, tx)) :
    call.lease? = some (id, lease) := by
  cases call <;> cases h <;> rfl

theorem effect_row (heffect : Effect cfg t call t' keys)
    (hrow : t.operations.get? id = some row) :
    ∃ row', t'.operations.get? id = some row' ∧ RowStep cfg call id row row' := by
  cases heffect with
  | quiet | registered | granted => exact ⟨row, hrow, .same rfl⟩
  | prepared hid howner hrecovery hproposal happroval hbound hchecks =>
    refine ⟨row, ?_, .same rfl⟩
    have habsent := (preparable_of_checks hchecks).absent
    rw [get?_addOperation habsent, if_neg, hrow]
    rintro rfl
    rw [habsent] at hrow
    cases hrow
  | @moved _ tr op lease tx row₀ hcall hrecovery hrow₀ hstate hchecks hupdate hlock =>
    obtain ⟨hallowed, -, -, hheld, hrunning⟩ := checks_iff.mp hchecks
    rw [relock_operations, get?_setOperation hrow₀]
    by_cases hid : id = op
    · subst hid
      rw [hrow] at hrow₀
      cases hrow₀
      exact ⟨_, if_pos rfl, .held lease (lease?_of_transition? hcall) hheld hrunning
        ((transition?_spec hcall).2 _ hallowed) update_leaseEpoch update_token
        update_sameIdentity⟩
    · exact ⟨row, by rw [if_neg hid, hrow], .same rfl⟩
  | @conflicted op reason lease tx row₀ hrow₀ hstate hlease =>
    rw [get?_setOperation hrow₀]
    by_cases hid : id = op
    · subst hid
      rw [hrow] at hrow₀
      cases hrow₀
      simp only [OperationRow.requireLease, List.forall_mem_cons] at hlease
      exact ⟨_, if_pos rfl, .held lease rfl hlease.1 hlease.2.1 (by rw [hstate]; rfl)
        rfl (.inl rfl) ⟨rfl, rfl, rfl, rfl, rfl, rfl⟩⟩
    · exact ⟨row, by rw [if_neg hid, hrow], .same rfl⟩
  | @claimed request now tx token leaseUntil row₀ howner hrow₀ hstate hexpired =>
    rw [get?_setOperation hrow₀]
    by_cases hid : id = request.operationId
    · rw [← hid, hrow] at hrow₀
      cases hrow₀
      exact ⟨_, if_pos hid, .claimed request now leaseUntil tx token rfl hid.symm
        hexpired (open_of_claimable hstate) rfl⟩
    · exact ⟨row, by rw [if_neg hid, hrow], .same rfl⟩

theorem call_row (cfg : ChangeConfig) (db : Db) (call : Call)
    (hrow : db.operations.get? id = some row) :
    ∃ row', (Db.call cfg db call).operations.get? id = some row' ∧
      RowStep cfg call id row row' := by
  rcases call_cases cfg db call with hsame | hexec
  · exact ⟨row, by rw [hsame, hrow], .same rfl⟩
  · obtain ⟨keys, heffect, -⟩ := exec_committed hexec
    exact effect_row heffect hrow

/-! ## Runs of a row -/

theorem RowStep.epoch_le {row row' : OperationRow}
    (h : RowStep cfg call id row row') : row.leaseEpoch ≤ row'.leaseEpoch := by
  cases h with
  | same heq => rw [heq]
  | held lease _ _ _ _ hepoch _ _ => rw [hepoch]
  | claimed request now leaseUntil tx token _ _ _ _ hrow =>
    rw [hrow]
    exact Nat.le_succ _

/-- **The run rule of a row.**  What a step keeps holds along a continuation. -/
theorem row_induction (cfg : ChangeConfig) (calls : List Call)
    (hrow : (storeAfter cfg calls).operations.get? id = some row)
    (P : List Call → OperationRow → Prop) (init : P [] row)
    (step : ∀ more call r r', P more r → RowStep cfg call id r r' →
      P (more ++ [call]) r') (more : List Call) :
    ∃ row', (storeAfter cfg (calls ++ more)).operations.get? id = some row' ∧
      P more row' := by
  induction more using List.reverseRecOn with
  | nil => exact ⟨row, by rw [List.append_nil, hrow], init⟩
  | append_singleton more call ih =>
    obtain ⟨r, hr, hP⟩ := ih
    rw [← List.append_assoc, storeAfter_concat]
    obtain ⟨r', hr', hstep⟩ := call_row cfg _ call hr
    exact ⟨r', hr', step more call r r' hP hstep⟩

theorem terminal_absorbs (cfg : ChangeConfig) (calls : List Call)
    (hrow : (storeAfter cfg calls).operations.get? id = some row)
    (hterminal : row.state.terminal = true) (more : List Call) :
    (storeAfter cfg (calls ++ more)).operations.get? id = some row := by
  obtain ⟨row', hrow', heq⟩ := row_induction cfg calls hrow (fun _ r => r = row) rfl (by
    rintro more call r r' rfl hstep
    cases hstep with
    | same heq => exact heq
    | held lease _ _ _ hopen _ _ _ => rw [hterminal] at hopen; cases hopen
    | claimed request now leaseUntil tx token _ _ _ hopen _ =>
      rw [hterminal] at hopen
      cases hopen) more
  rw [hrow', heq]

theorem token_of_epoch_ne (cfg : ChangeConfig) (calls : List Call)
    (hrow : (storeAfter cfg calls).operations.get? id = some row) (more : List Call) :
    ∃ row', (storeAfter cfg (calls ++ more)).operations.get? id = some row' ∧
      row.leaseEpoch ≤ row'.leaseEpoch ∧
      (row'.leaseEpoch = row.leaseEpoch ∨ ∀ digest, row'.leaseTokenDigest = some digest →
        ∃ token ∈ more.filterMap Call.leaseToken?, digest = cfg.leaseDigest token) := by
  refine row_induction cfg calls hrow (fun more r => row.leaseEpoch ≤ r.leaseEpoch ∧
    (r.leaseEpoch = row.leaseEpoch ∨ ∀ digest, r.leaseTokenDigest = some digest →
      ∃ token ∈ more.filterMap Call.leaseToken?, digest = cfg.leaseDigest token))
    ⟨Nat.le_refl _, .inl rfl⟩ ?_ more
  rintro more call r r' ⟨hle, hr⟩ hstep
  refine ⟨hle.trans hstep.epoch_le, ?_⟩
  cases hstep with
  | same heq =>
    rw [heq]
    refine hr.imp_right fun hdrawn digest hdigest => ?_
    obtain ⟨token, hmem, heq⟩ := hdrawn digest hdigest
    exact ⟨token, by rw [List.filterMap_append]; exact List.mem_append_left _ hmem, heq⟩
  | held lease _ _ _ _ hepoch htoken _ =>
    rw [hepoch]
    refine hr.imp_right fun hdrawn digest hdigest => ?_
    rcases htoken with htoken | htoken
    · obtain ⟨token, hmem, heq⟩ := hdrawn digest (htoken ▸ hdigest)
      exact ⟨token, by rw [List.filterMap_append]; exact List.mem_append_left _ hmem, heq⟩
    · rw [htoken] at hdigest
      cases hdigest
  | claimed request now leaseUntil tx token hcall _ _ _ hrow' =>
    right
    intro digest hdigest
    rw [hrow'] at hdigest
    cases hdigest
    exact ⟨token, by rw [hcall, List.filterMap_append]; simp [Call.leaseToken?], rfl⟩

theorem effect_new (heffect : Effect cfg t call t' keys)
    (hnone : t.operations.get? id = none) (hrow : t'.operations.get? id = some row) :
    ∃ request now tx token leaseUntil proposal,
      call = .prepareOperation request now tx token ∧ request.operationId = id ∧
        row = cfg.operationRow request proposal token leaseUntil now := by
  cases heffect with
  | quiet => rw [hnone] at hrow; cases hrow
  | registered | granted => exact absurd (hnone.symm.trans hrow) (by simp)
  | @prepared request now tx token leaseUntil proposal approval hid howner hrecovery
      hproposal happroval hbound hchecks =>
    rw [get?_addOperation (preparable_of_checks hchecks).absent] at hrow
    split at hrow
    · next hk =>
        cases hrow
        exact ⟨request, now, tx, token, leaseUntil, proposal, rfl, hk.symm, rfl⟩
    · rw [hnone] at hrow
      cases hrow
  | moved hcall hrecovery hrow₀ hstate hchecks hupdate hlock =>
    rw [relock_operations, get?_setOperation hrow₀] at hrow
    split at hrow
    · next hk => rw [hk, hrow₀] at hnone; cases hnone
    · rw [hnone] at hrow
      cases hrow
  | conflicted hrow₀ hstate hlease | claimed howner hrow₀ hstate hexpired =>
    rw [get?_setOperation hrow₀] at hrow
    split at hrow
    · next hk => rw [hk, hrow₀] at hnone; cases hnone
    · rw [hnone] at hrow
      cases hrow

theorem token_drawn (cfg : ChangeConfig) (calls : List Call) {id digest : String}
    (hrow : (storeAfter cfg calls).operations.get? id = some row)
    (hdigest : row.leaseTokenDigest = some digest) :
    ∃ token ∈ calls.filterMap Call.leaseToken?, digest = cfg.leaseDigest token := by
  induction calls using List.reverseRecOn generalizing row with
  | nil => cases hrow
  | append_singleton calls call ih =>
    have hkeep : ∀ {token}, token ∈ calls.filterMap Call.leaseToken? →
        token ∈ (calls ++ [call]).filterMap Call.leaseToken? := by
      intro token hmem
      rw [List.filterMap_append]
      exact List.mem_append_left _ hmem
    have hlast : ∀ {token}, call.leaseToken? = some token →
        token ∈ (calls ++ [call]).filterMap Call.leaseToken? := by
      intro token hcall
      rw [List.filterMap_append]
      simp [hcall]
    rw [storeAfter_concat] at hrow
    cases hold : (storeAfter cfg calls).operations.get? id with
    | none =>
      rcases call_cases cfg (storeAfter cfg calls) call with hsame | hexec
      · rw [hsame, hold] at hrow
        cases hrow
      · obtain ⟨keys, heffect, -⟩ := exec_committed hexec
        obtain ⟨request, now, tx, token, leaseUntil, proposal, hcall, -, heq⟩ :=
          effect_new heffect hold hrow
        rw [heq] at hdigest
        cases hdigest
        exact ⟨token, hlast (by rw [hcall]; rfl), rfl⟩
    | some old =>
      obtain ⟨row', hrow', hstep⟩ := call_row cfg (storeAfter cfg calls) call hold
      rw [hrow] at hrow'
      cases hrow'
      cases hstep with
      | same heq =>
        rw [heq] at hdigest
        obtain ⟨token, hmem, htoken⟩ := ih hold hdigest
        exact ⟨token, hkeep hmem, htoken⟩
      | held lease _ _ _ _ _ htoken _ =>
        rcases htoken with htoken | htoken
        · rw [htoken] at hdigest
          obtain ⟨token, hmem, heq⟩ := ih hold hdigest
          exact ⟨token, hkeep hmem, heq⟩
        · rw [htoken] at hdigest
          cases hdigest
      | claimed request now leaseUntil tx token hcall _ _ _ hrow' =>
        rw [hrow'] at hdigest
        cases hdigest
        exact ⟨token, hlast (by rw [hcall]; rfl), rfl⟩

/-- **A lease that was taken over never writes again**, whether its epoch or its
token is presented. -/
theorem fenced_of_takeover (cfg : ChangeConfig) (calls more : List Call) (call : Call)
    (htokens : ((calls ++ more).filterMap Call.leaseToken?).Nodup)
    (hdigests : ∀ token ∈ (calls ++ more).filterMap Call.leaseToken?,
      ∀ token' ∈ (calls ++ more).filterMap Call.leaseToken?,
        cfg.leaseDigest token = cfg.leaseDigest token' → token = token')
    {row row' : OperationRow} {lease : LeaseClaim}
    (hrow : (storeAfter cfg calls).operations.get? id = some row)
    (hrow' : (storeAfter cfg (calls ++ more)).operations.get? id = some row')
    (hepoch : row'.leaseEpoch ≠ row.leaseEpoch) (hlease : call.lease? = some (id, lease))
    (hold : lease.epoch = row.leaseEpoch ∨
      row.leaseTokenDigest = some (cfg.leaseDigest lease.token)) :
    (storeAfter cfg (calls ++ more ++ [call])).operations.get? id = some row' := by
  rw [storeAfter_concat]
  obtain ⟨row'', hrow'', hstep⟩ := call_row cfg (storeAfter cfg (calls ++ more)) call hrow'
  cases hstep with
  | same heq => rw [hrow'', heq]
  | held lease' hlease' hheld hrunning hopen _ _ _ =>
    exfalso
    rw [hlease] at hlease'
    cases hlease'
    simp only [OperationRow.heldBy, Bool.and_eq_true, decide_eq_true_eq] at hheld
    obtain ⟨⟨-, hcurrent⟩, htoken⟩ := hheld
    rcases hold with hold | hold
    · refine hepoch (Int.natCast_inj.mp ?_)
      rw [hcurrent, hold]
    · obtain ⟨r, hr, -, hdrawn⟩ := token_of_epoch_ne cfg calls hrow more
      rw [hrow'] at hr
      cases hr
      obtain ⟨new, hnew, hnewDigest⟩ := hdrawn.resolve_left hepoch _ htoken
      obtain ⟨old, hold', holdDigest⟩ := token_drawn cfg calls hrow hold
      rw [List.filterMap_append] at htokens hdigests
      have heq := hdigests old (List.mem_append_left _ hold') new
        (List.mem_append_right _ hnew) (holdDigest.symm.trans hnewDigest)
      exact (List.nodup_append.mp htokens).2.2 old hold' new hnew heq
  | claimed request now leaseUntil tx token hcall _ _ _ _ =>
    rw [hcall] at hlease
    cases hlease

/-! ## Single use -/

def Tables.operationCount (t : Tables) (runId : String) : ℕ :=
  (t.operations.select fun _ row => row.runId = runId).length

/-- Approvals, challenges, decisions and the budget of a run are spent once. -/
structure Tables.SingleUse (t : Tables) : Prop where
  approvals : ∀ id row id' row', t.operations.get? id = some row →
    t.operations.get? id' = some row' → row.approvalId = row'.approvalId → id = id'
  decisions : ∀ id row id' row', t.operations.get? id = some row →
    t.operations.get? id' = some row' →
    row.policyDecisionDigest = row'.policyDecisionDigest → id = id'
  challenges : ∀ id row id' row', t.approvals.get? id = some row →
    t.approvals.get? id' = some row' → row.challengeNonce = row'.challengeNonce → id = id'
  budget : ∀ runId, 0 < t.operationCount runId → ∃ id p,
    t.proposals.get? id = some p ∧ p.runId = runId ∧
      (t.operationCount runId : ℤ) ≤ p.record.proposal.limits.maxOperations

theorem origin_setOperation {row row' : OperationRow}
    (hrow : t.operations.get? id = some row) (hsame : row.SameIdentity row')
    (hoperations : t'.operations = (t.setOperation id row').operations) (k : String)
    (r : OperationRow) (hr : t'.operations.get? k = some r) :
    ∃ r₀, t.operations.get? k = some r₀ ∧ r₀.SameIdentity r := by
  rw [hoperations, get?_setOperation hrow] at hr
  split at hr
  · next hk =>
      cases hr
      exact ⟨row, by rw [hk, hrow], hsame⟩
  · exact ⟨r, hr, ⟨rfl, rfl, rfl, rfl, rfl, rfl⟩⟩

theorem singleUse_setOperation (h : t.SingleUse) {row row' : OperationRow}
    (hrow : t.operations.get? id = some row) (hsame : row.SameIdentity row')
    (hoperations : t'.operations = (t.setOperation id row').operations)
    (happrovals : t'.approvals = t.approvals) (hproposals : t'.proposals = t.proposals) :
    t'.SingleUse := by
  have hget := origin_setOperation hrow hsame hoperations
  have hcount : ∀ runId, t'.operationCount runId = t.operationCount runId := by
    intro runId
    rw [Tables.operationCount, Tables.operationCount, Table.length_select,
      Table.length_select, hoperations, Tables.setOperation]
    have := Table.sumBy_modify hrow (fun _ => row')
      (fun _ r => if decide (r.runId = runId) = true then 1 else 0)
    simp only [hsame.runId] at this
    exact Nat.add_right_cancel this
  refine ⟨?_, ?_, by rw [happrovals]; exact h.challenges, ?_⟩
  · intro k r k' r' hr hr' heq
    obtain ⟨r₀, hr₀, hs⟩ := hget k r hr
    obtain ⟨r₁, hr₁, hs'⟩ := hget k' r' hr'
    refine h.approvals k r₀ k' r₁ hr₀ hr₁ ?_
    rw [← hs.approvalId, ← hs'.approvalId, heq]
  · intro k r k' r' hr hr' heq
    obtain ⟨r₀, hr₀, hs⟩ := hget k r hr
    obtain ⟨r₁, hr₁, hs'⟩ := hget k' r' hr'
    refine h.decisions k r₀ k' r₁ hr₀ hr₁ ?_
    rw [← hs.policyDecisionDigest, ← hs'.policyDecisionDigest, heq]
  · intro runId hpos
    rw [hcount] at hpos ⊢
    rw [hproposals]
    exact h.budget runId hpos

theorem singleUse_prepared (h : t.SingleUse) {request : PrepareRequest}
    {now leaseUntil : Instant} {token : String} {proposal : ProposalRow}
    {approval : ApprovalRow}
    (hproposal : t.proposals.get? request.proposalId = some proposal)
    (hprep : @Tables.Preparable cfg t proposal approval request.operationId
      (cfg.operationRow request proposal token leaseUntil now) now) :
    (t.addOperation request (cfg.operationRow request proposal token leaseUntil now)
      now).SingleUse := by
  have hcount : ∀ runId, (t.addOperation request
      (cfg.operationRow request proposal token leaseUntil now) now).operationCount runId =
      t.operationCount runId + if proposal.runId = runId then 1 else 0 := by
    intro runId
    rw [Tables.operationCount, Tables.operationCount, Table.length_select,
      Table.length_select]
    have := Table.sumBy_insert
      (r := cfg.operationRow request proposal token leaseUntil now)
      (fun _ r => if decide (r.runId = runId) = true then 1 else 0) hprep.absent
    refine this.trans (congrArg _ ?_)
    by_cases hrun : proposal.runId = runId <;>
      simp [ChangeConfig.operationRow, ChangeConfig.operationDraft, hrun]
  refine ⟨?_, ?_, ?_, ?_⟩
  · intro k r k' r' hr hr' heq
    rw [get?_addOperation hprep.absent] at hr hr'
    split at hr <;> split at hr'
    · next hk hk' => rw [hk, hk']
    · cases hr
      exact absurd heq.symm (hprep.approvalFree k' r' hr')
    · cases hr'
      exact absurd heq (hprep.approvalFree k r hr)
    · exact h.approvals k r k' r' hr hr' heq
  · intro k r k' r' hr hr' heq
    rw [get?_addOperation hprep.absent] at hr hr'
    split at hr <;> split at hr'
    · next hk hk' => rw [hk, hk']
    · cases hr
      exact absurd heq.symm (hprep.decisionFree k' r' hr')
    · cases hr'
      exact absurd heq (hprep.decisionFree k r hr)
    · exact h.decisions k r k' r' hr hr' heq
  · have hnonce : ∀ k a, (t.addOperation request
        (cfg.operationRow request proposal token leaseUntil now) now).approvals.get? k =
          some a → ∃ a₀, t.approvals.get? k = some a₀ ∧
            a₀.challengeNonce = a.challengeNonce := by
      intro k a ha
      rw [get?_addOperation_approvals] at ha
      split at ha
      · obtain ⟨a₀, ha₀, rfl⟩ := Option.map_eq_some_iff.mp ha
        exact ⟨a₀, ha₀, rfl⟩
      · exact ⟨a, ha, rfl⟩
    intro k a k' a' ha ha' heq
    obtain ⟨a₀, ha₀, hn⟩ := hnonce k a ha
    obtain ⟨a₁, ha₁, hn'⟩ := hnonce k' a' ha'
    exact h.challenges k a₀ k' a₁ ha₀ ha₁ (hn.trans (heq.trans hn'.symm))
  · intro runId hpos
    rw [hcount] at hpos ⊢
    have hbudget := hprep.budget
    change (t.operationCount proposal.runId : ℤ) < _ at hbudget
    by_cases hrun : proposal.runId = runId
    · refine ⟨request.proposalId, proposal, hproposal, hrun, ?_⟩
      rw [if_pos hrun, ← hrun]
      push_cast
      omega
    · rw [if_neg hrun, Nat.add_zero] at hpos ⊢
      exact h.budget runId hpos

theorem effect_singleUse (h : t.SingleUse)
    (heffect : Effect cfg t call t' keys) : t'.SingleUse := by
  cases heffect with
  | quiet => exact h
  | @registered p now tx subject _ _ hid _ =>
    refine ⟨h.approvals, h.decisions, h.challenges, fun runId hpos => ?_⟩
    obtain ⟨k, p', hp', hrun, hle⟩ := h.budget runId hpos
    refine ⟨k, p', ?_, hrun, hle⟩
    rw [Tables.addProposal, Table.get?_insert hid, if_neg, hp']
    rintro rfl
    rw [hid] at hp'
    cases hp'
  | @granted envelope now tx proposalId proposal window _ _ _ hid hunique =>
    refine ⟨h.approvals, h.decisions, ?_, h.budget⟩
    have hnew : ∀ k a, t.approvals.get? k = some a →
        a.challengeNonce ≠ envelope.challengeNonce := by
      intro k a ha heq
      have := not_of_select_isEmpty hunique ha
      simp [ChangeConfig.approvalRow, heq] at this
    intro k a k' a' ha ha' heq
    rw [Tables.addApproval, Table.get?_insert hid] at ha ha'
    split at ha <;> split at ha'
    · next hk hk' => rw [hk, hk']
    · cases ha
      exact absurd heq.symm (hnew k' a' ha')
    · cases ha'
      exact absurd heq (hnew k a ha)
    · exact h.challenges k a k' a' ha ha' heq
  | prepared _ _ _ hproposal _ _ hchecks =>
    exact singleUse_prepared h hproposal (preparable_of_checks hchecks)
  | moved _ _ hrow _ _ _ _ =>
    exact singleUse_setOperation h hrow update_sameIdentity (relock_operations ..)
      (relock_approvals ..) (relock_proposals ..)
  | conflicted hrow _ _ | claimed _ hrow _ _ =>
    refine singleUse_setOperation h hrow ?_ rfl rfl rfl
    exact ⟨rfl, rfl, rfl, rfl, rfl, rfl⟩

theorem singleUse_storeAfter (cfg : ChangeConfig) (calls : List Call) :
    (storeAfter cfg calls).SingleUse := by
  refine storeAfter_induction cfg (P := fun db => db.SingleUse) ?_ ?_ calls
  · refine ⟨?_, ?_, ?_, fun runId hpos => absurd hpos (Nat.lt_irrefl 0)⟩ <;>
      (intro id row id' row' h; cases h)
  · intro db call db' h hexec
    obtain ⟨keys, heffect, -⟩ := exec_committed hexec
    exact effect_singleUse h heffect

/-! ## Fenced, exclusive and single-use -/

/-- A change of a row was made by the current holder of the lease before its expiry,
or is a claim behind the expiry, which raises the epoch. -/
def AuthorizedChange (cfg : ChangeConfig) (call : Call) (id : String)
    (row row' : OperationRow) : Prop :=
  (∃ lease, call.lease? = some (id, lease) ∧ row.heldBy cfg lease = true ∧
      row.leaseRunning cfg lease.now = true ∧ row'.leaseEpoch = row.leaseEpoch) ∨
    ∃ request now tx token, call = .claimOperation request now tx token ∧
      request.operationId = id ∧ row.leaseRunning cfg now = false ∧
      row'.leaseEpoch = row.leaseEpoch + 1

def Call.PresentsLeaseOf (cfg : ChangeConfig) (call : Call) (id : String)
    (row : OperationRow) : Prop :=
  ∃ lease, call.lease? = some (id, lease) ∧
    (lease.epoch = row.leaseEpoch ∨
      row.leaseTokenDigest = some (cfg.leaseDigest lease.token))

/-- **Controlled writes are fenced, exclusive and single-use**, along every sequence
of calls whose lease tokens are distinct under their digest. -/
theorem controlled_writes_fenced (cfg : ChangeConfig) (calls : List Call)
    (htokens : (calls.filterMap Call.leaseToken?).Nodup)
    (hdigests : ∀ token ∈ calls.filterMap Call.leaseToken?,
      ∀ token' ∈ calls.filterMap Call.leaseToken?,
        cfg.leaseDigest token = cfg.leaseDigest token' → token = token') :
    (∀ call id row, (storeAfter cfg calls).operations.get? id = some row →
      ∃ row', (storeAfter cfg (calls ++ [call])).operations.get? id = some row' ∧
        (row' = row ∨ AuthorizedChange cfg call id row row')) ∧
    (∀ before more, calls = before ++ more → ∀ call id row row',
      (storeAfter cfg before).operations.get? id = some row →
      (storeAfter cfg calls).operations.get? id = some row' →
      row'.leaseEpoch ≠ row.leaseEpoch → call.PresentsLeaseOf cfg id row →
      (storeAfter cfg (calls ++ [call])).operations.get? id = some row') ∧
    (∀ id row id' row', (storeAfter cfg calls).operations.get? id = some row →
      (storeAfter cfg calls).operations.get? id' = some row' →
      row.targetRefDigest = row'.targetRefDigest → row.state.terminal = false →
      row'.state.terminal = false →
      id = id' ∧ ∃ lock, (storeAfter cfg calls).locks.get? row.targetRefDigest = some lock ∧
        lock.state = .active ∧ lock.operationId = id) ∧
    (∀ id row id' row', (storeAfter cfg calls).operations.get? id = some row →
      (storeAfter cfg calls).operations.get? id' = some row' →
      (row.approvalId = row'.approvalId ∨
        row.policyDecisionDigest = row'.policyDecisionDigest ∨
        ∃ a a', (storeAfter cfg calls).approvals.get? row.approvalId = some a ∧
          (storeAfter cfg calls).approvals.get? row'.approvalId = some a' ∧
          a.challengeNonce = a'.challengeNonce) → id = id') ∧
    (∀ runId, 0 < (storeAfter cfg calls).operationCount runId → ∃ id p,
      (storeAfter cfg calls).proposals.get? id = some p ∧ p.runId = runId ∧
        ((storeAfter cfg calls).operationCount runId : ℤ) ≤
          p.record.proposal.limits.maxOperations) ∧
    (∀ id row, (storeAfter cfg calls).operations.get? id = some row →
      row.state ∈ [.committed, .rolledBack, .failed] → ∀ more,
      (storeAfter cfg (calls ++ more)).operations.get? id = some row) := by
  have hsound := (storeAfter_sound cfg calls).1
  have hsingle := singleUse_storeAfter cfg calls
  refine ⟨?_, ?_, ?_, ?_, hsingle.budget, ?_⟩
  · intro call id row hrow
    rw [storeAfter_concat]
    obtain ⟨row', hrow', hstep⟩ := call_row cfg _ call hrow
    refine ⟨row', hrow', ?_⟩
    cases hstep with
    | same heq => exact .inl heq
    | held lease hlease hheld hrunning _ hepoch _ _ =>
      exact .inr (.inl ⟨lease, hlease, hheld, hrunning, hepoch⟩)
    | claimed request now leaseUntil tx token hcall hid hexpired _ heq =>
      exact .inr (.inr ⟨request, now, tx, token, hcall, hid, hexpired, by rw [heq]; rfl⟩)
  · rintro before more rfl call id row row' hrow hrow' hepoch ⟨lease, hlease, hold⟩
    exact fenced_of_takeover cfg before more call htokens hdigests hrow hrow' hepoch
      hlease hold
  · intro id row id' row' hrow hrow' htarget hopen hopen'
    obtain ⟨lock, hlock, hactive, hid⟩ := hsound.locked id row hrow hopen
    obtain ⟨lock', hlock', -, hid'⟩ := hsound.locked id' row' hrow' hopen'
    rw [← htarget, hlock] at hlock'
    cases hlock'
    exact ⟨hid.symm.trans hid', lock, hlock, hactive, hid⟩
  · rintro id row id' row' hrow hrow' (happroval | hdecision | ⟨a, a', ha, ha', hnonce⟩)
    · exact hsingle.approvals id row id' row' hrow hrow' happroval
    · exact hsingle.decisions id row id' row' hrow hrow' hdecision
    · exact hsingle.approvals id row id' row' hrow hrow'
        (hsingle.challenges _ a _ a' ha ha' hnonce)
  · intro id row hrow hfinal more
    exact terminal_absorbs cfg calls hrow (decide_eq_true hfinal) more

/-- A second worker takes an operation over, and the first one is fenced out. -/
theorem controlled_writes_fenced_sampleClaimed :
    (sampleClaimed.filterMap Call.leaseToken?).Nodup ∧
      ∀ id row, (storeAfter sampleConfig sampleClaimed).operations.get? id = some row →
        ∃ row', (storeAfter sampleConfig (sampleClaimed ++
            [.markFailed "operation" (sampleHex "1")
              ⟨"worker-1", "1", 1, sampleInstant 2000001⟩ "tx-5"])).operations.get? id =
              some row' ∧ (row' = row ∨ AuthorizedChange sampleConfig
            (.markFailed "operation" (sampleHex "1")
              ⟨"worker-1", "1", 1, sampleInstant 2000001⟩ "tx-5") id row row') :=
  ⟨by decide, (controlled_writes_fenced sampleConfig sampleClaimed (by decide)
    (by decide)).1 _⟩

end Ecosystem.Changes
