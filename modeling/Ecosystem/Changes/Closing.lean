import Ecosystem.Changes.Recovering

/-!
# Which recoveries close their operation

The recovery of an open operation whose target nobody else touches.  It closes the
operation exactly when the broker reaches the target and the operation has no
before-state to prove, or has proved it.
-/

namespace Ecosystem.Changes

open Ecosystem.Lib

variable {cfg : WriteConfig} {leaseUntil : Instant} {lease : HeldLease}
  {row : OperationRow} {b : RecoveryBundle} {w w' : World}

/-! ## What it means to be closed -/

/-- The recovery has returned, and the operation is `failed` or `rolled_back`, the
target is in its before-state, the temporary is gone and the lock is released. -/
def WriteExecution.ClosesOn (answer : WriteExecution) (id : String) (row : OperationRow)
    (b : RecoveryBundle) (w : World) : Prop :=
  answer.replayed = false ∧ (answer.state = .failed ∨ answer.state = .rolledBack) ∧
    Released w.db id row.targetRefDigest answer.state ∧
    w.files b.path = b.beforeEntry ∧
    w.temporaries (parentOf b.path, b.temporaryName) = none

def Closed (id : String) (row : OperationRow) (b : RecoveryBundle) :
    Except Failure WriteExecution × World → Prop
  | (.ok answer, w) => answer.ClosesOn id row b w
  | (.error _, _) => False

/-- The broker reaches the target, and the before-state is one that the operation has
proved or that needs no proof. -/
structure Recoverable (w : World) (row : OperationRow) (b : RecoveryBundle) : Prop where
  reached : w.refusal b.path = none
  regular : ∀ code, w.temporaries (parentOf b.path, b.temporaryName) ≠ some (.other code)
  backed : b.operation = .create ∨ row.proven = true

/-! ## Closing an operation -/

theorem finishes_closeUntouched (h : Held cfg leaseUntil lease row w.db)
    (hstate : row.state = .recoveryRequired) (hfile : w.files b.path = b.beforeEntry)
    (htemp : w.temporaries (parentOf b.path, b.temporaryName) = none) :
    Finishes cfg leaseUntil (fun answer w' => answer.ClosesOn lease.operationId row b w')
      (closeUntouched cfg b lease row) w := by
  unfold closeUntouched
  split
  · refine finishes_bind
      (fun _ w' => w'.files = w.files ∧ w'.temporaries = w.temporaries ∧
        ∃ row', Held cfg leaseUntil lease row' w'.db ∧ row'.state = .rollingBack ∧
          row'.targetRefDigest = row.targetRefDigest)
      (finishes_authority fun c hc => ?_) ?_
    · obtain ⟨db', row', hok, hrest⟩ := h.rollBack hc hstate
      exact ⟨db', row', hok, rfl, rfl, row', hrest⟩
    rintro _ w₁ ⟨hfiles, htemps, row', h', hstate', htarget⟩
    refine finishes_bind
      (fun _ w' => w'.files = w₁.files ∧ w'.temporaries = w₁.temporaries ∧
        Released w'.db lease.operationId row.targetRefDigest .rolledBack)
      (finishes_authority fun c hc => ?_) ?_
    · obtain ⟨db', row'', hok, hreleased⟩ := h'.rolledBack hc hstate' _
      exact ⟨db', row'', hok, rfl, rfl, htarget ▸ hreleased⟩
    rintro _ w₂ ⟨hfiles', htemps', hreleased⟩
    exact ⟨rfl, .inr rfl, hreleased, by rw [hfiles', hfiles, hfile],
      by rw [htemps', htemps, htemp]⟩
  · refine finishes_bind
      (fun _ w' => w'.files = w.files ∧ w'.temporaries = w.temporaries ∧
        Released w'.db lease.operationId row.targetRefDigest .failed)
      (finishes_authority fun c hc => ?_) ?_
    · obtain ⟨db', row', hok, hreleased⟩ := h.failed hc hstate _
      exact ⟨db', row', hok, rfl, rfl, hreleased⟩
    rintro _ w₁ ⟨hfiles, htemps, hreleased⟩
    exact ⟨rfl, .inl rfl, hreleased, by rw [hfiles, hfile], by rw [htemps, htemp]⟩

theorem finishes_rollBackApplied (h : Held cfg leaseUntil lease row w.db)
    (hstate : row.state = .recoveryRequired) (hopen : w.refusal b.path = none)
    (hbackup : b.backupMatches = true)
    (hbefore : ∀ file, b.operation.before = some file → Readable cfg file)
    (hafter : Readable cfg b.after) (hne : b.operation.before ≠ some b.after)
    (hfile : w.files b.path = some (.regular b.after))
    (htemp : w.temporaries (parentOf b.path, b.temporaryName) = none) :
    Finishes cfg leaseUntil (fun answer w' => answer.ClosesOn lease.operationId row b w')
      (rollBackApplied cfg b lease) w := by
  refine finishes_catch ?_
  refine finishes_bind
    (fun _ w' => w'.files = w.files ∧ w'.temporaries = w.temporaries ∧
      w'.refusal = w.refusal ∧
      ∃ row', Held cfg leaseUntil lease row' w'.db ∧ row'.state = .rollingBack ∧
        row'.targetRefDigest = row.targetRefDigest)
    (finishes_authority fun c hc => ?_) ?_
  · obtain ⟨db', row', hok, hrest⟩ := h.rollBack hc hstate
    exact ⟨db', row', hok, rfl, rfl, rfl, row', hrest⟩
  rintro _ w₁ ⟨hfiles, htemps, hrefusal, row', h', hstate', htarget⟩
  refine finishes_bind _ (finishes_rollback (hrefusal ▸ hopen) hbackup hbefore hafter hne
    (hfiles ▸ hfile) (htemps ▸ htemp) ?_) ?_
  · intro w₂ hsame
    refine finishes_inspect fun c hc => ⟨(), ?_, rfl⟩
    rw [hsame.db, h'.assertLease hc hstate']
  rintro result w₂ hrestored
  refine finishes_bind
    (fun _ w' => w'.files = w₂.files ∧ w'.temporaries = w₂.temporaries ∧
      Released w'.db lease.operationId row.targetRefDigest .rolledBack)
    (finishes_authority fun c hc => ?_) ?_
  · rw [hrestored.same.db]
    obtain ⟨db', row'', hok, hreleased⟩ := h'.rolledBack hc hstate' _
    exact ⟨db', row'', hok, rfl, rfl, htarget ▸ hreleased⟩
  rintro _ w₃ ⟨hfiles', htemps', hreleased⟩
  exact ⟨rfl, .inr rfl, hreleased, by rw [hfiles']; exact hrestored.file,
    by rw [htemps', hrestored.temporary]⟩

variable {id : String} {now : Instant}

theorem Recoverable.backup (h : Recoverable w row b)
    (hb : b.Covers cfg w id row) : b.backupMatches = true := by
  cases hproven : row.proven with
  | true =>
    refine (hb.ready ?_).1
    rw [hb.phase, if_pos hproven]
  | false =>
    have hcreate : b.operation = .create := by
      rcases h.backed with hcreate | htrue
      · exact hcreate
      · rw [hproven] at htrue
        cases htrue
    have hnone := hb.unready (by rw [hb.phase, hproven]; rfl)
    rw [RecoveryBundle.backupMatches, hcreate, hnone]

theorem Recoverable.readable (h : Recoverable w row b) (hb : b.Covers cfg w id row) :
    ∀ file, b.operation.before = some file → Readable cfg file := by
  rcases h.backed with hcreate | hproven
  · rw [hcreate]
    rintro _ ⟨⟩
  · exact (hb.ready (by rw [hb.phase, if_pos hproven])).2.2

theorem finishes_reconcile (h : Held cfg leaseUntil lease row w.db)
    (hstate : row.state = .recoveryRequired) (hb : b.Covers cfg w lease.operationId row)
    (hsettled : b.Settled cfg w) (hrecoverable : Recoverable w row b) :
    Finishes cfg leaseUntil (fun answer w' => answer.ClosesOn lease.operationId row b w')
      (reconcile cfg b lease row) w := by
  have hbackup := hrecoverable.backup hb
  have hbefore := hrecoverable.readable hb
  refine finishes_bind (fun _ w' => w = w')
    (finishes_storeCheck (by simpa using hbackup) rfl) ?_
  rintro _ _ rfl
  refine finishes_bind _ (finishes_cleanup hrecoverable.reached hrecoverable.regular) ?_
  rintro _ w₁ ⟨hsame, -, hfiles, htemp⟩
  have hopen : w₁.refusal b.path = none := by rw [hsame.refusal, hrecoverable.reached]
  have hheld : Held cfg leaseUntil lease row w₁.db := hsame.db ▸ h
  by_cases hfile : w.files b.path = b.beforeEntry
  · rw [← hfiles] at hfile
    refine finishes_bind (fun observed w' => w₁ = w' ∧ observed = b.operation.before)
      (finishes_observe hopen hfile hbefore ⟨rfl, rfl⟩) ?_
    rintro _ _ ⟨rfl, rfl⟩
    rw [if_pos rfl]
    exact finishes_closeUntouched hheld hstate hfile htemp
  · obtain ⟨hphase, hafter, happlied⟩ := hsettled.resolve_left hfile
    have hne : b.operation.before ≠ some b.after := by
      intro heq
      rw [RecoveryBundle.beforeEntry, heq] at hfile
      exact hfile happlied
    rw [← hfiles] at happlied
    refine finishes_bind (fun observed w' => w₁ = w' ∧ observed = some b.after)
      (@finishes_observe _ _ _ _ (some b.after) _ hopen happlied
        (by rintro _ ⟨⟩; exact hafter) ⟨rfl, rfl⟩) ?_
    rintro _ _ ⟨rfl, rfl⟩
    rw [if_neg (Ne.symm hne), if_neg (fun h => h rfl)]
    refine finishes_bind (fun _ w' => w₁ = w')
      (finishes_storeCheck (by simpa [hphase] using (hb.ready hphase).2.1) rfl) ?_
    rintro _ _ rfl
    exact finishes_rollBackApplied hheld hstate hopen hbackup hbefore hafter hne happlied
      htemp

/-! ## Claiming an operation -/

theorem claimOperation_ok {cfg : ChangeConfig} {db : Db} {request : ClaimRequest}
    {tx secret : String} (howner : isChangeId request.ownerId = true)
    (hseconds : 1 ≤ request.leaseSeconds ∧ request.leaseSeconds ≤ 3600)
    (huntil : now.addSeconds request.leaseSeconds = .ok leaseUntil)
    (hrow : db.operations.get? request.operationId = some row)
    (hopen : row.state.terminal = false) (hexpired : row.leaseRunning cfg now = false) :
    ∃ db', db.claimOperation cfg request now tx secret =
      .ok (db', .lease secret leaseUntil (row.claim cfg request secret leaseUntil now)) := by
  have hclaimable : row.state ∈ nonterminal ∨ row.state = .applied := by
    revert hopen
    cases row.state <;> decide
  have hget : (db.setOperation request.operationId
      (row.claim cfg request secret leaseUntil now)).operations.get? request.operationId =
        some (row.claim cfg request secret leaseUntil now) :=
    (get?_setOperation hrow _).trans (if_pos rfl)
  obtain ⟨db', haudited, -⟩ := @auditRow_ok cfg
    (db.put (db.setOperation request.operationId
      (row.claim cfg request secret leaseUntil now))) .operation _ _
    (by rw [Tables.rowDigest?]; exact congrArg _ hget) tx (.entered .recoveryRequired)
    (utc now)
  refine ⟨db', require_bind_eq_ok.mpr ⟨?_, bind_eq_ok.mpr ⟨leaseUntil, huntil,
    bind_eq_ok.mpr ⟨row, expect_eq_ok.mpr hrow, ?_⟩⟩⟩⟩
  · simpa [changeId, howner] using hseconds
  · rw [if_pos hclaimable]
    exact require_bind_eq_ok.mpr ⟨by simpa using hexpired,
      bind_eq_ok.mpr ⟨db', haudited, rfl⟩⟩

theorem proposalStatus_ok {calm : String → Prop} (h : Inv cfg calm w)
    (hb : b.Covers cfg w id row) :
    ∃ stored, w.db.proposalStatus row.proposalId = .ok stored ∧
      stored.proposal.rootIdentityDigest = cfg.rootIdentityDigest := by
  obtain ⟨p, hp, hroot, -, -⟩ := hb.approved
  refine ⟨p.record, require_bind_eq_ok.mpr ⟨?_, bind_eq_ok.mpr
    ⟨p, expect_eq_ok.mpr hp, rfl⟩⟩, hroot⟩
  have hverified := h.sound.proposals _ _ hp
  obtain ⟨checked, hchecked, -⟩ := bind_eq_ok.mp hverified
  have hid := (require_bind_eq_ok.mp hchecked).1
    (changeId p.record.proposal.proposalId "proposalId") (by simp)
  rw [(h.columns _ _ hp).2.2] at hid
  simpa [changeId] using hid

theorem authorityChecks_pass {stored : ProposalRecord} (hb : b.Covers cfg w id row)
    (hroot : stored.proposal.rootIdentityDigest = cfg.rootIdentityDigest) :
    ∀ check ∈ b.authorityChecks cfg id row stored, check.1 = true := by
  have h := hb.belongs
  simp only [RecoveryBundle.authorityChecks, List.forall_mem_cons, List.not_mem_nil,
    false_implies, implies_true, and_true, Bool.and_eq_true, decide_eq_true_eq]
  exact ⟨⟨⟨⟨⟨⟨⟨⟨h.operationId, h.runId⟩, h.proposalId⟩, h.approvalId⟩,
    h.policyDecisionDigest⟩, h.root.trans hroot.symm⟩, h.root⟩, h.target⟩, h.path⟩

/-- **A recoverable operation is closed.** -/
theorem finishes_recover (h : Inv cfg (· = id) w)
    (hcfg : cfg.Valid) (huntil : now.addSeconds cfg.leaseSeconds = .ok leaseUntil)
    (hrow : w.db.operations.get? id = some row) (hopen : row.state.terminal = false)
    (hexpired : row.leaseRunning cfg.changes now = false) (hb : b.Covers cfg w id row)
    (hsettled : b.Settled cfg w) (hrecoverable : Recoverable w row b) :
    Finishes cfg leaseUntil (fun answer w' => answer.ClosesOn id row b w')
      (recover cfg id now) w := by
  refine finishes_bind (fun found w' => w = w' ∧ row = found)
    (finishes_query (expect_eq_ok.mpr hrow) ⟨rfl, rfl⟩) ?_
  rintro _ _ ⟨rfl, rfl⟩
  rw [if_neg (by rw [hopen]; exact Bool.false_ne_true)]
  obtain ⟨stored, hstored, hroot⟩ := proposalStatus_ok h hb
  refine finishes_bind (fun found w' => w = w' ∧ stored = found)
    (finishes_query hstored ⟨rfl, rfl⟩) ?_
  rintro _ _ ⟨rfl, rfl⟩
  refine finishes_bind (fun _ w' => w = w')
    (finishes_storeCheck (by simpa using hroot) rfl) ?_
  rintro _ _ rfl
  refine finishes_bind
    (fun claimed w' => ∃ token row', claimed = .lease token leaseUntil row' ∧
      Held cfg leaseUntil ⟨id, token, row'.leaseEpoch⟩ row' w'.db ∧
      row'.state = .recoveryRequired ∧ row'.targetRefDigest = row.targetRefDigest ∧
      b.Covers cfg w' id row' ∧ b.Settled cfg w' ∧ Recoverable w' row' b)
    (finishes_authority fun c hc => ?_) ?_
  · let request : ClaimRequest := ⟨id, cfg.ownerId, cfg.leaseSeconds⟩
    have howner : isChangeId request.ownerId = true := hcfg.owner
    obtain ⟨db', hok⟩ := claimOperation_ok howner hcfg.lease huntil hrow
      hopen hexpired
    refine ⟨db', _, hok, c.secret, _, rfl, ?_⟩
    obtain ⟨hget, hcontinues, keys, heffect⟩ := claimOperation_continues hrow hok
    refine ⟨⟨effect_sound h.sound heffect, hget, rfl, rfl, rfl, rfl⟩, rfl,
      hcontinues.same.targetRefDigest, hb.continues hcontinues rfl
        (fun k p hp => effect_proposals heffect hp), hsettled, hrecoverable.reached,
      hrecoverable.regular, ?_⟩
    rw [hcontinues.proven]
    exact hrecoverable.backed
  rintro _ w₁ ⟨token, row', rfl, hheld, hstate, htarget, hb', hsettled', hrecoverable'⟩
  refine finishes_bind (fun found w' => w₁ = w' ∧ b = found)
    (finishes_inspect fun _ _ => ⟨b, by rw [hb'.stored], rfl, rfl⟩) ?_
  rintro _ _ ⟨rfl, rfl⟩
  refine finishes_bind (fun _ w' => w₁ = w')
    (finishes_storeCheck (authorityChecks_pass hb' hroot) rfl) ?_
  rintro _ _ rfl
  refine finishes_bind (fun _ w' => w₁ = w') (finishes_phase rfl) ?_
  rintro _ _ rfl
  refine Prog.Safe.mono (finishes_reconcile hheld hstate hb' hsettled' hrecoverable')
    (fun _ _ => trivial) ?_ fun _ _ h => h
  rintro answer w₂ ⟨hfresh, hclosed, hreleased, hfile, htemp⟩
  exact ⟨hfresh, hclosed, htarget ▸ hreleased, hfile, htemp⟩

/-! ## What a recovery that returns has passed -/

abbrev IfReturned {α : Type} (P : α → Prop) (p : WriteProg α) (w : World) : Prop :=
  Keeps (fun _ => True) (fun a _ => P a) p w

theorem ifReturned_of_forall {α : Type} {P : α → Prop} {p : WriteProg α}
    (h : ∀ a, P a) : IfReturned P p w :=
  Prog.Safe.of_forall (fun _ => trivial) (fun a _ => h a) fun _ _ => trivial

theorem openParent_reached {path : String} {Q : Unit → World → Prop}
    (h : w.refusal path = none → Q () w) :
    Keeps (fun _ => True) Q (openParent path) w := by
  refine keeps_inspect trivial ?_
  intro c _ hok
  cases hrefusal : w.refusal path with
  | none => exact h hrefusal
  | some code => rw [hrefusal] at hok; cases hok

theorem cleanup_reached {path name : String} :
    IfReturned (fun _ => w.refusal path = none ∧
        ∀ code, w.temporaries (parentOf path, name) ≠ some (.other code))
      (cleanupTemporary path name) w := by
  refine keeps_bind (fun _ w' => w = w' ∧ w.refusal path = none)
    (openParent_reached fun h => ⟨rfl, h⟩) ?_
  rintro _ _ ⟨rfl, hreached⟩
  refine keeps_bind (fun found w' => w = w' ∧ found = w.temporaries (parentOf path, name))
    (keeps_inspect trivial fun _ found hfound =>
      ⟨rfl, (Except.ok.inj hfound).symm⟩) ?_
  rintro found _ ⟨rfl, hfound⟩
  match found, hfound with
  | none, hfound => exact ⟨hreached, by rw [← hfound]; exact nofun⟩
  | some (.other code), hfound => exact trivial
  | some (.regular file), hfound =>
    exact ifReturned_of_forall fun _ => ⟨hreached, by rw [← hfound]; exact nofun⟩

theorem reconcile_recoverable (hb : b.Covers cfg w id row) :
    IfReturned (fun _ => Recoverable w row b) (reconcile cfg b lease row) w := by
  refine keeps_bind (fun _ w' => w = w' ∧ b.backupMatches = true)
    (keeps_storeCheck trivial fun h => ⟨rfl, h _ (List.mem_singleton_self _)⟩) ?_
  rintro _ _ ⟨rfl, hbackup⟩
  refine keeps_bind _ cleanup_reached ?_
  rintro _ w₁ ⟨hreached, hregular⟩
  refine ifReturned_of_forall fun _ => ⟨hreached, hregular, ?_⟩
  by_contra hunbacked
  rw [not_or, Bool.not_eq_true] at hunbacked
  have hnone := hb.unready (by rw [hb.phase, hunbacked.2]; rfl)
  cases hoperation : b.operation with
  | create => exact hunbacked.1 hoperation
  | replace before =>
    rw [RecoveryBundle.backupMatches, hoperation, hnone] at hbackup
    cases hbackup

theorem recover_recoverable {id : String} {now : Instant}
    (hrow : w.db.operations.get? id = some row) (hopen : row.state.terminal = false)
    (hb : b.Covers cfg w id row) :
    IfReturned (fun answer => answer.replayed = false → Recoverable w row b)
      (recover cfg id now) w := by
  refine keeps_bind (fun found w' => w = w' ∧ row = found)
    (keeps_query trivial fun found hfound => ⟨rfl, ?_⟩) ?_
  · rw [Db.operationStatus, hrow] at hfound
    exact Except.ok.inj hfound
  rintro _ _ ⟨rfl, rfl⟩
  rw [if_neg (by rw [hopen]; exact Bool.false_ne_true)]
  refine keeps_skip (keeps_query trivial fun _ _ => rfl) fun stored => ?_
  refine keeps_skip (keeps_storeCheck trivial fun _ => rfl) fun _ => ?_
  refine keeps_bind
    (fun claimed w' => ∀ token leaseUntil row', claimed = .lease token leaseUntil row' →
      b.Covers cfg w' id row' ∧ (Recoverable w' row' b → Recoverable w row b))
    (keeps_authority trivial fun c db' a hok => ?_) ?_
  · rintro token leaseUntil row' rfl
    obtain ⟨hget, hcontinues, keys, heffect⟩ := claimOperation_continues hrow hok
    refine ⟨hb.continues hcontinues rfl fun k p hp => effect_proposals heffect hp,
      fun hrecoverable => ⟨hrecoverable.reached, hrecoverable.regular, ?_⟩⟩
    rw [← hcontinues.proven]
    exact hrecoverable.backed
  rintro claimed w₁ hclaimed
  cases claimed with
  | closed row' => exact nofun
  | lease token leaseUntil row' =>
    obtain ⟨hb', hback⟩ := hclaimed _ _ _ rfl
    refine keeps_bind (fun found w' => w₁ = w' ∧ b = found)
      (keeps_inspect trivial fun _ found hfound => ⟨rfl, ?_⟩) ?_
    · rw [hb'.stored] at hfound
      exact Except.ok.inj hfound
    rintro _ _ ⟨rfl, rfl⟩
    refine keeps_skip (keeps_storeCheck trivial fun _ => rfl) fun _ => ?_
    refine keeps_skip (keeps_phase trivial rfl) fun _ => ?_
    exact keeps_mono (reconcile_recoverable hb') fun _ _ hrecoverable _ =>
      hback hrecoverable

theorem recoverable_of_closed {inputs : ℕ → Circumstance}
    (hrow : w.db.operations.get? id = some row) (hopen : row.state.terminal = false)
    (hb : b.Covers cfg w id row)
    (hclosed : Closed id row b ((recover cfg id now).complete inputs w)) :
    Recoverable w row b := by
  have hpassed := @Prog.Safe.complete _ _ _ _ _ _ _ _
    (@recover_recoverable _ _ _ _ _ now hrow hopen hb) inputs fun _ => trivial
  cases hend : (recover cfg id now).complete inputs w with
  | mk ending w' =>
    rw [hend] at hclosed hpassed
    cases ending with
    | ok answer => exact hpassed hclosed.1
    | error e => exact hclosed.elim

/-- **A recovery closes its operation exactly when it is recoverable.**  After any run
in which nobody else touches its target, however executions and recoveries were
interrupted, in calm circumstances once the lease has expired. -/
theorem recover_closes_iff (cfg : WriteConfig) (hcfg : cfg.Valid)
    (files : String → Option Entry) (refusal : String → Option String)
    (activities : List Activity) (id : String) (now leaseUntil : Instant)
    (row : OperationRow) (inputs : ℕ → Circumstance)
    (hrun : RunRespects cfg (· = id) (World.initial files refusal) activities)
    (hrow : (worldAfter cfg (World.initial files refusal) activities).db.operations.get?
      id = some row) (hopen : row.state.terminal = false)
    (hexpired : row.leaseRunning cfg.changes now = false)
    (huntil : now.addSeconds cfg.leaseSeconds = .ok leaseUntil)
    (hcalm : ∀ n, Calm cfg leaseUntil (inputs n)) :
    ∃ b : RecoveryBundle,
      b.Covers cfg (worldAfter cfg (World.initial files refusal) activities) id row ∧
        (Closed id row b ((recover cfg id now).complete inputs
            (worldAfter cfg (World.initial files refusal) activities)) ↔
          Recoverable (worldAfter cfg (World.initial files refusal) activities) row b) := by
  have hinv := inv_worldAfter (inv_initial files refusal) hrun
  obtain ⟨b, hb, hsettled⟩ := hinv.covered id row hrow hopen
  refine ⟨b, hb, recoverable_of_closed hrow hopen hb, fun hrecoverable => ?_⟩
  have hfinished := Prog.Safe.complete
    (finishes_recover hinv hcfg huntil hrow hopen hexpired hb (hsettled rfl) hrecoverable)
    hcalm
  cases hend : (recover cfg id now).complete inputs
      (worldAfter cfg (World.initial files refusal) activities) with
  | mk ending w' =>
    rw [hend] at hfinished
    cases ending with
    | ok answer => exact hfinished
    | error e => exact hfinished.elim

/-! ## Sample crashes -/

/-- The replacement of `README.md` is proposed and its execution is cut short behind a
number of steps: right behind `prepare_operation`, or when the candidate has landed. -/
def sampleCrash (steps : ℕ) : List Activity :=
  [.propose (sampleInput (sampleHex "a")) sampleScript,
    .execute (sampleRequest (sampleHex "a")) (sampleScript.take steps)]

def sampleCrashed (steps : ℕ) : World :=
  worldAfter sampleWriteConfig (World.initial sampleFiles fun _ => none) (sampleCrash steps)

def sampleOperationId : String := sampleWriteConfig.operationId "run" "key"

/-- A second worker comes when the lease has expired. -/
def sampleCalm : Circumstance :=
  { sampleCircumstance with now := sampleInstant 2000001, secret := "2" }

theorem sampleCrash_respects (steps : ℕ) :
    RunRespects sampleWriteConfig (· = sampleOperationId)
      (World.initial sampleFiles fun _ => none) (sampleCrash steps) := by
  intro before activity after h
  rcases before with _ | ⟨first, _ | ⟨second, before⟩⟩
  · cases h
    trivial
  · cases h
    intro _ _
    rw [worldAfter, List.foldl_cons, List.foldl_nil, Activity.after, createProposal_files]
    rfl
  · cases before <;> cases h

/-- No refusal and no foreign temporary stands in the way of the recovery. -/
def RecoveryBundle.reached (b : RecoveryBundle) (w : World) : Bool :=
  (w.refusal b.path).isNone && match w.temporaries (parentOf b.path, b.temporaryName) with
    | some (.other _) => false
    | _ => true

theorem recoverable_of_reached {w : World} {row : OperationRow} {b : RecoveryBundle}
    (h : b.reached w = true) (hproven : row.proven = true) : Recoverable w row b := by
  rw [RecoveryBundle.reached, Bool.and_eq_true, Option.isNone_iff_eq_none] at h
  refine ⟨h.1, fun code hcode => ?_, .inr hproven⟩
  have hregular := h.2
  rw [hcode] at hregular
  cases hregular

def sampleRow (w : World) : Option (OperationState × Bool × Bool × Bool) :=
  (w.db.operations.get? sampleOperationId).map fun row =>
    (row.state, row.leaseRunning sampleWriteConfig.changes (sampleInstant 2000000),
      row.proven, (w.bundles row.recovery).any (·.reached w))

theorem sampleCrashed_state :
    (sampleCrashed 8).files "README.md" = some (.regular sampleBefore) ∧
      sampleRow (sampleCrashed 8) = some (.prepared, false, false, true) ∧
      ((sampleCrashed 8).db.operations.get? sampleOperationId).bind (fun row =>
        ((sampleCrashed 8).db.proposals.get? row.proposalId).map
          (·.record.proposal.operationKind)) = some "replace" ∧
      sampleRow (sampleCrashed 30) = some (.commitReady, false, true, true) := by
  generalize hworld : sampleCrashed = w
  delta sampleCrashed sampleCrash worldAfter Activity.after createProposal execute executeFresh
    applyAndCommit rollbackReady commitAuthority afterBrokerError undo
    Db.registerProposal Db.recordVerifiedGrant Db.prepareOperation Db.markRollbackReady
    Db.markApplying Db.markCommitReady Db.markApplied Db.markCommitted Db.transition
    validatedProposal approvalSubjectPayload ApprovalTrustStore.verify
    ApprovalTrustStore.verifySignature at hworld
  rw [changeDigest_eq, approvalDigest_eq] at hworld
  subst hworld
  decide +kernel

theorem sampleCalm_calm : Calm sampleWriteConfig (sampleInstant 3000000) sampleCalm :=
  ⟨rfl, by decide⟩

/-- Nothing fails once the lease has expired, but no `recover` closes the operation. -/
theorem recover_strands_prepared :
    (sampleCrashed 8).files "README.md" = some (.regular sampleBefore) ∧
      ∃ row, (sampleCrashed 8).db.operations.get? sampleOperationId = some row ∧
        row.state = .prepared ∧
        row.leaseRunning sampleWriteConfig.changes (sampleInstant 2000000) = false ∧
        ∀ b : RecoveryBundle,
          b.Covers sampleWriteConfig (sampleCrashed 8) sampleOperationId row →
          ¬Closed sampleOperationId row b
            ((recover sampleWriteConfig sampleOperationId (sampleInstant 2000000)).complete
              (fun _ => sampleCalm) (sampleCrashed 8)) := by
  obtain ⟨hfile, hstate, hkind, -⟩ := sampleCrashed_state
  obtain ⟨row, hrow, hvalues⟩ := Option.map_eq_some_iff.mp hstate
  simp only [Prod.mk.injEq] at hvalues
  obtain ⟨hprepared, hexpired, hproven, -⟩ := hvalues
  have hopen : row.state.terminal = false := by rw [hprepared]; rfl
  refine ⟨hfile, row, hrow, hprepared, hexpired, fun b hb =>
    mt (recoverable_of_closed hrow hopen hb) ?_⟩
  intro hrecoverable
  rcases hrecoverable.backed with hcreate | htrue
  · obtain ⟨p, hp, -, hoperation, -⟩ := hb.approved
    rw [hrow, Option.bind_some, hp] at hkind
    have hreplace : p.record.proposal.operationKind = "replace" := Option.some.inj hkind
    rw [hcreate, hreplace] at hoperation
    exact absurd hoperation (by decide)
  · rw [hproven] at htrue
    cases htrue

/-- Behind the landing of the candidate the recovery closes the operation. -/
theorem recover_closes_iff_sampleCrash :
    ∃ (row : OperationRow) (b : RecoveryBundle),
      b.Covers sampleWriteConfig (sampleCrashed 30) sampleOperationId row ∧
        row.state = .commitReady ∧
        Closed sampleOperationId row b ((recover sampleWriteConfig sampleOperationId
          (sampleInstant 2000000)).complete (fun _ => sampleCalm) (sampleCrashed 30)) := by
  obtain ⟨row, hrow, hvalues⟩ := Option.map_eq_some_iff.mp sampleCrashed_state.2.2.2
  simp only [Prod.mk.injEq] at hvalues
  obtain ⟨hready, hexpired, hproven, hreached⟩ := hvalues
  have hopen : row.state.terminal = false := by rw [hready]; rfl
  have hvalid : sampleWriteConfig.Valid := ⟨by decide, by decide⟩
  have huntil : (sampleInstant 2000000).addSeconds sampleWriteConfig.leaseSeconds =
      .ok (sampleInstant 3000000) := rfl
  rw [sampleCrashed] at hrow
  obtain ⟨b, hb, hcloses⟩ := recover_closes_iff sampleWriteConfig hvalid sampleFiles
    (fun _ => none) (sampleCrash 30) sampleOperationId (sampleInstant 2000000)
    (sampleInstant 3000000) row (fun _ => sampleCalm) (sampleCrash_respects 30) hrow hopen
    hexpired huntil fun _ => sampleCalm_calm
  rw [← sampleCrashed] at hb hcloses
  rw [hb.stored, Option.any_some] at hreached
  refine ⟨row, b, hb, ?_⟩
  rw [hcloses]
  exact ⟨hready, recoverable_of_reached hreached hproven⟩

end Ecosystem.Changes
