import Ecosystem.Changes.Writing

/-!
# Outcomes of executions and recoveries

`execute` and `recover` keep the invariant from any world and in any circumstances, and
an answer that is no replay is what the broker has found at the target.
-/

namespace Ecosystem.Changes

open Ecosystem.Lib
open Ecosystem.Lib.Prog (safe_catch safe_act)

variable {cfg : WriteConfig} {calm : String → Prop} {w : World} {x : ExecuteRequest}
  {b : RecoveryBundle} {id : String}

/-- What the answer of a call says of a target. -/
def WriteExecution.Faithful (answer : WriteExecution) (path : String) (before : FileState)
    (candidate : File) (w : World) : Prop :=
  answer.replayed = false →
    (answer.state = .committed → w.files path = some (.regular candidate)) ∧
      (answer.state = .failed ∨ answer.state = .rolledBack →
        w.files path = before.map .regular)

/-! ## Compensation -/

theorem keeps_compensation {receipt : WriteResult} {name : String} {lease : HeldLease}
    {s : OperationState} (hpath : receipt.path = b.path)
    (hoperation : receipt.operation = b.operation) (h : Holding cfg calm id b s w) :
    Keeps (Holding cfg calm id b s)
      (fun result w' => Holding cfg calm id b s w' ∧ w'.files b.path = b.beforeEntry ∧
        result.state = b.operation.before)
      (rollback cfg receipt name (assertRollingBack cfg lease)) w := by
  have hkeeps := @keeps_rollback cfg _ _ (assertRollingBack cfg lease) _ _
    (Holding.ignores (parentOf receipt.path, name)) h
    (fun w₁ h₁ => keeps_inspect h₁ fun _ _ _ => rfl) (by
      intro proof before _ hreplace _ _ w₁ entry h₁ _
      have hentry : b.beforeEntry = some (.regular before) := by
        rw [RecoveryBundle.beforeEntry, ← hoperation, hreplace]
        rfl
      rw [hpath, ← hentry]
      exact h₁.restore _ _) (by
      intro hcreate w₁ entry h₁ _
      have hentry : b.beforeEntry = none := by
        rw [RecoveryBundle.beforeEntry, ← hoperation, hcreate]
        rfl
      rw [hpath, ← hentry]
      exact h₁.restore _ _)
  refine keeps_mono hkeeps ?_
  rintro result w' ⟨h', hfile, hstate⟩
  rw [hpath, hoperation] at hfile
  exact ⟨h', hfile, hstate.trans (by rw [hoperation])⟩

theorem keeps_undo {name intentDigest receiptDigest : String} {lease : HeldLease}
    {result : WriteResult} {candidate : File} (hpath : result.path = b.path)
    (hoperation : result.operation = b.operation)
    (h : Holding cfg calm lease.operationId b .applied w) :
    Keeps (Inv cfg calm) (fun answer w' => Inv cfg calm w' ∧
        answer.Faithful b.path b.operation.before candidate w')
      (undo cfg x name lease intentDigest receiptDigest result) w := by
  refine keeps_bind (fun _ => Holding cfg calm lease.operationId b .rollingBack)
    (keeps_authority h.inv fun c db' a hok =>
      @Holding.move _ _ _ _ _ _ h (.markRollingBack lease.operationId (lease.claim cfg c)
        c.transactionId) _ _ _ _ _ rfl rfl hok rfl) ?_
  intro _ w₁ h₁
  refine keeps_bind _ (keeps_weaken (keeps_compensation hpath hoperation h₁)
    (fun _ h => h.inv) fun _ _ h => h) ?_
  rintro rolledBack w₂ ⟨h₂, hfile, -⟩
  refine keeps_skip (keeps_phase h₂.inv rfl) fun _ => ?_
  refine keeps_bind (fun _ w' => Inv cfg calm w' ∧ w'.files b.path = b.beforeEntry)
    (keeps_authority h₂.inv fun c db' a hok => ⟨?_, hfile⟩) ?_
  · exact @Holding.finish _ _ _ _ h₂.inv (.markRolledBack lease.operationId _
      (lease.claim cfg c) c.transactionId) _ _ _ _ _ rfl rfl hok nofun
  · rintro _ w₃ ⟨hinv, hfile₃⟩
    exact ⟨hinv, fun _ => ⟨nofun, fun _ => hfile₃⟩⟩

/-! ## Execution -/

theorem keeps_judge {operationId : String} {s : OperationState}
    (h : Applying cfg calm x operationId b s w) :
    Keeps (Inv cfg calm) (fun accepted w' => Holding cfg calm operationId b s w' ∧
        w'.files = w.files ∧ (accepted = true → Accepted operationId w'.trace))
      (judge x operationId) w := by
  refine safe_act h.holding.inv ?_ ?_
  · intro c accepted w' _ hw'
    obtain ⟨haccepted, rfl⟩ := Prod.mk.inj hw'
    refine ⟨h.holding.record (fun _ _ => nofun) ?_, rfl, ?_⟩
    · intro id' verdict hevent
      exact (Event.judged.inj hevent).1.symm
    · rintro rfl
      refine ⟨⟨_, List.mem_append_right _ (List.mem_singleton_self _)⟩, fun verdict hmem => ?_⟩
      rcases List.mem_append.mp hmem with hmem | hmem
      · exact absurd hmem (h.unjudged verdict)
      · rw [(Event.judged.inj (List.mem_singleton.mp hmem)).2]
        exact Except.ok.inj haccepted
  · intro c e w' _ hw'
    cases hw'

def ReadyFor (cfg : WriteConfig) (calm : String → Prop) (x : ExecuteRequest) (id : String)
    (b : RecoveryBundle) (s : OperationState) (w : World) : Prop :=
  ∃ intentDigest, Applying cfg calm x id
    (b.ready intentDigest (backupProof cfg b.operation.before)) s w

theorem ReadyFor.ignores {s : OperationState} (key : TemporaryKey) :
    Ignores key (ReadyFor cfg calm x id b s) := by
  rintro w entry ⟨intentDigest, h⟩
  exact ⟨intentDigest, Applying.ignores key w entry h⟩

theorem ReadyFor.inv {s : OperationState} (h : ReadyFor cfg calm x id b s w) :
    Inv cfg calm w := by
  obtain ⟨_, h⟩ := h
  exact h.holding.inv

theorem keeps_applyHooks {lease : HeldLease} (hx : x.Bundled cfg b) (hbound : x.Bound cfg)
    (h : Applying cfg calm x lease.operationId b .prepared w) :
    Keeps (Inv cfg calm)
      (fun result w' => ReadyFor cfg calm x lease.operationId b .commitReady w' ∧
        w'.files x.proposal.path = some (.regular x.proposal.candidate) ∧
        result.path = b.path ∧ result.operation = b.operation)
      (apply cfg (x.applyRequest b.temporaryName) (rollbackReady cfg x b lease)
        (commitAuthority cfg x lease)) w := by
  have hkeeps := keeps_apply
    (J := Inv cfg calm)
    (A := Applying cfg calm x lease.operationId b .prepared)
    (B := ReadyFor cfg calm x lease.operationId b .applying)
    (C := fun w => ∃ intentDigest, Applying cfg calm x lease.operationId
        (b.ready intentDigest (backupProof cfg b.operation.before)) .commitReady w ∧
      ∃ event, w.trace.getLast? = some event ∧
        Authorizes cfg w.db x.proposal.path (.regular x.proposal.candidate) event)
    (D := ReadyFor cfg calm x lease.operationId b .commitReady)
    (fun w entry h => h.setTemporary _ entry) (fun w h => h.holding.inv)
    (ReadyFor.ignores _) (fun w h => h.inv)
    (by rintro w ⟨_, h, -⟩; exact h.holding.inv)
    (ReadyFor.ignores _) (fun w h => h.inv)
    (by
      intro w₁ h₁ hfile hread
      have hoperation : (x.applyRequest b.temporaryName).operation = b.operation :=
        hx.operation.symm
      rw [hoperation] at hfile hread ⊢
      refine keeps_rollbackReady h₁ ?_ hread
      rw [hx.path]
      exact hfile)
    (by
      rintro w₁ ⟨intentDigest, h₁⟩
      refine keeps_mono (keeps_commitAuthority hx.ready hbound h₁) ?_
      rintro _ w₂ ⟨⟨h₂, hevent⟩, hfiles, htemporaries⟩
      exact ⟨⟨intentDigest, h₂, hevent⟩, hfiles, htemporaries⟩)
    (by
      rintro w₁ entry ⟨intentDigest, h₁, event, hlast, hauthorized⟩ hread _
      exact ⟨intentDigest, h₁.land hx.ready rfl hlast hauthorized hread entry⟩)
    h
  refine keeps_mono hkeeps ?_
  rintro result w' ⟨h', hfile, rfl⟩
  exact ⟨h', hfile, hx.path.symm, hx.operation.symm⟩

theorem keeps_applyAndCommit {lease : HeldLease} (hx : x.Bundled cfg b)
    (hbound : x.Bound cfg) (h : Applying cfg calm x lease.operationId b .prepared w) :
    Keeps (Inv cfg calm) (fun answer w' => Inv cfg calm w' ∧ answer.Faithful x.proposal.path
        x.arguments.operation.before x.proposal.candidate w')
      (applyAndCommit cfg x b lease) w := by
  refine keeps_bind _ (keeps_applyHooks hx hbound h) ?_
  rintro result w₁ ⟨⟨intentDigest, h₁⟩, hfile, hpath, hoperation⟩
  refine keeps_skip (keeps_phase h₁.holding.inv rfl) fun _ => ?_
  refine keeps_bind (fun _ w' => Applying cfg calm x lease.operationId
      (b.ready intentDigest (backupProof cfg b.operation.before)) .applied w' ∧
      w'.files = w₁.files)
    (keeps_authority h₁.holding.inv fun c db' a hok =>
      ⟨@Applying.move _ _ _ _ _ _ _ h₁
        (.markApplied lease.operationId _ (lease.claim cfg c)
        c.transactionId) _ _ _ _ _ rfl rfl hok rfl, rfl⟩) ?_
  rintro _ w₂ ⟨h₂, hfiles₂⟩
  refine keeps_bind _ (keeps_judge (s := .applied) h₂) ?_
  rintro accepted w₃ ⟨h₃, hfiles₃, haccepted⟩
  cases accepted with
  | true =>
    refine keeps_bind (fun _ w' => Inv cfg calm w' ∧ w'.files = w₃.files)
      (keeps_authority h₃.inv fun c db' a hok => ⟨?_, rfl⟩) ?_
    · exact @Holding.finish _ _ _ _ h₃.inv (.markCommitted lease.operationId
        (lease.claim cfg c) c.transactionId) _ _ _ _ _ rfl rfl hok fun _ => haccepted rfl
    · rintro _ w₄ ⟨h₄, hfiles₄⟩
      refine ⟨h₄, fun _ => ⟨fun _ => ?_, ?_⟩⟩
      · rw [hfiles₄, hfiles₃, hfiles₂, hfile]
      · rintro (h | h) <;> cases h
  | false =>
    refine keeps_mono (@keeps_undo _ _ _ _
      (b.ready intentDigest (backupProof cfg b.operation.before)) _ _ _ _ _
      x.proposal.candidate hpath hoperation h₃) ?_
    rintro answer w₄ ⟨h₄, hfaithful⟩
    refine ⟨h₄, ?_⟩
    rw [← hx.operation, ← hx.path]
    exact hfaithful

theorem keeps_tryObserve {path : String} (h : Inv cfg calm w) :
    Keeps (Inv cfg calm) (fun observed w' => w = w' ∧
        ∀ state, observed = some state → w.files path = state.map .regular)
      (tryObserve cfg path) w := by
  refine @Prog.safe_catch _ _ _ _ _ _ _ _ _ (fun _ w' => w = w') ?_ ?_
  · refine @Prog.safe_bind _ _ _ _ _ _ _ _ _ _ (fun state w' => w = w' ∧
      w.files path = state.map .regular) ?_ ?_
    · have hobserve : Keeps (fun w' => w = w')
          (fun state w' => w = w' ∧ w.files path = state.map .regular) (observe cfg path) w :=
        keeps_observe rfl fun state hstate _ => ⟨rfl, hstate⟩
      exact hobserve.mono (fun _ hw => hw ▸ h) (fun _ _ h => h) fun _ _ h => h
    · rintro state _ ⟨rfl, hstate⟩
      refine ⟨rfl, ?_⟩
      rintro _ ⟨⟩
      exact hstate
  · rintro e _ rfl
    cases e with
    | broker code message => exact ⟨rfl, nofun⟩
    | store error | other => exact h

theorem keeps_afterBrokerError {lease : HeldLease} {candidate : File} (e : Failure)
    (h : Inv cfg calm w) :
    Keeps (Inv cfg calm) (fun answer w' => Inv cfg calm w' ∧ answer.Faithful x.proposal.path
        x.arguments.operation.before candidate w') (afterBrokerError cfg x lease e) w := by
  cases e with
  | store error | other => exact h
  | broker code message =>
    refine keeps_skip (keeps_query h fun _ _ => rfl) fun row => ?_
    refine keeps_bind _ (keeps_tryObserve h) ?_
    rintro observed _ ⟨rfl, hobserved⟩
    split
    · next huntouched =>
        refine keeps_bind (fun _ w' => Inv cfg calm w' ∧ w'.files = w.files)
          (keeps_authority h fun c db' a hok => ⟨?_, rfl⟩) ?_
        · exact @Holding.finish _ _ _ _ h (.markFailed lease.operationId _
            (lease.claim cfg c) c.transactionId) _ _ _ _ _ rfl rfl hok nofun
        · rintro _ w₁ ⟨h₁, hfiles⟩
          refine ⟨h₁, fun _ => ⟨nofun, fun _ => ?_⟩⟩
          rw [hfiles, hobserved _ huntouched.2]
    · refine keeps_bind (fun _ => Inv cfg calm)
        (keeps_authority h fun c db' a hok => ?_) ?_
      · exact @Holding.finish _ _ _ _ h (.markRecoveryRequired lease.operationId _
          (lease.claim cfg c) c.transactionId) _ _ _ _ _ rfl rfl hok nofun
      · intro _ w₁ h₁
        refine ⟨h₁, fun _ => ⟨nofun, ?_⟩⟩
        rintro (h | h) <;> cases h

theorem Applying.prepare (h : Inv cfg calm w) (hknown : x.Known cfg w) (hbound : x.Bound cfg)
    (hb : b = x.preparedBundle cfg b.temporaryName)
    (hstored : w.bundles (cfg.recoveryArtifact b) = some b)
    (hcalm : calm (x.operationId cfg) → w.files b.path = b.beforeEntry)
    {c : Circumstance} {db' : Db} {token intentDigest : String} {leaseUntil : Instant}
    (hok : w.db.prepareOperation cfg.changes (x.prepareRequest cfg b) x.now
      c.transactionId c.secret = .ok (db', .fresh token leaseUntil intentDigest)) :
    Applying cfg calm x (x.operationId cfg) b .prepared { w with db := db' } := by
  have hexec : Call.exec cfg.changes w.db (.prepareOperation (x.prepareRequest cfg b) x.now
      c.transactionId c.secret) = .ok db' := map_fst_eq_ok.mpr ⟨_, hok⟩
  obtain ⟨keys, heffect, -⟩ := exec_committed hexec
  obtain ⟨-, habsent, proposal, hproposal, hget⟩ := prepareOperation_fresh hok
  obtain ⟨p, hp, hrecord⟩ := hknown
  have heq : proposal = p := Option.some.inj (hproposal.symm.trans hp)
  subst heq
  obtain ⟨hrun, htarget, -⟩ := h.columns _ _ hproposal
  have hcovers : b.Covers cfg { w with db := db' } (x.operationId cfg)
      (cfg.changes.operationRow (x.prepareRequest cfg b) proposal c.secret leaseUntil
        x.now) := by
    refine ⟨hstored, ?_, ⟨proposal, effect_proposals heffect hproposal, ?_, ?_, ?_⟩, ?_, ?_, ?_⟩
    · rw [hb]
      refine ⟨rfl, ?_, rfl, rfl, ?_, hbound.root.symm, ?_, hbound.path.symm⟩
      · exact .trans (.symm (congrArg Proposal.runId hrecord)) hrun.symm
      · exact (congrArg Proposal.policyDecisionDigest hrecord).symm
      · exact .trans (.symm (congrArg Proposal.targetRefDigest hrecord)) htarget.symm
    · exact (congrArg Proposal.rootIdentityDigest hrecord).trans hbound.root.symm
    · rw [hrecord, hb]
      rfl
    · rw [hrecord, hb]
      rfl
    · rw [hb]
      rfl
    · rw [hb]
      exact fun _ => rfl
    · rw [hb]
      exact nofun
  have hinv : Inv cfg calm { w with db := db' } := by
    refine h.exec hexec (fun _ _ _ => nofun) ?_
    intro _ id row hid hrow _
    cases hid
    rw [hget] at hrow
    cases hrow
    exact ⟨b, hcovers, fun hid => .inl (hcalm hid)⟩
  refine ⟨⟨hinv, ⟨_, hget, rfl, hcovers⟩, rfl⟩, ?_, ?_⟩
  · exact ⟨proposal, effect_proposals heffect hproposal, hrecord⟩
  · intro verdict hmem
    obtain ⟨row, hrow⟩ := h.judged _ verdict hmem
    rw [show w.db.operations.get? (x.operationId cfg) = none from habsent] at hrow
    cases hrow

theorem keeps_executeFresh (h : Inv cfg calm w) (hknown : x.Known cfg w)
    (hbound : x.Bound cfg) (hcalm : calm (x.operationId cfg) →
      w.files x.proposal.path = x.arguments.operation.before.map .regular) :
    Keeps (Inv cfg calm) (fun answer w' => Inv cfg calm w' ∧ answer.Faithful x.proposal.path
        x.arguments.operation.before x.proposal.candidate w') (executeFresh cfg x) w := by
  refine keeps_skip (keeps_inspect h fun _ _ _ => rfl) fun _ => ?_
  refine keeps_skip (keeps_readTime h fun _ => rfl) fun decisionExpires => ?_
  refine keeps_skip (keeps_storeCheck h fun _ => rfl) fun _ => ?_
  cases hverify : cfg.changes.trust.verify x.envelope
      x.proposal.authoritySubjectDigest x.now with
  | error e => exact h
  | ok window =>
  refine keeps_skip rfl fun window => ?_
  refine keeps_skip (keeps_readTime h fun _ => rfl) fun requestedAt => ?_
  refine keeps_skip (keeps_readTime h fun _ => rfl) fun requestExpires => ?_
  refine keeps_skip (keeps_storeCheck h fun _ => rfl) fun _ => ?_
  refine keeps_skip (keeps_phase h rfl) fun _ => ?_
  refine keeps_bind (fun _ w' => Inv cfg calm w' ∧ x.Known cfg w' ∧ w'.files = w.files)
    (keeps_authority h fun c db' a hok => ?_) ?_
  · have hexec : Call.exec cfg.changes w.db (.recordVerifiedGrant x.envelope x.now
        c.transactionId) = .ok db' := map_fst_eq_ok.mpr ⟨a, hok⟩
    exact ⟨h.plain hexec rfl (fun _ _ _ hcall => by cases hcall), hknown.exec hexec, rfl⟩
  rintro _ w₁ ⟨h₁, hknown₁, hfiles₁⟩
  refine keeps_skip (keeps_inspect h₁ fun _ _ _ => rfl) fun name => ?_
  refine keeps_bind _ (keeps_persist h₁) ?_
  rintro _ w₂ ⟨h₂, hdb, hfiles₂, -, hstored, -⟩
  have hknown₂ : x.Known cfg w₂ := by
    rw [ExecuteRequest.Known, hdb]
    exact hknown₁
  refine keeps_bind (fun prepared w' => Inv cfg calm w' ∧
      ∀ token leaseUntil intentDigest, prepared = .fresh token leaseUntil intentDigest →
        Applying cfg calm x (x.operationId cfg) (x.preparedBundle cfg name) .prepared w')
    (keeps_authority h₂ fun c db' a hok => ?_) ?_
  · cases a with
    | replayed row =>
      refine ⟨?_, fun _ _ _ hfresh => by cases hfresh⟩
      rw [prepareOperation_replayed hok]
      exact h₂
    | fresh token leaseUntil intentDigest =>
      have happlying := Applying.prepare h₂ hknown₂ hbound rfl hstored (fun hid => by
        rw [hfiles₂, hfiles₁]
        exact hcalm hid) hok
      exact ⟨happlying.holding.inv, fun _ _ _ _ => happlying⟩
  rintro prepared w₃ ⟨h₃, hfresh⟩
  cases prepared with
  | replayed row =>
    refine keeps_skip (keeps_query h₃ fun _ _ => rfl) fun row => ?_
    exact ⟨h₃, fun hreplayed => by cases hreplayed⟩
  | fresh token leaseUntil intentDigest =>
    refine safe_catch
      (keeps_applyAndCommit
        (ExecuteRequest.bundled_prepared name) hbound (hfresh _ _ _ rfl)) ?_
    intro e w₄ h₄
    exact keeps_afterBrokerError e h₄

theorem keeps_replayExisting {row : OperationRow} {path : String} {before : FileState}
    {candidate : File} (h : Inv cfg calm w) :
    Keeps (Inv cfg calm)
      (fun answer w' => Inv cfg calm w' ∧ answer.Faithful path before candidate w')
      (replayExisting cfg x row) w := by
  cases hverify : cfg.changes.trust.verifySignature x.envelope
      x.proposal.authoritySubjectDigest with
  | error e =>
    unfold replayExisting
    rw [hverify]
    exact h
  | ok window =>
    unfold replayExisting
    rw [hverify]
    refine keeps_skip rfl fun _ => ?_
    refine keeps_skip (keeps_query h fun _ _ => rfl) fun stored => ?_
    refine keeps_skip (keeps_storeCheck h fun _ => rfl) fun _ => ?_
    exact ⟨h, nofun⟩

theorem keeps_execute (h : Inv cfg calm w)
    (hcalm : calm (x.operationId cfg) → w.db.operations.get? (x.operationId cfg) = none →
      w.files x.proposal.path = x.arguments.operation.before.map .regular) :
    Keeps (Inv cfg calm) (fun answer w' => Inv cfg calm w' ∧ answer.Faithful x.proposal.path
        x.arguments.operation.before x.proposal.candidate w') (execute cfg x) w := by
  refine keeps_bind (fun _ w' => w = w' ∧ x.Bound cfg)
    (keeps_storeCheck h fun hchecks => ⟨rfl, ExecuteRequest.bound_of_checks hchecks⟩) ?_
  rintro _ _ ⟨rfl, hbound⟩
  refine keeps_bind (fun stored w' => w = w' ∧
      ∃ p, w.db.proposals.get? x.proposal.proposal.id = some p ∧ stored = p.record)
    (keeps_query h fun stored hstored => ⟨rfl, ?_⟩) ?_
  · rw [Db.proposalStatus, require_bind_eq_ok] at hstored
    obtain ⟨p, hp, hstored⟩ := bind_eq_ok.mp hstored.2
    cases hstored
    exact ⟨p, expect_eq_ok.mp hp, rfl⟩
  rintro _ _ ⟨rfl, p, hp, rfl⟩
  refine keeps_bind (fun _ w' => w = w' ∧ x.Known cfg w) (keeps_storeCheck h ?_) ?_
  · intro hchecks
    have := hchecks _ (List.mem_singleton_self _)
    simp only [ExecuteRequest.authorizedBy, Bool.and_eq_true, decide_eq_true_eq] at this
    exact ⟨rfl, p, hp, this.1⟩
  rintro _ _ ⟨rfl, hknown⟩
  refine keeps_bind (fun existing w' => w = w' ∧
      existing = w.db.operations.get? (x.operationId cfg))
    (keeps_inspect h fun _ existing hexisting => ⟨rfl, (Except.ok.inj hexisting).symm⟩) ?_
  rintro existing _ ⟨rfl, hexisting⟩
  cases existing with
  | some row => exact keeps_replayExisting h
  | none =>
    exact keeps_executeFresh h hknown hbound fun hid => hcalm hid hexisting.symm

/-! ## Recovery -/

def WriteExecution.Closes (answer : WriteExecution) (b : RecoveryBundle) (w : World) : Prop :=
  answer.replayed = false → answer.state ≠ .committed ∧
    (answer.state = .failed ∨ answer.state = .rolledBack →
      w.files b.path = b.beforeEntry)

variable {lease : HeldLease} {row : OperationRow} {s : OperationState}

theorem keeps_cleanup {J : World → Prop} {path name : String}
    (hJ : Ignores (parentOf path, name) J) (h : J w) :
    Keeps J (fun _ => J) (cleanupTemporary path name) w := by
  refine keeps_skip (keeps_openParent h rfl) fun _ => ?_
  refine keeps_skip (keeps_inspect h fun _ _ _ => rfl) fun found => ?_
  match found with
  | none => exact h
  | some (.other _) => exact h
  | some (.regular _) =>
    refine keeps_skip (keeps_openParent h rfl) fun _ => ?_
    refine keeps_bind (fun _ => J) (keeps_mono
      (keeps_unlinkTemp hJ (fun _ h => h) h) fun _ _ h => h.1) ?_
    intro _ w₁ h₁
    refine keeps_skip (keeps_phase h₁ rfl) fun _ => ?_
    refine keeps_skip (keeps_openParent h₁ rfl) fun _ => ?_
    exact h₁

theorem keeps_closeUntouched (h : Holding cfg calm lease.operationId b s w)
    (hfile : w.files b.path = b.beforeEntry) :
    Keeps (Inv cfg calm) (fun answer w' => Inv cfg calm w' ∧ answer.Closes b w')
      (closeUntouched cfg b lease row) w := by
  unfold closeUntouched
  split
  · refine keeps_bind (fun _ w' =>
        Holding cfg calm lease.operationId b .rollingBack w' ∧ w'.files = w.files)
      (keeps_authority h.inv fun c db' a hok =>
        ⟨@Holding.move _ _ _ _ _ _ h
          (.markRollingBack lease.operationId (lease.claim cfg c)
          c.transactionId) _ _ _ _ _ rfl rfl hok rfl, rfl⟩) ?_
    rintro _ w₁ ⟨h₁, hfiles₁⟩
    refine keeps_bind (fun _ w' => Inv cfg calm w' ∧ w'.files = w₁.files)
      (keeps_authority h₁.inv fun c db' a hok => ⟨?_, rfl⟩) ?_
    · exact @Holding.finish _ _ _ _ h₁.inv (.markRolledBack lease.operationId _
        (lease.claim cfg c) c.transactionId) _ _ _ _ _ rfl rfl hok nofun
    · rintro _ w₂ ⟨h₂, hfiles₂⟩
      exact ⟨h₂, fun _ => ⟨nofun, fun _ => by rw [hfiles₂, hfiles₁, hfile]⟩⟩
  · refine keeps_bind (fun _ w' => Inv cfg calm w' ∧ w'.files = w.files)
      (keeps_authority h.inv fun c db' a hok => ⟨?_, rfl⟩) ?_
    · exact @Holding.finish _ _ _ _ h.inv (.markFailed lease.operationId _
        (lease.claim cfg c) c.transactionId) _ _ _ _ _ rfl rfl hok nofun
    · rintro _ w₁ ⟨h₁, hfiles₁⟩
      exact ⟨h₁, fun _ => ⟨nofun, fun _ => by rw [hfiles₁, hfile]⟩⟩

theorem closes_recoveryRequired {operationId : String} {errorCode : Option String} :
    WriteExecution.Closes ⟨operationId, .recoveryRequired, false, errorCode⟩ b w :=
  fun _ => ⟨nofun, by rintro (h | h) <;> cases h⟩

theorem keeps_reportConflict {observed : FileState} (h : Inv cfg calm w) :
    Keeps (Inv cfg calm) (fun answer w' => Inv cfg calm w' ∧ answer.Closes b w')
      (reportConflict cfg lease observed) w := by
  refine keeps_bind (fun _ => Inv cfg calm) (keeps_authority h fun c db' a hok => ?_) ?_
  · have hexec : Call.exec cfg.changes w.db (.recordRecoveryConflict lease.operationId _
        (lease.claim cfg c) c.transactionId) = .ok db' := map_fst_eq_ok.mpr ⟨a, hok⟩
    exact h.plain hexec rfl fun _ _ _ hcall => by cases hcall
  · intro _ w₁ h₁
    exact ⟨h₁, closes_recoveryRequired⟩

theorem keeps_rollBackApplied (h : Holding cfg calm lease.operationId b s w) :
    Keeps (Inv cfg calm) (fun answer w' => Inv cfg calm w' ∧ answer.Closes b w')
      (rollBackApplied cfg b lease) w := by
  refine @Prog.safe_catch _ _ _ _ _ _ _ _ _ (fun _ => Inv cfg calm) ?_ ?_
  · refine keeps_bind (fun _ => Holding cfg calm lease.operationId b .rollingBack)
      (keeps_authority h.inv fun c db' a hok =>
        @Holding.move _ _ _ _ _ _ h
          (.markRollingBack lease.operationId (lease.claim cfg c)
          c.transactionId) _ _ _ _ _ rfl rfl hok rfl) ?_
    intro _ w₁ h₁
    refine keeps_bind _ (keeps_weaken (keeps_compensation (b := b) rfl rfl h₁)
      (fun _ h => h.inv) fun _ _ h => h) ?_
    rintro result w₂ ⟨h₂, hfile, -⟩
    refine keeps_bind (fun _ w' => Inv cfg calm w' ∧ w'.files b.path = b.beforeEntry)
      (keeps_authority h₂.inv fun c db' a hok => ⟨?_, hfile⟩) ?_
    · exact @Holding.finish _ _ _ _ h₂.inv (.markRolledBack lease.operationId _
        (lease.claim cfg c) c.transactionId) _ _ _ _ _ rfl rfl hok nofun
    · rintro _ w₃ ⟨h₃, hfile₃⟩
      exact ⟨h₃, fun _ => ⟨nofun, fun _ => hfile₃⟩⟩
  · intro e w₁ h₁
    cases e with
    | store error | other => exact h₁
    | broker code message =>
      refine keeps_bind (fun _ => Inv cfg calm)
        (keeps_authority h₁ fun c db' a hok => ?_) ?_
      · exact @Holding.finish _ _ _ _ h₁ (.markRecoveryRequired lease.operationId _
          (lease.claim cfg c) c.transactionId) _ _ _ _ _ rfl rfl hok nofun
      · intro _ w₂ h₂
        exact ⟨h₂, closes_recoveryRequired⟩

theorem keeps_reconcile (h : Holding cfg calm lease.operationId b s w) :
    Keeps (Inv cfg calm) (fun answer w' => Inv cfg calm w' ∧ answer.Closes b w')
      (reconcile cfg b lease row) w := by
  refine keeps_skip (keeps_storeCheck h.inv fun _ => rfl) fun _ => ?_
  refine keeps_bind (fun _ => Holding cfg calm lease.operationId b s)
    (keeps_weaken (keeps_cleanup (Holding.ignores _) h) (fun _ h => h.inv)
      fun _ _ h => h) ?_
  intro _ w₁ h₁
  refine keeps_bind (fun state w' => w₁ = w' ∧ w₁.files b.path = state.map .regular)
    (keeps_observe h₁.inv fun state hstate _ => ⟨rfl, hstate⟩) ?_
  rintro observed _ ⟨rfl, hobserved⟩
  split
  · next heq =>
      rw [heq] at hobserved
      exact keeps_closeUntouched h₁ hobserved
  split
  · exact keeps_reportConflict h₁.inv
  · refine keeps_skip (keeps_storeCheck h₁.inv fun _ => rfl) fun _ => ?_
    exact keeps_rollBackApplied h₁

/-- **A recovery.**  The bundle is the one that covers the operation. -/
theorem keeps_recover {now : Instant} (h : Inv cfg calm w) :
    Keeps (Inv cfg calm) (fun answer w' => Inv cfg calm w' ∧
        ∀ row, w.db.operations.get? id = some row → row.state.terminal = false →
          ∃ b : RecoveryBundle, b.Covers cfg w id row ∧ answer.Closes b w')
      (recover cfg id now) w := by
  refine keeps_bind (fun row w' => w = w' ∧ w.db.operations.get? id = some row)
    (keeps_query h fun row hrow => ⟨rfl, expect_eq_ok.mp hrow⟩) ?_
  rintro row _ ⟨rfl, hrow⟩
  by_cases hterminal : row.state.terminal = true
  · rw [if_pos hterminal]
    refine ⟨h, ?_⟩
    intro row' hrow' hopen
    rw [hrow] at hrow'
    cases hrow'
    rw [hterminal] at hopen
    cases hopen
  rw [if_neg hterminal]
  obtain ⟨b, hb, -⟩ := h.covered id row hrow (Bool.eq_false_iff.mpr hterminal)
  refine keeps_mono (Q := fun answer w' => Inv cfg calm w' ∧ answer.Closes b w') ?_ ?_
  swap
  · rintro answer w' ⟨hinv, hcloses⟩
    refine ⟨hinv, fun row' hrow' _ => ⟨b, ?_, hcloses⟩⟩
    rw [hrow] at hrow'
    cases hrow'
    exact hb
  refine keeps_skip (keeps_query h fun _ _ => rfl) fun stored => ?_
  refine keeps_skip (keeps_storeCheck h fun _ => rfl) fun _ => ?_
  refine keeps_bind (fun claimed w' => Inv cfg calm w' ∧
      ∀ token leaseUntil row', claimed = .lease token leaseUntil row' →
        Holding cfg calm id b .recoveryRequired w' ∧ b.Covers cfg w' id row')
    (keeps_authority h fun c db' a hok => ?_) ?_
  · have hexec : Call.exec cfg.changes w.db (.claimOperation _ now c.transactionId
        c.secret) = .ok db' := map_fst_eq_ok.mpr ⟨a, hok⟩
    have hinv := h.plain hexec rfl fun _ _ _ hcall => by cases hcall
    refine ⟨hinv, ?_⟩
    rintro token leaseUntil row' rfl
    obtain ⟨hget, hcontinues, keys, heffect⟩ := claimOperation_continues hrow hok
    obtain ⟨-, -, row₀, hrow₀, hclaim, -⟩ := claimOperation_lease hok
    rw [show w.db.operations.get? id = some row from hrow] at hrow₀
    cases hrow₀
    have hcovers := @RecoveryBundle.Covers.continues _ _ { w with db := db' } _ _ _ _ hb
      hcontinues rfl
      fun k p hp => effect_proposals heffect hp
    exact ⟨⟨hinv, ⟨row', hget, by rw [hclaim]; rfl, hcovers⟩, rfl⟩, hcovers⟩
  rintro claimed w₁ ⟨h₁, hlease⟩
  cases claimed with
  | closed row' => exact ⟨h₁, nofun⟩
  | lease token leaseUntil row' =>
    obtain ⟨hholding, hcovers⟩ := hlease _ _ _ rfl
    refine keeps_bind (fun b' w' => w₁ = w' ∧ b' = b) (keeps_inspect h₁ ?_) ?_
    · intro c b' hload
      rw [hcovers.stored] at hload
      cases hload
      exact ⟨rfl, rfl⟩
    rintro _ _ ⟨rfl, rfl⟩
    refine keeps_skip (keeps_storeCheck h₁ fun _ => rfl) fun _ => ?_
    refine keeps_skip (keeps_phase h₁ rfl) fun _ => ?_
    exact keeps_reconcile hholding

end Ecosystem.Changes
