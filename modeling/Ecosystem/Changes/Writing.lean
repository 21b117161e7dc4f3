import Ecosystem.Changes.BrokerSafety

/-!
# Executions and recoveries keep the invariant

`Holding` is what a worker knows between two steps: its operation is in some state, and
the recovery bundle that it last bound covers it.  Each transition moves a worker from
one state to the next.
-/

namespace Ecosystem.Changes

open Ecosystem.Lib
open Ecosystem.Lib.Prog (safe_catch safe_act)

variable {cfg : WriteConfig} {calm : String → Prop} {α β : Type} {J : World → Prop}
  {Q : α → World → Prop} {w : World}

/-! ## Rules for the stores -/

theorem keeps_weaken {J' : World → Prop} {Q' : α → World → Prop} {p : WriteProg α}
    (h : Keeps J' Q' p w) (hJ : ∀ w, J' w → J w) (hQ : ∀ a w', Q' a w' → Q a w') :
    Keeps J Q p w :=
  h.mono hJ hQ fun _ => hJ

theorem keeps_authority {call : Circumstance → Db → Except StoreError (Db × α)} (hJ : J w)
    (hok : ∀ c db' a, call c w.db = .ok (db', a) → Q a { w with db := db' }) :
    Keeps J Q (authority call) w := by
  refine keeps_attempt hJ ?_ ?_
  · intro c a w' h
    cases hcall : call c w.db with
    | ok answer => rw [hcall] at h; cases h; exact hok c _ _ hcall
    | error e => rw [hcall] at h; cases h
  · intro c e w' h
    cases hcall : call c w.db with
    | ok answer => rw [hcall] at h; cases h
    | error e => rw [hcall] at h; cases h; exact hJ

theorem keeps_query {read : Db → Except StoreError α} (hJ : J w)
    (hok : ∀ a, read w.db = .ok a → Q a w) : Keeps J Q (query read) w := by
  refine keeps_inspect hJ ?_
  intro c a h
  cases hread : read w.db with
  | ok answer => rw [hread] at h; cases h; exact hok a hread
  | error e => rw [hread] at h; cases h

theorem keeps_storeCheck {checks : List (Bool × StoreError)} {Q : Unit → World → Prop}
    (hJ : J w) (hQ : (∀ check ∈ checks, check.1 = true) → Q () w) :
    Keeps J Q (storeCheck checks) w := by
  unfold storeCheck
  cases h : require checks with
  | ok u => exact hQ (require_eq_ok.mp h)
  | error e => exact hJ

theorem keeps_readTime {text : TimeText} {Q : Instant → World → Prop} (hJ : J w)
    (hQ : ∀ t, Q t w) : Keeps J Q (readTime text) w := by
  unfold readTime
  split
  · exact hQ _
  · exact hJ

/-! ## A worker and its operation -/

structure Holding (cfg : WriteConfig) (calm : String → Prop) (id : String)
    (b : RecoveryBundle) (s : OperationState) (w : World) : Prop where
  inv : Inv cfg calm w
  row : ∃ row, w.db.operations.get? id = some row ∧ row.state = s ∧ b.Covers cfg w id row
  opened : s.terminal = false

variable {id : String} {b : RecoveryBundle} {s : OperationState}

theorem Holding.of_eq {w' : World} (h : Holding cfg calm id b s w)
    (hinv : Inv cfg calm w') (hdb : w'.db = w.db) (hbundles : w'.bundles = w.bundles) :
    Holding cfg calm id b s w' where
  inv := hinv
  row := by
    obtain ⟨row, hrow, hstate, hb⟩ := h.row
    exact ⟨row, hdb ▸ hrow, hstate,
      hb.continues (.refl row) hbundles fun k p hp => hdb ▸ hp⟩
  opened := h.opened

theorem Holding.ignores (key : TemporaryKey) : Ignores key (Holding cfg calm id b s) :=
  fun _ entry h => h.of_eq (h.inv.setTemporary key entry) rfl rfl

theorem Holding.record (h : Holding cfg calm id b s w) {event : Event}
    (hlanded : ∀ path entry, event ≠ .landed path entry)
    (hjudged : ∀ id' verdict, event = .judged id' verdict → id' = id) :
    Holding cfg calm id b s (w.record event) := by
  refine h.of_eq (h.inv.record hlanded ?_) rfl rfl
  intro id' verdict hevent
  obtain rfl := hjudged id' verdict hevent
  obtain ⟨row, hrow, hrowState, -⟩ := h.row
  refine ⟨row, hrow, fun hcommitted => ?_⟩
  have hopen := h.opened
  rw [← hrowState, hcommitted] at hopen
  cases hopen

theorem Holding.setFile (h : Holding cfg calm id b s w) {entry : Option Entry}
    (hsettled : b.Settled cfg (w.setFile b.path entry)) :
    Holding cfg calm id b s (w.setFile b.path entry) := by
  obtain ⟨row, hrow, hstate, hb⟩ := h.row
  exact h.of_eq (h.inv.setFile hrow (hstate ▸ h.opened) hb hsettled) rfl rfl

theorem Holding.restore (h : Holding cfg calm id b s w) (key : TemporaryKey)
    (temporary : Option Entry) :
    Holding cfg calm id b s (w.restore key b.path b.beforeEntry temporary) := by
  refine Holding.record ?_ (fun _ _ => nofun) (fun _ _ => nofun)
  exact (Holding.ignores key w temporary h).setFile (.inl (World.setFile_get _ _ _))

variable {row : OperationRow}

theorem exec_of_transition {call : Call} {tr : Transition} {lease : LeaseClaim}
    {tx : String} {db db' : Db} (hcall : call.transition? = some (tr, id, lease, tx))
    (hplain : call.bindsRecovery = false)
    (h : db.transition cfg.changes tr id lease tx = .ok (db', row)) :
    Call.exec cfg.changes db call = .ok db' := by
  cases call <;> cases hcall
  case markRollbackReady => cases hplain
  all_goals exact map_fst_eq_ok.mpr ⟨row, h⟩

/-- **One transition of a worker's operation.** -/
theorem Holding.move (h : Holding cfg calm id b s w) {call : Call} {tr : Transition}
    {lease : LeaseClaim} {tx : String} {db' : Db} {row' : OperationRow}
    (hcall : call.transition? = some (tr, id, lease, tx))
    (hplain : call.bindsRecovery = false)
    (hok : w.db.transition cfg.changes tr id lease tx = .ok (db', row'))
    (hopen : tr.target.terminal = false) :
    Holding cfg calm id b tr.target { w with db := db' } := by
  obtain ⟨row, hrow, hstate, hb⟩ := h.row
  have hexec := exec_of_transition hcall hplain hok
  have hinv := h.inv.plain hexec hplain (by
    rintro id' lease' tx' rfl
    cases hcall
    cases hopen)
  obtain ⟨keys, heffect, -⟩ := exec_committed hexec
  obtain ⟨hget, -⟩ := transition_eq_ok hrow hok
  obtain ⟨row₀, hrow₀, hcontinues⟩ := effect_origin heffect hplain hget
  rw [hrow] at hrow₀
  cases hrow₀
  exact ⟨hinv, ⟨row', hget, transition_state hrow hok,
    hb.continues hcontinues rfl fun k p hp => effect_proposals heffect hp⟩, hopen⟩

theorem Holding.finish (h : Inv cfg calm w) {call : Call} {tr : Transition}
    {lease : LeaseClaim} {tx : String} {db' : Db} {row' : OperationRow}
    (hcall : call.transition? = some (tr, id, lease, tx))
    (hplain : call.bindsRecovery = false)
    (hok : w.db.transition cfg.changes tr id lease tx = .ok (db', row'))
    (hcommit : tr.target = .committed → Accepted id w.trace) :
    Inv cfg calm { w with db := db' } := by
  refine h.exec (exec_of_transition hcall hplain hok) ?_ fun hbinds => by
    rw [hplain] at hbinds
    cases hbinds
  rintro id' lease' tx' rfl
  cases hcall
  exact hcommit rfl

/-! ## Hooks -/

theorem keeps_requireActivePlan {digest : String} {Q : Unit → World → Prop} (hJ : J w)
    (hQ : Q () w) : Keeps J Q (requireActivePlan digest) w :=
  keeps_inspect hJ fun _ _ _ => hQ

theorem keeps_persist (h : Inv cfg calm w) :
    Keeps (Inv cfg calm) (fun _ w' => Inv cfg calm w' ∧ w'.db = w.db ∧
        w'.files = w.files ∧ w'.trace = w.trace ∧
        w'.bundles (cfg.recoveryArtifact b) = some b ∧
        ∀ artifact stored, w.bundles artifact = some stored →
          w'.bundles artifact = some stored) (persistRecoveryBundle cfg b) w := by
  refine keeps_perform h ?_
  intro c w' hw'
  cases hstored : w.bundles (cfg.recoveryArtifact b) with
  | none =>
    rw [hstored] at hw'
    cases hw'
    refine ⟨h.addBundle hstored, rfl, rfl, rfl, if_pos rfl, ?_⟩
    intro artifact stored hartifact
    dsimp only
    rw [if_neg, hartifact]
    rintro rfl
    rw [hstored] at hartifact
    cases hartifact
  | some stored =>
    rw [hstored] at hw'
    dsimp only at hw'
    split at hw'
    · next heq =>
        cases hw'
        exact ⟨h, rfl, rfl, rfl, heq ▸ hstored, fun _ _ h => h⟩
    · cases hw'

def ExecuteRequest.Known (cfg : WriteConfig) (x : ExecuteRequest) (w : World) : Prop :=
  ∃ p, w.db.proposals.get? x.proposal.proposal.id = some p ∧
    p.record.proposal = cfg.authorityProposal x.proposal

theorem ExecuteRequest.Known.exec {x : ExecuteRequest} {call : Call} {db' : Db}
    (h : x.Known cfg w) (hexec : Call.exec cfg.changes w.db call = .ok db') :
    x.Known cfg { w with db := db' } := by
  obtain ⟨keys, heffect, -⟩ := exec_committed hexec
  obtain ⟨p, hp, heq⟩ := h
  exact ⟨p, effect_proposals heffect hp, heq⟩

/-- What the broker's `apply` is told about its operation. -/
structure Applying (cfg : WriteConfig) (calm : String → Prop) (x : ExecuteRequest)
    (id : String) (b : RecoveryBundle) (s : OperationState) (w : World) : Prop where
  holding : Holding cfg calm id b s w
  known : x.Known cfg w
  unjudged : ∀ verdict, .judged id verdict ∉ w.trace

variable {x : ExecuteRequest}

theorem Applying.ignores (key : TemporaryKey) : Ignores key (Applying cfg calm x id b s) :=
  fun w entry h => ⟨Holding.ignores key w entry h.holding, h.known, h.unjudged⟩

theorem Applying.move (h : Applying cfg calm x id b s w) {call : Call} {tr : Transition}
    {lease : LeaseClaim} {tx : String} {db' : Db} {row' : OperationRow}
    (hcall : call.transition? = some (tr, id, lease, tx))
    (hplain : call.bindsRecovery = false)
    (hok : w.db.transition cfg.changes tr id lease tx = .ok (db', row'))
    (hopen : tr.target.terminal = false) :
    Applying cfg calm x id b tr.target { w with db := db' } where
  holding := h.holding.move hcall hplain hok hopen
  known := h.known.exec (exec_of_transition hcall hplain hok)
  unjudged := h.unjudged

theorem update_rollbackReady {cfg : ChangeConfig} {before intent : String}
    {artifact : RecoveryArtifact} {now : Instant} :
    ((rollbackReadyTransition before intent artifact).update cfg id now row).recovery =
        artifact ∧
      ((rollbackReadyTransition before intent artifact).update cfg id now row).proven =
        true :=
  ⟨rfl, rfl⟩

theorem backupMatches_backupProof {intentDigest : String} :
    (b.ready intentDigest (backupProof cfg b.operation.before)).backupMatches = true := by
  unfold RecoveryBundle.backupMatches RecoveryBundle.ready backupProof
  cases b.operation with
  | create => rfl
  | replace before => simp [WriteOperation.before, WriteConfig.makeProof]

theorem Applying.ready (h : Applying cfg calm x id b .prepared w) {intentDigest before tx : String}
    {lease : LeaseClaim} {db' : Db} {row' : OperationRow} {b' : RecoveryBundle}
    (hb' : b' = b.ready intentDigest (backupProof cfg b.operation.before))
    (hstored : w.bundles (cfg.recoveryArtifact b') = some b')
    (hread : ∀ file, b.operation.before = some file → Readable cfg file)
    (hfile : w.files b.path = b.beforeEntry)
    (hok : w.db.markRollbackReady cfg.changes id before intentDigest
      (cfg.recoveryArtifact b') lease tx = .ok (db', row')) :
    Applying cfg calm x id b' .rollbackReady { w with db := db' } := by
  have hexec : Call.exec cfg.changes w.db (.markRollbackReady id before intentDigest
      (cfg.recoveryArtifact b') lease tx) = .ok db' := map_fst_eq_ok.mpr ⟨row', hok⟩
  obtain ⟨keys, heffect, -⟩ := exec_committed hexec
  obtain ⟨row, hrow, hstate, hb⟩ := h.holding.row
  rw [Db.markRollbackReady, require_bind_eq_ok] at hok
  obtain ⟨hget, hcases⟩ := transition_eq_ok hrow hok.2
  rcases hcases with ⟨hsame, -⟩ | ⟨-, hupdate, -⟩
  · rw [hstate] at hsame
    cases hsame
  have hsame : row.SameIdentity row' := hupdate ▸ update_sameIdentity
  have hcovers : b'.Covers cfg { w with db := db' } id row' := by
    refine ⟨?_, ?_, ?_, ?_, ?_, ?_⟩
    · rw [hupdate, update_rollbackReady.1]
      exact hstored
    · rw [hb']
      obtain ⟨h₁, h₂, h₃, h₄, h₅, h₆, h₇, h₈⟩ := hb.belongs.continues hsame
      exact ⟨h₁, h₂, h₃, h₄, h₅, h₆, h₇, h₈⟩
    · obtain ⟨p, hp, hrest⟩ := hb.approved
      rw [hb']
      exact ⟨p, hsame.proposalId.symm ▸ effect_proposals heffect hp, hrest⟩
    · rw [hupdate, update_rollbackReady.2, hb']
      rfl
    · rw [hb']
      intro hready
      cases hready
    · intro _
      rw [hb']
      exact ⟨backupMatches_backupProof, rfl, hread⟩
  have hinv : Inv cfg calm { w with db := db' } := by
    refine h.holding.inv.exec hexec (fun _ _ _ hcommitted => by cases hcommitted) ?_
    intro _ id' row'' hid hrow' _
    cases hid
    rw [hget] at hrow'
    cases hrow'
    refine ⟨b', hcovers, fun _ => .inl ?_⟩
    rw [hb']
    exact hfile
  exact ⟨⟨hinv, ⟨row', hget, hupdate ▸ update_state, hcovers⟩, rfl⟩, h.known.exec hexec,
    h.unjudged⟩

theorem keeps_rollbackReady {lease : HeldLease}
    (h : Applying cfg calm x lease.operationId b .prepared w)
    (hfile : w.files b.path = b.beforeEntry)
    (hread : ∀ file, b.operation.before = some file → Readable cfg file) :
    Keeps (Inv cfg calm) (fun _ w' => ∃ intentDigest, Applying cfg calm x lease.operationId
          (b.ready intentDigest (backupProof cfg b.operation.before)) .applying w')
      (rollbackReady cfg x b lease (backupProof cfg b.operation.before)) w := by
  have hinv := h.holding.inv
  refine keeps_skip (keeps_requireActivePlan hinv rfl) fun _ => ?_
  cases hfind : x.proposal.plan.tools.find? (·.id = "repository.write") with
  | none => exact hinv
  | some tool =>
    refine keeps_bind (fun t w' => t = tool ∧ w = w') ⟨rfl, rfl⟩ ?_
    rintro _ _ ⟨rfl, rfl⟩
    refine keeps_skip (keeps_phase hinv rfl) fun _ => ?_
    refine keeps_bind _ (keeps_persist hinv) ?_
    rintro _ w₁ ⟨hinv₁, hdb, hfiles, htrace, hstored, hkept⟩
    have h₁ : Applying cfg calm x lease.operationId b .prepared w₁ := by
      obtain ⟨row, hrow, hstate, hb⟩ := h.holding.row
      refine ⟨⟨hinv₁, ⟨row, hdb ▸ hrow, hstate, ?_⟩, rfl⟩, ?_, htrace ▸ h.unjudged⟩
      · refine { hb with stored := hkept _ _ hb.stored, approved := ?_ }
        rw [hdb]
        exact hb.approved
      · rw [ExecuteRequest.Known, hdb]
        exact h.known
    refine keeps_bind (fun _ w' => Applying cfg calm x lease.operationId
        (b.ready _ (backupProof cfg b.operation.before)) .rollbackReady w')
      (keeps_authority hinv₁ fun c db' a hok =>
        h₁.ready rfl hstored hread (hfiles ▸ hfile) hok) ?_
    intro _ w₂ h₂
    refine keeps_skip (keeps_requireActivePlan h₂.holding.inv rfl) fun _ => ?_
    refine keeps_bind (fun _ w' => Applying cfg calm x lease.operationId
        (b.ready _ (backupProof cfg b.operation.before)) .applying w')
      (keeps_authority h₂.holding.inv fun c db' a hok =>
        @Applying.move _ _ _ _ _ _ _ h₂
          (.markApplying lease.operationId (lease.claim cfg c)
          c.transactionId) _ _ _ _ _ rfl rfl hok rfl) ?_
    intro _ w₃ h₃
    exact ⟨_, h₃⟩

theorem update_leaseRunning {cfg : ChangeConfig} {tr : Transition} {now at_ : Instant}
    (hopen : tr.target.terminal = false) :
    (tr.update cfg id now row).leaseRunning cfg at_ = row.leaseRunning cfg at_ := by
  have huntil : (tr.update cfg id now row).leaseUntilEpochUs = row.leaseUntilEpochUs := by
    have hcolumn : ∀ (c : Option (DigestColumn × String)) (r : OperationRow),
        (c.elim r fun c => r.setColumn c.2 c.1).leaseUntilEpochUs = r.leaseUntilEpochUs := by
      rintro (_ | ⟨c, digest⟩) r
      · rfl
      · cases c <;> rfl
    unfold Transition.update
    rw [if_neg (by rw [hopen]; exact Bool.false_ne_true)]
    cases tr.recovery with
    | none | some artifact => exact (hcolumn _ _).trans (hcolumn _ _)
  rw [OperationRow.leaseRunning, OperationRow.leaseRunning, huntil]

/-- The bundle of an execution whose rollback is ready. -/
structure ExecuteRequest.Bundled (cfg : WriteConfig) (x : ExecuteRequest)
    (b : RecoveryBundle) : Prop where
  path : b.path = x.proposal.path
  operation : b.operation = x.arguments.operation
  after : b.after = x.proposal.candidate
  proposalId : b.proposalId = x.proposal.proposal.id

theorem ExecuteRequest.bundled_prepared (temporaryName : String) :
    x.Bundled cfg (x.preparedBundle cfg temporaryName) :=
  ⟨rfl, rfl, rfl, rfl⟩

theorem ExecuteRequest.Bundled.ready {intentDigest : String} {proof : Option ArtifactProof}
    (h : x.Bundled cfg b) : x.Bundled cfg (b.ready intentDigest proof) :=
  ⟨h.path, h.operation, h.after, h.proposalId⟩

/-- The checks of `execute` that later steps rely on. -/
structure ExecuteRequest.Bound (cfg : WriteConfig) (x : ExecuteRequest) : Prop where
  path : x.proposal.proposal.pathDigest = cfg.pathReferenceDigest x.proposal.path
  root : cfg.rootIdentityDigest = x.proposal.snapshot.rootIdentityDigest
  descriptor : cfg.artifactDescriptor x.proposal.candidateArtifact
    x.proposal.candidateProof = x.arguments.candidateArtifact

theorem ExecuteRequest.bound_of_checks
    (h : ∀ check ∈ x.bindingChecks cfg, check.1 = true) : x.Bound cfg := by
  simp only [ExecuteRequest.bindingChecks, List.forall_mem_cons, Bool.and_eq_true,
    decide_eq_true_eq] at h
  obtain ⟨⟨⟨⟨⟨⟨⟨⟨⟨⟨⟨⟨⟨⟨-, -⟩, -⟩, hpath⟩, -⟩, -⟩, -⟩, -⟩, -⟩, -⟩, -⟩, -⟩, -⟩, hroot⟩,
    hdescriptor, -⟩ := h
  exact ⟨hpath, hroot, hdescriptor⟩

/-- **The commit authority** is durable and recorded before the candidate lands. -/
theorem keeps_commitAuthority {lease : HeldLease} (hx : x.Bundled cfg b)
    (hbound : x.Bound cfg) (h : Applying cfg calm x lease.operationId b .applying w) :
    Keeps (Inv cfg calm) (fun _ w' =>
        (Applying cfg calm x lease.operationId b .commitReady w' ∧
          ∃ event, w'.trace.getLast? = some event ∧
            Authorizes cfg w'.db x.proposal.path (.regular x.proposal.candidate) event) ∧
        w'.files = w.files ∧ w'.temporaries = w.temporaries)
      (commitAuthority cfg x lease) w := by
  refine keeps_attempt h.holding.inv ?_ ?_
  · intro c a w' hw'
    split at hw'
    · next hrun =>
        cases hmark : w.db.markCommitReady cfg.changes lease.operationId (lease.claim cfg c)
            c.transactionId with
        | error e => rw [hmark] at hw'; cases hw'
        | ok answer =>
          obtain ⟨db', row'⟩ := answer
          rw [hmark] at hw'
          cases hw'
          obtain ⟨row, hrow, hstate, hb⟩ := h.holding.row
          have hmoved := @Applying.move _ _ _ _ _ _ _ h
            (.markCommitReady lease.operationId
            (lease.claim cfg c) c.transactionId) _ _ _ _ _ rfl rfl hmark rfl
          obtain ⟨hget, ⟨hsame, -⟩ | ⟨-, hupdate, hchecks⟩⟩ := transition_eq_ok hrow hmark
          · rw [hstate] at hsame
            cases hsame
          obtain ⟨-, -, -, -, hrunning⟩ := checks_iff.mp hchecks
          have hsame : row.SameIdentity row' := hupdate ▸ update_sameIdentity
          refine ⟨⟨⟨hmoved.holding.record (fun _ _ => nofun) (fun _ _ => nofun),
            hmoved.known, ?_⟩, _, List.getLast?_concat .., ?_⟩, rfl, rfl⟩
          · intro verdict hmem
            rcases List.mem_append.mp hmem with hmem | hmem
            · exact hmoved.unjudged verdict hmem
            · cases List.mem_singleton.mp hmem
          · obtain ⟨p, hp, hproposal⟩ := hmoved.known
            refine ⟨?_, ?_, ?_, p, x.arguments.candidateArtifact,
              x.proposal.candidateProof, ?_, ?_, ?_, ?_, rfl⟩
            · exact hupdate ▸ update_state
            · rw [hupdate, update_leaseRunning rfl]
              exact hrunning
            · rw [hsame.targetRefDigest, ← hb.belongs.target, ← hb.belongs.path, hx.path]
            · rw [hsame.proposalId, ← hb.belongs.proposalId, hx.proposalId]
              exact hp
            · rw [hproposal]
              exact hrun
            · rw [hproposal]
              rfl
            · rw [← hbound.descriptor]
              rfl
    · cases hw'
  · intro c e w' hw'
    split at hw'
    · cases hmark : w.db.markCommitReady cfg.changes lease.operationId (lease.claim cfg c)
          c.transactionId with
      | error e => rw [hmark] at hw'; cases hw'; exact h.holding.inv
      | ok answer => rw [hmark] at hw'; cases hw'
    · cases hw'
      exact h.holding.inv

theorem Applying.land {temporaryName : String} (hx : x.Bundled cfg b)
    (hphase : b.phase = .rollbackReady)
    (h : Applying cfg calm x id b .commitReady w) {event : Event}
    (hlast : w.trace.getLast? = some event)
    (hauthorized : Authorizes cfg w.db x.proposal.path (.regular x.proposal.candidate) event)
    (hread : Readable cfg x.proposal.candidate) (entry : Option Entry) :
    Applying cfg calm x id b .commitReady (w.land (x.applyRequest temporaryName) entry) := by
  have hset := (Holding.ignores (x.applyRequest temporaryName).key w entry h.holding).setFile
    (.inr ⟨hphase, hx.after ▸ hread, by rw [World.setFile_get, hx.after]⟩)
  rw [hx.path] at hset
  refine ⟨hset.of_eq (hset.inv.land hlast hauthorized) rfl rfl, h.known, ?_⟩
  intro verdict hmem
  rcases List.mem_append.mp hmem with hmem | hmem
  · exact h.unjudged verdict hmem
  · cases List.mem_singleton.mp hmem

end Ecosystem.Changes
