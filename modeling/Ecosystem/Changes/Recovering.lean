import Ecosystem.Changes.Outcomes

/-!
# A recovery closes its operation

In circumstances in which nothing fails while its lease runs, `recover` comes to an end
and the operation is closed: every step succeeds, and the last releases the target.

One check comes too early: the backup is compared with the before-state, which an
operation that was only prepared has not got.
-/

namespace Ecosystem.Changes

open Ecosystem.Lib
open Ecosystem.Lib.Prog (safe_bind safe_act safe_onFail safe_catch)

/-! ## Rules for steps that succeed -/

section Definitions

variable (cfg : WriteConfig)

structure Calm (leaseUntil : Instant) (c : Circumstance) : Prop where
  fault : c.fault = none
  running : cfg.changes.epoch c.now < cfg.changes.epoch leaseUntil

/-- The program returns, and `Q` holds then. -/
abbrev Finishes {α : Type} (leaseUntil : Instant) (Q : α → World → Prop)
    (p : WriteProg α) (w : World) : Prop :=
  p.Safe (Calm cfg leaseUntil) ⟨fun _ => True, Q, fun _ _ => False⟩ w

end Definitions

variable {cfg : WriteConfig} {leaseUntil : Instant} {α β : Type}
  {Q : α → World → Prop} {w : World}

theorem finishes_attempt {f : Circumstance → World → Except Failure α × World}
    (h : ∀ c, Calm cfg leaseUntil c → ∃ a w', f c w = (.ok a, w') ∧ Q a w') :
    Finishes cfg leaseUntil Q (attempt f) w := by
  refine safe_act trivial ?_ ?_
  · intro c a w' hc hstep
    rw [hc.fault] at hstep
    obtain ⟨a', w₁, hf, hQ⟩ := h c hc
    rw [hf] at hstep
    cases hstep
    exact hQ
  · intro c e w' hc hstep
    rw [hc.fault] at hstep
    obtain ⟨a', w₁, hf, -⟩ := h c hc
    rw [hf] at hstep
    cases hstep

theorem finishes_inspect {f : Circumstance → World → Except Failure α}
    (h : ∀ c, Calm cfg leaseUntil c → ∃ a, f c w = .ok a ∧ Q a w) :
    Finishes cfg leaseUntil Q (inspect f) w :=
  finishes_attempt fun c hc =>
    let ⟨a, hf, hQ⟩ := h c hc
    ⟨a, w, by rw [hf], hQ⟩

theorem finishes_perform {f : Circumstance → World → Except Failure World}
    {Q : Unit → World → Prop}
    (h : ∀ c, Calm cfg leaseUntil c → ∃ w', f c w = .ok w' ∧ Q () w') :
    Finishes cfg leaseUntil Q (perform f) w :=
  finishes_attempt fun c hc =>
    let ⟨w', hf, hQ⟩ := h c hc
    ⟨(), w', by rw [hf], hQ⟩

theorem finishes_phase {Q : Unit → World → Prop} (hQ : Q () w) :
    Finishes cfg leaseUntil Q phase w :=
  finishes_inspect fun _ _ => ⟨(), rfl, hQ⟩

theorem finishes_check {ok : Bool} {e : Failure} {Q : Unit → World → Prop}
    (hok : ok = true) (hQ : Q () w) : Finishes cfg leaseUntil Q (check ok e) w := by
  subst hok
  exact hQ

theorem finishes_storeCheck {checks : List (Bool × StoreError)} {Q : Unit → World → Prop}
    (hchecks : ∀ check ∈ checks, check.1 = true) (hQ : Q () w) :
    Finishes cfg leaseUntil Q (storeCheck checks) w := by
  rw [storeCheck, require_eq_ok.mpr hchecks]
  exact hQ

theorem finishes_query {read : Db → Except StoreError α} {a : α}
    (hread : read w.db = .ok a) (hQ : Q a w) :
    Finishes cfg leaseUntil Q (query read) w :=
  finishes_inspect fun _ _ => ⟨a, by rw [hread], hQ⟩

theorem finishes_authority {call : Circumstance → Db → Except StoreError (Db × α)}
    (h : ∀ c, Calm cfg leaseUntil c → ∃ db' a, call c w.db = .ok (db', a) ∧
      Q a { w with db := db' }) :
    Finishes cfg leaseUntil Q (authority call) w :=
  finishes_attempt fun c hc =>
    let ⟨db', a, hcall, hQ⟩ := h c hc
    ⟨a, { w with db := db' }, by rw [hcall], hQ⟩

theorem finishes_bind {p : WriteProg β} {k : β → WriteProg α} (R : β → World → Prop)
    (h : Finishes cfg leaseUntil R p w)
    (hk : ∀ b w', R b w' → Finishes cfg leaseUntil Q (k b) w') :
    Finishes cfg leaseUntil Q (p >>= k) w :=
  safe_bind h hk

theorem finishes_catch {p : WriteProg α} {handler : Failure → WriteProg α}
    (h : Finishes cfg leaseUntil Q p w) :
    Finishes cfg leaseUntil Q (p.catch_ handler) w :=
  safe_catch h fun _ _ hfalse => hfalse.elim

/-! ## The broker -/

theorem readFileState_regular {state : FileState}
    (h : ∀ file, state = some file → Readable cfg file) :
    readFileState cfg (state.map .regular) = .ok state := by
  cases state with
  | none => rfl
  | some file =>
    obtain ⟨hlength, hcontent⟩ := h file rfl
    rw [Option.map_some, readFileState, if_neg (Nat.not_lt_of_le hlength), hcontent]

section Broker

variable {path : String} {key : TemporaryKey}

theorem finishes_openParent {Q : Unit → World → Prop} (hopen : w.refusal path = none)
    (hQ : Q () w) : Finishes cfg leaseUntil Q (openParent path) w :=
  finishes_inspect fun _ _ => ⟨(), by rw [hopen], hQ⟩

theorem finishes_observeTarget {state : FileState} {Q : FileState → World → Prop}
    (hfile : w.files path = state.map .regular)
    (hread : ∀ file, state = some file → Readable cfg file) (hQ : Q state w) :
    Finishes cfg leaseUntil Q (observeTarget cfg path) w :=
  finishes_inspect fun _ _ => ⟨state, by rw [hfile, readFileState_regular hread], hQ⟩

theorem finishes_observeTemporary {state : FileState} {Q : FileState → World → Prop}
    (hfile : w.temporaries key = state.map .regular)
    (hread : ∀ file, state = some file → Readable cfg file) (hQ : Q state w) :
    Finishes cfg leaseUntil Q (observeTemporary cfg key) w :=
  finishes_inspect fun _ _ => ⟨state, by rw [hfile, readFileState_regular hread], hQ⟩

theorem finishes_observe {state : FileState} {Q : FileState → World → Prop}
    (hopen : w.refusal path = none) (hfile : w.files path = state.map .regular)
    (hread : ∀ file, state = some file → Readable cfg file) (hQ : Q state w) :
    Finishes cfg leaseUntil Q (observe cfg path) w := by
  refine finishes_bind (fun _ w' => w = w') (finishes_openParent hopen rfl) ?_
  rintro _ _ rfl
  refine finishes_bind (fun s w' => w = w' ∧ s = state)
    (finishes_observeTarget hfile hread ⟨rfl, rfl⟩) ?_
  rintro _ _ ⟨rfl, rfl⟩
  refine finishes_bind (fun _ w' => w = w') (finishes_openParent hopen rfl) ?_
  rintro _ _ rfl
  exact hQ

structure World.Same (w w' : World) : Prop where
  db : w'.db = w.db
  refusal : w'.refusal = w.refusal

theorem World.Same.trans {w₁ w₂ w₃ : World} (h : w₁.Same w₂) (h' : w₂.Same w₃) :
    w₁.Same w₃ :=
  ⟨h'.db.trans h.db, h'.refusal.trans h.refusal⟩

theorem finishes_unlinkTemp {entry : Entry} {Q : Unit → World → Prop}
    (htemp : w.temporaries key = some entry) (hQ : Q () (w.setTemporary key none)) :
    Finishes cfg leaseUntil Q (unlinkTemp key) w :=
  finishes_perform fun _ _ => ⟨w.setTemporary key none, by rw [htemp], hQ⟩

theorem finishes_cleanup {name : String} (hopen : w.refusal path = none)
    (hregular : ∀ code, w.temporaries (parentOf path, name) ≠ some (.other code)) :
    Finishes cfg leaseUntil
      (fun _ w' => w.Same w' ∧ w'.bundles = w.bundles ∧ w'.files = w.files ∧
        w'.temporaries (parentOf path, name) = none) (cleanupTemporary path name) w := by
  refine finishes_bind (fun _ w' => w = w') (finishes_openParent hopen rfl) ?_
  rintro _ _ rfl
  refine finishes_bind
    (fun found w' => w = w' ∧ found = w.temporaries (parentOf path, name))
    (finishes_inspect fun _ _ => ⟨_, rfl, rfl, rfl⟩) ?_
  rintro found _ ⟨rfl, hfound⟩
  match found, hfound with
  | none, hfound => exact ⟨⟨rfl, rfl⟩, rfl, rfl, hfound.symm⟩
  | some (.other code), hfound => exact absurd hfound.symm (hregular code)
  | some (.regular file), hfound =>
    refine finishes_bind (fun _ w' => w = w') (finishes_openParent hopen rfl) ?_
    rintro _ _ rfl
    refine finishes_bind (fun _ w' => w' = w.setTemporary (parentOf path, name) none)
      (finishes_unlinkTemp hfound.symm rfl) ?_
    rintro _ _ rfl
    refine finishes_bind (fun _ w' => w' = w.setTemporary (parentOf path, name) none)
      (finishes_phase rfl) ?_
    rintro _ _ rfl
    refine finishes_bind (fun _ w' => w' = w.setTemporary (parentOf path, name) none)
      (finishes_openParent hopen rfl) ?_
    rintro _ _ rfl
    exact ⟨⟨rfl, rfl⟩, rfl, rfl, w.setTemporary_get _ _⟩

theorem finishes_copy {proof : ArtifactProof} {mode : ℕ}
    (hproof : proof = cfg.makeProof proof.storageRef proof.sha256 proof.byteLength)
    (hread : Readable cfg ⟨proof.sha256, proof.byteLength, mode⟩)
    (htemp : w.temporaries key = none) :
    Finishes cfg leaseUntil (fun _ w' => w.Same w' ∧ w'.files = w.files ∧
        w'.temporaries key = some (.regular ⟨proof.sha256, proof.byteLength, mode⟩))
      (copyCandidateToTemp cfg key proof mode) w := by
  refine finishes_bind (fun _ w' => w = w')
    (finishes_check (decide_eq_true hread.1) rfl) ?_
  rintro _ _ rfl
  refine finishes_bind (fun _ w' => w.Same w' ∧ w'.files = w.files) ?_ ?_
  · refine finishes_perform fun c _ =>
      ⟨w.setTemporary key (some (.regular c.draft)), by rw [htemp], ⟨rfl, rfl⟩, rfl⟩
  rintro _ w₁ ⟨hsame, hfiles⟩
  refine finishes_catch ?_
  refine finishes_bind (fun _ w' => w₁ = w')
    (finishes_inspect fun _ _ => ⟨(), if_pos hproof, rfl⟩) ?_
  rintro _ _ rfl
  refine finishes_bind
    (fun _ w' => w' = w₁.setTemporary key
      (some (.regular ⟨proof.sha256, proof.byteLength, mode⟩)))
    (finishes_perform fun _ _ => ⟨_, by rw [hread.2], rfl⟩) ?_
  rintro _ _ rfl
  exact finishes_phase ⟨hsame.trans ⟨rfl, rfl⟩, hfiles, w₁.setTemporary_get _ _⟩

/-! ## Rollback -/

variable {after before : File} {commitAuthority : WriteProg Unit}

structure World.Restored (w w' : World) (key : TemporaryKey) (path : String)
    (before : FileState) : Prop where
  same : w.Same w'
  file : w'.files path = before.map .regular
  temporary : w'.temporaries key = none

theorem finishes_removeCreated
    (hcommit : Finishes cfg leaseUntil (fun _ w' => w = w') commitAuthority w)
    (hread : Readable cfg after) (hfile : w.files path = some (.regular after))
    (htemp : w.temporaries key = none) :
    Finishes cfg leaseUntil (fun _ w' => w.Restored w' key path none)
      (removeCreated cfg key path after commitAuthority) w := by
  refine finishes_bind (fun _ w' => w = w') hcommit ?_
  rintro _ _ rfl
  refine finishes_bind (fun _ w' => w' = w.restore key path none (some (.regular after)))
    (finishes_perform fun _ _ => ⟨_, by rw [htemp, hfile]; rfl, rfl⟩) ?_
  rintro _ _ rfl
  refine finishes_bind (fun _ w' => w' = w.restore key path none (some (.regular after)))
    (finishes_phase rfl) ?_
  rintro _ _ rfl
  have hmoved : (w.restore key path none (some (.regular after))).temporaries key =
      some (.regular after) :=
    w.setTemporary_get key _
  refine finishes_bind
    (fun moved w' => w' = w.restore key path none (some (.regular after)) ∧
      moved = some after)
    (@finishes_observeTemporary _ _ _ _ (some after) _ hmoved
      (by rintro _ ⟨⟩; exact hread) ⟨rfl, rfl⟩) ?_
  rintro _ _ ⟨rfl, rfl⟩
  rw [if_pos rfl]
  exact finishes_unlinkTemp hmoved
    ⟨⟨rfl, rfl⟩, World.setFile_get (w.setTemporary key _) _ _, World.setTemporary_get _ _ _⟩

theorem finishes_restoreBefore (hopen : w.refusal path = none)
    (hcommit : Finishes cfg leaseUntil (fun _ w' => w = w') commitAuthority w)
    (hread : Readable cfg after) (hfile : w.files path = some (.regular after))
    (htemp : w.temporaries key = some (.regular before)) :
    Finishes cfg leaseUntil (fun _ w' => w.Restored w' key path (some before))
      (restoreBefore cfg key path after commitAuthority) w := by
  have hreads : ∀ file, some after = some file → Readable cfg file := by
    rintro _ ⟨⟩
    exact hread
  refine finishes_bind (fun _ w' => w = w') (finishes_openParent hopen rfl) ?_
  rintro _ _ rfl
  refine finishes_bind (fun latest w' => w = w' ∧ latest = some after)
    (@finishes_observeTarget _ _ _ _ (some after) _ hfile hreads ⟨rfl, rfl⟩) ?_
  rintro _ _ ⟨rfl, rfl⟩
  refine finishes_bind (fun _ w' => w = w') (finishes_check (decide_eq_true rfl) rfl) ?_
  rintro _ _ rfl
  refine finishes_bind (fun _ w' => w = w') hcommit ?_
  rintro _ _ rfl
  refine finishes_bind
    (fun _ w' => w' = w.restore key path (some (.regular before)) (some (.regular after)))
    (finishes_perform fun _ _ => ⟨_, by rw [htemp, hfile]; rfl, rfl⟩) ?_
  rintro _ _ rfl
  refine finishes_bind
    (fun _ w' => w' = w.restore key path (some (.regular before)) (some (.regular after)))
    (finishes_phase rfl) ?_
  rintro _ _ rfl
  have hmoved : (w.restore key path (some (.regular before))
      (some (.regular after))).temporaries key = some (.regular after) :=
    w.setTemporary_get key _
  refine finishes_bind
    (fun moved w' => moved = some after ∧
      w' = w.restore key path (some (.regular before)) (some (.regular after)))
    (@finishes_observeTemporary _ _ _ _ (some after) _ hmoved hreads ⟨rfl, rfl⟩) ?_
  rintro _ _ ⟨rfl, rfl⟩
  rw [if_pos rfl]
  exact finishes_unlinkTemp hmoved
    ⟨⟨rfl, rfl⟩, World.setFile_get (w.setTemporary key _) _ _, World.setTemporary_get _ _ _⟩

/-- **`rollback` restores the before-state of the bundle.** -/
theorem finishes_rollback {b : RecoveryBundle} (hopen : w.refusal b.path = none)
    (hbackup : b.backupMatches = true)
    (hbefore : ∀ file, b.operation.before = some file → Readable cfg file)
    (hafter : Readable cfg b.after) (hne : b.operation.before ≠ some b.after)
    (hfile : w.files b.path = some (.regular b.after))
    (htemp : w.temporaries (parentOf b.path, b.temporaryName) = none)
    (hcommit : ∀ w', w.Same w' →
      Finishes cfg leaseUntil (fun _ w'' => w' = w'') commitAuthority w') :
    Finishes cfg leaseUntil
      (fun _ w' => w.Restored w' (parentOf b.path, b.temporaryName) b.path
        b.operation.before)
      (rollback cfg (b.writeResult cfg) b.temporaryName commitAuthority) w := by
  have hreads : ∀ file, some b.after = some file → Readable cfg file := by
    rintro _ ⟨⟩
    exact hafter
  refine finishes_bind (fun _ w' => w = w') ?_ ?_
  · unfold verifyRollbackProof RecoveryBundle.writeResult
    unfold RecoveryBundle.backupMatches at hbackup
    cases hoperation : b.operation with
    | create =>
      cases hsome : b.backup with
      | none => exact rfl
      | some backup => rw [hoperation, hsome] at hbackup; cases hbackup
    | replace before =>
      cases hsome : b.backup with
      | none => rw [hoperation, hsome] at hbackup; cases hbackup
      | some backup =>
        rw [hoperation, hsome] at hbackup
        refine finishes_bind (fun _ w' => w = w') (finishes_check hbackup rfl) ?_
        rintro _ _ rfl
        exact finishes_inspect fun _ _ => ⟨(), if_pos rfl, rfl⟩
  rintro _ _ rfl
  refine finishes_bind (fun _ w' => w = w') (finishes_openParent hopen rfl) ?_
  rintro _ _ rfl
  refine finishes_bind (fun current w' => w = w' ∧ current = some b.after)
    (@finishes_observeTarget _ _ _ _ (some b.after) _ hfile hreads ⟨rfl, rfl⟩) ?_
  rintro _ _ ⟨rfl, rfl⟩
  have hother : some b.after ≠ (b.writeResult cfg).operation.before := Ne.symm hne
  rw [if_neg hother]
  refine finishes_bind (fun _ w' => w = w') (finishes_check (decide_eq_true rfl) rfl) ?_
  rintro _ _ rfl
  refine finishes_bind (fun _ w' => w = w') (finishes_openParent hopen rfl) ?_
  rintro _ _ rfl
  refine finishes_bind
    (fun _ w' => w.Restored w' (parentOf b.path, b.temporaryName) b.path
      b.operation.before) ?_ ?_
  · unfold compensate RecoveryBundle.writeResult
    unfold RecoveryBundle.backupMatches at hbackup
    cases hoperation : b.operation with
    | create =>
      exact finishes_catch
        (finishes_removeCreated (hcommit w ⟨rfl, rfl⟩) hafter hfile htemp)
    | replace before =>
      cases hsome : b.backup with
      | none => rw [hoperation, hsome] at hbackup; cases hbackup
      | some backup =>
        rw [hoperation, hsome] at hbackup
        simp only [Bool.and_eq_true, decide_eq_true_eq] at hbackup
        have hfile' : (⟨backup.sha256, backup.byteLength, before.mode⟩ : File) =
            before := by
          rw [hbackup.1, hbackup.2]
        have hread : Readable cfg before :=
          hbefore before (by rw [hoperation]; rfl)
        refine finishes_bind _
          (finishes_copy rfl (hfile' ▸ hread) htemp) ?_
        rintro _ w₁ ⟨hsame, hfiles, htemp₁⟩
        refine finishes_catch (Prog.Safe.mono (finishes_restoreBefore
          (hsame.refusal ▸ hopen) (hcommit w₁ hsame) hafter (hfiles ▸ hfile)
          (htemp₁.trans (congrArg (some ∘ Entry.regular) hfile')))
          (fun _ _ => trivial) ?_ fun _ _ h => h)
        rintro _ w₂ hrestored
        exact ⟨hsame.trans hrestored.same, hrestored.file, hrestored.temporary⟩
  rintro _ w₁ hrestored
  refine finishes_bind (fun _ w' => w₁ = w') (finishes_phase rfl) ?_
  rintro _ _ rfl
  refine finishes_bind (fun restored w' => w₁ = w' ∧ restored = b.operation.before)
    (finishes_observeTarget hrestored.file hbefore ⟨rfl, rfl⟩) ?_
  rintro _ _ ⟨rfl, rfl⟩
  refine finishes_bind (fun _ w' => w₁ = w') (finishes_check (decide_eq_true rfl) rfl) ?_
  rintro _ _ rfl
  exact hrestored

end Broker

/-! ## The holder of the lease -/

/-- What the constructor of the orchestrator checks. -/
structure WriteConfig.Valid (cfg : WriteConfig) : Prop where
  owner : isChangeId cfg.ownerId = true
  lease : 1 ≤ cfg.leaseSeconds ∧ cfg.leaseSeconds ≤ 3600

structure Held (cfg : WriteConfig) (leaseUntil : Instant) (lease : HeldLease)
    (row : OperationRow) (db : Db) : Prop where
  sound : db.Sound cfg.changes
  stored : db.operations.get? lease.operationId = some row
  owner : row.leaseOwnerId = some cfg.ownerId
  epoch : row.leaseEpoch = lease.epoch
  token : row.leaseTokenDigest = some (cfg.changes.leaseDigest lease.token)
  until_ : row.leaseUntilEpochUs = some (cfg.changes.epoch leaseUntil)

variable {lease : HeldLease} {row : OperationRow} {db : Db} {b : RecoveryBundle}

variable {c : Circumstance}

theorem Held.presents (h : Held cfg leaseUntil lease row db) (hc : Calm cfg leaseUntil c) :
    row.heldBy cfg.changes (lease.claim cfg c) = true ∧
      row.leaseRunning cfg.changes (lease.claim cfg c).now = true := by
  simp only [OperationRow.heldBy, OperationRow.leaseRunning, h.owner, h.epoch, h.token,
    h.until_, HeldLease.claim, Option.any_some, decide_true, Bool.and_self,
    true_and]
  exact decide_eq_true hc.running

structure Released (db : Db) (id target : String) (s : OperationState) : Prop where
  row : ∃ row, db.operations.get? id = some row ∧ row.state = s
  lock : ∃ lock, db.locks.get? target = some lock ∧ lock.operationId = id ∧
    lock.state = .released

section Transition

variable (h : Held cfg leaseUntil lease row db) (hc : Calm cfg leaseUntil c) {call : Call}
  {tr : Transition} {tx : String}
  (hcall : call.transition? = some (tr, lease.operationId, lease.claim cfg c, tx))
  (hplain : call.bindsRecovery = false) (hrecovery : tr.recovery = none)
  (hreceipt : ∀ column, tr.receipt = some column → isHexDigest column.2 = true)
  (hreason : ∀ column, tr.reason = some column → isHexDigest column.2 = true)
  (hallowed : row.state ∈ tr.allowed) (hsource : tr.recoverySourcePhase = none)

include h hc hcall hplain hrecovery hreceipt hreason hallowed hsource

theorem Held.transition (happlying : tr.target ≠ .applying) (hstate : row.state ≠ tr.target) :
    ∃ db', db.transition cfg.changes tr lease.operationId (lease.claim cfg c) tx =
        .ok (db', tr.update cfg.changes lease.operationId c.now row) ∧
      db'.Sound cfg.changes ∧ db'.toTables = (db.setOperation lease.operationId
        (tr.update cfg.changes lease.operationId c.now row)).relock lease.operationId
          row.targetRefDigest c.now tr.lockActive := by
  obtain ⟨hheld, hrunning⟩ := h.presents hc
  obtain ⟨db', hok, htables⟩ := transition_ok h.sound hcall hreceipt hreason h.stored hstate
    (checks_iff.mpr ⟨hallowed, fun _ => by rw [hsource]; rfl,
      fun htarget => absurd htarget happlying, hheld, hrunning⟩)
    (updateFree_of_recovery h.sound h.stored hrecovery)
  obtain ⟨keys, heffect, -⟩ := exec_committed (exec_of_transition hcall hplain hok)
  exact ⟨db', hok, effect_sound h.sound heffect, htables⟩

theorem Held.end_ (hterminal : tr.target.terminal = true) :
    ∃ db' row', db.transition cfg.changes tr lease.operationId (lease.claim cfg c) tx =
        .ok (db', row') ∧ Released db' lease.operationId row.targetRefDigest tr.target := by
  obtain ⟨hlock, hopens⟩ := transition?_spec hcall
  have hopen := hopens _ hallowed
  obtain ⟨db', hok, -, htables⟩ := Held.transition h hc hcall hplain hrecovery hreceipt hreason
    hallowed hsource
    (fun htarget => by rw [htarget] at hterminal; cases hterminal)
    (fun hsame => by rw [hsame, hterminal] at hopen; cases hopen)
  refine ⟨db', tr.update cfg.changes lease.operationId c.now row, hok,
    ⟨tr.update cfg.changes lease.operationId c.now row, ?_, update_state⟩, ?_⟩
  · rw [htables, relock_operations]
    exact (get?_setOperation h.stored _).trans (if_pos rfl)
  · obtain ⟨lock, hget, -, hid⟩ := h.sound.locked _ _ h.stored hopen
    rw [hlock, hterminal] at htables
    refine ⟨{ lock with state := .released, updatedAt := utc c.now }, ?_, hid, rfl⟩
    rw [htables]
    change (Tables.release _ _ _ _).locks.get? _ = _
    rw [get?_release, if_pos rfl]
    change (db.locks.get? row.targetRefDigest).map _ = _
    rw [hget, Option.map_some, if_pos hid]

end Transition

theorem Held.rollBack (h : Held cfg leaseUntil lease row db)
    (hc : Calm cfg leaseUntil c) (hstate : row.state = .recoveryRequired) :
    ∃ db' row', db.markRollingBack cfg.changes lease.operationId (lease.claim cfg c)
        c.transactionId = .ok (db', row') ∧
      Held cfg leaseUntil lease row' db' ∧ row'.state = .rollingBack ∧
      row'.targetRefDigest = row.targetRefDigest := by
  obtain ⟨db', hok, hsound, htables⟩ := @Held.transition _ _ _ _ _ _ h hc
    (.markRollingBack lease.operationId (lease.claim cfg c) c.transactionId) _ _ rfl rfl
    rfl (fun _ => by intro h; cases h) (fun _ => by intro h; cases h)
    (by rw [hstate]; decide) rfl nofun (by rw [hstate]; exact nofun)
  refine ⟨db', _, hok, ⟨hsound, ?_, h.owner, h.epoch, h.token, h.until_⟩, rfl, rfl⟩
  rw [htables, relock_operations]
  exact (get?_setOperation h.stored _).trans (if_pos rfl)

theorem Held.assertLease (h : Held cfg leaseUntil lease row db)
    (hc : Calm cfg leaseUntil c) (hstate : row.state = .rollingBack) :
    db.assertOperationLease cfg.changes lease.operationId .rollingBack
      (lease.claim cfg c) = .ok () := by
  obtain ⟨hheld, hrunning⟩ := h.presents hc
  have hintact := h.sound.intact _ _ h.stored
  refine require_bind_eq_ok.mpr ⟨?_, bind_eq_ok.mpr
    ⟨row, expect_eq_ok.mpr h.stored, require_eq_ok.mpr ?_⟩⟩
  · simp only [List.forall_mem_cons, List.not_mem_nil, false_implies, implies_true,
      and_true]
    exact ⟨hintact.identifier, hintact.owner _ h.owner, rfl⟩
  · simp only [OperationRow.requireLease, List.forall_mem_cons, List.not_mem_nil,
      false_implies, implies_true, and_true]
    exact ⟨decide_eq_true hstate, hheld, hrunning⟩

theorem Held.rolledBack (h : Held cfg leaseUntil lease row db)
    (hc : Calm cfg leaseUntil c) (hstate : row.state = .rollingBack)
    (document : WriteDocument) :
    ∃ db' row', db.markRolledBack cfg.changes lease.operationId (cfg.digest document)
        (lease.claim cfg c) c.transactionId = .ok (db', row') ∧
      Released db' lease.operationId row.targetRefDigest .rolledBack :=
  @Held.end_ _ _ _ _ _ _ h hc (.markRolledBack lease.operationId (cfg.digest document)
      (lease.claim cfg c) c.transactionId) _ _ rfl rfl rfl
    (by rintro _ ⟨⟩; exact cfg.digest_hex document) (by rintro _ ⟨⟩)
    (List.mem_singleton.mpr hstate) rfl rfl

theorem Held.failed (h : Held cfg leaseUntil lease row db)
    (hc : Calm cfg leaseUntil c) (hstate : row.state = .recoveryRequired)
    (document : WriteDocument) :
    ∃ db' row', db.markFailed cfg.changes lease.operationId (cfg.digest document)
        (lease.claim cfg c) c.transactionId = .ok (db', row') ∧
      Released db' lease.operationId row.targetRefDigest .failed :=
  @Held.end_ _ _ _ _ _ _ h hc (.markFailed lease.operationId (cfg.digest document)
      (lease.claim cfg c) c.transactionId) _ _ rfl rfl rfl (by rintro _ ⟨⟩)
    (by rintro _ ⟨⟩; exact cfg.digest_hex document)
    (by rw [hstate]; exact (by decide : .recoveryRequired ∈ nonterminal)) rfl rfl

end Ecosystem.Changes
