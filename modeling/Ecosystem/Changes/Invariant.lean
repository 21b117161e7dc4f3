import Ecosystem.Changes.Rows
import Ecosystem.Changes.Orchestrator

/-!
# The invariant of controlled writes

Wherever an execution or a recovery is interrupted, every open operation has its
recovery bundle of the phase of its row, a candidate lands right behind a commit
authority, and a rejected one is not committed.  The clause about the file itself is
asked of the `calm` operations only, which nobody else edits.
-/

namespace Ecosystem.Changes

open Ecosystem.Lib

section Definitions

variable (cfg : WriteConfig)

/-- The broker accepts the file. -/
def Readable (file : File) : Prop :=
  file.byteLength ≤ cfg.maximumFileBytes ∧ cfg.contentFault file.sha256 = none

def RecoveryBundle.beforeEntry (b : RecoveryBundle) : Option Entry :=
  b.operation.before.map .regular

structure RecoveryBundle.BelongsTo (b : RecoveryBundle) (id : String)
    (row : OperationRow) : Prop where
  operationId : b.operationId = id
  runId : b.runId = row.runId
  proposalId : b.proposalId = row.proposalId
  approvalId : b.approvalId = row.approvalId
  policyDecisionDigest : b.policyDecisionDigest = row.policyDecisionDigest
  root : b.rootIdentityDigest = cfg.rootIdentityDigest
  target : b.pathDigest = row.targetRefDigest
  path : cfg.pathReferenceDigest b.path = b.pathDigest

def RecoveryBundle.Approved (db : Db) (row : OperationRow) (b : RecoveryBundle) : Prop :=
  ∃ p, db.proposals.get? row.proposalId = some p ∧
    p.record.proposal.rootIdentityDigest = cfg.rootIdentityDigest ∧
    p.record.proposal.operationKind = b.operation.kind.text ∧
    p.record.proposal.rollbackDigest = cfg.digest (.expectedBefore b.operation.before)

structure RecoveryBundle.Covers (w : World) (id : String) (row : OperationRow)
    (b : RecoveryBundle) : Prop where
  stored : w.bundles row.recovery = some b
  belongs : b.BelongsTo cfg id row
  approved : b.Approved cfg w.db row
  phase : b.phase = if row.proven then .rollbackReady else .prepared
  unready : b.phase = .prepared → b.backup = none
  ready : b.phase = .rollbackReady → b.backupMatches = true ∧
    b.intentDigest.isSome = true ∧ ∀ file, b.operation.before = some file → Readable cfg file

/-- The target is as it was, or as it was to become. -/
def RecoveryBundle.Settled (w : World) (b : RecoveryBundle) : Prop :=
  w.files b.path = b.beforeEntry ∨
    b.phase = .rollbackReady ∧ Readable cfg b.after ∧
      w.files b.path = some (.regular b.after)

/-- What an authority to write says: a running lease on an operation in `commit_ready`,
a run that executes the approved plan, and the candidate of the approved proposal. -/
def Authorizes (db : Db) (path : String) (entry : Entry) : Event → Prop
  | .authorized _ row run now =>
    row.state = .commitReady ∧ row.leaseRunning cfg.changes now = true ∧
      row.targetRefDigest = cfg.pathReferenceDigest path ∧
      ∃ p descriptor proof, db.proposals.get? row.proposalId = some p ∧
        run.executes p.record.proposal.planDigest = true ∧
        p.record.proposal.desiredDigest = cfg.digest (.descriptor descriptor) ∧
        descriptor.availabilityProofDigest = cfg.digest (.availability proof) ∧
        entry = .regular ⟨proof.sha256, proof.byteLength, descriptor.mode⟩
  | _ => False

def Accepted (id : String) (trace : List Event) : Prop :=
  (∃ verdict, .judged id verdict ∈ trace) ∧
    ∀ verdict, .judged id verdict ∈ trace → accepts verdict = true

structure Inv (calm : String → Prop) (w : World) : Prop where
  sound : w.db.Sound cfg.changes
  columns : w.db.ProposalColumns
  covered : ∀ id row, w.db.operations.get? id = some row → row.state.terminal = false →
    ∃ b : RecoveryBundle, b.Covers cfg w id row ∧ (calm id → b.Settled cfg w)
  landed : ∀ pre path entry post, w.trace = pre ++ .landed path entry :: post →
    ∃ event, pre.getLast? = some event ∧ Authorizes cfg w.db path entry event
  judged : ∀ id verdict, .judged id verdict ∈ w.trace →
    ∃ row, w.db.operations.get? id = some row
  accepted : ∀ id row, w.db.operations.get? id = some row → row.state = .committed →
    Accepted id w.trace

end Definitions

variable {cfg : WriteConfig} {calm : String → Prop} {w w' : World}

/-! ## What the clauses depend on -/

theorem RecoveryBundle.BelongsTo.continues {b : RecoveryBundle} {id : String}
    {row row' : OperationRow} (h : b.BelongsTo cfg id row) (hsame : row.SameIdentity row') :
    b.BelongsTo cfg id row' where
  operationId := h.operationId
  runId := h.runId.trans hsame.runId.symm
  proposalId := h.proposalId.trans hsame.proposalId.symm
  approvalId := h.approvalId.trans hsame.approvalId.symm
  policyDecisionDigest := h.policyDecisionDigest.trans hsame.policyDecisionDigest.symm
  root := h.root
  target := h.target.trans hsame.targetRefDigest.symm
  path := h.path

theorem RecoveryBundle.Covers.continues {b : RecoveryBundle} {id : String}
    {row row' : OperationRow} (h : b.Covers cfg w id row) (hrow : row.Continues row')
    (hbundles : w'.bundles = w.bundles)
    (hproposals : ∀ k p, w.db.proposals.get? k = some p →
      w'.db.proposals.get? k = some p) : b.Covers cfg w' id row' where
  stored := by rw [hbundles, hrow.recovery, h.stored]
  belongs := h.belongs.continues hrow.same
  approved := by
    obtain ⟨p, hp, hrest⟩ := h.approved
    exact ⟨p, hrow.same.proposalId.symm ▸ hproposals _ _ hp, hrest⟩
  phase := by rw [hrow.proven, h.phase]
  unready := h.unready
  ready := h.ready

variable {path : String} {entry : Entry} {event : Event} {id : String} {call : Call}

theorem Authorizes.grow {db db' : Db} (h : Authorizes cfg db path entry event)
    (hproposals : ∀ k p, db.proposals.get? k = some p → db'.proposals.get? k = some p) :
    Authorizes cfg db' path entry event := by
  cases event with
  | authorized id row run now =>
    obtain ⟨hstate, hlease, htarget, p, d, proof, hp, hrest⟩ := h
    exact ⟨hstate, hlease, htarget, p, d, proof, hproposals _ _ hp, hrest⟩
  | _ => exact h

theorem Inv.of_eq (h : Inv cfg calm w) (hdb : w'.db = w.db)
    (hbundles : w'.bundles = w.bundles) (hfiles : w'.files = w.files)
    (htrace : w'.trace = w.trace) : Inv cfg calm w' where
  sound := hdb ▸ h.sound
  columns := hdb ▸ h.columns
  covered := by
    intro id row hrow hopen
    rw [hdb] at hrow
    obtain ⟨b, hb, hcalm⟩ := h.covered id row hrow hopen
    refine ⟨b, hb.continues (.refl row) hbundles fun k p hp => hdb ▸ hp, fun hid => ?_⟩
    rw [RecoveryBundle.Settled, hfiles]
    exact hcalm hid
  landed := by
    rw [htrace, hdb]
    exact h.landed
  judged := by
    rw [htrace, hdb]
    exact h.judged
  accepted := by
    rw [htrace, hdb]
    exact h.accepted

theorem Inv.setTemporary (h : Inv cfg calm w) (key : TemporaryKey)
    (entry : Option Entry) : Inv cfg calm (w.setTemporary key entry) :=
  h.of_eq rfl rfl rfl rfl

theorem Inv.addBundle (h : Inv cfg calm w) {b : RecoveryBundle}
    (hnew : w.bundles (cfg.recoveryArtifact b) = none) :
    Inv cfg calm { w with
      bundles := fun artifact =>
        if artifact = cfg.recoveryArtifact b then some b else w.bundles artifact } where
  sound := h.sound
  columns := h.columns
  covered := by
    intro id row hrow hopen
    obtain ⟨b', hb', hcalm⟩ := h.covered id row hrow hopen
    refine ⟨b', { hb' with stored := ?_ }, hcalm⟩
    dsimp only
    rw [if_neg, hb'.stored]
    intro heq
    rw [← heq, hb'.stored] at hnew
    cases hnew
  landed := h.landed
  judged := h.judged
  accepted := h.accepted

/-! ## Events -/

theorem landed_of_append {trace pre post : List Event}
    (h : trace ++ [event] = pre ++ .landed path entry :: post)
    (hevent : event ≠ .landed path entry) :
    ∃ post', trace = pre ++ .landed path entry :: post' := by
  rcases List.eq_nil_or_concat post with rfl | ⟨post', last, rfl⟩
  · obtain ⟨-, hlast⟩ := List.append_inj' h rfl
    cases hlast
    exact absurd rfl hevent
  · refine ⟨post', ?_⟩
    rw [List.concat_eq_append, ← List.cons_append, ← List.append_assoc] at h
    exact (List.append_inj' h rfl).1

theorem Accepted.append {trace : List Event}
    (h : Accepted id trace) (hevent : ∀ verdict, event ≠ .judged id verdict) :
    Accepted id (trace ++ [event]) := by
  obtain ⟨⟨verdict, hmem⟩, hall⟩ := h
  refine ⟨⟨verdict, List.mem_append_left _ hmem⟩, fun verdict' hmem' => ?_⟩
  rcases List.mem_append.mp hmem' with hmem' | hmem'
  · exact hall verdict' hmem'
  · exact absurd (List.mem_singleton.mp hmem').symm (hevent verdict')

theorem Inv.record (h : Inv cfg calm w)
    (hlanded : ∀ path entry, event ≠ .landed path entry)
    (hjudged : ∀ id verdict, event = .judged id verdict →
      ∃ row, w.db.operations.get? id = some row ∧ row.state ≠ .committed) :
    Inv cfg calm (w.record event) where
  sound := h.sound
  columns := h.columns
  covered := by
    intro id row hrow hopen
    obtain ⟨b, hb, hcalm⟩ := h.covered id row hrow hopen
    exact ⟨b, hb.continues (.refl row) rfl fun _ _ hp => hp, hcalm⟩
  landed := by
    intro pre path entry post htrace
    obtain ⟨post', hold⟩ := landed_of_append htrace (hlanded path entry)
    exact h.landed pre path entry post' hold
  judged := by
    intro id verdict hmem
    rcases List.mem_append.mp hmem with hmem | hmem
    · exact h.judged id verdict hmem
    · obtain ⟨row, hrow, -⟩ := hjudged id verdict (List.mem_singleton.mp hmem).symm
      exact ⟨row, hrow⟩
  accepted := by
    intro id row hrow hstate
    refine (h.accepted id row hrow hstate).append ?_
    intro verdict hevent
    obtain ⟨row', hrow', hstate'⟩ := hjudged id verdict hevent
    rw [show w.db.operations.get? id = some row from hrow] at hrow'
    cases hrow'
    exact hstate' hstate

/-! ## Files -/

theorem Inv.setFile (h : Inv cfg calm w) {row : OperationRow}
    {b : RecoveryBundle} (hrow : w.db.operations.get? id = some row)
    (hopen : row.state.terminal = false) (hb : b.Covers cfg w id row)
    {entry : Option Entry} (hsettled : b.Settled cfg (w.setFile b.path entry)) :
    Inv cfg calm (w.setFile b.path entry) where
  sound := h.sound
  columns := h.columns
  covered := by
    intro id' row' hrow' hopen'
    obtain ⟨b', hb', hcalm⟩ := h.covered id' row' hrow' hopen'
    by_cases hpath : b'.path = b.path
    · have htarget : row'.targetRefDigest = row.targetRefDigest := by
        rw [← hb'.belongs.target, ← hb.belongs.target, ← hb'.belongs.path,
          ← hb.belongs.path, hpath]
      obtain rfl := open_unique h.sound hrow' hopen' hrow hopen htarget
      rw [show w.db.operations.get? id' = some row' from hrow'] at hrow
      cases hrow
      exact ⟨b, hb.continues (.refl row) rfl fun _ _ hp => hp, fun _ => hsettled⟩
    · refine ⟨b', hb'.continues (.refl row') rfl fun _ _ hp => hp, fun hid => ?_⟩
      have hsame : (w.setFile b.path entry).files b'.path = w.files b'.path :=
        if_neg hpath
      rw [RecoveryBundle.Settled, hsame]
      exact hcalm hid
  landed := h.landed
  judged := h.judged
  accepted := h.accepted

theorem Inv.land (h : Inv cfg calm w) (hlast : w.trace.getLast? = some event)
    (hauthorized : Authorizes cfg w.db path entry event) :
    Inv cfg calm (w.record (.landed path entry)) where
  sound := h.sound
  columns := h.columns
  covered := by
    intro id row hrow hopen
    obtain ⟨b, hb, hcalm⟩ := h.covered id row hrow hopen
    exact ⟨b, hb.continues (.refl row) rfl fun _ _ hp => hp, hcalm⟩
  landed := by
    intro pre path' entry' post htrace
    by_cases heq : Event.landed path entry = .landed path' entry'
    · rcases List.eq_nil_or_concat post with rfl | ⟨post', last, rfl⟩
      · cases heq
        obtain ⟨htrace, -⟩ := List.append_inj' htrace rfl
        exact ⟨event, htrace ▸ hlast, hauthorized⟩
      · rw [World.record, List.concat_eq_append, ← List.cons_append,
          ← List.append_assoc] at htrace
        exact h.landed pre path' entry' post' (List.append_inj' htrace rfl).1
    · obtain ⟨post', hold⟩ := landed_of_append htrace heq
      exact h.landed pre path' entry' post' hold
  judged := by
    intro id verdict hmem
    rcases List.mem_append.mp hmem with hmem | hmem
    · exact h.judged id verdict hmem
    · cases List.mem_singleton.mp hmem
  accepted := fun id row hrow hstate =>
    (h.accepted id row hrow hstate).append fun verdict => by intro hevent; cases hevent

/-! ## Calls of the authority -/

theorem effect_committed {t t' : Tables} {keys : List EntityKey}
    (heffect : Effect cfg.changes t call t' keys) {row' : OperationRow}
    (hrow' : t'.operations.get? id = some row') (hstate : row'.state = .committed) :
    (∃ row, t.operations.get? id = some row ∧ row.state = .committed) ∨
      ∃ lease tx, call = .markCommitted id lease tx := by
  by_cases hid : call.operationId? = some id
  swap
  · rw [effect_other heffect hid] at hrow'
    exact .inl ⟨row', hrow', hstate⟩
  cases heffect with
  | quiet => exact .inl ⟨row', hrow', hstate⟩
  | registered | granted => cases hid
  | prepared _ _ _ _ _ _ hchecks =>
    cases hid
    rw [get?_addOperation (preparable_of_checks hchecks).absent, if_pos rfl] at hrow'
    cases hrow'
    cases hstate
  | moved hmoved hrecovery hrow hopen hchecks hupdate hlock =>
    rw [operationId?_of_transition? hmoved] at hid
    cases hid
    rw [relock_operations, get?_setOperation hrow, if_pos rfl] at hrow'
    cases hrow'
    rw [update_state] at hstate
    cases call <;> cases hmoved <;> first
      | exact .inr ⟨_, _, rfl⟩
      | cases hstate
  | @conflicted id₀ reason lease tx row hrow hrequired hlease =>
    cases hid
    rw [get?_setOperation hrow, if_pos rfl] at hrow'
    cases hrow'
    exact .inl ⟨row, hrow, hstate⟩
  | @claimed request now tx token leaseUntil row howner hrow hclaimable hexpired =>
    cases hid
    rw [get?_setOperation hrow, if_pos rfl] at hrow'
    cases hrow'
    cases hstate

/-- **A committed call keeps the invariant** when the row that it binds to a bundle is
covered and it commits no operation without an accepting verdict. -/
theorem Inv.exec (h : Inv cfg calm w) {db' : Db}
    (hexec : Call.exec cfg.changes w.db call = .ok db')
    (hcommit : ∀ id lease tx, call = .markCommitted id lease tx → Accepted id w.trace)
    (hbound : call.bindsRecovery = true → ∀ id row, call.operationId? = some id →
      db'.operations.get? id = some row → row.state.terminal = false →
      ∃ b : RecoveryBundle, b.Covers cfg { w with db := db' } id row ∧
        (calm id → b.Settled cfg w)) :
    Inv cfg calm { w with db := db' } := by
  obtain ⟨keys, heffect, -⟩ := exec_committed hexec
  have hproposals : ∀ k p, w.db.proposals.get? k = some p →
      db'.proposals.get? k = some p := fun k p hp => effect_proposals heffect hp
  refine ⟨effect_sound h.sound heffect, effect_proposalColumns heffect h.columns, ?_, ?_,
    ?_, ?_⟩
  · intro id row' hrow' hopen'
    have hold : ∀ row, w.db.operations.get? id = some row → row.Continues row' →
        ∃ b : RecoveryBundle, b.Covers cfg { w with db := db' } id row' ∧
          (calm id → b.Settled cfg w) := by
      intro row hrow hcontinues
      obtain ⟨b, hb, hcalm⟩ := h.covered id row hrow (hcontinues.opened hopen')
      exact ⟨b, hb.continues hcontinues rfl hproposals, hcalm⟩
    cases hplain : call.bindsRecovery with
    | false =>
      obtain ⟨row, hrow, hcontinues⟩ := effect_origin heffect hplain hrow'
      exact hold row hrow hcontinues
    | true =>
      by_cases hid : call.operationId? = some id
      · exact hbound hplain id row' hid hrow' hopen'
      · exact hold row' (effect_other heffect hid ▸ hrow') (.refl row')
  · intro pre path entry post htrace
    obtain ⟨event, hlast, hauthorized⟩ := h.landed pre path entry post htrace
    exact ⟨event, hlast, hauthorized.grow hproposals⟩
  · intro id verdict hmem
    obtain ⟨row, hrow⟩ := h.judged id verdict hmem
    obtain ⟨row', hrow', -⟩ := effect_row heffect hrow
    exact ⟨row', hrow'⟩
  · intro id row' hrow' hstate
    rcases effect_committed heffect hrow' hstate with ⟨row, hrow, hold⟩ | ⟨lease, tx, hcall⟩
    · exact h.accepted id row hrow hold
    · exact hcommit id lease tx hcall

theorem Inv.plain (h : Inv cfg calm w) {db' : Db}
    (hexec : Call.exec cfg.changes w.db call = .ok db')
    (hplain : call.bindsRecovery = false)
    (hcommit : ∀ id lease tx, call ≠ .markCommitted id lease tx) :
    Inv cfg calm { w with db := db' } :=
  h.exec hexec (fun id lease tx hcall => absurd hcall (hcommit id lease tx)) fun hbinds => by
    rw [hplain] at hbinds
    cases hbinds

end Ecosystem.Changes
