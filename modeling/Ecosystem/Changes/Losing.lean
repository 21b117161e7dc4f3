import Ecosystem.Changes.Preserving

/-!
# When a racing broker loses content

An unreadable file that arrives in the window is lost by every call that gets to the
rename: the look at the temporary raises, and the way out unlinks it.
-/

namespace Ecosystem.Changes.Racing

open Ecosystem.Lib

variable {cfg : Settings} {names : Names} {files : String → Option Item}
  {edit : Option (Moment × Item)} {ws : Workspace}

/-! ## Until the window -/

/-- Nothing has happened but to the temporary. -/
structure Still (names : Names) (files : String → Option Item)
    (edit : Option (Moment × Item)) (temporary : Option Item) (ws : Workspace) : Prop where
  target : ws.files names.target = files names.target
  temporary : ws.files names.temporary = temporary
  edit : ws.edit = edit

section Still

variable {temporary : Option Item}

theorem still_start : Still names files edit (files names.temporary)
    (Workspace.start names files edit) :=
  ⟨rfl, rfl, rfl⟩

theorem Still.pass_eq (h : Still names files edit temporary ws) (hedit : Unreadable cfg edit)
    {moment : Moment} (hmoment : ¬ moment.inWindow) : ws.pass names moment = ws := by
  rcases pass_cases names ws moment with hp | ⟨item, hnow, -⟩
  · exact hp
  · obtain ⟨m, item', code, hsome, hwindow, -⟩ := hedit
    have hsame := hnow.symm.trans (h.edit.trans hsome)
    cases hsame
    exact absurd hwindow hmoment

theorem Still.write (h : Still names files edit temporary ws) (item : Option Item) :
    Still names files edit item
      { ws with files := setFile ws.files names.temporary item } where
  target := (setFile_of_ne names.distinct).trans h.target
  temporary := setFile_self
  edit := h.edit

variable {E : Failure → Workspace → Prop}

theorem wp_observe_readable {name : String} {item : Item} {o : File × Node}
    {Q : Option (File × Node) → Workspace → Prop}
    (hitem : ws.files name = some item) (hread : readFileState cfg item = .ok o)
    (hQ : Q (some o) ws) : Wp (observe cfg name) Q E ws := by
  refine wp_observe (fun hnone => ?_) (fun item' o' hitem' ho' => ?_)
    (fun item' code hitem' herror => ?_)
  · rw [hitem] at hnone
    cases hnone
  · cases hitem.symm.trans hitem'
    cases hread.symm.trans ho'
    exact hQ
  · cases hitem.symm.trans hitem'
    rw [hread] at herror
    cases herror

theorem wp_observe_refused {name code : String} {item : Item}
    {Q : Option (File × Node) → Workspace → Prop}
    (hitem : ws.files name = some item) (hread : readFileState cfg item = .error code)
    (hE : E (.broker code) ws) : Wp (observe cfg name) Q E ws := by
  refine wp_observe (fun hnone => ?_) (fun item' o' hitem' ho' => ?_)
    (fun item' code' hitem' herror => ?_)
  · rw [hitem] at hnone
    cases hnone
  · cases hitem.symm.trans hitem'
    rw [hread] at ho'
    cases ho'
  · cases hitem.symm.trans hitem'
    cases hread.symm.trans herror
    exact hE

theorem wp_check_passes {ok : Bool} {code : String} {Q : Unit → Workspace → Prop}
    (hok : ok = true) (hQ : Q () ws) :
    Wp (check ok code) Q E ws :=
  wp_check (fun _ => hQ) fun hfalse => absurd (hok.symm.trans hfalse) (by simp)

theorem wp_runHook_passes {raises : Bool} {Q : Unit → Workspace → Prop}
    (hok : raises = false) (hQ : Q () ws) :
    Wp (runHook raises) Q E ws :=
  wp_runHook (fun _ => hQ) fun htrue => absurd (hok.symm.trans htrue) (by simp)

theorem wp_persist_still {o : File × Node}
    (h : Still names files edit temporary ws) (hedit : Unreadable cfg edit)
    (hcaptured : Captured cfg names files o) :
    Wp (persistBefore cfg names o.1 o.2)
      (fun _ => Still names files edit temporary) E ws := by
  obtain ⟨item, hitem, hread, hput⟩ := hcaptured
  obtain ⟨hregular, hfile⟩ := regular_of_read hread
  have hbytes : descriptorBytes names ws o.2 = o.2.bytes := by
    rw [descriptorBytes, h.target, hitem, hregular]
    exact if_pos rfl
  rw [persistBefore, wp_bind, wp_arrive, h.pass_eq hedit (by simp [Moment.inWindow]),
    wp_bind, wp_get, wp_bind, hbytes]
  refine wp_check_passes (by simp [hfile, fileOf]) ?_
  cases hproof : cfg.put o.2.bytes with
  | none =>
    rw [hproof] at hput
    cases hput
  | some proof => exact h

theorem wp_copy_still {proof : ArtifactProof} {mode inode : ℕ}
    (h : Still names files edit (files names.temporary) ws) (hedit : Unreadable cfg edit)
    (hcopies : Copies cfg names files proof) :
    Wp (copyCandidateToTemp cfg names proof mode inode)
      (fun node ws' => Copied cfg proof mode inode node ∧
        Still names files edit (some (.regular node)) ws') E ws := by
  obtain ⟨hsmall, hfree, bytes, hstored, hlimit, htext, hlength, hdigest⟩ := hcopies
  rw [copyCandidateToTemp, wp_bind]
  refine wp_check_passes (by simpa using hsmall) ?_
  rw [wp_bind, newTemp, wp_bind, wp_arrive, h.pass_eq hedit (by simp [Moment.inWindow]),
    wp_bind, wp_get, h.temporary, hfree]
  have hmade := h.write (some (.regular ⟨[], 0o600, inode, 1⟩))
  rw [wp_set, wp_onError, fillTemp, wp_bind, wp_arrive,
    hmade.pass_eq hedit (by simp [Moment.inWindow]), hstored]
  simp only []
  rw [wp_bind]
  refine wp_check_passes (by simpa using hlimit) ?_
  simp only [htext]
  rw [wp_bind]
  refine wp_check_passes (by simp [hlength, hdigest]) ?_
  exact ⟨copied_of_stored hlimit htext hlength hdigest, hmade.write _⟩

theorem wp_owned_still {proof : ArtifactProof} {mode inode : ℕ} {node : Node}
    (hcopied : Copied cfg proof mode inode node)
    (h : Still names files edit (some (.regular node)) ws) (hedit : Unreadable cfg edit) :
    Wp (verifyOwnedTemp cfg names node)
      (fun _ => Still names files edit (some (.regular node))) E ws := by
  rw [verifyOwnedTemp, wp_bind, wp_arrive, h.pass_eq hedit (by simp [Moment.inWindow]),
    wp_bind]
  refine wp_observe_readable h.temporary hcopied.read ?_
  exact wp_check_passes (by simp [sameIdentity]) h

end Still

/-! ## In the window -/

/-- The other process has acted, and its file no longer stands under the target name. -/
structure Lost (names : Names) (ws : Workspace) : Prop where
  spent : ws.edit = none
  target : ws.files names.target ≠ ws.left

theorem Lost.not_intact (h : Lost names ws) (e : Failure) : ¬ Intact names e ws :=
  fun hintact => h.target hintact.2

theorem wp_dropTemp_lost (h : Lost names ws) :
    Wp (dropTemp names) (fun _ => Lost names) (fun _ => Lost names) ws := by
  rw [dropTemp, wp_bind, wp_arrive, pass_of_spent h.spent]
  refine wp_unlink (fun item _ => ⟨h.spent, fun hsame => h.target ?_⟩) fun _ => h
  exact (setFile_of_ne names.distinct).symm.trans hsame

/-- What the other process has brought in the window, with the temporary of the broker. -/
structure Brought (cfg : Settings) (names : Names) (temporary : Option Item)
    (ws : Workspace) : Prop where
  spent : ws.edit = none
  temporary : ws.files names.temporary = temporary
  arrived : ∃ item code, ws.files names.target = some item ∧ ws.left = some item ∧
    readFileState cfg item = .error code

theorem Still.window {temporary : Option Item} (h : Still names files edit temporary ws)
    (hedit : Unreadable cfg edit) :
    Brought cfg names temporary ((ws.pass names .authority).pass names .rename) := by
  obtain ⟨moment, item, code, hsome, hwindow, hread⟩ := hedit
  have hws := h.edit.trans hsome
  rcases hwindow with rfl | rfl
  · have hfirst : ws.pass names .authority = { ws with
          files := setFile ws.files names.target (some item)
          edit := none
          left := some item } := by
      simp [Workspace.pass, hws]
    rw [hfirst, pass_of_spent rfl]
    exact ⟨rfl, (setFile_of_ne names.distinct.symm).trans h.temporary, item, code,
      setFile_self, rfl, hread⟩
  · have hfirst : ws.pass names .authority = ws := by
      simp [Workspace.pass, hws]
    have hsecond : ws.pass names .rename = { ws with
          files := setFile ws.files names.target (some item)
          edit := none
          left := some item } := by
      simp [Workspace.pass, hws]
    rw [hfirst, hsecond]
    exact ⟨rfl, (setFile_of_ne names.distinct.symm).trans h.temporary, item, code,
      setFile_self, rfl, hread⟩

theorem wp_settle_lost {expected : File} {initial : Option (File × Node)} {back : Call Unit}
    {code refusal : String} {item : Item} (hspent : ws.edit = none)
    (htemp : ws.files names.temporary = some item)
    (hread : readFileState cfg item = .error refusal)
    (htarget : ws.files names.target ≠ ws.left) :
    Wp (settle cfg names expected initial back code) (fun _ _ => False)
      (fun _ => Lost names) ws := by
  rw [settle, wp_bind, wp_arrive, pass_of_spent hspent, wp_bind]
  exact wp_observe_refused htemp hread ⟨hspent, htarget⟩

theorem wp_exchange_lost {node : Node} {o : File × Node} {expected : File}
    {initial : Option (File × Node)} {code : String}
    (hnode : readFileState cfg (.regular node) = .ok o)
    (h : Brought cfg names (some (.regular node)) ws) :
    Wp (do
        renameExchange names.temporary names.target
        settle cfg names expected initial (renameExchange names.temporary names.target) code)
      (fun _ _ => False) (fun _ => Lost names) ws := by
  obtain ⟨item, refusal, hitem, hleft, hread⟩ := h.arrived
  rw [wp_bind]
  refine wp_renameExchange (fun moved old hmoved hold => ?_) fun hnone => ?_
  · obtain rfl := Option.some.inj (h.temporary.symm.trans hmoved)
    obtain rfl := Option.some.inj (hitem.symm.trans hold)
    refine wp_settle_lost h.spent
      ((setFile_of_ne names.distinct.symm).trans setFile_self) hread ?_
    -- the broker's own file can be read, so it is not the one that has arrived
    intro hsame
    have hitems : some (Item.regular node) = some item :=
      setFile_self.symm.trans (hsame.trans hleft)
    rw [← Option.some.inj hitems, hnode] at hread
    cases hread
  · rw [h.temporary, hitem] at hnone
    simp at hnone

theorem wp_moveAway_lost {expected : File} {current : Option (File × Node)} {code : String}
    (h : Brought cfg names none ws) :
    Wp (do
        renameNoReplace names.target names.temporary
        settle cfg names expected current (renameNoReplace names.temporary names.target) code)
      (fun _ _ => False) (fun _ => Lost names) ws := by
  obtain ⟨item, refusal, hitem, hleft, hread⟩ := h.arrived
  rw [wp_bind]
  refine wp_renameNoReplace (fun moved hmoved _ => ?_) fun hnone => ?_
  · obtain rfl := Option.some.inj (hitem.symm.trans hmoved)
    refine wp_settle_lost h.spent setFile_self hread fun hsame => ?_
    have hnone : none = some item :=
      (((setFile_of_ne names.distinct).trans setFile_self).symm.trans hsame).trans hleft
    cases hnone
  · rw [h.temporary, hitem] at hnone
    simp at hnone

/-! ## Apply -/

section Apply

variable {call : ApplyCall} {expected : File} {o : File × Node}

theorem wp_commit_lost {proof : ArtifactProof} {mode inode : ℕ} {node : Node}
    (hcall : call.operation = .replace expected) (hauthority : call.authorityRaises = false)
    (hcaptured : Captured cfg names files o) (hexpected : o.1 = expected)
    (hcopied : Copied cfg proof mode inode node)
    (h : Still names files edit (some (.regular node)) ws) (hedit : Unreadable cfg edit) :
    Wp (commit cfg names call (some o) node) (fun _ _ => False) (fun _ => Lost names) ws := by
  obtain ⟨item, hitem, hread, -⟩ := hcaptured
  rw [commit, hcall, wp_bind]
  refine (wp_owned_still (E := fun _ => Lost names) hcopied h hedit).mono ?_ fun _ _ => id
  intro _ ws hws
  rw [WriteOperation.before, wp_bind, revalidate, wp_bind, wp_arrive,
    hws.pass_eq hedit (by simp [Moment.inWindow]), wp_bind]
  refine wp_observe_readable (hws.target.trans hitem) hread ?_
  rw [wp_bind, requireExpected]
  refine wp_check_passes (by simp [hexpected]) ?_
  refine wp_check_passes (by simp [sameIdentity]) ?_
  rw [wp_bind, wp_arrive, wp_bind]
  refine wp_runHook_passes hauthority ?_
  rw [install, wp_bind, wp_arrive]
  exact wp_exchange_lost hcopied.read (hws.window hedit)

/-- `apply` of a replacement that gets to the rename loses an unreadable file. -/
theorem wp_apply_lost (h : ApplyReaches cfg names files call expected)
    (hedit : Unreadable cfg edit) :
    Wp (apply cfg names call) (fun _ _ => False) (fun _ => Lost names)
      (Workspace.start names files edit) := by
  obtain ⟨o, hcaptured, hexpected⟩ := h.captured
  obtain ⟨item, hitem, hread, -⟩ := id hcaptured
  have hstart : Still names files edit (files names.temporary)
      (Workspace.start names files edit) := still_start
  rw [apply, h.operation, wp_bind]
  refine wp_check_passes (by simpa [WriteOperation.before] using h.small) ?_
  rw [wp_bind, wp_arrive, hstart.pass_eq hedit (by simp [Moment.inWindow]), wp_bind]
  refine wp_observe_readable (hstart.target.trans hitem) hread ?_
  rw [wp_bind, requireExpected]
  refine wp_check_passes (by simp [WriteOperation.before, hexpected]) ?_
  rw [Option.mapM_some, wp_bind, wp_map]
  refine (wp_persist_still (E := fun _ => Lost names) hstart hedit hcaptured).mono ?_
    fun _ _ => id
  intro proof ws hws
  rw [wp_bind, wp_arrive, hws.pass_eq hedit (by simp [Moment.inWindow]), wp_bind]
  refine wp_runHook_passes h.ready ?_
  rw [wp_bind]
  refine (wp_copy_still (E := fun _ => Lost names) hws hedit h.copies).mono ?_ fun _ _ => id
  rintro node ws ⟨hcopied, hws⟩
  rw [wp_bind, wp_onError]
  exact (wp_commit_lost h.operation h.authority hcaptured hexpected hcopied hws hedit).mono
    (fun _ _ => False.elim) fun _ _ => wp_dropTemp_lost

end Apply

/-! ## Rollback -/

section Rollback

variable {call : RollbackCall} {o : File × Node} {item : Item}

theorem wp_removeCreated_lost (hauthority : call.authorityRaises = false)
    (h : Still names files edit none ws) (hedit : Unreadable cfg edit) :
    Wp (removeCreated cfg names call (some o)) (fun _ _ => False) (fun _ => Lost names)
      ws := by
  rw [removeCreated, wp_bind, wp_arrive, wp_bind]
  refine wp_runHook_passes hauthority ?_
  rw [wp_bind, wp_arrive]
  exact wp_moveAway_lost (h.window hedit)

theorem wp_restoreBefore_lost {proof : ArtifactProof} {mode inode : ℕ} {node : Node}
    (hauthority : call.authorityRaises = false) (hitem : files names.target = some item)
    (hread : readFileState cfg item = .ok o) (hafter : o.1 = call.after)
    (hcopied : Copied cfg proof mode inode node)
    (h : Still names files edit (some (.regular node)) ws) (hedit : Unreadable cfg edit) :
    Wp (restoreBefore cfg names call (some o)) (fun _ _ => False) (fun _ => Lost names)
      ws := by
  rw [restoreBefore, wp_bind, wp_arrive, h.pass_eq hedit (by simp [Moment.inWindow]),
    wp_bind]
  refine wp_observe_readable (h.target.trans hitem) hread ?_
  rw [wp_bind]
  refine wp_check_passes (by simp [isDisplaced, hafter, sameIdentity]) ?_
  rw [wp_bind, wp_arrive, wp_bind]
  refine wp_runHook_passes hauthority ?_
  rw [wp_bind, wp_arrive]
  exact wp_exchange_lost hcopied.read (h.window hedit)

/-- `rollback` that gets to the rename loses an unreadable file. -/
theorem wp_rollback_lost (h : RollbackReaches cfg names files call)
    (hedit : Unreadable cfg edit) :
    Wp (rollback cfg names call) (fun _ _ => False) (fun _ => Lost names)
      (Workspace.start names files edit) := by
  obtain ⟨item, o, hitem, hread, hafter⟩ := h.found
  have hstart : Still names files edit (files names.temporary)
      (Workspace.start names files edit) := still_start
  rw [rollback, wp_bind]
  refine wp_validateReceipt (fun _ => ?_) fun hinvalid => absurd h.receipt hinvalid
  rw [wp_bind, wp_arrive, hstart.pass_eq hedit (by simp [Moment.inWindow]), wp_bind]
  refine wp_observe_readable (hstart.target.trans hitem) hread ?_
  have hchanged : ¬ (some o).map (·.1) = call.operation.before := by
    rw [Option.map_some, hafter]
    exact h.changed
  rw [if_neg hchanged, wp_bind]
  refine wp_check_passes (by simp [hafter]) ?_
  rw [wp_bind, compensate]
  cases hoperation : call.operation with
  | create =>
    simp only []
    rw [wp_onError]
    exact (wp_removeCreated_lost h.authority (h.free ▸ hstart) hedit).mono
      (fun _ _ => False.elim) fun _ _ => wp_dropTemp_lost
  | replace before =>
    cases hrollback : call.rollbackProof with
    | none =>
      have hproof := h.receipt.proof
      rw [hoperation, hrollback] at hproof
      cases hproof
    | some proof =>
      simp only []
      rw [wp_bind]
      refine (wp_copy_still (E := fun _ => Lost names) hstart hedit
        (h.copies before proof hoperation hrollback)).mono ?_ fun _ _ => id
      rintro node ws ⟨hcopied, hws⟩
      rw [wp_onError]
      exact (wp_restoreBefore_lost h.authority hitem hread hafter hcopied hws hedit).mono
        (fun _ _ => False.elim) fun _ _ => wp_dropTemp_lost

end Rollback

/-! ## Both calls -/

theorem wp_apply_kept {call : ApplyCall}
    (hsafe : ¬ ((∃ expected, ApplyReaches cfg names files call expected) ∧
      Unreadable cfg edit)) :
    Wp (apply cfg names call) (fun _ => OnlyExpected cfg call.operation.before)
      (Intact names) (Workspace.start names files edit) := by
  cases hoperation : call.operation with
  | create => exact wp_apply_create hoperation
  | replace expected =>
    exact wp_apply_replace hoperation fun hreaches hedit =>
      hsafe ⟨⟨expected, hreaches⟩, hedit⟩

/-- **What others have left survives exactly the calls that no unreadable file meets at
the rename.**  A call that returns has removed only a file in the expected state, and a
call that raises leaves under the target name what the others have left there; `apply`
and `rollback` fail in this just when they get to the rename and, between their last look
at the target and the rename, a file arrives that `_read_file_state` refuses. -/
theorem foreign_content_kept_iff (cfg : Settings) (names : Names)
    (files : String → Option Item) (edit : Option (Moment × Item)) :
    (∀ call : ApplyCall,
      Wp (apply cfg names call) (fun _ => OnlyExpected cfg call.operation.before)
          (Intact names) (Workspace.start names files edit) ↔
        ¬ ((∃ expected, ApplyReaches cfg names files call expected) ∧
          Unreadable cfg edit)) ∧ ∀ call : RollbackCall,
      Wp (rollback cfg names call) (fun _ => OnlyExpected cfg (some call.after))
          (Intact names) (Workspace.start names files edit) ↔
        ¬ (RollbackReaches cfg names files call ∧ Unreadable cfg edit) := by
  refine ⟨fun call => ⟨?_, wp_apply_kept⟩, fun call => ⟨?_, fun hsafe => ?_⟩⟩
  · rintro hkept ⟨⟨expected, hreaches⟩, hedit⟩
    exact (wp_apply_lost hreaches hedit).disjoint hkept (fun _ _ hfalse => hfalse.elim)
      fun e _ hlost => hlost.not_intact e
  · rintro hkept ⟨hreaches, hedit⟩
    exact (wp_rollback_lost hreaches hedit).disjoint hkept (fun _ _ hfalse => hfalse.elim)
      fun e _ hlost => hlost.not_intact e
  · exact wp_rollback fun hreaches hedit => hsafe ⟨hreaches, hedit⟩

/-! ## A binary file in the window -/

/-- A broker whose store holds the text `a` under every proof. -/
def sampleSettings : Settings where
  maximumFileBytes := 10
  sha256 := fun _ => "digest"
  stored := fun _ => some [97]
  put := fun _ => some ⟨"ref", "digest", 1, "key", "token"⟩

def sampleNames : Names := ⟨"target", "temporary", by decide⟩

/-- The replacement of the text `b` by `a`. -/
def sampleApply : ApplyCall where
  operation := .replace ⟨"digest", 1, 0o644⟩
  candidate := ⟨"ref", "digest", 1, "key", "token"⟩
  mode := 0o644
  inode := 2

def sampleFiles (name : String) : Option Item :=
  if name = "target" then some (.regular ⟨[98], 0o644, 1, 1⟩) else none

/-- What the other process renames over the target: a file with a NUL byte. -/
def binaryItem : Item := .regular ⟨[0], 0o644, 3, 1⟩

theorem binary_file_lost :
    ¬ Wp (apply sampleSettings sampleNames sampleApply)
      (fun _ => OnlyExpected sampleSettings sampleApply.operation.before)
      (Intact sampleNames)
      (Workspace.start sampleNames sampleFiles (some (.rename, binaryItem))) := by
  have htext : contentFault [98] = none := by decide
  have htarget : sampleFiles sampleNames.target = some (.regular ⟨[98], 0o644, 1, 1⟩) :=
    if_pos rfl
  have hcopies : Copies sampleSettings sampleNames sampleFiles sampleApply.candidate :=
    ⟨by decide, if_neg (by decide), [97], rfl, by decide, by decide, rfl, rfl⟩
  have hread : readFileState sampleSettings (.regular ⟨[98], 0o644, 1, 1⟩) =
      .ok (⟨"digest", 1, 0o644⟩, ⟨[98], 0o644, 1, 1⟩) := by
    simp [readFileState, htext, sampleSettings, fileOf]
  have hbinary : readFileState sampleSettings binaryItem = .error "ECO_BINARY_FILE" := by
    have hfault : contentFault [0] = some "ECO_BINARY_FILE" := by decide
    simp [readFileState, binaryItem, hfault, sampleSettings]
  have hreaches : ApplyReaches sampleSettings sampleNames sampleFiles sampleApply
      ⟨"digest", 1, 0o644⟩ :=
    ⟨rfl, by decide, ⟨_, ⟨_, htarget, hread, rfl⟩, rfl⟩, rfl, hcopies, rfl⟩
  have hlost := wp_apply_lost hreaches
    ⟨.rename, binaryItem, "ECO_BINARY_FILE", rfl, Or.inr rfl, hbinary⟩
  exact fun hkept => hlost.disjoint hkept (fun _ _ hfalse => hfalse.elim)
    fun e _ hlost => hlost.not_intact e

end Ecosystem.Changes.Racing
