import Ecosystem.Projections.StateText

/-!
# Histories of renders, uninstalls and edits

Up to its last write a render leaves the nodes on the way to the state file alone, as
long as no target lies on that way, and so does an uninstall.  Every state of a history
is therefore one that a render has written under its condition, or none.
-/

namespace Ecosystem.Projections

open Ecosystem.Lib Ecosystem.Lib.Checks

variable {prims : Primitives} {config : Path}

/-! ## The way to the state file -/

/-- A path is not on the way to the state file, nor below it. -/
def Apart (config path : Path) : Prop :=
  ¬ path <+: statePath config ∧ ¬ statePath config <+: path

structure StateKept (config : Path) (before tree : Tree) : Prop where
  there : tree.lookup config = some .directory
  directory : tree.lookup (config ++ [stateName]) = before.lookup (config ++ [stateName]) ∨
    (before.lookup (config ++ [stateName]) = none ∧
      tree.lookup (config ++ [stateName]) = some .directory)
  file : tree.lookup (statePath config) = before.lookup (statePath config)

variable {before tree tree' : Tree}

theorem StateKept.refl (h : tree.lookup config = some .directory) :
    StateKept config tree tree := ⟨h, .inl rfl, rfl⟩

variable {path : Path} {plans : List ProjectionPlan} {J : Tree → Prop}

theorem Apart.ne (h : Apart config path) :
    config ≠ path ∧ config ++ [stateName] ≠ path ∧ statePath config ≠ path := by
  refine ⟨?_, ?_, ?_⟩
  · rintro rfl
    exact h.1 prefix_statePath.1
  · rintro rfl
    exact h.1 prefix_statePath.2
  · rintro rfl
    exact h.1 List.prefix_rfl

theorem StateKept.write {content : Content} (h : StateKept config before tree)
    (hapart : Apart config path) (hwrote : Tree.Wrote tree tree' path content) :
    StateKept config before tree' := by
  obtain ⟨hconfig, hstate, hfile⟩ := hapart.ne
  refine ⟨?_, ?_, ?_⟩
  · rcases hwrote.others _ hconfig with hsame | ⟨hnone, _⟩
    · rw [hsame, h.there]
    · rw [h.there] at hnone
      cases hnone
  · rcases hwrote.others _ hstate with hsame | ⟨hnone, hdir, _⟩
    · rw [hsame]
      exact h.directory
    · rcases h.directory with hd | ⟨_, hd⟩
      · exact .inr ⟨hd ▸ hnone, hdir⟩
      · rw [hd] at hnone
        cases hnone
  · rcases hwrote.others _ hfile with hsame | ⟨_, _, hpre⟩
    · rw [hsame, h.file]
    · exact absurd hpre hapart.2

theorem StateKept.other {node : Option Node} (h : StateKept config before tree)
    (hapart : Apart config path)
    (hlookup : ∀ q, tree'.lookup q = if q = path then node else tree.lookup q) :
    StateKept config before tree' := by
  obtain ⟨hconfig, hstate, hfile⟩ := hapart.ne
  refine ⟨?_, ?_, ?_⟩
  · rw [hlookup, if_neg hconfig, h.there]
  · rw [hlookup, if_neg hstate]
    exact h.directory
  · rw [hlookup, if_neg hfile, h.file]

theorem projectionState_kept (h : StateKept config before tree)
    (hconfig : before.lookup config = some .directory) :
    projectionState prims config tree = projectionState prims config before := by
  have hdirs : validateStateDirectories tree config false =
      validateStateDirectories before config false := by
    simp only [validateStateDirectories, h.there, hconfig, validateDirectories]
    rcases h.directory with hd | ⟨hnone, hd⟩
    · rw [hd]
      simp only [Bool.false_eq_true, if_false, validateDirectories]
    · rw [hd, hnone]
      rfl
  unfold projectionState
  rw [hdirs, h.file]

theorem projectionState_none (hconfig : tree.lookup config = some .directory)
    (hdirectory : tree.lookup (config ++ [stateName]) = none ∨
      tree.lookup (config ++ [stateName]) = some .directory)
    (hfile : tree.lookup (statePath config) = none) :
    projectionState prims config tree = .ok none := by
  have hdirs : validateStateDirectories tree config false = .ok () := by
    simp only [validateStateDirectories, hconfig, validateDirectories]
    rcases hdirectory with hd | hd
    · rw [hd]
    · rw [hd]
      rfl
  unfold projectionState
  rw [hdirs, hfile]
  rfl

theorem directory_of_projectionState {state : Option (List Output)}
    (h : projectionState prims config tree = .ok state) :
    tree.lookup config = some .directory := by
  unfold projectionState at h
  obtain ⟨⟨⟩, hdirs, _⟩ := bind_eq_ok.mp h
  unfold validateStateDirectories at hdirs
  split at hdirs
  · cases hdirs
  · assumption
  · cases hdirs

theorem stateDirectory_of_projectionState {state : Option (List Output)}
    (h : projectionState prims config tree = .ok state) :
    tree.lookup (config ++ [stateName]) = none ∨
      tree.lookup (config ++ [stateName]) = some .directory := by
  have hconfig := directory_of_projectionState h
  unfold projectionState at h
  obtain ⟨⟨⟩, hdirs, _⟩ := bind_eq_ok.mp h
  simp only [validateStateDirectories, hconfig, validateDirectories] at hdirs
  split at hdirs
  · next hnone => exact .inl hnone
  · next hdir => exact .inr hdir
  · cases hdirs

/-! ## Sound trees -/

/-- A state that is accepted, with entries such as a render writes. -/
def Sound (prims : Primitives) (config : Path) (tree : Tree) : Prop :=
  ∃ state, projectionState prims config tree = .ok state ∧
    ∀ o ∈ state.getD [], o.Written config

theorem Sound.kept (h : Sound prims config before) (hkept : StateKept config before tree) :
    Sound prims config tree := by
  obtain ⟨state, hstate, hwritten⟩ := h
  refine ⟨state, ?_, hwritten⟩
  rw [projectionState_kept hkept (directory_of_projectionState hstate), hstate]

theorem Sound.refl (h : Sound prims config tree) : StateKept config tree tree := by
  obtain ⟨state, hstate, _⟩ := h
  exact .refl (directory_of_projectionState hstate)

/-! ## A render -/

theorem backupPath_apart (path : Path) (current : Text) :
    Apart config (config ++ backupPath prims path current) := by
  constructor
  · intro h
    have hlength := h.length_le
    simp [statePath, backupPath] at hlength
  · intro h
    rw [statePath, List.prefix_append_right_inj] at h
    have h := List.cons_prefix_cons.mp h
    have h := List.cons_prefix_cons.mp h.2
    exact absurd h.1 (by decide)

theorem keeps_writeText {text : Text} (h : StateKept config before tree)
    (hapart : Apart config path) :
    Keeps (StateKept config before) (writeText path text) tree := by
  refine keeps_change h fun tree' hwrite => ?_
  obtain ⟨content, _, hwrite⟩ := bind_eq_ok.mp hwrite
  exact h.write hapart (Tree.atomicWrite_eq_ok hwrite).2

theorem keeps_keepBackup {plan : ProjectionPlan} (h : StateKept config before tree) :
    Keeps (StateKept config before) (keepBackup prims config plan) tree := by
  refine keeps_seq (keeps_inspect h) fun found tree h => ?_
  cases found with
  | none => exact keeps_writeText h (backupPath_apart ..)
  | some content => exact keeps_ofExcept h

theorem keeps_applyEach {prior : List Output}
    (hapart : ∀ plan ∈ plans, Apart config plan.path) (h : StateKept config before tree) :
    Keeps (StateKept config before) (applyEach prims config prior plans) tree := by
  induction plans generalizing tree with
  | nil => exact keeps_pure h
  | cons plan plans ih =>
    rw [List.forall_mem_cons] at hapart
    refine keeps_seq ?_ fun output tree h => ?_
    · refine keeps_seq (keeps_whenever h (keeps_keepBackup h)) fun _ tree h => ?_
      refine keeps_seq (keeps_whenever h (keeps_writeText h hapart.1)) fun _ tree h => ?_
      exact keeps_pure h
    · exact keeps_seq (ih hapart.2 h) fun outputs tree h => keeps_pure h

theorem keeps_checkEach {check : ProjectionPlan → Tree → Except Failure Unit}
    (h : J tree) : Keeps J (checkEach check plans) tree := by
  induction plans generalizing tree with
  | nil => exact keeps_pure h
  | cons plan plans ih => exact keeps_seq (keeps_inspect h) fun _ _ h => ih h

/-- No target lies on the way to the state file. -/
def TargetsApart (config : Path) (request : RenderRequest) : Prop :=
  ∀ p ∈ request.targets, Apart config p

theorem Rendered.sound {request : RenderRequest} {prior outputs : List Output}
    (h : Rendered prims config tree request plans prior outputs tree')
    (hsound : Sound prims config tree) (hcond : Renderable prims config tree request)
    (hapart : TargetsApart config request) : Sound prims config tree' := by
  obtain ⟨found, hfound, hprior, _⟩ := readPrior_eq_ok h.read
  obtain ⟨state, hstate, hwritten⟩ := hsound
  obtain rfl : found = state := Except.ok.inj (hfound.symm.trans hstate)
  have hbounded : ∀ o ∈ prior, o.Bounded := by
    rw [hprior]
    exact fun o ho => (hwritten o ho).bounded
  obtain ⟨state', hstate'⟩ := (h.accepted_iff hbounded).mpr hcond
  refine ⟨state', hstate', ?_⟩
  obtain rfl := h.state_eq hstate'
  intro o ho
  have hbound := h.bounded hbounded o ho
  refine ⟨?_, hbound.client, hbound.backup, hbound.size⟩
  have ho : o ∈ outputs := ho
  rw [h.outputs_eq] at ho
  obtain ⟨plan, hplan, rfl⟩ := List.mem_map.mp ho
  obtain ⟨⟨_, _, hfor⟩, _⟩ := h.forall_plan hplan
  refine ⟨plan.path, rfl, readProjection_not_tooLong hfor.current, hfor.nameable,
    hapart _ ?_⟩
  rw [← h.targets_eq]
  exact List.mem_map_of_mem hplan

/-- **A render keeps a tree sound**, whatever happens to it. -/
theorem sound_render {request : RenderRequest} (hsound : Sound prims config tree)
    (hcond : Renderable prims config tree request) (hapart : TargetsApart config request)
    (script : List Fault) :
    Sound prims config ((render prims config request).run script tree).2 := by
  -- up to the end nothing has happened to the state
  have hkeeps : (render prims config request).Safe (fun _ => True)
      ⟨StateKept config tree, fun _ _ => True, fun _ => StateKept config tree⟩ tree := by
    have hrefl := hsound.refl
    refine @Prog.safe_bind _ _ _ _ _ _ _ _ _ _ (fun plans tree' =>
      StateKept config tree tree' ∧ planProjections tree request = .ok plans) ?_ ?_
    · exact safe_inspect hrefl (fun plans h => ⟨hrefl, h⟩) fun _ => hrefl
    rintro plans tree' ⟨h, hplans⟩
    have hpaths : ∀ plan ∈ plans, Apart config plan.path := by
      have hforall := planProjections_eq_ok hplans
      have htargets : ∀ entry ∈ request.bundle.sortedProjections,
          Apart config (components entry.2) :=
        fun entry hentry => hapart _ (List.mem_map_of_mem hentry)
      generalize request.bundle.sortedProjections = entries at hforall htargets
      clear hplans
      induction hforall with
      | nil => exact fun _ h => (nomatch h)
      | cons hfor _ ih =>
        rw [List.forall_mem_cons] at htargets ⊢
        exact ⟨hfor.path ▸ htargets.1, ih htargets.2⟩
    have hend : ∀ {α : Type} {p : FileProg α} {tree' : Tree},
        Keeps (StateKept config tree) p tree' → p.Safe (fun _ => True)
          ⟨StateKept config tree, fun _ => StateKept config tree,
            fun _ => StateKept config tree⟩ tree' := fun h => h
    refine Prog.safe_bind (hend (keeps_ofExcept h)) fun _ tree' h => ?_
    refine Prog.safe_bind (hend (keeps_checkEach h)) fun _ tree' h => ?_
    refine Prog.safe_bind (hend (keeps_inspect h)) fun prior tree' h => ?_
    refine Prog.safe_bind (hend (keeps_applyEach hpaths h)) fun outputs tree' h => ?_
    refine @Prog.safe_bind _ _ _ _ _ _ _ _ _ _ (fun _ _ => True) ?_ fun _ _ _ => trivial
    refine Prog.safe_bind (hend (keeps_inspect h)) fun found tree' h => ?_
    unfold whenever
    split
    · exact safe_change h (fun _ _ => trivial) fun _ => h
    · trivial
  have hboth := Prog.Safe.and hkeeps returns_render
  have hholds := @Prog.Safe.run _ _ _ _ _ _ _ _ hboth script fun _ _ => trivial
  revert hholds
  cases (render prims config request).run script tree with
  | mk ending tree' =>
    cases ending with
    | returned outputs =>
      rintro ⟨_, plans, prior, hrendered⟩
      exact hrendered.sound hsound hcond hapart
    | raised e | crashed => exact fun h => hsound.kept h.1

/-! ## An uninstall -/

theorem Output.Written.components_apart {o : Output} (h : o.Written config) :
    Apart config (components o.path) := by
  obtain ⟨path, hpath, _, hnameable, hapart⟩ := h.path
  rw [hpath, hnameable.components_asPosix]
  exact hapart

theorem planAction_eq_ok {entry : Output} {action : Action}
    (h : planAction prims config tree entry = .ok action) :
    action.path = components entry.path ∧ ∀ backup, action.backup = some backup → ∃ name,
        backup = config ++ [stateName, backupsName, name] := by
  unfold planAction at h
  simp only [bind_eq_ok] at h
  obtain ⟨path, hpath, _, _, text, _, _, _, span, _, h⟩ := h
  obtain ⟨rfl, _, _⟩ := projectionPath_eq_ok hpath
  cases span with
  | none => cases h
  | some cut =>
    rcases cut with ⟨front, back⟩
    cases hbackup : entry.backup with
    | none =>
      simp only [hbackup] at h
      by_cases hempty : remainder front back = []
      · rw [if_pos hempty] at h
        have h := Except.ok.inj h
        subst h
        exact ⟨rfl, fun _ h => (nomatch h)⟩
      · rw [if_neg hempty] at h
        obtain ⟨image, _, h⟩ := bind_eq_ok.mp h
        have h := Except.ok.inj h
        subst h
        exact ⟨rfl, fun _ h => (nomatch h)⟩
    | some backup =>
      simp only [hbackup] at h
      obtain ⟨⟨file, image⟩, hverified, h⟩ := bind_eq_ok.mp h
      have h := Except.ok.inj h
      subst h
      refine ⟨rfl, fun b hb => ?_⟩
      obtain rfl := Option.some.inj hb
      simp only [verifiedBackup, bind_eq_ok, require_eq_ok, Bool.and_eq_true,
        decide_eq_true_eq] at hverified
      obtain ⟨_, ⟨⟨hlength, _⟩, htake⟩, _, _, _, _, _, _, _, _, hverified⟩ := hverified
      obtain ⟨hfile, _⟩ := Prod.mk.inj (Except.ok.inj hverified)
      obtain ⟨name, hname⟩ : ∃ name, (components backup).drop 2 = [name] := by
        apply List.length_eq_one_iff.mp
        rw [List.length_drop, hlength]
      refine ⟨name, ?_⟩
      rw [← hfile, ← List.take_append_drop 2 (components backup), htake, hname]
      rfl

/-- After its state file an uninstall removes backups and directories that are empty. -/
structure Uninstalled (config : Path) (tree : Tree) : Prop where
  there : tree.lookup config = some .directory
  directory : tree.lookup (config ++ [stateName]) = none ∨
    tree.lookup (config ++ [stateName]) = some .directory
  file : tree.lookup (statePath config) = none

theorem Uninstalled.sound (h : Uninstalled config tree) : Sound prims config tree :=
  ⟨none, projectionState_none h.there h.directory h.file, fun _ h => (nomatch h)⟩

theorem Uninstalled.remove (h : Uninstalled config tree) (hne : config ≠ path)
    (hlookup : ∀ q, tree'.lookup q = if q = path then none else tree.lookup q) :
    Uninstalled config tree' := by
  refine ⟨?_, ?_, ?_⟩
  · rw [hlookup, if_neg hne, h.there]
  · rw [hlookup]
    split
    · exact .inl rfl
    · exact h.directory
  · rw [hlookup]
    split
    · rfl
    exact h.file

theorem keeps_dropParents {parents : List Path} (hparents : ∀ p ∈ parents, config ≠ p)
    (h : Uninstalled config tree) :
    Keeps (Uninstalled config) (dropParents parents) tree := by
  induction parents generalizing tree with
  | nil => exact keeps_pure h
  | cons parent parents ih =>
    rw [List.forall_mem_cons] at hparents
    have htry : Keeps (Uninstalled config) (tryRmdir parent) tree := by
      refine Prog.safe_act h ?_ ?_
      · intro fault a tree' _ hact
        cases fault with
        | true => exact (Prod.mk.inj hact).2 ▸ h
        | false =>
          cases hrmdir : tree.rmdir parent with
          | ok tree'' =>
            simp only [hrmdir] at hact
            obtain ⟨_, rfl⟩ := Prod.mk.inj hact
            exact h.remove hparents.1 (Tree.rmdir_eq_ok hrmdir).2
          | error e =>
            simp only [hrmdir] at hact
            exact (Prod.mk.inj hact).2 ▸ h
      · intro fault e tree' _ hact
        cases fault with
        | true => cases (Prod.mk.inj hact).1
        | false =>
          cases hrmdir : tree.rmdir parent with
          | ok tree'' | error e =>
            simp only [hrmdir] at hact
            cases (Prod.mk.inj hact).1
    refine keeps_seq htry fun removed tree h => ?_
    cases removed with
    | true => exact ih hparents.2 h
    | false => exact keeps_pure h

theorem keeps_dropEmpty {paths : List Path} (h : Uninstalled config tree) :
    Keeps (Uninstalled config) (dropEmpty config paths) tree := by
  induction paths generalizing tree with
  | nil => exact keeps_pure h
  | cons path paths ih =>
    refine keeps_seq (keeps_dropParents (fun p hp => ?_) h) fun _ tree h => ih h
    have hne := List.mem_takeWhile_imp hp
    exact fun heq => absurd heq.symm (by simpa using hne)

theorem keeps_dropBackups {paths : List Path}
    (hpaths : ∀ p ∈ paths, ∃ name, p = config ++ [stateName, backupsName, name])
    (h : Uninstalled config tree) : Keeps (Uninstalled config) (dropBackups paths) tree := by
  induction paths generalizing tree with
  | nil => exact keeps_pure h
  | cons path paths ih =>
    rw [List.forall_mem_cons] at hpaths
    obtain ⟨⟨name, rfl⟩, hpaths⟩ := hpaths
    refine keeps_seq (keeps_change h fun tree' hdrop => ?_) fun _ tree h => ih hpaths h
    split at hdrop
    · exact Except.ok.inj hdrop ▸ h
    · exact h.remove (by simp) (Tree.unlink_eq_ok hdrop)

theorem keeps_checkActions {actions : List Action} (h : J tree) :
    Keeps J (checkActions actions) tree := by
  induction actions generalizing tree with
  | nil => exact keeps_pure h
  | cons action actions ih => exact keeps_seq (keeps_inspect h) fun _ _ h => ih h

theorem keeps_restoreEach {actions : List Action}
    (hactions : ∀ action ∈ actions, Apart config action.path)
    (h : StateKept config before tree) :
    Keeps (StateKept config before) (restoreEach actions) tree := by
  induction actions generalizing tree with
  | nil => exact keeps_pure h
  | cons action actions ih =>
    rw [List.forall_mem_cons] at hactions
    refine keeps_seq ?_ fun _ tree h => ih hactions.2 h
    refine keeps_seq (keeps_inspect h) fun _ tree h => ?_
    cases action.image with
    | none =>
      refine keeps_change h fun tree' hunlink => ?_
      exact h.other hactions.1 (Tree.unlink_eq_ok hunlink)
    | some image =>
      refine keeps_change h fun tree' hwritten => ?_
      exact h.write hactions.1 (Tree.atomicWrite_eq_ok hwritten).2

theorem keeps_verifyBackups {entries : List Output} (h : J tree) :
    Keeps J (verifyBackups prims config entries) tree := by
  induction entries generalizing tree with
  | nil => exact keeps_pure h
  | cons entry entries ih =>
    cases hbackup : entry.backup with
    | none =>
      simp only [verifyBackups, hbackup]
      exact ih h
    | some backup =>
      simp only [verifyBackups, hbackup]
      exact keeps_seq (keeps_inspect h) fun _ _ h => ih h

/-- **An uninstall keeps a tree sound**, whatever happens to it. -/
theorem sound_uninstall (hsound : Sound prims config tree) (script : List Fault) :
    Sound prims config ((uninstallProjections prims config).run script tree).2 := by
  refine Keeps.run ?_ script
  have hkept : ∀ {α : Type} {p : FileProg α} {tree' : Tree},
      Keeps (StateKept config tree) p tree' → Keeps (Sound prims config) p tree' :=
    fun h => h.mono fun _ h => hsound.kept h
  have hgone : ∀ {α : Type} {p : FileProg α} {tree' : Tree},
      Keeps (Uninstalled config) p tree' → Keeps (Sound prims config) p tree' :=
    fun h => h.mono fun _ h => h.sound
  have hrefl := hsound.refl
  refine keeps_bind (fun state tree' => tree = tree' ∧
      projectionState prims config tree = .ok state) (hkept (keeps_inspect hrefl))
    (returns_inspect fun state h => ⟨rfl, h⟩) ?_
  rintro state _ _ ⟨rfl, hstate⟩
  refine keeps_bind (fun outputs tree' => tree = tree' ∧ state = some outputs)
    (hkept (keeps_ofExcept hrefl)) (returns_ofExcept fun _ h => ⟨rfl, expect_eq_ok.mp h⟩) ?_
  rintro outputs _ _ ⟨rfl, rfl⟩
  have hwritten : ∀ o ∈ outputs, o.Written config := by
    obtain ⟨state, hstate', hwritten⟩ := hsound
    obtain rfl : some outputs = state := Except.ok.inj (hstate.symm.trans hstate')
    exact hwritten
  refine keeps_bind (fun actions tree' => tree = tree' ∧
      (sortedOutputs outputs).mapM (planAction prims config tree) = .ok actions)
    (hkept (keeps_inspect hrefl)) (returns_inspect fun actions h => ⟨rfl, h⟩) ?_
  rintro actions _ _ ⟨rfl, hactions⟩
  have hplanned : ∀ action ∈ actions, Apart config action.path ∧
      ∀ backup, action.backup = some backup → ∃ name,
        backup = config ++ [stateName, backupsName, name] := by
    have hforall := mapM_eq_ok.mp hactions
    have hsorted : ∀ o ∈ sortedOutputs outputs, o.Written config :=
      fun o ho => hwritten o ((List.mergeSort_perm ..).mem_iff.mp ho)
    generalize sortedOutputs outputs = sorted at hforall hsorted
    clear hactions
    induction hforall with
    | nil => exact fun _ h => (nomatch h)
    | cons hentry _ ih =>
      rw [List.forall_mem_cons] at hsorted ⊢
      obtain ⟨hpath, hbackup⟩ := planAction_eq_ok hentry
      exact ⟨⟨hpath ▸ hsorted.1.components_apart, hbackup⟩, ih hsorted.2⟩
  -- the state file is left alone until it is removed
  have hmiddle : ∀ {p : FileProg Unit} {k : FileProg (List String)} {tree' : Tree},
      Keeps (StateKept config tree) p tree' →
      (∀ tree', StateKept config tree tree' → Keeps (Sound prims config) k tree') →
      Keeps (Sound prims config) (p >>= fun _ => k) tree' := by
    intro p k tree' hp hk
    refine Prog.safe_bind ?_ fun _ tree' h => hk tree' h
    exact Prog.Safe.mono hp (fun _ h => hsound.kept h) (fun _ _ h => h)
      fun _ _ h => hsound.kept h
  refine hmiddle (keeps_inspect hrefl) fun tree₁ h₁ => ?_
  refine hmiddle (keeps_checkActions h₁) fun tree₂ h₂ => ?_
  refine hmiddle (keeps_restoreEach (fun a ha => (hplanned a ha).1) h₂) fun tree₃ h₃ => ?_
  refine hmiddle (keeps_verifyBackups h₃) fun tree₄ h₄ => ?_
  refine hmiddle (keeps_inspect h₄) fun tree₅ h₅ => ?_
  have hbackups : ∀ p ∈ actions.filterMap Action.backup,
      ∃ name, p = config ++ [stateName, backupsName, name] := by
    intro p hp
    obtain ⟨action, haction, hbackup⟩ := List.mem_filterMap.mp hp
    exact (hplanned action haction).2 p hbackup
  refine @Prog.safe_bind _ _ _ _ _ _ _ _ _ _ (fun _ => Uninstalled config) ?_
    fun _ tree₆ h₆ => ?_
  · refine safe_change (hsound.kept h₅) (fun tree' hunlink => ?_) fun _ => hsound.kept h₅
    have hlookup := Tree.unlink_eq_ok hunlink
    have hdirectory := stateDirectory_of_projectionState hstate
    refine ⟨?_, ?_, ?_⟩
    · rw [hlookup, if_neg ne_statePath.1, h₅.there]
    · rw [hlookup, if_neg ne_statePath.2]
      rcases h₅.directory with hd | ⟨_, hd⟩
      · rw [hd]
        exact hdirectory
      · exact .inr hd
    · rw [hlookup, if_pos rfl]
  · refine hgone (keeps_seq (keeps_dropBackups hbackups h₆) fun _ tree₇ h₇ => ?_)
    exact keeps_seq (keeps_dropEmpty h₇) fun _ tree₈ h₈ => keeps_pure h₈

/-! ## Histories -/

/-- What happens to a repository: calls, with the faults of their accesses, and edits
of whatever is not on the way to the state file. -/
inductive Event (config : Path)
  | rendering (request : RenderRequest) (script : List Fault)
  | uninstalling (script : List Fault)
  | editing (edited : Tree → Tree)
      (untouched : ∀ tree q, q <+: statePath config → (edited tree).lookup q = tree.lookup q)

def Event.run (prims : Primitives) (event : Event config) (tree : Tree) : Tree :=
  match event with
  | .rendering request script => ((render prims config request).run script tree).2
  | .uninstalling script => ((uninstallProjections prims config).run script tree).2
  | .editing edited _ => edited tree

/-- The condition of a step: a render meets its own, with all targets apart. -/
def Event.Meets (prims : Primitives) (event : Event config) (tree : Tree) : Prop :=
  match event with
  | .rendering request _ => Renderable prims config tree request ∧ TargetsApart config request
  | _ => True

/-- The trees that a history passes through, from a repository with its configuration
directory and without a state, while every step meets its condition. -/
inductive Reached (prims : Primitives) (config : Path) : Tree → Prop
  | fresh {tree : Tree} (hconfig : tree.lookup config = some .directory)
      (hstate : tree.lookup (config ++ [stateName]) = none) : Reached prims config tree
  | step {tree : Tree} (event : Event config) (h : Reached prims config tree)
      (hmeets : event.Meets prims tree) : Reached prims config (event.run prims tree)

theorem Reached.sound (h : Reached prims config tree) : Sound prims config tree := by
  induction h with
  | fresh hconfig hstate =>
    rename_i tree
    refine ⟨none, projectionState_none hconfig (.inl hstate) ?_, fun _ h => (nomatch h)⟩
    by_contra hfile
    have hsome := Option.ne_none_iff_isSome.mp hfile
    have hdir := Tree.lookup_above hsome prefix_statePath.2 ne_statePath.2
    rw [hstate] at hdir
    cases hdir
  | step event _ hmeets ih =>
    cases event with
    | rendering request script => exact sound_render ih hmeets.1 hmeets.2 script
    | uninstalling script => exact sound_uninstall ih script
    | editing edited untouched =>
      refine ih.kept ⟨?_, .inl ?_, ?_⟩
      · show (edited _).lookup config = _
        rw [untouched _ _ prefix_statePath.1]
        obtain ⟨state, hstate, _⟩ := ih
        exact directory_of_projectionState hstate
      · exact untouched _ _ prefix_statePath.2
      · exact untouched _ _ List.prefix_rfl

/-- **The ownership state stays readable** while every render keeps its targets apart
from each other and from the state, and does not replace a file that it created.  And
in any tree so reached, a render that returns leaves a readable state exactly when it
keeps the targets apart and replaces no file that was created. -/
theorem ownership_state_readable (h : Reached prims config tree) :
    (∃ state, projectionState prims config tree = .ok state) ∧
      ∀ request script outputs tree',
        (render prims config request).run script tree = (.returned outputs, tree') →
          ((∃ state, projectionState prims config tree' = .ok state) ↔
            Renderable prims config tree request) := by
  obtain ⟨state, hstate, hwritten⟩ := h.sound
  refine ⟨⟨state, hstate⟩, fun request script outputs tree' hrun => ?_⟩
  obtain ⟨plans, prior, hrendered⟩ := returns_render.run hrun
  refine hrendered.accepted_iff fun o ho => ?_
  obtain ⟨found, hfound, hprior, _⟩ := readPrior_eq_ok hrendered.read
  obtain rfl : found = state := Except.ok.inj (hfound.symm.trans hstate)
  rw [hprior] at ho
  exact (hwritten o ho).bounded

/-! ### Two clients with one target -/

theorem lit_ascii : lit = asciiText := by
  funext s
  rw [lit, toList_eq_asciiText]

def zeroDigest (_ : RawContent) : Text := List.replicate 64 '0'

def samplePrimitives : Primitives := primitivesOf zeroDigest fun _ => by
  rw [zeroDigest]
  decide

def sampleConfig : Path := [lit ".ai"]

def sampleTree : Tree where
  nodes := Finmap.singleton sampleConfig .directory
  closed := by
    intro p part h
    have hmem : p ++ [part] = sampleConfig := by
      by_contra hne
      rw [Finmap.lookup_eq_none.mpr (by simpa [Finmap.mem_singleton] using hne)] at h
      cases h
    have hnil : p = [] := by
      have hlength := congrArg List.length hmem
      simpa [sampleConfig] using hlength
    rw [hnil]
    rfl

def sampleBundle (projections : Client → Option Text) : Bundle where
  name := lit "sample"
  purpose := lit "A sample project."
  principles := [lit "Be careful."]
  rules := [⟨lit "RULE-1", lit "Keep it small.", lit "must", none⟩]
  commands := []
  responseLanguage := lit "English"
  commitStyle := lit "conventional"
  projections := projections

/-- Claude and Codex are both to read `AGENTS.md`. -/
def sharedRequest : RenderRequest where
  bundle := sampleBundle fun
    | .claude => some (lit "AGENTS.md")
    | .codex => some (lit "AGENTS.md")
    | _ => none
  sourceDigest := zeroDigest (.utf8 [])
  instructionSource := lit ".ai/instructions.yaml"
  adopt := false
  force := false

/-- A bundle that is accepted, and a first render that returns: the state that it leaves
is refused by every later call. -/
theorem shared_target_unreadable :
    sharedRequest.bundle.accepted = true ∧
      ∃ outputs tree', (render samplePrimitives sampleConfig sharedRequest).run
          (List.replicate 12 false) sampleTree = (.returned outputs, tree') ∧
        ∀ state, projectionState samplePrimitives sampleConfig tree' ≠ .ok state := by
  refine ⟨by rfl, ?_⟩
  have hreturns : ((render samplePrimitives sampleConfig sharedRequest).run
      (List.replicate 12 false) sampleTree).1.isReturned = true := by
    generalize hprogram : render samplePrimitives sampleConfig sharedRequest = program
    delta render applyProjections planProjections planProjection desire adoptText
      replaceManaged managedSpan renderBody bodyLines startLine commandLines ruleLine
      principleLines managedStart managedEnd projectionPath
      sharedRequest sampleBundle at hprogram
    rw [lit_ascii] at hprogram
    subst hprogram
    decide +kernel
  cases hrun : (render samplePrimitives sampleConfig sharedRequest).run
      (List.replicate 12 false) sampleTree with
  | mk ending tree' =>
    rw [hrun] at hreturns
    cases ending with
    | returned outputs =>
      refine ⟨outputs, tree', rfl, fun state hstate => ?_⟩
      obtain ⟨plans, prior, hrendered⟩ := returns_render.run hrun
      have hfresh : projectionState samplePrimitives sampleConfig sampleTree = .ok none :=
        projectionState_none (by decide) (.inl (by decide)) (by decide)
      obtain ⟨found, hfound, hprior, _⟩ := readPrior_eq_ok hrendered.read
      obtain rfl : found = none := Except.ok.inj (hfound.symm.trans hfresh)
      have hcond := (hrendered.accepted_iff (by simp [hprior])).mp ⟨state, hstate⟩
      exact absurd hcond.distinct (by decide)
    | raised e | crashed => cases hreturns

end Ecosystem.Projections
