import Ecosystem.Projections.Installing

/-!
# Uninstalling

Where every entry of the state is owned, an uninstall without faults returns and puts
every file back: what was replaced comes from its backup, what was created goes.
-/

namespace Ecosystem.Projections

open Ecosystem.Lib Ecosystem.Lib.Checks

variable {prims : Primitives} {config : Path} {tree tree' : Tree} {path : Path} {text : Text}

/-! ## Files that are there -/

/-- A path that the state can name and a call can read. -/
structure Usable (path : Path) : Prop where
  nameable : Nameable path
  plain : (asPosix path).any isControl = false
  short : tooLong path = false

theorem HasText.ne_nil (h : HasText tree path text) : path ≠ [] := by
  rintro rfl
  obtain ⟨content, hfile, _⟩ := h
  rw [Tree.lookup_nil] at hfile
  cases hfile

theorem directory_of_text {cursor rest : Path} {part : Text}
    (h : HasText tree (cursor ++ part :: rest) text) (hne : rest ≠ []) :
    tree.lookup (cursor ++ [part]) = some .directory := by
  refine Tree.lookup_above h.isSome ⟨rest, by simp⟩ fun heq => hne ?_
  simpa using heq

theorem checkTopology_of_text {cursor rest : Path} (h : HasText tree (cursor ++ rest) text) :
    checkTopology tree cursor rest = .ok () := by
  induction rest generalizing cursor with
  | nil => rfl
  | cons part rest ih =>
    have hrest : HasText tree ((cursor ++ [part]) ++ rest) text := by
      rw [List.append_assoc]
      exact h
    rw [checkTopology]
    by_cases hnil : rest = []
    · subst hnil
      obtain ⟨content, hfile, _⟩ := h
      simp [hfile]
    · simp only [directory_of_text h hnil, if_neg hnil]
      exact ih hrest

theorem checkBackupTopology_of_text {cursor rest : Path} (hne : rest ≠ [])
    (h : HasText tree (cursor ++ rest) text) :
    checkBackupTopology tree cursor rest = .ok () := by
  induction rest generalizing cursor with
  | nil => exact absurd rfl hne
  | cons part rest ih =>
    have hrest : HasText tree ((cursor ++ [part]) ++ rest) text := by
      rw [List.append_assoc]
      exact h
    rw [checkBackupTopology]
    by_cases hnil : rest = []
    · subst hnil
      obtain ⟨content, hfile, _⟩ := h
      simp [hfile]
    · simp only [directory_of_text h hnil, if_neg hnil]
      exact ih hnil hrest

theorem Usable.projectionPath (h : Usable path) (htext : HasText tree path text) :
    projectionPath tree (asPosix path) = .ok path := by
  have hcomponents := h.nameable.components_asPosix
  have hne : asPosix path ≠ [] := by
    intro hnil
    rw [hnil] at hcomponents
    exact htext.ne_nil hcomponents.symm
  have htopology : checkTopology tree [] path = .ok () := checkTopology_of_text htext
  simp only [Projections.projectionPath, bind_eq_ok, require_eq_ok, hcomponents]
  refine ⟨(), ?_, (), ?_, (), htopology, rfl⟩
  · simp [hne, h.nameable.not_backslash, h.plain]
  · simp [h.nameable.not_absolute htext.ne_nil, h.nameable.upward]

theorem checkLive_of_text {message : String} (h : Usable path) (htext : HasText tree path text) :
    checkLive path text message tree = .ok () := by
  simp only [checkLive, bind_eq_ok, require_eq_ok, decide_eq_true_eq]
  exact ⟨path, h.projectionPath htext, text, htext.read h.short, rfl⟩

theorem verifiedBackup_of_text {before : Text}
    (h : HasText tree (config ++ backupPath prims path before) before)
    (hshort : tooLong (config ++ backupPath prims path before) = false) :
    ∃ content, verifiedBackup prims config tree (asPosix (backupPath prims path before))
        (some (prims.sha256 (.utf8 before))) (some (byteSize before)) =
      .ok (config ++ backupPath prims path before, content) ∧ content.val = .utf8 before := by
  have hnameable := @backupPath_nameable prims path before
  have hparts := hnameable.components_asPosix
  have htopology : checkBackupTopology tree config (backupPath prims path before) = .ok () :=
    checkBackupTopology_of_text (by simp [backupPath]) h
  obtain ⟨content, hfile, hcontent⟩ := h
  have hexisting : existing tree (config ++ backupPath prims path before) =
      .ok (some content) := by
    rw [existing, hshort, hfile]
    rfl
  refine ⟨content, ?_, hcontent⟩
  simp only [verifiedBackup, bind_eq_ok, require_eq_ok, hparts, Bool.and_eq_true,
    decide_eq_true_eq]
  refine ⟨(), ⟨⟨rfl, ?_⟩, rfl⟩, (), htopology, some content, hexisting, content, rfl, (), ?_,
    rfl⟩
  · rw [hnameable.not_absolute (by simp [backupPath])]
    rfl
  · rw [hcontent]
    exact ⟨rfl, rfl⟩

/-! ## Owned files -/

/-- What an entry says about its file, and what an uninstall makes of it: a file that
was created goes, a text that was replaced comes back. -/
inductive Origin (prims : Primitives) (config : Path) (tree : Tree) (path : Path) (o : Output)
    (text : Text) : Option Text → Prop
  | created (hbackup : o.backup = none)
      (hspan : managedSpan text = .ok (some ([], lit "\n"))) :
      Origin prims config tree path o text none
  | replaced (before : Text) (span : Text × Text)
      (hspan : managedSpan text = .ok (some span))
      (hbackup : o.backup = some (asPosix (backupPath prims path before)))
      (hdigest : o.backupDigest = some (prims.sha256 (.utf8 before)))
      (hsize : o.backupSize = some (byteSize before))
      (hkept : HasText tree (config ++ backupPath prims path before) before)
      (hshort : tooLong (config ++ backupPath prims path before) = false) :
      Origin prims config tree path o text (some before)

variable {image : Option Text}

theorem Origin.managed {o : Output} (h : Origin prims config tree path o text image) :
    ∃ span, managedSpan text = .ok (some span) := by
  cases h with
  | created _ hspan => exact ⟨_, hspan⟩
  | replaced _ span hspan => exact ⟨span, hspan⟩

/-- An entry whose file is as the entry says. -/
structure Owned (prims : Primitives) (config : Path) (tree : Tree) (path : Path) (o : Output)
    (image : Option Text) : Prop where
  name : o.path = asPosix path
  usable : Usable path
  apart : Apart config path
  text : ∃ text, HasText tree path text ∧ o.digest = prims.sha256 (.utf8 text) ∧
    Origin prims config tree path o text image

/-- The action for an owned file. -/
structure Action.For (prims : Primitives) (config : Path) (tree : Tree) (path : Path)
    (image : Option Text) (action : Action) : Prop where
  path_eq : action.path = path
  live : HasText tree path action.live
  image_eq : action.image.map Subtype.val = image.map RawContent.utf8
  backup_eq : action.backup = image.map fun before => config ++ backupPath prims path before

theorem Owned.planAction {o : Output} (h : Owned prims config tree path o image) :
    ∃ action, planAction prims config tree o = .ok action ∧
      action.For prims config tree path image := by
  obtain ⟨text, htext, hdigest, horigin⟩ := h.text
  have hpath := h.usable.projectionPath htext
  have hread := htext.read h.usable.short
  have hthere : tree.lookup path ≠ none := Option.isSome_iff_ne_none.mp htext.isSome
  cases horigin with
  | created hbackup hspan =>
    refine ⟨⟨"deleted", path, text, none, none⟩, ?_, rfl, htext, rfl, rfl⟩
    simp only [Projections.planAction, bind_eq_ok, require_eq_ok, decide_eq_true_eq, h.name]
    refine ⟨path, hpath, (), hthere, text, hread, (), hdigest, _, hspan, ?_⟩
    have hremainder : remainder [] (lit "\n") = [] := by decide
    simp only [hbackup, hremainder, if_true]
    rfl
  | replaced before span hspan hbackup hdigest' hsize hkept hshort =>
    obtain ⟨content, hverified, hcontent⟩ := verifiedBackup_of_text hkept hshort
    rcases span with ⟨front, back⟩
    refine ⟨⟨"restored", path, text, some content, some _⟩, ?_, rfl, htext, ?_, rfl⟩
    · simp only [Projections.planAction, bind_eq_ok, require_eq_ok, decide_eq_true_eq, h.name]
      refine ⟨path, hpath, (), hthere, text, hread, (), hdigest, _, hspan, ?_⟩
      simp only [hbackup, hdigest', hsize, bind_eq_ok]
      exact ⟨_, hverified, rfl⟩
    · rw [Option.map_some, Option.map_some, hcontent]

/-! ## The loops -/

/-- An action whose file is as it was when the action was planned. -/
structure Action.Ready (action : Action) (tree : Tree) : Prop where
  usable : Usable action.path
  live : HasText tree action.path action.live

theorem succeeds_checkActions {actions : List Action}
    (h : ∀ action ∈ actions, action.Ready tree) :
    Succeeds (checkActions actions) (fun _ tree' => tree = tree') tree := by
  induction actions with
  | nil => exact succeeds_pure rfl
  | cons action actions ih =>
    rw [List.forall_mem_cons] at h
    refine succeeds_bind (fun _ tree' => tree = tree')
      (succeeds_inspect (checkLive_of_text h.1.usable h.1.live) rfl) ?_
    rintro _ _ rfl
    exact ih h.2

theorem succeeds_restore {action : Action} (h : action.Ready tree) :
    Succeeds (restore action) (fun _ tree' => ∀ q, tree'.lookup q =
      if q = action.path then action.image.map Node.file else tree.lookup q) tree := by
  refine succeeds_bind (fun _ tree' => tree = tree')
    (succeeds_inspect (checkLive_of_text h.usable h.live) rfl) ?_
  rintro _ _ rfl
  obtain ⟨old, hfile, _⟩ := h.live
  cases action.image with
  | none =>
    obtain ⟨tree', hunlink⟩ := Tree.unlink_file hfile
    exact succeeds_change hunlink (Tree.unlink_eq_ok hunlink)
  | some image =>
    obtain ⟨tree', hwrite⟩ := @Tree.atomicWrite_file _ _ image _ hfile h.usable.short
    refine succeeds_change hwrite fun q => ?_
    have hwrote := (Tree.atomicWrite_eq_ok hwrite).2
    by_cases hq : q = action.path
    · rw [if_pos hq, hq, hwrote.written]
      rfl
    · rw [if_neg hq]
      rcases hwrote.others q hq with hsame | ⟨hnone, _, hpre⟩
      · exact hsame
      · -- the directories above a file are there already
        rw [Tree.lookup_above h.live.isSome hpre hq] at hnone
        cases hnone

theorem succeeds_restoreEach {actions : List Action}
    (hnodup : (actions.map Action.path).Nodup) (h : ∀ action ∈ actions, action.Ready tree) :
    Succeeds (restoreEach actions) (fun _ tree' =>
      (∀ q, q ∉ actions.map Action.path → tree'.lookup q = tree.lookup q) ∧
        ∀ action ∈ actions, tree'.lookup action.path = action.image.map Node.file) tree := by
  induction actions generalizing tree with
  | nil => exact succeeds_pure ⟨fun _ _ => rfl, fun _ h => (nomatch h)⟩
  | cons action actions ih =>
    rw [List.map_cons, List.nodup_cons] at hnodup
    rw [List.forall_mem_cons] at h
    refine succeeds_bind _ (succeeds_restore h.1) fun _ tree₁ hlookup => ?_
    have hready : ∀ action' ∈ actions, action'.Ready tree₁ := by
      intro action' haction'
      refine ⟨(h.2 action' haction').usable, (h.2 action' haction').live.of_lookup ?_⟩
      rw [hlookup, if_neg]
      intro heq
      exact hnodup.1 (heq ▸ List.mem_map_of_mem haction')
    refine (ih hnodup.2 hready).mono fun _ tree₂ ⟨hothers, heach⟩ => ⟨fun q hq => ?_, ?_⟩
    · rw [List.map_cons, List.mem_cons, not_or] at hq
      rw [hothers q hq.2, hlookup, if_neg hq.1]
    · rw [List.forall_mem_cons]
      refine ⟨?_, heach⟩
      rw [hothers _ hnodup.1, hlookup, if_pos rfl]

theorem succeeds_verifyBackups {entries : List Output}
    (h : ∀ o ∈ entries, ∀ backup, o.backup = some backup → ∃ found,
      verifiedBackup prims config tree backup o.backupDigest o.backupSize = .ok found) :
    Succeeds (verifyBackups prims config entries) (fun _ tree' => tree = tree') tree := by
  induction entries with
  | nil => exact succeeds_pure rfl
  | cons entry entries ih =>
    rw [List.forall_mem_cons] at h
    cases hbackup : entry.backup with
    | none =>
      simp only [verifyBackups, hbackup]
      exact ih h.2
    | some backup =>
      simp only [verifyBackups, hbackup]
      obtain ⟨found, hfound⟩ := h.1 backup hbackup
      refine succeeds_bind (fun _ tree' => tree = tree') (succeeds_inspect hfound rfl) ?_
      rintro _ _ rfl
      exact ih h.2

theorem succeeds_dropBackups {paths : List Path}
    (h : ∀ p ∈ paths, tree.lookup p = none ∨ ∃ content, tree.lookup p = some (.file content)) :
    Succeeds (dropBackups paths)
      (fun _ tree' => ∀ q, q ∉ paths → tree'.lookup q = tree.lookup q) tree := by
  induction paths generalizing tree with
  | nil => exact succeeds_pure fun _ _ => rfl
  | cons path paths ih =>
    rw [List.forall_mem_cons] at h
    refine succeeds_bind
      (fun _ tree' => ∀ q, tree'.lookup q = if q = path then none else tree.lookup q) ?_
      fun _ tree₁ hlookup => ?_
    · rcases h.1 with hnone | ⟨content, hfile⟩
      · refine @succeeds_change tree _ _ tree (by simp only [hnone]) fun q => ?_
        split
        · next heq => rw [heq, hnone]
        · rfl
      · obtain ⟨tree', hunlink⟩ := Tree.unlink_file hfile
        exact succeeds_change (by simp only [hfile, hunlink]) (Tree.unlink_eq_ok hunlink)
    refine (ih fun p hp => ?_).mono fun _ tree₂ hothers q hq => ?_
    · rw [hlookup]
      split
      · exact .inl rfl
      · exact h.2 p hp
    · rw [List.mem_cons, not_or] at hq
      rw [hothers q hq.2, hlookup, if_neg hq.1]

def FilesStay (tree tree' : Tree) : Prop :=
  ∀ q, tree.lookup q ≠ some .directory → tree'.lookup q = tree.lookup q

theorem FilesStay.trans {tree'' : Tree} (h : FilesStay tree tree') (h' : FilesStay tree' tree'') :
    FilesStay tree tree'' := by
  intro q hq
  have hsame := h q hq
  rw [h' q (hsame ▸ hq), hsame]

theorem succeeds_dropParents {parents : List Path} :
    Succeeds (dropParents parents) (fun _ tree' => FilesStay tree tree') tree := by
  induction parents generalizing tree with
  | nil => exact succeeds_pure fun _ _ => rfl
  | cons parent parents ih =>
    have htry : Succeeds (tryRmdir parent) (fun _ tree' => FilesStay tree tree') tree := by
      refine ⟨trivial, fun fault hfault => ?_⟩
      subst hfault
      cases hrmdir : tree.rmdir parent with
      | ok tree'' =>
        simp only [Bool.false_eq_true, if_false, hrmdir]
        obtain ⟨hdir, hlookup⟩ := Tree.rmdir_eq_ok hrmdir
        intro q hq
        rw [hlookup, if_neg]
        rintro rfl
        exact hq hdir
      | error e =>
        simp only [Bool.false_eq_true, if_false, hrmdir]
        exact fun _ _ => rfl
    refine succeeds_bind _ htry fun removed tree₁ hstay => ?_
    cases removed with
    | true => exact ih.mono fun _ _ h => hstay.trans h
    | false => exact succeeds_pure hstay

theorem succeeds_dropEmpty {paths : List Path} :
    Succeeds (dropEmpty config paths) (fun _ tree' => FilesStay tree tree') tree := by
  induction paths generalizing tree with
  | nil => exact succeeds_pure fun _ _ => rfl
  | cons path paths ih =>
    refine succeeds_bind _ succeeds_dropParents fun _ tree₁ hstay => ?_
    exact ih.mono fun _ _ h => hstay.trans h

/-! ## The call -/

def PutBack (tree : Tree) (path : Path) : Option Text → Prop
  | none => tree.lookup path = none
  | some before => HasText tree path before

theorem PutBack.of_lookup (h : PutBack tree path image)
    (hlookup : tree'.lookup path = tree.lookup path) : PutBack tree' path image := by
  cases image with
  | none => exact hlookup.trans h
  | some before => exact HasText.of_lookup h hlookup

theorem PutBack.ne_directory (h : PutBack tree path image) :
    tree.lookup path ≠ some .directory := by
  cases image with
  | none =>
    have hnone : tree.lookup path = none := h
    rw [hnone]
    exact fun h => nomatch h
  | some before =>
    obtain ⟨content, hfile, _⟩ := h
    rw [hfile]
    exact fun h => nomatch h

theorem Action.For.putBack {action : Action} (h : action.For prims config tree path image)
    (hlookup : tree'.lookup action.path = action.image.map Node.file) :
    PutBack tree' path image := by
  have himage := h.image_eq
  rw [h.path_eq] at hlookup
  cases himg : action.image with
  | none =>
    rw [himg] at himage hlookup
    cases image with
    | none => exact hlookup
    | some before => cases himage
  | some content =>
    rw [himg] at himage hlookup
    cases image with
    | none => cases himage
    | some before => exact ⟨content, hlookup, Option.some.inj himage⟩

theorem stateFile_of_projectionState {outputs : List Output}
    (h : projectionState prims config tree = .ok (some outputs)) :
    ∃ content, tree.lookup (statePath config) = some (.file content) := by
  unfold projectionState at h
  obtain ⟨⟨⟩, _, h⟩ := bind_eq_ok.mp h
  cases hfile : tree.lookup (statePath config) with
  | none =>
    rw [hfile] at h
    cases h
  | some node =>
    rw [hfile] at h
    cases node with
    | file content => exact ⟨content, rfl⟩
    | directory | symlink | special => cases h

/-- **An uninstall puts every owned file back**, as long as no file is the backup of
another one. -/
theorem succeeds_uninstall {outputs : List Output} {images : Path → Option Text}
    (hstate : projectionState prims config tree = .ok (some outputs))
    (howned : ∀ o ∈ outputs,
      Owned prims config tree (components o.path) o (images (components o.path)))
    (hbackups : ∀ o ∈ outputs, ∀ o' ∈ outputs, ∀ before,
      images (components o.path) = some before →
        config ++ backupPath prims (components o.path) before ≠ components o'.path) :
    Succeeds (uninstallProjections prims config) (fun _ tree' => ∀ o ∈ outputs,
        PutBack tree' (components o.path) (images (components o.path))) tree := by
  have hperm := List.mergeSort_perm outputs fun o o' => decide (o.path ≤ o'.path)
  have hmem : ∀ o, o ∈ sortedOutputs outputs ↔ o ∈ outputs := fun o => hperm.mem_iff
  obtain ⟨actions, hactions, hfor⟩ := exists_mapM_forall₂
    (fun o ho => (howned o ((hmem o).mp ho)).planAction)
  have hpaths : actions.map Action.path =
      (sortedOutputs outputs).map fun o => components o.path := by
    clear hactions
    generalize sortedOutputs outputs = sorted at hfor
    induction hfor with
    | nil => rfl
    | cons h _ ih => rw [List.map_cons, List.map_cons, h.path_eq, ih]
  have hnodup : (actions.map Action.path).Nodup := by
    rw [hpaths]
    refine List.Nodup.of_map asPosix ?_
    rw [List.map_map]
    have hnames : (sortedOutputs outputs).map (asPosix ∘ fun o => components o.path) =
        (sortedOutputs outputs).map Output.path := by
      refine List.map_congr_left fun o ho => ?_
      exact (howned o ((hmem o).mp ho)).name.symm
    rw [hnames]
    exact (hperm.map Output.path).nodup_iff.mpr (outputValid_of_projectionState hstate).1
  have hready : ∀ action ∈ actions, action.Ready tree := by
    refine forall_mem_of_forall₂ hfor fun o ho action h => ?_
    have husable := (howned o ((hmem o).mp ho)).usable
    exact ⟨h.path_eq ▸ husable, h.path_eq ▸ h.live⟩
  have hapart : ∀ p ∈ actions.map Action.path, Apart config p := by
    rw [hpaths]
    intro p hp
    obtain ⟨o, ho, rfl⟩ := List.mem_map.mp hp
    exact (howned o ((hmem o).mp ho)).apart
  have hkept : ∀ o ∈ outputs, ∀ before, images (components o.path) = some before →
      config ++ backupPath prims (components o.path) before ∉ actions.map Action.path := by
    intro o ho before himage hin
    rw [hpaths] at hin
    obtain ⟨o', ho', heq⟩ := List.mem_map.mp hin
    exact hbackups o ho o' ((hmem o').mp ho') before himage heq.symm
  refine succeeds_bind (fun state tree' => tree = tree' ∧ state = some outputs)
    (succeeds_inspect hstate ⟨rfl, rfl⟩) ?_
  rintro _ _ ⟨rfl, rfl⟩
  refine succeeds_bind (fun outputs' tree' => tree = tree' ∧ outputs = outputs')
    (succeeds_ofExcept rfl ⟨rfl, rfl⟩) ?_
  rintro _ _ ⟨rfl, rfl⟩
  refine succeeds_bind (fun actions' tree' => tree = tree' ∧ actions = actions')
    (succeeds_inspect hactions ⟨rfl, rfl⟩) ?_
  rintro _ _ ⟨rfl, rfl⟩
  have hcheck (tree' : Tree) (h : projectionState prims config tree' = .ok (some outputs)) :
      checkState prims config outputs tree' = .ok () := by
    rw [checkState, h]
    exact require_eq_ok.mpr (by simp)
  refine succeeds_bind (fun _ tree' => tree = tree')
    (succeeds_inspect (hcheck tree hstate) rfl) ?_
  rintro _ _ rfl
  refine succeeds_bind _ (succeeds_checkActions hready) ?_
  rintro _ _ rfl
  refine succeeds_bind _ (succeeds_restoreEach hnodup hready) fun _ tree₁ ⟨hothers, heach⟩ => ?_
  -- the state and the backups are as they were
  have hunlisted (q : Path) (h : ∀ p, Apart config p → q ≠ p) :
      tree₁.lookup q = tree.lookup q := by
    refine hothers q fun hin => ?_
    exact h q (hapart q hin) rfl
  have hconfig := directory_of_projectionState hstate
  have hstate₁ : projectionState prims config tree₁ = .ok (some outputs) := by
    rw [← hstate]
    refine projectionState_kept ⟨?_, .inl ?_, ?_⟩ hconfig
    · rw [hunlisted config fun p hp => hp.ne.1, hconfig]
    · exact hunlisted _ fun p hp => hp.ne.2.1
    · exact hunlisted _ fun p hp => hp.ne.2.2
  have hbackup₁ : ∀ o ∈ outputs, ∀ before, images (components o.path) = some before →
      HasText tree₁ (config ++ backupPath prims (components o.path) before) before := by
    intro o ho before himage
    obtain ⟨text, _, _, horigin⟩ := (howned o ho).text
    have hlookup := hothers _ (hkept o ho before himage)
    rw [himage] at horigin
    cases horigin with
    | replaced _ _ _ _ _ _ hthere => exact hthere.of_lookup hlookup
  refine succeeds_bind _ (succeeds_verifyBackups fun o ho backup hsome => ?_) ?_
  · obtain ⟨text, _, _, horigin⟩ := (howned o ho).text
    have hb := hbackup₁ o ho
    generalize images (components o.path) = image at horigin hb
    cases horigin with
    | created hnone => exact absurd (hnone.symm.trans hsome) (by simp)
    | replaced before _ _ hname hdigest hsize _ hshort =>
      obtain ⟨content, hverified, _⟩ := verifiedBackup_of_text (hb before rfl) hshort
      obtain rfl := Option.some.inj (hname.symm.trans hsome)
      rw [hdigest, hsize]
      exact ⟨_, hverified⟩
  rintro _ _ rfl
  refine succeeds_bind (fun _ tree' => tree₁ = tree')
    (succeeds_inspect (hcheck tree₁ hstate₁) rfl) ?_
  rintro _ _ rfl
  obtain ⟨stateContent, hstateFile⟩ := stateFile_of_projectionState hstate₁
  obtain ⟨tree₂, hunlink⟩ := Tree.unlink_file hstateFile
  refine succeeds_bind (fun _ tree' => tree₂ = tree') (succeeds_change hunlink rfl) ?_
  rintro _ _ rfl
  have hlookup₂ := Tree.unlink_eq_ok hunlink
  have hbackupOf : ∀ p ∈ actions.filterMap Action.backup, ∃ o ∈ outputs, ∃ before,
      images (components o.path) = some before ∧
        p = config ++ backupPath prims (components o.path) before := by
    intro p hp
    obtain ⟨action, haction, hsome⟩ := List.mem_filterMap.mp hp
    have hall : ∀ action ∈ actions, ∀ p, action.backup = some p → ∃ o ∈ outputs, ∃ before,
        images (components o.path) = some before ∧
          p = config ++ backupPath prims (components o.path) before := by
      refine forall_mem_of_forall₂ hfor fun o ho action h p hsome => ?_
      rw [h.backup_eq, Option.map_eq_some_iff] at hsome
      obtain ⟨before, himage, rfl⟩ := hsome
      exact ⟨o, (hmem o).mp ho, before, himage, rfl⟩
    exact hall action haction p hsome
  refine succeeds_bind _ (succeeds_dropBackups fun p hp => ?_) fun _ tree₃ hlookup₃ => ?_
  · obtain ⟨o, ho, before, himage, rfl⟩ := hbackupOf p hp
    obtain ⟨content, hfile, _⟩ := hbackup₁ o ho before himage
    refine .inr ⟨content, ?_⟩
    rw [hlookup₂, if_neg fun heq => (backupPath_apart _ _).ne.2.2 heq.symm, hfile]
  refine succeeds_bind _ succeeds_dropEmpty fun _ tree₄ hstay => succeeds_pure fun o ho => ?_
  have hput : PutBack tree₁ (components o.path) (images (components o.path)) := by
    have hin : components o.path ∈ actions.map Action.path := by
      rw [hpaths]
      exact List.mem_map_of_mem ((hmem o).mpr ho)
    obtain ⟨action, haction, hpath⟩ := List.mem_map.mp hin
    have hall : ∀ action ∈ actions, action.path = components o.path →
        action.For prims config tree (components o.path) (images (components o.path)) := by
      refine forall_mem_of_forall₂ hfor fun o' _ action h heq => ?_
      rw [← heq, h.path_eq]
      exact h
    exact (hall action haction hpath).putBack (heach action haction)
  have hput₂ : PutBack tree₂ (components o.path) (images (components o.path)) := by
    refine hput.of_lookup ?_
    rw [hlookup₂, if_neg fun heq => (howned o ho).apart.ne.2.2 heq.symm]
  have hput₃ : PutBack tree₃ (components o.path) (images (components o.path)) := by
    refine hput₂.of_lookup (hlookup₃ _ fun hin => ?_)
    obtain ⟨o', ho', before, himage, heq⟩ := hbackupOf _ hin
    exact hbackups o' ho' o ho before himage heq.symm
  exact hput₃.of_lookup (hstay _ hput₃.ne_directory)

end Ecosystem.Projections
