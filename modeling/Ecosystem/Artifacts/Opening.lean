import Ecosystem.Artifacts.Consistency

/-!
# Opening a store

From a disk at rest each part of an opening comes to a disk at rest, over intact ones.
`faulty` says whether a write may take no byte; without such faults no opening raises.
-/

namespace Ecosystem.Artifacts

open Ecosystem.Lib

/-! ## Conditions -/

/-- Surroundings: without faults, a write takes a byte at least. -/
def Fair (faulty : Prop) (input : Input) : Prop := faulty ∨ 1 ≤ input.written

section Conditions

variable (prims : Primitives) (keyId : Text) (contents : Set Bytes) (before : Disk)

/-- Between two steps of a call that began at `before`. -/
structure Underway (disk : Disk) : Prop where
  intact : Intact prims keyId contents disk
  links : Settled disk ∨ Halfway disk
  kept : Kept before disk

/-- A call that began at `before` holds nothing. -/
structure AtRest (disk : Disk) : Prop where
  sound : Sound prims keyId contents disk
  kept : Kept before disk

/-- A call that began at `before` has made one temporary name. -/
structure Temporary (token : Token) (disk : Disk) : Prop where
  fresh : before.lookup (tempPath token) = none
  others : ∀ name, name ≠ tempName token →
    disk.lookup [temporaryName, name] = before.lookup [temporaryName, name]

/-- The temporary name of a call holds what has been written. -/
structure Writing (token : Token) (inode : ℕ) (bytes : Bytes) (disk : Disk) : Prop where
  rest : AtRest prims keyId contents before disk
  temporary : Temporary before token disk
  temp : disk.lookup (tempPath token) = some (.file inode)
  data : disk.data inode = bytes

abbrev post {α : Type} (returned : α → Disk → Prop) (raised : Disk → Prop) :
    Prog.Post Disk Failure α where
  between := Underway prims keyId contents before
  returned := returned
  raised := fun _ => raised

end Conditions

variable {α : Type} {prims : Primitives} {keyId : Text} {contents : Set Bytes}

variable {faulty : Prop} {before s : Disk} {returned : α → Disk → Prop}

variable {raised : Disk → Prop}

theorem AtRest.underway (h : AtRest prims keyId contents before s) :
    Underway prims keyId contents before s :=
  ⟨h.sound.intact, Or.inl h.sound.settled, h.kept⟩

theorem AtRest.refl (h : Sound prims keyId contents s) : AtRest prims keyId contents s s :=
  ⟨h, Kept.refl s⟩

theorem AtRest.next {s' : Disk} (h : AtRest prims keyId contents before s)
    (hnext : Sound prims keyId contents s' ∧ Kept s s') :
    AtRest prims keyId contents before s' :=
  ⟨hnext.1, h.kept.trans hnext.2⟩

theorem Underway.rebase {start : Disk} (h : Underway prims keyId contents before s)
    (hkept : Kept start before) : Underway prims keyId contents start s :=
  ⟨h.intact, h.links, hkept.trans h.kept⟩

theorem AtRest.rebase {start : Disk} (h : AtRest prims keyId contents before s)
    (hkept : Kept start before) : AtRest prims keyId contents start s :=
  ⟨h.sound, hkept.trans h.kept⟩

/-! ## Steps -/

section Steps

variable {admissible : Input → Prop} {asked : Prog.Post Disk Failure α}

theorem safe_inspect {read : Disk → Except Failure α} (hbetween : asked.between s)
    (hok : ∀ a, read s = .ok a → asked.returned a s)
    (herror : ∀ e, read s = .error e → asked.raised e s) :
    (inspect read).Safe admissible asked s := by
  refine Prog.safe_act hbetween ?_ ?_
  · intro i a s' _ heq
    obtain ⟨ha, rfl⟩ := Prod.mk.inj heq
    exact hok a ha
  · intro i e s' _ heq
    obtain ⟨he, rfl⟩ := Prod.mk.inj heq
    exact herror e he

theorem safe_inspect_ok {read : Disk → Except Failure α} {a : α}
    (hbetween : asked.between s) (hread : read s = .ok a) (hreturned : asked.returned a s) :
    (inspect read).Safe admissible asked s := by
  refine safe_inspect hbetween ?_ ?_
  · intro b hb
    rw [hread] at hb
    cases hb
    exact hreturned
  · intro e he
    rw [hread] at he
    cases he

theorem safe_change {edit : Disk → Except Failure Disk} {asked : Prog.Post Disk Failure Unit}
    (hbetween : asked.between s) (hok : ∀ s', edit s = .ok s' → asked.returned () s')
    (herror : ∀ e, edit s = .error e → asked.raised e s) :
    (change edit).Safe admissible asked s := by
  refine Prog.safe_act hbetween ?_ ?_
  · intro i a s' _ heq
    cases hedit : edit s with
    | ok s'' =>
      rw [hedit] at heq
      obtain ⟨-, rfl⟩ := Prod.mk.inj heq
      exact hok s'' hedit
    | error e =>
      rw [hedit] at heq
      cases (Prod.mk.inj heq).1
  · intro i e s' _ heq
    cases hedit : edit s with
    | ok s'' =>
      rw [hedit] at heq
      cases (Prod.mk.inj heq).1
    | error e' =>
      rw [hedit] at heq
      obtain ⟨he, rfl⟩ := Prod.mk.inj heq
      cases he
      exact herror _ hedit

theorem safe_change_ok {edit : Disk → Except Failure Disk}
    {asked : Prog.Post Disk Failure Unit} {s' : Disk} (hbetween : asked.between s)
    (hedit : edit s = .ok s') (hreturned : asked.returned () s') :
    (change edit).Safe admissible asked s := by
  refine safe_change hbetween ?_ ?_
  · intro s'' heq
    rw [hedit] at heq
    cases heq
    exact hreturned
  · intro e heq
    rw [hedit] at heq
    cases heq

end Steps

theorem safe_read {read : Disk → Except Failure α} {a : α}
    (h : Underway prims keyId contents before s) (hread : read s = .ok a) :
    (inspect read).Safe (Fair faulty)
      (post prims keyId contents before (fun b s' => a = b ∧ s = s') raised) s :=
  safe_inspect_ok h hread ⟨rfl, rfl⟩

theorem safe_sync (h : Underway prims keyId contents before s) :
    sync.Safe (Fair faulty) (post prims keyId contents before (fun _ s' => s = s') raised) s :=
  safe_inspect_ok h rfl rfl

theorem safe_drawToken (h : Underway prims keyId contents before s) :
    drawToken.Safe (Fair faulty)
      (post prims keyId contents before (fun _ s' => s = s') raised) s := by
  refine Prog.safe_act h ?_ ?_
  · intro i a s' _ heq
    obtain ⟨-, rfl⟩ := Prod.mk.inj heq
    rfl
  · intro i e s' _ heq
    cases (Prod.mk.inj heq).1


/-! ## Directories and the lock file -/

variable {path : Path}

theorem safe_createPrivateDirectory {returned : Unit → Disk → Prop}
    (h : AtRest prims keyId contents before s)
    (hproper : ∀ s', Kept s s' → Proper prims keyId contents s' path .directory)
    (hfile : ∀ i, s.lookup path ≠ some (.file i))
    (horphan : ¬ (path = [] ∨ s.lookup path.dropLast = some .directory) → raised s)
    (hreturned : ∀ s', AtRest prims keyId contents before s' → Kept s s' →
      s'.lookup path = some .directory → s'.data = s.data →
      (∀ q, q ≠ path → s'.lookup q = s.lookup q) → returned () s') :
    (createPrivateDirectory path).Safe (Fair faulty)
      (post prims keyId contents before returned raised) s := by
  refine safe_change h.underway ?_ ?_
  · intro s' heq
    cases hlookup : s.lookup path with
    | none =>
      simp only [hlookup] at heq
      cases hmk : s.mkdir path with
      | error e =>
        rw [hmk] at heq
        cases heq
      | ok s'' =>
        rw [hmk] at heq
        obtain rfl : s'' = s' := Except.ok.inj heq
        obtain ⟨-, hdata, hnew⟩ := FileSystem.mkdir_eq_ok hmk
        have hsound := h.sound.mkdir hmk (hproper s'')
        refine hreturned s'' (h.next hsound) hsound.2 ?_ hdata ?_
        · rw [hnew, if_pos rfl]
        · intro q hq
          rw [hnew, if_neg hq]
    | some entry =>
      cases entry with
      | directory =>
        simp only [hlookup] at heq
        obtain rfl : s = s' := Except.ok.inj heq
        exact hreturned s h (Kept.refl s) hlookup rfl fun _ _ => rfl
      | file i => exact absurd hlookup (hfile i)
  · intro e heq
    refine horphan fun hparent => ?_
    cases hlookup : s.lookup path with
    | none =>
      simp only [hlookup] at heq
      obtain ⟨s', hmk⟩ := FileSystem.mkdir_vacant ⟨hlookup, hparent⟩
      rw [hmk] at heq
      cases heq
    | some entry =>
      cases entry with
      | directory =>
        simp only [hlookup] at heq
        cases heq
      | file i => exact hfile i hlookup

theorem requirePrivateDirectory_ok (h : s.lookup path = some .directory) :
    requirePrivateDirectory path s = .ok () := by
  rw [requirePrivateDirectory, h]

theorem safe_requirePrivateDirectory {returned : Unit → Disk → Prop}
    (h : Underway prims keyId contents before s)
    (hmissing : s.lookup path ≠ some .directory → raised s) (hreturned : returned () s) :
    (inspect (requirePrivateDirectory path)).Safe (Fair faulty)
      (post prims keyId contents before returned raised) s := by
  refine safe_inspect h (fun _ _ => hreturned) ?_
  intro e he
  refine hmissing fun hdir => ?_
  rw [requirePrivateDirectory_ok hdir] at he
  cases he

theorem Settled.linkCount {i : ℕ} (h : Settled s)
    (hlookup : s.lookup path = some (.file i)) : s.linkCount i = 1 :=
  (FileSystem.linkCount_eq_one hlookup).mpr fun q hq => h q path i hq hlookup

theorem Intact.lock_file (h : Intact prims keyId contents s) :
    s.lookup lockPath ≠ some .directory := by
  intro hdir
  rcases h _ _ hdir with heq | heq
  · exact objectsName_ne_lockName heq.symm
  · exact temporaryName_ne_lockName heq.symm

theorem safe_openControlFile {returned : Unit → Disk → Prop}
    (h : AtRest prims keyId contents before s)
    (horphan : s.lookup rootPath ≠ some .directory → raised s)
    (hreturned : ∀ s' i, AtRest prims keyId contents before s' → Kept s s' →
      s'.lookup lockPath = some (.file i) → returned () s') :
    openControlFile.Safe (Fair faulty) (post prims keyId contents before returned raised) s := by
  refine safe_change h.underway ?_ ?_
  · intro s' heq
    cases hlookup : s.lookup lockPath with
    | none =>
      simp only [hlookup] at heq
      cases hcreate : s.create lockPath with
      | error e =>
        rw [hcreate] at heq
        cases heq
      | ok made =>
        obtain ⟨i, s''⟩ := made
        rw [hcreate] at heq
        obtain rfl : s'' = s' := Except.ok.inj heq
        obtain ⟨hsound, hkept, hnew, -⟩ := h.sound.create hcreate (Or.inl rfl)
        exact hreturned s'' i (h.next ⟨hsound, hkept⟩) hkept hnew
    | some entry =>
      cases entry with
      | directory => exact absurd hlookup h.sound.intact.lock_file
      | file i =>
        simp only [hlookup, h.sound.settled.linkCount hlookup, if_true] at heq
        obtain rfl : s = s' := Except.ok.inj heq
        exact hreturned s i h (Kept.refl s) hlookup
  · intro e heq
    refine horphan fun hroot => ?_
    cases hlookup : s.lookup lockPath with
    | none =>
      simp only [hlookup] at heq
      obtain ⟨s', hcreate⟩ := FileSystem.create_vacant ⟨hlookup, Or.inr hroot⟩
      rw [hcreate] at heq
      cases heq
    | some entry =>
      cases entry with
      | directory => exact h.sound.intact.lock_file hlookup
      | file i =>
        simp only [hlookup, h.sound.settled.linkCount hlookup, if_true] at heq
        cases heq

/-! ## In front of the lock -/

theorem Intact.directory_kind (h : Intact prims keyId contents s)
    (hpath : path = rootPath ∨ path = objectsPath ∨ path = temporaryPath) (i : ℕ) :
    s.lookup path ≠ some (.file i) := by
  intro hfile
  have hproper := h _ _ hfile
  rcases hpath with rfl | rfl | rfl
  · exact hproper
  · rcases hproper with heq | ⟨heq, -⟩
    · exact objectsName_ne_lockName heq
    · exact objectsName_ne_metaName heq
  · rcases hproper with heq | ⟨heq, -⟩
    · exact temporaryName_ne_lockName heq
    · exact temporaryName_ne_metaName heq

theorem proper_directory
    (hpath : path = rootPath ∨ path = objectsPath ∨ path = temporaryPath) (disk : Disk) :
    Proper prims keyId contents disk path .directory := by
  rcases hpath with rfl | rfl | rfl
  · exact trivial
  · exact Or.inl rfl
  · exact Or.inr rfl

theorem safe_prepareStep {step : DiskProg Unit} (hstep : step ∈ prepareSteps)
    (h : AtRest prims keyId contents before s) :
    step.Safe (Fair faulty) (post prims keyId contents before
      (fun _ => AtRest prims keyId contents before) (AtRest prims keyId contents before)) s := by
  have hmkdir : ∀ {path : Path},
      path = rootPath ∨ path = objectsPath ∨ path = temporaryPath →
      (createPrivateDirectory path).Safe (Fair faulty) (post prims keyId contents before
        (fun _ => AtRest prims keyId contents before)
        (AtRest prims keyId contents before)) s := by
    intro path hpath
    exact safe_createPrivateDirectory h (fun s' _ => proper_directory hpath s')
      (h.sound.intact.directory_kind hpath) (fun _ => h) fun _ hrest _ _ _ _ => hrest
  have hrequire : ∀ path : Path, (inspect (requirePrivateDirectory path)).Safe (Fair faulty)
      (post prims keyId contents before (fun _ => AtRest prims keyId contents before)
        (AtRest prims keyId contents before)) s :=
    fun path => safe_requirePrivateDirectory h.underway (fun _ => h) h
  simp only [prepareSteps, List.mem_cons, List.not_mem_nil, or_false] at hstep
  rcases hstep with rfl | rfl | rfl | rfl | rfl | rfl | rfl
  · exact hmkdir (Or.inl rfl)
  · exact hrequire _
  · exact hmkdir (Or.inr (Or.inl rfl))
  · exact hmkdir (Or.inr (Or.inr rfl))
  · exact hrequire _
  · exact hrequire _
  · exact safe_openControlFile h (fun _ => h) fun _ _ hrest _ _ => hrest

theorem safe_prepare (h : AtRest prims keyId contents before s) :
    (inOrder prepareSteps).Safe (Fair faulty) (post prims keyId contents before
      (fun _ s' => AtRest prims keyId contents before s' ∧ Prepared s')
      (fun _ => False)) s := by
  have hdirs : ∀ {path : Path} {s' : Disk}, AtRest prims keyId contents before s' →
      path = rootPath ∨ path = objectsPath ∨ path = temporaryPath →
      path = [] ∨ s'.lookup path.dropLast = some .directory →
      (createPrivateDirectory path).Safe (Fair faulty) (post prims keyId contents before
        (fun _ s'' => AtRest prims keyId contents before s'' ∧ Kept s' s'' ∧
          s''.lookup path = some .directory) (fun _ => False)) s' := by
    intro path s' hrest hpath hparent
    refine safe_createPrivateDirectory hrest (fun _ _ => proper_directory hpath _)
      (hrest.sound.intact.directory_kind hpath) (fun hno => hno hparent) ?_
    intro s'' hnext hkept hdir _ _
    exact ⟨hnext, hkept, hdir⟩
  have hrequire : ∀ {path : Path} {s' : Disk},
      AtRest prims keyId contents before s' → s'.lookup path = some .directory →
      (inspect (requirePrivateDirectory path)).Safe (Fair faulty)
        (post prims keyId contents before (fun _ s'' => s' = s'') (fun _ => False)) s' :=
    fun hrest hdir => safe_requirePrivateDirectory hrest.underway (fun hno => hno hdir) rfl
  refine Prog.safe_bind (hdirs h (Or.inl rfl) (Or.inl rfl)) ?_
  rintro ⟨⟩ s₁ ⟨hrest, -, hroot⟩
  refine Prog.safe_bind (hrequire hrest hroot) ?_
  rintro ⟨⟩ _ rfl
  refine Prog.safe_bind (hdirs hrest (Or.inr (Or.inl rfl)) (Or.inr hroot)) ?_
  rintro ⟨⟩ s₂ ⟨hrest, hkept, hobjects⟩
  have hroot := hkept.lookup (fun _ h => by cases h) hroot
  refine Prog.safe_bind (hdirs hrest (Or.inr (Or.inr rfl)) (Or.inr hroot)) ?_
  rintro ⟨⟩ s₃ ⟨hrest, hkept, htemporaries⟩
  have hroot := hkept.lookup (fun _ h => by cases h) hroot
  have hobjects := hkept.lookup (durable_short _) hobjects
  refine Prog.safe_bind (hrequire hrest hobjects) ?_
  rintro ⟨⟩ _ rfl
  refine Prog.safe_bind (hrequire hrest htemporaries) ?_
  rintro ⟨⟩ _ rfl
  have hlock : openControlFile.Safe (Fair faulty) (post prims keyId contents before
      (fun _ s' => AtRest prims keyId contents before s' ∧ Prepared s')
      (fun _ => False)) s₃ := by
    refine safe_openControlFile hrest (fun hno => hno hroot) ?_
    intro s' i hrest hkept hlock
    exact ⟨hrest, hkept.lookup (fun _ h => by cases h) hroot,
      hkept.lookup (durable_short _) hobjects,
      hkept.lookup (durable_short _) htemporaries, i, hlock⟩
  exact Prog.safe_bind hlock fun _ _ hdone => hdone

end Ecosystem.Artifacts
