import Ecosystem.Artifacts.Installing

/-!
# Recovering under the lock

An opening that holds the lock removes the temporary names, makes or reads the identity
and verifies every object.  On a disk at rest all of it succeeds; on a disk that is
halfway the temporary names are refused.
-/

namespace Ecosystem.Artifacts

open Ecosystem.Lib Ecosystem.Lib.Checks

variable {prims : Primitives} {keyId : Text} {contents : Set Bytes}

variable {faulty : Prop} {before s : Disk}

/-! ## Temporary names -/

variable {path : Path} {name : Text}

theorem mem_temporaries :
    path ∈ s.children temporaryPath ↔
      (s.lookup path).isSome ∧ ∃ name, path = [temporaryName, name] :=
  FileSystem.mem_children

/-- **The temporary names go**, and nothing else does. -/
theorem safe_collectAll {paths : List Path} (h : AtRest prims keyId contents before s)
    (hnodup : paths.Nodup) (hpaths : ∀ p, p ∈ paths ↔ p ∈ s.children temporaryPath) :
    (collectAll paths).Safe (Fair faulty) (post prims keyId contents before
      (fun _ s' => AtRest prims keyId contents before s' ∧ s'.children temporaryPath = [])
      (fun _ => False)) s := by
  induction paths generalizing s with
  | nil =>
    refine ⟨h, List.eq_nil_iff_forall_not_mem.mpr fun p hp => ?_⟩
    cases (hpaths p).mpr hp
  | cons path paths ih =>
    rw [List.nodup_cons] at hnodup
    obtain ⟨hsome, name, rfl⟩ := mem_temporaries.mp ((hpaths path).mp (by simp))
    obtain ⟨entry, hlookup⟩ := Option.isSome_iff_exists.mp hsome
    obtain ⟨hname, i, rfl⟩ := h.sound.intact.temporary hlookup
    obtain ⟨s', hunlink⟩ := FileSystem.unlink_file hlookup
    have hdone := h.sound.settled.but.unlink h.sound.intact hunlink
    have hstep : (collectTemp [temporaryName, name]).Safe (Fair faulty)
        (post prims keyId contents before (fun _ s'' => s' = s'') (fun _ => False)) s := by
      refine safe_change_ok h.underway ?_ rfl
      simp only [require_bind_eq_ok]
      refine ⟨hname, ?_⟩
      rw [hlookup]
      simp only [require_bind_eq_ok, decide_eq_true_eq]
      exact ⟨h.sound.settled.linkCount hlookup, by rw [hunlink]; rfl⟩
    refine Prog.safe_bind hstep ?_
    rintro ⟨⟩ _ rfl
    refine ih (h.next hdone) hnodup.2 fun p => ?_
    obtain ⟨-, -, hafter⟩ := FileSystem.unlink_eq_ok hunlink
    rw [mem_temporaries, hafter]
    by_cases hp : p = [temporaryName, name]
    · rw [if_pos hp, hp]
      simp [hnodup.1]
    · rw [if_neg hp, ← mem_temporaries, ← hpaths p, List.mem_cons, or_iff_right hp]

theorem safe_collectTemps (h : AtRest prims keyId contents before s) :
    collectTemps.Safe (Fair faulty) (post prims keyId contents before
      (fun _ s' => AtRest prims keyId contents before s' ∧ s'.children temporaryPath = [])
      (fun _ => False)) s := by
  refine Prog.safe_bind (safe_read h.underway rfl) ?_
  rintro _ _ ⟨rfl, rfl⟩
  refine Prog.safe_bind (safe_collectAll h FileSystem.children_nodup fun _ => Iff.rfl) ?_
  rintro ⟨⟩ s' ⟨hrest, hempty⟩
  split
  · exact ⟨hrest, hempty⟩
  · refine Prog.safe_bind (safe_sync hrest.underway) ?_
    rintro ⟨⟩ _ rfl
    exact ⟨hrest, hempty⟩

/-! ## The identity -/

theorem mem_rootNames : name ∈ rootNames s ↔ (s.lookup [name]).isSome := by
  simp only [rootNames, List.mem_map, FileSystem.mem_children]
  constructor
  · rintro ⟨_, ⟨hsome, x, rfl⟩, hname⟩
    rw [← hname]
    exact hsome
  · intro hsome
    exact ⟨[name], ⟨hsome, name, rfl⟩, rfl⟩

theorem Intact.root_name (h : Intact prims keyId contents s) (hname : name ∈ rootNames s) :
    name = objectsName ∨ name = temporaryName ∨ name = lockName ∨ name = metaName := by
  obtain ⟨entry, hlookup⟩ := Option.isSome_iff_exists.mp (mem_rootNames.mp hname)
  have hproper := h _ _ hlookup
  cases entry with
  | directory =>
    rcases hproper with heq | heq
    · exact Or.inl heq
    · exact Or.inr (Or.inl heq)
  | file i =>
    rcases hproper with heq | ⟨heq, -⟩
    · exact Or.inr (Or.inr (Or.inl heq))
    · exact Or.inr (Or.inr (Or.inr heq))

theorem Intact.no_objects (h : Intact prims keyId contents s) (hnone : s.lookup metaPath = none) :
    s.children objectsPath = [] := by
  refine List.eq_nil_iff_forall_not_mem.mpr fun path hmem => ?_
  obtain ⟨hsome, name, rfl⟩ := FileSystem.mem_children.mp hmem
  obtain ⟨entry, hlookup⟩ := Option.isSome_iff_exists.mp hsome
  have hproper : Proper prims keyId contents s [objectsName, name] entry := h _ _ hlookup
  cases entry with
  | directory =>
    have hmeta := hproper.2.2
    rw [hnone] at hmeta
    cases hmeta
  | file i => exact objectsName_ne_temporaryName hproper.1

theorem Intact.identity (h : Intact prims keyId contents s) {entry : Entry}
    (hlookup : s.lookup metaPath = some entry) : ∃ storeId, HasId prims keyId storeId s := by
  have hproper : Proper prims keyId contents s [metaName] entry := h _ _ hlookup
  cases entry with
  | directory =>
    rcases hproper with heq | heq
    · exact absurd heq.symm objectsName_ne_metaName
    · exact absurd heq.symm temporaryName_ne_metaName
  | file i =>
    rcases hproper with heq | ⟨-, storeId, hhex, hdata⟩
    · exact absurd heq.symm lockName_ne_metaName
    · exact ⟨storeId, i, hlookup, hhex, hdata⟩

theorem loadMetadata_eq {storeId : Text} (hsettled : Settled s)
    (h : HasId prims keyId storeId s) : loadMetadata prims keyId s = .ok storeId := by
  obtain ⟨i, hlookup, hhex, hdata⟩ := h
  simp only [loadMetadata, hlookup, require_bind_eq_ok, expect_bind_eq_ok]
  refine ⟨decide_eq_true (hsettled.linkCount hlookup), metaDocument prims keyId storeId,
    ?_, ?_, rfl⟩
  · rw [hdata, prims.parseMeta_metaBytes]
  · simp only [Bool.and_eq_true, decide_eq_true_eq]
    exact ⟨⟨⟨⟨⟨rfl, rfl⟩, rfl⟩, hhex⟩, rfl⟩, hdata⟩

theorem no_temporaries (hsame : ∀ name, s.lookup [temporaryName, name] =
    before.lookup [temporaryName, name]) (hempty : before.children temporaryPath = []) :
    s.children temporaryPath = [] := by
  refine List.eq_nil_iff_forall_not_mem.mpr fun path hmem => ?_
  obtain ⟨hsome, name, rfl⟩ := mem_temporaries.mp hmem
  have hbefore : [temporaryName, name] ∈ before.children temporaryPath :=
    mem_temporaries.mpr ⟨hsame name ▸ hsome, name, rfl⟩
  rw [hempty] at hbefore
  cases hbefore

theorem new_root (h : Intact prims keyId contents s) (hnone : s.lookup metaPath = none)
    (hempty : s.children temporaryPath = []) :
    ((rootNames s).all (· ∈ [lockName, objectsName, temporaryName]) &&
      s.children objectsPath = [] && s.children temporaryPath = []) = true := by
  simp only [Bool.and_eq_true, decide_eq_true_eq, List.all_eq_true]
  refine ⟨⟨fun name hname => ?_, h.no_objects hnone⟩, hempty⟩
  rcases h.root_name hname with rfl | rfl | rfl | rfl
  · simp
  · simp
  · simp
  · have hsome := mem_rootNames.mp hname
    rw [show s.lookup [metaName] = none from hnone] at hsome
    cases hsome

theorem proper_identity {disk : Disk} {inode : ℕ} {storeId : Token}
    (hdata : disk.data inode = prims.metaBytes (metaDocument prims keyId storeId.val)) :
    Proper prims keyId contents disk metaPath (.file inode) :=
  Or.inr ⟨rfl, storeId.val, storeId.property, hdata⟩

/-- **A new store gets an identity**, unless a write takes nothing. -/
theorem safe_createMetadata (h : Sound prims keyId contents s) (hprep : Prepared s)
    (hempty : s.children temporaryPath = []) (hnone : s.lookup metaPath = none) :
    (createMetadata prims keyId).Safe (Fair faulty) (post prims keyId contents s
      (fun _ s' => AtRest prims keyId contents s s' ∧
        s'.children temporaryPath = [] ∧ ∃ storeId, HasId prims keyId storeId s')
      (fun s' => faulty ∧ AtRest prims keyId contents s s')) s := by
  have hrest := AtRest.refl h
  refine Prog.safe_bind (safe_read (a := ()) hrest.underway
    (require_eq_ok.mpr (new_root h.intact hnone hempty))) ?_
  rintro _ _ ⟨rfl, rfl⟩
  refine Prog.safe_bind (safe_drawToken hrest.underway) ?_
  rintro storeId _ rfl
  refine Prog.safe_bind (safe_drawToken hrest.underway) ?_
  rintro token _ rfl
  have hcreate : (createTemp token).Safe (Fair faulty) (post prims keyId contents s
      (fun inode => Writing prims keyId contents s token inode [])
      (fun s' => faulty ∧ AtRest prims keyId contents s s')) s := by
    refine safe_createTemp h hprep.temporaries (fun htaken => ?_) fun _ _ hwriting => hwriting
    have hmem := mem_temporaries.mpr ⟨htaken, tempName token, rfl⟩
    rw [hempty] at hmem
    cases hmem
  refine Prog.safe_bind hcreate ?_
  intro inode s₁ hwriting
  have hwrite : (writeAll inode (prims.metaBytes (metaDocument prims keyId storeId.val))).Safe
      (Fair faulty) (post prims keyId contents s
        (fun _ => Writing prims keyId contents s token inode
          (prims.metaBytes (metaDocument prims keyId storeId.val)))
        (fun s' => faulty ∧ AtRest prims keyId contents s s')) s₁ :=
    safe_writeRounds le_rfl hwriting (fun _ hdone => hdone)
      fun _ _ hfaulty hpart => ⟨hfaulty, hpart.rest⟩
  refine Prog.safe_bind hwrite ?_
  intro _ s₂ hwriting
  refine Prog.safe_bind (safe_sync hwriting.underway) ?_
  rintro ⟨⟩ _ rfl
  have hlink : (tryLink token metaPath).Safe (Fair faulty) (post prims keyId contents s
      (fun _ s' => Underway prims keyId contents s s' ∧ Temporary s token s' ∧
        SettledBut (tempPath token) s' ∧ ∃ storeId, HasId prims keyId storeId s')
      (fun _ => False)) s₂ := by
    refine safe_tryLink hwriting (durable_short _)
      (hprep.kept hwriting.rest.kept).root (fun _ _ hdata => proper_identity hdata) ?_ ?_
    · intro s' hlinked
      obtain ⟨i, hi, hdata⟩ := hlinked.stored
      exact ⟨hlinked.underway, hlinked.temporary, hlinked.but, storeId.val, i, hi,
        storeId.property, hdata⟩
    · intro hsome
      obtain ⟨entry, hentry⟩ := Option.isSome_iff_exists.mp hsome
      exact ⟨hwriting.underway, hwriting.temporary, hwriting.rest.sound.settled.but,
        hwriting.rest.sound.intact.identity hentry⟩
  have hinstall : ((tryLink token metaPath).andFinally (dropTemp token)).Safe (Fair faulty)
      (post prims keyId contents s (fun _ s' => AtRest prims keyId contents s s' ∧
        s'.children temporaryPath = [] ∧ ∃ storeId, HasId prims keyId storeId s')
      (fun s' => faulty ∧ AtRest prims keyId contents s s')) s₂ := by
    refine Prog.safe_andFinally hlink (fun _ _ hno => hno.elim) ?_
    rintro _ s₃ ⟨hunderway, htemp, hbut, id, hid⟩
    refine safe_dropTemp hunderway htemp hbut fun s' hrest hkept hsame => ?_
    exact ⟨hrest, no_temporaries hsame hempty, id, hid.kept hkept⟩
  refine Prog.safe_bind hinstall ?_
  rintro _ s₃ hdone
  refine Prog.safe_bind (safe_sync hdone.1.underway) ?_
  rintro ⟨⟩ _ rfl
  exact safe_inspect_ok hdone.1.underway rfl hdone

theorem safe_loadOrCreateMetadata (h : Sound prims keyId contents s) (hprep : Prepared s)
    (hempty : s.children temporaryPath = []) :
    (loadOrCreateMetadata prims keyId).Safe (Fair faulty) (post prims keyId contents s
      (fun storeId s' => AtRest prims keyId contents s s' ∧
        s'.children temporaryPath = [] ∧ HasId prims keyId storeId s')
      (fun s' => faulty ∧ AtRest prims keyId contents s s')) s := by
  have hload : ∀ {s' : Disk} {storeId : Text}, AtRest prims keyId contents s s' →
      s'.children temporaryPath = [] → HasId prims keyId storeId s' →
      (inspect (loadMetadata prims keyId)).Safe (Fair faulty) (post prims keyId contents s
        (fun storeId s' => AtRest prims keyId contents s s' ∧
          s'.children temporaryPath = [] ∧ HasId prims keyId storeId s')
        (fun s' => faulty ∧ AtRest prims keyId contents s s')) s' := by
    intro s' storeId hrest hempty hid
    exact safe_inspect_ok hrest.underway (loadMetadata_eq hrest.sound.settled hid)
      ⟨hrest, hempty, hid⟩
  have hrest := AtRest.refl h
  refine Prog.safe_bind (safe_read hrest.underway rfl) ?_
  rintro _ _ ⟨rfl, rfl⟩
  by_cases hthere : (s.lookup metaPath).isSome = true
  · rw [if_pos hthere]
    obtain ⟨entry, hentry⟩ := Option.isSome_iff_exists.mp hthere
    obtain ⟨storeId, hid⟩ := h.intact.identity hentry
    exact hload hrest hempty hid
  · rw [if_neg hthere]
    refine Prog.safe_bind (safe_createMetadata h hprep hempty
      (Option.not_isSome_iff_eq_none.mp hthere)) ?_
    rintro _ s' ⟨hrest, hempty, storeId, hid⟩
    exact hload hrest hempty hid

/-! ## The objects -/

theorem forEach_ok {β : Type} {check : β → Except Failure Unit} {bs : List β}
    (h : ∀ b ∈ bs, check b = .ok ()) : forEach check bs = .ok () := by
  induction bs with
  | nil => rfl
  | cons b bs ih =>
    rw [List.forall_mem_cons] at h
    unfold forEach
    rw [h.1]
    exact ih h.2

theorem openVerified_ok {i : ℕ} {digest : Text} {length : Option ℤ}
    (hsettled : Settled s) (hlookup : s.lookup path = some (.file i))
    (hdigest : prims.sha256 (s.data i) = digest)
    (hlength : length.all (fun n => ((s.data i).length : ℤ) = n) = true) :
    openVerified prims path digest length s = .ok (s.data i) := by
  simp only [openVerified, hlookup, require_bind_eq_ok]
  refine ⟨decide_eq_true (hsettled.linkCount hlookup), ?_, rfl⟩
  simp only [Bool.and_eq_true, decide_eq_true_eq]
  exact ⟨hdigest, hlength⟩

theorem verifyObject_ok {digest : Text} {length : Option ℤ} {data : Bytes}
    (h : openVerified prims path digest length s = .ok data) :
    verifyObject prims path digest length s = .ok () := by
  rw [verifyObject, h]
  rfl

theorem Intact.level_one (h : Intact prims keyId contents s)
    (hmem : path ∈ s.children objectsPath) :
    ∃ a, path = [objectsName, a] ∧ isHex 2 a = true ∧ s.lookup path = some .directory := by
  obtain ⟨hsome, a, rfl⟩ := FileSystem.mem_children.mp hmem
  obtain ⟨entry, hlookup⟩ := Option.isSome_iff_exists.mp hsome
  have hproper : Proper prims keyId contents s [objectsName, a] entry := h _ _ hlookup
  cases entry with
  | directory => exact ⟨a, rfl, hproper.2.1, hlookup⟩
  | file i => exact absurd hproper.1 objectsName_ne_temporaryName

theorem Intact.level_two (h : Intact prims keyId contents s) {a : Text}
    (hmem : path ∈ s.children [objectsName, a]) :
    ∃ b, path = [objectsName, a, b] ∧ isHex 2 b = true ∧ s.lookup path = some .directory := by
  obtain ⟨hsome, b, rfl⟩ := FileSystem.mem_children.mp hmem
  obtain ⟨entry, hlookup⟩ := Option.isSome_iff_exists.mp hsome
  have hproper : Proper prims keyId contents s [objectsName, a, b] entry := h _ _ hlookup
  cases entry with
  | directory => exact ⟨b, rfl, hproper.2.2, hlookup⟩
  | file i => exact hproper.elim

theorem Intact.item (h : Intact prims keyId contents s) {a b : Text}
    (hmem : path ∈ s.children [objectsName, a, b]) :
    ∃ d i, path = [objectsName, a, b, d] ∧ s.lookup path = some (.file i) ∧
      a = d.take 2 ∧ b = (d.drop 2).take 2 ∧ isHex 64 d = true ∧
      prims.sha256 (s.data i) = d := by
  obtain ⟨hsome, d, rfl⟩ := FileSystem.mem_children.mp hmem
  obtain ⟨entry, hlookup⟩ := Option.isSome_iff_exists.mp hsome
  have hproper : Proper prims keyId contents s [objectsName, a, b, d] entry := h _ _ hlookup
  cases entry with
  | directory => exact hproper.elim
  | file i =>
    obtain ⟨-, ha, hb, hhex, -, hsha⟩ := hproper
    exact ⟨d, i, rfl, hlookup, ha, hb, hhex, hsha⟩

theorem verifyShard_ok (hhex : isHex 2 (baseName path) = true)
    (hdir : s.lookup path = some .directory) : verifyShard s path = .ok () := by
  refine require_eq_ok.mpr ?_
  simp only [Bool.and_eq_true, decide_eq_true_eq]
  exact ⟨hhex, hdir⟩

theorem verifyItem_ok (h : Sound prims keyId contents s) {item : Path} {a b : Text}
    (hmem : item ∈ s.children [objectsName, a, b]) :
    verifyItem prims [objectsName, a] [objectsName, a, b] s item = .ok () := by
  obtain ⟨d, i, rfl, hlookup, ha, hb, hhex, hsha⟩ := h.intact.item hmem
  simp only [verifyItem, require_bind_eq_ok, hlookup, Bool.and_eq_true, decide_eq_true_eq]
  refine ⟨⟨⟨⟨hhex, ha.symm⟩, hb.symm⟩, trivial⟩, ?_⟩
  exact verifyObject_ok (openVerified_ok h.settled hlookup hsha rfl)

/-- **Every object is verified.** -/
theorem verifyLocked_ok {storeId : Text} (h : Sound prims keyId contents s) (hprep : Prepared s)
    (hid : HasId prims keyId storeId s) : verifyLocked prims s = .ok () := by
  obtain ⟨i, hlock⟩ := hprep.lock
  obtain ⟨j, hmeta, -, -⟩ := hid
  have hroot : ((rootNames s).all (· ∈ [metaName, lockName, objectsName, temporaryName]) &&
      [metaName, lockName, objectsName, temporaryName].all (· ∈ rootNames s)) = true := by
    simp only [Bool.and_eq_true, List.all_eq_true, decide_eq_true_eq]
    constructor
    · intro name hname
      rcases h.intact.root_name hname with rfl | rfl | rfl | rfl <;> simp
    · simp only [List.forall_mem_cons, mem_rootNames]
      exact ⟨Option.isSome_of_eq_some hmeta, Option.isSome_of_eq_some hlock,
        Option.isSome_of_eq_some hprep.objects, Option.isSome_of_eq_some hprep.temporaries,
        fun _ hno => (nomatch hno)⟩
  simp only [verifyLocked, require_bind_eq_ok]
  refine ⟨hroot, ?_⟩
  rw [requirePrivateDirectory_ok hprep.root, requirePrivateDirectory_ok hprep.objects,
    requirePrivateDirectory_ok hprep.temporaries]
  refine forEach_ok fun levelOne hone => ?_
  obtain ⟨a, rfl, ha, hdir⟩ := h.intact.level_one hone
  have hshard : verifyShard s [objectsName, a] = .ok () := verifyShard_ok ha hdir
  rw [hshard]
  refine forEach_ok fun levelTwo htwo => ?_
  obtain ⟨b, rfl, hb, hdir⟩ := h.intact.level_two htwo
  have hshard : verifyShard s [objectsName, a, b] = .ok () := verifyShard_ok hb hdir
  rw [hshard]
  exact forEach_ok fun item hitem => verifyItem_ok h hitem

/-! ## Openings -/

structure Opened (prims : Primitives) (keyId : Text) (contents : Set Bytes) (before : Disk)
    (storeId : Text) (disk : Disk) : Prop where
  rest : AtRest prims keyId contents before disk
  prepared : Prepared disk
  clean : disk.children temporaryPath = []
  hasId : HasId prims keyId storeId disk

/-- **An opening under the lock** succeeds, unless a write takes nothing. -/
theorem safe_openLocked (h : AtRest prims keyId contents before s) (hprep : Prepared s) :
    (openLocked prims keyId).Safe (Fair faulty) (post prims keyId contents before
      (Opened prims keyId contents before)
      (fun s' => faulty ∧ AtRest prims keyId contents before s')) s := by
  have hcollect : collectTemps.Safe (Fair faulty) (post prims keyId contents before
      (fun _ s' => AtRest prims keyId contents before s' ∧ Prepared s' ∧
        s'.children temporaryPath = [])
      (fun s' => faulty ∧ AtRest prims keyId contents before s')) s := by
    refine (safe_collectTemps (AtRest.refl h.sound)).mono ?_ ?_ fun _ _ hno => hno.elim
    · exact fun s' hs' => hs'.rebase h.kept
    · rintro _ s' ⟨hrest, hempty⟩
      exact ⟨hrest.rebase h.kept, hprep.kept hrest.kept, hempty⟩
  refine Prog.safe_bind hcollect ?_
  rintro _ s₁ ⟨hrest₁, hprep₁, hempty⟩
  have hidentity : (loadOrCreateMetadata prims keyId).Safe (Fair faulty)
      (post prims keyId contents before (Opened prims keyId contents before)
        (fun s' => faulty ∧ AtRest prims keyId contents before s')) s₁ := by
    refine (safe_loadOrCreateMetadata hrest₁.sound hprep₁ hempty).mono ?_ ?_ ?_
    · exact fun s' hs' => hs'.rebase hrest₁.kept
    · rintro storeId s' ⟨hrest, hclean, hid⟩
      exact ⟨hrest.rebase hrest₁.kept, hprep₁.kept hrest.kept, hclean, hid⟩
    · rintro _ s' ⟨hfaulty, hrest⟩
      exact ⟨hfaulty, hrest.rebase hrest₁.kept⟩
  refine Prog.safe_bind hidentity ?_
  intro storeId s₂ hopened
  refine Prog.safe_bind (safe_read hopened.rest.underway
    (verifyLocked_ok hopened.rest.sound hopened.prepared hopened.hasId)) ?_
  rintro _ _ ⟨-, rfl⟩
  exact hopened

/-- **An opening** of a disk at rest succeeds, unless a write takes nothing. -/
theorem safe_openStore (h : Sound prims keyId contents s) :
    (openStore prims keyId).Safe (Fair faulty) (post prims keyId contents s
      (Opened prims keyId contents s)
      (fun s' => faulty ∧ AtRest prims keyId contents s s')) s := by
  have hprepare := (safe_prepare (AtRest.refl h) : (inOrder prepareSteps).Safe (Fair faulty) _ s)
  refine Prog.safe_bind (hprepare.mono (fun _ hs => hs) (fun _ _ hs => hs)
    fun _ _ hno => hno.elim) ?_
  rintro _ s' ⟨hrest, hprep⟩
  exact safe_openLocked hrest hprep

/-! ## A disk that is halfway -/

abbrev refusal (α : Type) (returned : Disk → Prop) : Prog.Post Disk Failure α where
  between := fun _ => True
  returned := fun _ => returned
  raised := fun _ _ => True

theorem Halfway.grow {s' : Disk} (h : Halfway s)
    (hgrow : ∀ q e, s.lookup q = some e → s'.lookup q = some e) : Halfway s' := by
  obtain ⟨name, path, i, hne, htemp, hpath⟩ := h
  exact ⟨name, path, i, hne, hgrow _ _ htemp, hgrow _ _ hpath⟩

theorem grow_of_vacant {s' : Disk} {entry : Entry} (hvacant : s.Vacant path)
    (hlookup : ∀ q, s'.lookup q = if q = path then some entry else s.lookup q) :
    ∀ q e, s.lookup q = some e → s'.lookup q = some e := by
  intro q e hq
  rw [hlookup, if_neg, hq]
  rintro rfl
  rw [hvacant.1] at hq
  cases hq

theorem halfway_prepareStep {step : DiskProg Unit} (hstep : step ∈ prepareSteps)
    (h : Halfway s) : step.Safe (Fair faulty) (refusal Unit Halfway) s := by
  have hmkdir : ∀ path : Path,
      (createPrivateDirectory path).Safe (Fair faulty) (refusal Unit Halfway) s := by
    intro path
    refine safe_change trivial ?_ fun _ _ => trivial
    intro s' heq
    split at heq
    · cases heq
      exact h
    · cases heq
    · cases hmk : s.mkdir path with
      | error e =>
        rw [hmk] at heq
        cases heq
      | ok s'' =>
        rw [hmk] at heq
        obtain rfl : s'' = s' := Except.ok.inj heq
        obtain ⟨hvacant, -, hlookup⟩ := FileSystem.mkdir_eq_ok hmk
        exact h.grow (grow_of_vacant hvacant hlookup)
  have hrequire : ∀ path : Path,
      (inspect (requirePrivateDirectory path)).Safe (Fair faulty) (refusal Unit Halfway) s :=
    fun path => safe_inspect trivial (fun _ _ => h) fun _ _ => trivial
  simp only [prepareSteps, List.mem_cons, List.not_mem_nil, or_false] at hstep
  rcases hstep with rfl | rfl | rfl | rfl | rfl | rfl | rfl
  · exact hmkdir _
  · exact hrequire _
  · exact hmkdir _
  · exact hmkdir _
  · exact hrequire _
  · exact hrequire _
  · refine safe_change trivial ?_ fun _ _ => trivial
    intro s' heq
    split at heq
    · cases hcreate : s.create lockPath with
      | error e =>
        rw [hcreate] at heq
        cases heq
      | ok made =>
        rw [hcreate] at heq
        obtain rfl : made.2 = s' := Except.ok.inj heq
        obtain ⟨hvacant, -, -, hlookup⟩ := FileSystem.create_eq_ok hcreate
        exact h.grow (grow_of_vacant hvacant hlookup)
    · split at heq
      · cases heq
        exact h
      · cases heq
    · cases heq

theorem halfway_prepare {steps : List (DiskProg Unit)} (hsteps : ∀ step ∈ steps,
    step ∈ prepareSteps) (h : Halfway s) :
    (inOrder steps).Safe (Fair faulty) (refusal Unit Halfway) s := by
  induction steps generalizing s with
  | nil => exact h
  | cons step steps ih =>
    rw [List.forall_mem_cons] at hsteps
    exact Prog.safe_bind (halfway_prepareStep hsteps.1 h) fun _ _ hs => ih hsteps.2 hs

theorem refused_collectAll {paths : List Path} {i : ℕ}
    (hmem : [temporaryName, name] ∈ paths) (hne : path ≠ [temporaryName, name])
    (htemp : s.lookup [temporaryName, name] = some (.file i))
    (hpath : s.lookup path = some (.file i)) :
    (collectAll paths).Safe (Fair faulty) (refusal Unit fun _ => False) s := by
  induction paths generalizing s with
  | nil => cases hmem
  | cons first paths ih =>
    have hstep : (collectTemp first).Safe (Fair faulty) (refusal Unit fun s' =>
        first ≠ [temporaryName, name] ∧
        s'.lookup [temporaryName, name] = some (.file i) ∧
        s'.lookup path = some (.file i)) s := by
      refine safe_change trivial ?_ fun _ _ => trivial
      intro s' heq
      rw [require_bind_eq_ok] at heq
      obtain ⟨-, heq⟩ := heq
      split at heq
      · next j hfirst =>
          rw [require_bind_eq_ok, decide_eq_true_eq] at heq
          obtain ⟨hone, heq⟩ := heq
          have honly := (FileSystem.linkCount_eq_one hfirst).mp hone
          -- the only name of its inode is neither of the two
          have hother : first ≠ [temporaryName, name] := by
            rintro rfl
            rw [htemp] at hfirst
            cases hfirst
            exact hne (honly path hpath)
          have hother' : first ≠ path := by
            rintro rfl
            rw [hpath] at hfirst
            cases hfirst
            exact hne (honly _ htemp).symm
          cases hunlink : s.unlink first with
          | error e =>
            rw [hunlink] at heq
            cases heq
          | ok s'' =>
            rw [hunlink] at heq
            obtain rfl : s'' = s' := Except.ok.inj heq
            obtain ⟨-, -, hlookup⟩ := FileSystem.unlink_eq_ok hunlink
            refine ⟨hother, ?_, ?_⟩
            · rw [hlookup, if_neg hother.symm, htemp]
            · rw [hlookup, if_neg hother'.symm, hpath]
      · cases heq
    refine Prog.safe_bind hstep ?_
    rintro _ s' ⟨hother, htemp, hpath⟩
    rcases List.mem_cons.mp hmem with heq | hmem
    · exact absurd heq.symm hother
    · exact ih hmem htemp hpath

/-- **A disk that is halfway cannot be opened.** -/
theorem refused_openStore (h : Halfway s) :
    (openStore prims keyId).Safe (Fair faulty) (refusal Text fun _ => False) s := by
  refine Prog.safe_bind (halfway_prepare (fun _ hstep => hstep) h) ?_
  rintro _ s₁ ⟨name, path, i, hne, htemp, hpath⟩
  have hcollect : collectTemps.Safe (Fair faulty) (refusal ℕ fun _ => False) s₁ := by
    have hscan : (inspect fun disk => Except.ok (disk.children temporaryPath)).Safe
        (Fair faulty) ⟨fun _ => True, fun paths s' => s₁ = s' ∧
          paths = s₁.children temporaryPath, fun _ _ => True⟩ s₁ :=
      safe_inspect_ok trivial rfl ⟨rfl, rfl⟩
    refine Prog.safe_bind hscan ?_
    rintro _ _ ⟨rfl, rfl⟩
    have hmem : [temporaryName, name] ∈ s₁.children temporaryPath :=
      mem_temporaries.mpr ⟨Option.isSome_of_eq_some htemp, name, rfl⟩
    exact Prog.safe_bind (refused_collectAll hmem hne htemp hpath) fun _ _ hno => hno.elim
  exact Prog.safe_bind hcollect fun _ _ hno => hno.elim

end Ecosystem.Artifacts
