import Ecosystem.Lib.Checks

/-!
# A file system with hard links

A name is a list of components; it leads to a directory or to an inode, which may have
several names.  What lies below a name makes it a directory, and inodes in use have been
allocated.  Operations are atomic and say why they fail.
-/

namespace Ecosystem.Lib

inductive Entry
  | directory
  | file (inode : ℕ)
deriving DecidableEq

inductive FileError
  | fileExists
  | notFound
  | wrongKind
deriving DecidableEq

structure FileSystem (ν β : Type) [DecidableEq ν] where
  names : AList fun _ : List ν => Entry
  data : ℕ → List β
  next : ℕ
  closed : ∀ p x, (names.lookup (p ++ [x])).isSome → names.lookup p = some .directory
  fresh : ∀ p i, names.lookup p = some (.file i) → i < next

namespace FileSystem

variable {ν β : Type} [DecidableEq ν]

def empty : FileSystem ν β where
  names := ∅
  data := fun _ => []
  next := 0
  closed := fun _ _ h => by simp at h
  fresh := fun _ _ h => by simp at h

def lookup (fs : FileSystem ν β) (path : List ν) : Option Entry := fs.names.lookup path

/-- What is directly below a name, in the order of the directory. -/
def children (fs : FileSystem ν β) (path : List ν) : List (List ν) :=
  fs.names.keys.filter fun q => q ≠ [] ∧ q.dropLast = path

def linkCount (fs : FileSystem ν β) (inode : ℕ) : ℕ :=
  (fs.names.keys.filter fun q => fs.lookup q = some (.file inode)).length

/-- A name may be made where its parent is a directory; the top has no parent. -/
def Vacant (fs : FileSystem ν β) (path : List ν) : Prop :=
  fs.lookup path = none ∧ (path = [] ∨ fs.lookup path.dropLast = some .directory)

instance (fs : FileSystem ν β) (path : List ν) : Decidable (fs.Vacant path) :=
  inferInstanceAs (Decidable (_ ∧ _))

variable {fs fs' : FileSystem ν β} {path : List ν} {inode : ℕ}

def insertName (fs : FileSystem ν β) (path : List ν) (entry : Entry) (h : fs.Vacant path)
    (hentry : ∀ i, entry = .file i → i < fs.next) : FileSystem ν β where
  names := fs.names.insert path entry
  data := fs.data
  next := fs.next
  closed := by
    intro p x hsome
    have hne : p ≠ path := by
      rintro rfl
      -- nothing lies below a name that is not there
      rw [AList.lookup_insert_ne (by simp)] at hsome
      have hdir := fs.closed p x hsome
      have hnone : fs.names.lookup p = none := h.1
      rw [hnone] at hdir
      cases hdir
    rw [AList.lookup_insert_ne hne]
    by_cases hx : p ++ [x] = path
    · rcases h.2 with hnil | hparent
      · rw [hnil] at hx
        simp at hx
      · rw [← hx, List.dropLast_concat] at hparent
        exact hparent
    · rw [AList.lookup_insert_ne hx] at hsome
      exact fs.closed p x hsome
  fresh := by
    intro p i hfile
    by_cases hp : p = path
    · rw [hp, AList.lookup_insert] at hfile
      exact hentry i (Option.some.inj hfile)
    · rw [AList.lookup_insert_ne hp] at hfile
      exact fs.fresh p i hfile

theorem lookup_insertName {entry : Entry} {h : fs.Vacant path}
    {hentry : ∀ i, entry = .file i → i < fs.next} (q : List ν) :
    (fs.insertName path entry h hentry).lookup q =
      if q = path then some entry else fs.lookup q := by
  show (fs.names.insert path entry).lookup q = _
  split
  · next hq => rw [hq, AList.lookup_insert]
  · next hq => rw [AList.lookup_insert_ne hq]; rfl

/-! ## Operations -/

def mkdir (fs : FileSystem ν β) (path : List ν) : Except FileError (FileSystem ν β) :=
  if h : fs.Vacant path then .ok (fs.insertName path .directory h fun _ h => (nomatch h))
  else if fs.lookup path = none then .error .notFound
  else .error .fileExists

def create (fs : FileSystem ν β) (path : List ν) : Except FileError (ℕ × FileSystem ν β) :=
  if h : fs.Vacant path then
    let fs' : FileSystem ν β := { fs with
      data := Function.update fs.data fs.next []
      next := fs.next + 1
      fresh := fun p i hfile => Nat.lt_succ_of_lt (fs.fresh p i hfile) }
    .ok (fs.next, fs'.insertName path (.file fs.next) h fun i heq => by
      cases heq
      exact Nat.lt_succ_self _)
  else if fs.lookup path = none then .error .notFound
  else .error .fileExists

def append (fs : FileSystem ν β) (inode : ℕ) (bytes : List β) : FileSystem ν β :=
  { fs with data := Function.update fs.data inode (fs.data inode ++ bytes) }

def link (fs : FileSystem ν β) (old new : List ν) : Except FileError (FileSystem ν β) :=
  match hold : fs.lookup old with
  | some (.file i) =>
    if h : fs.Vacant new then
      .ok (fs.insertName new (.file i) h fun j heq => by
        cases heq
        exact fs.fresh old i hold)
    else if fs.lookup new = none then .error .notFound
    else .error .fileExists
  | some .directory => .error .wrongKind
  | none => .error .notFound

def unlink (fs : FileSystem ν β) (path : List ν) : Except FileError (FileSystem ν β) :=
  match hold : fs.lookup path with
  | some (.file i) => .ok { fs with
      names := fs.names.erase path
      closed := by
        intro p x hsome
        have hchild : (fs.names.lookup (p ++ [x])).isSome := by
          by_cases hx : p ++ [x] = path
          · rw [hx, AList.lookup_erase] at hsome
            cases hsome
          · rwa [AList.lookup_erase_ne hx] at hsome
        have hdir := fs.closed p x hchild
        have hne : p ≠ path := by
          rintro rfl
          have hfile : fs.names.lookup p = some (.file i) := hold
          rw [hfile] at hdir
          cases hdir
        rw [AList.lookup_erase_ne hne]
        exact hdir
      fresh := by
        intro p j hfile
        by_cases hp : p = path
        · rw [hp, AList.lookup_erase] at hfile
          cases hfile
        · rw [AList.lookup_erase_ne hp] at hfile
          exact fs.fresh p j hfile }
  | some .directory => .error .wrongKind
  | none => .error .notFound

/-! ## What the operations do -/

theorem mkdir_eq_ok (h : fs.mkdir path = .ok fs') :
    fs.Vacant path ∧ fs'.data = fs.data ∧
      ∀ q, fs'.lookup q = if q = path then some .directory else fs.lookup q := by
  unfold mkdir at h
  split at h
  · next hvacant =>
      obtain rfl := Except.ok.inj h
      exact ⟨hvacant, rfl, lookup_insertName⟩
  · split at h <;> cases h

theorem mkdir_vacant (h : fs.Vacant path) : ∃ fs', fs.mkdir path = .ok fs' := by
  unfold mkdir
  rw [dif_pos h]
  exact ⟨_, rfl⟩

theorem create_eq_ok (h : fs.create path = .ok (inode, fs')) :
    fs.Vacant path ∧ inode = fs.next ∧ fs'.data = Function.update fs.data inode [] ∧
      ∀ q, fs'.lookup q = if q = path then some (.file inode) else fs.lookup q := by
  unfold create at h
  split at h
  · next hvacant =>
      obtain ⟨rfl, rfl⟩ := Prod.mk.inj (Except.ok.inj h)
      exact ⟨hvacant, rfl, rfl, lookup_insertName⟩
  · split at h <;> cases h

theorem create_vacant (h : fs.Vacant path) : ∃ fs', fs.create path = .ok (fs.next, fs') := by
  unfold create
  rw [dif_pos h]
  exact ⟨_, rfl⟩

@[simp] theorem lookup_append (bytes : List β) (q : List ν) :
    (fs.append inode bytes).lookup q = fs.lookup q := rfl

theorem data_append (bytes : List β) (j : ℕ) :
    (fs.append inode bytes).data j =
      if j = inode then fs.data inode ++ bytes else fs.data j := by
  rw [append]
  exact Function.update_apply ..

theorem link_eq_ok {old new : List ν} (h : fs.link old new = .ok fs') :
    ∃ i, fs.lookup old = some (.file i) ∧ fs.Vacant new ∧ fs'.data = fs.data ∧
      ∀ q, fs'.lookup q = if q = new then some (.file i) else fs.lookup q := by
  unfold link at h
  split at h
  · next i hold =>
      split at h
      · next hvacant =>
          obtain rfl := Except.ok.inj h
          exact ⟨i, hold, hvacant, rfl, lookup_insertName⟩
      · split at h <;> cases h
  · cases h
  · cases h

theorem link_vacant {old new : List ν} (hold : fs.lookup old = some (.file inode))
    (h : fs.Vacant new) : ∃ fs', fs.link old new = .ok fs' := by
  unfold link
  split
  · rw [dif_pos h]
    exact ⟨_, rfl⟩
  · next hdir =>
      rw [hold] at hdir
      cases hdir
  · next hnone =>
      rw [hold] at hnone
      cases hnone

theorem link_fileExists {old new : List ν} (hold : fs.lookup old = some (.file inode))
    (h : (fs.lookup new).isSome) : fs.link old new = .error .fileExists := by
  have hvacant : ¬ fs.Vacant new := by
    intro hv
    rw [hv.1] at h
    cases h
  unfold link
  split
  · rw [dif_neg hvacant, if_neg (Option.isSome_iff_ne_none.mp h)]
  · next hdir =>
      rw [hold] at hdir
      cases hdir
  · next hnone =>
      rw [hold] at hnone
      cases hnone

theorem unlink_eq_ok (h : fs.unlink path = .ok fs') :
    (∃ i, fs.lookup path = some (.file i)) ∧ fs'.data = fs.data ∧
      ∀ q, fs'.lookup q = if q = path then none else fs.lookup q := by
  unfold unlink at h
  split at h
  · next i hold =>
      obtain rfl := Except.ok.inj h
      refine ⟨⟨i, hold⟩, rfl, fun q => ?_⟩
      show (fs.names.erase path).lookup q = _
      split
      · next hq => rw [hq, AList.lookup_erase]
      · next hq => rw [AList.lookup_erase_ne hq]; rfl
  · cases h
  · cases h

theorem unlink_file (h : fs.lookup path = some (.file inode)) :
    ∃ fs', fs.unlink path = .ok fs' := by
  unfold unlink
  split
  · exact ⟨_, rfl⟩
  · next hdir =>
      rw [h] at hdir
      cases hdir
  · next hnone =>
      rw [h] at hnone
      cases hnone

theorem unlink_none (h : fs.lookup path = none) : fs.unlink path = .error .notFound := by
  unfold unlink
  split
  · next hfile =>
      rw [h] at hfile
      cases hfile
  · next hdir =>
      rw [h] at hdir
      cases hdir
  · rfl

/-! ## Links and children -/

theorem mem_keys : path ∈ fs.names.keys ↔ (fs.lookup path).isSome := by
  rw [← AList.mem_keys, ← AList.lookup_isSome]
  rfl

theorem mem_children {q : List ν} :
    q ∈ fs.children path ↔ (fs.lookup q).isSome ∧ ∃ x, q = path ++ [x] := by
  rw [children, List.mem_filter, mem_keys, decide_eq_true_eq]
  refine and_congr_right fun _ => ⟨?_, ?_⟩
  · rintro ⟨hne, rfl⟩
    exact ⟨q.getLast hne, (List.dropLast_append_getLast hne).symm⟩
  · rintro ⟨x, rfl⟩
    exact ⟨by simp, List.dropLast_concat⟩

theorem children_nodup : (fs.children path).Nodup := fs.names.keys_nodup.filter _

/-- **One link**: no other name leads to the inode. -/
theorem linkCount_eq_one (h : fs.lookup path = some (.file inode)) :
    fs.linkCount inode = 1 ↔ ∀ q, fs.lookup q = some (.file inode) → q = path := by
  have hnodup : (fs.names.keys.filter fun q => fs.lookup q = some (.file inode)).Nodup :=
    fs.names.keys_nodup.filter _
  have hmem : ∀ q, q ∈ fs.names.keys.filter (fun q => fs.lookup q = some (.file inode)) ↔
      fs.lookup q = some (.file inode) := by
    intro q
    rw [List.mem_filter, mem_keys, decide_eq_true_eq]
    exact ⟨And.right, fun h => ⟨by rw [h]; rfl, h⟩⟩
  constructor
  · intro hone q hq
    obtain ⟨p, hp⟩ := List.length_eq_one_iff.mp hone
    have hpath := (hmem path).mpr h
    have hq := (hmem q).mpr hq
    rw [hp, List.mem_singleton] at hpath hq
    rw [hq, hpath]
  · intro hunique
    refine List.length_eq_one_iff.mpr ⟨path, ?_⟩
    rw [List.eq_replicate_iff.mpr ⟨rfl, fun q hq => hunique q ((hmem q).mp hq)⟩] at hnodup ⊢
    have hpos : 0 < (fs.names.keys.filter fun q => fs.lookup q = some (.file inode)).length :=
      List.length_pos_of_mem ((hmem path).mpr h)
    have hle := List.nodup_replicate.mp hnodup
    rw [show (fs.names.keys.filter fun q => fs.lookup q = some (.file inode)).length = 1 by omega]
    rfl

end FileSystem

end Ecosystem.Lib
