import Ecosystem.Artifacts.Store

/-!
# What the store keeps on its disk

`Intact` says which names there are and what they hold, after every single step.
`Settled`, between calls: no inode has two names.  `Kept` is what no step takes back.
-/

namespace Ecosystem.Artifacts

open Ecosystem.Lib

/-! ## Names -/

theorem objectsName_ne_temporaryName : objectsName ≠ temporaryName := by decide

theorem objectsName_ne_lockName : objectsName ≠ lockName := by decide

theorem objectsName_ne_metaName : objectsName ≠ metaName := by decide

theorem temporaryName_ne_lockName : temporaryName ≠ lockName := by decide

theorem temporaryName_ne_metaName : temporaryName ≠ metaName := by decide

theorem lockName_ne_metaName : lockName ≠ metaName := by decide

theorem isTempName_tempName (token : Token) : isTempName (tempName token) = true := by
  have hlen : token.val.length = 32 := by
    have h := token.property
    simp only [isHex, Bool.and_eq_true, decide_eq_true_eq] at h
    exact h.1
  have hname : tempName token = lit "put-" ++ (token.val ++ lit ".tmp") :=
    List.append_assoc ..
  have hfour : (lit "put-").length = 4 := rfl
  have htake : (token.val ++ lit ".tmp").take 32 = token.val := List.take_left' hlen
  have hdrop : (token.val ++ lit ".tmp").drop 32 = lit ".tmp" := List.drop_left' hlen
  have hskip : ∀ n, (tempName token).drop (4 + n) = (token.val ++ lit ".tmp").drop n := by
    intro n
    rw [hname, ← hfour, List.drop_append]
    simp
  simp only [isTempName, Bool.and_eq_true, decide_eq_true_eq]
  refine ⟨⟨?_, ?_⟩, ?_⟩
  · rw [hname, ← hfour, List.take_left']
    rfl
  · rw [show (4 : ℕ) = 4 + 0 from rfl, hskip, List.drop_zero, htake]
    exact token.property
  · rw [show (36 : ℕ) = 4 + 32 from rfl, hskip, hdrop]

def Durable (path : Path) : Prop := ∀ name, path ≠ [temporaryName, name]

theorem durable_short (name : Text) : Durable [name] := fun _ h => by cases h

theorem durable_object (rest : Path) : Durable (objectsName :: rest) := by
  intro name h
  exact objectsName_ne_temporaryName (List.cons.inj h).1

/-! ## The invariant -/

section Store

variable (prims : Primitives) (keyId : Text) (contents : Set Bytes)

/-- What may stand at a name: `contents` are the bytes that are put. -/
def Proper (disk : Disk) : Path → Entry → Prop
  | [], .directory => True
  | [a], .directory => a = objectsName ∨ a = temporaryName
  | [a], .file i => a = lockName ∨ a = metaName ∧ ∃ storeId, isHex 32 storeId = true ∧
      disk.data i = prims.metaBytes (metaDocument prims keyId storeId)
  -- only a store with an identity takes objects
  | [a, b], .directory => a = objectsName ∧ isHex 2 b = true ∧
      (disk.lookup metaPath).isSome
  | [a, b], .file _ => a = temporaryName ∧ isTempName b = true
  | [a, b, c], .directory => a = objectsName ∧ isHex 2 b = true ∧ isHex 2 c = true
  | [a, b, c, d], .file i => a = objectsName ∧ b = d.take 2 ∧ c = (d.drop 2).take 2 ∧
      isHex 64 d = true ∧ disk.data i ∈ contents ∧ prims.sha256 (disk.data i) = d
  | _, _ => False

/-- Every name is one of the store and holds what it should. -/
def Intact (disk : Disk) : Prop :=
  ∀ path entry, disk.lookup path = some entry → Proper prims keyId contents disk path entry

/-- No two names lead to one inode, `path` apart. -/
def SettledBut (path : Path) (disk : Disk) : Prop :=
  ∀ p q i, p ≠ path → q ≠ path → disk.lookup p = some (.file i) →
    disk.lookup q = some (.file i) → p = q

/-- No two names lead to one inode. -/
def Settled (disk : Disk) : Prop :=
  ∀ p q i, disk.lookup p = some (.file i) → disk.lookup q = some (.file i) → p = q

def Halfway (disk : Disk) : Prop :=
  ∃ name path i, path ≠ [temporaryName, name] ∧
    disk.lookup [temporaryName, name] = some (.file i) ∧ disk.lookup path = some (.file i)

/-- What stays: the names outside the temporary directory, and their bytes. -/
structure Kept (before after : Disk) : Prop where
  lookup : ∀ {path entry}, Durable path → before.lookup path = some entry →
    after.lookup path = some entry
  data : ∀ {path i}, Durable path → before.lookup path = some (.file i) →
    after.data i = before.data i

/-- Between calls. -/
structure Sound (disk : Disk) : Prop where
  intact : Intact prims keyId contents disk
  settled : Settled disk

/-- What an opening has made before it holds the lock. -/
structure Prepared (disk : Disk) : Prop where
  root : disk.lookup rootPath = some .directory
  objects : disk.lookup objectsPath = some .directory
  temporaries : disk.lookup temporaryPath = some .directory
  lock : ∃ i, disk.lookup lockPath = some (.file i)

def HasId (storeId : Text) (disk : Disk) : Prop :=
  ∃ i, disk.lookup metaPath = some (.file i) ∧ isHex 32 storeId = true ∧
    disk.data i = prims.metaBytes (metaDocument prims keyId storeId)

def Stored (bytes : Bytes) (disk : Disk) : Prop :=
  ∃ i, disk.lookup (objectPath (prims.sha256 bytes)) = some (.file i) ∧ disk.data i = bytes

end Store

variable {prims : Primitives} {keyId : Text} {contents : Set Bytes}

variable {disk disk' disk'' : Disk} {path : Path} {entry : Entry}

theorem Settled.but (h : Settled disk) : SettledBut path disk :=
  fun p q i _ _ hp hq => h p q i hp hq

theorem not_halfway (h : Settled disk) : ¬ Halfway disk := by
  rintro ⟨name, path, i, hne, htemp, hpath⟩
  exact hne (h _ _ i hpath htemp)

/-! ## What stays -/

theorem Kept.refl (disk : Disk) : Kept disk disk :=
  ⟨fun _ h => h, fun _ _ => rfl⟩

theorem Kept.trans (h : Kept disk disk') (h' : Kept disk' disk'') : Kept disk disk'' where
  lookup := fun hd hl => h'.lookup hd (h.lookup hd hl)
  data := fun hd hl => (h'.data hd (h.lookup hd hl)).trans (h.data hd hl)

theorem Prepared.kept (h : Prepared disk) (hk : Kept disk disk') : Prepared disk' where
  root := hk.lookup (fun _ h => by cases h) h.root
  objects := hk.lookup (durable_short _) h.objects
  temporaries := hk.lookup (durable_short _) h.temporaries
  lock := by
    obtain ⟨i, hi⟩ := h.lock
    exact ⟨i, hk.lookup (durable_short _) hi⟩

theorem HasId.kept {storeId : Text} (h : HasId prims keyId storeId disk)
    (hk : Kept disk disk') : HasId prims keyId storeId disk' := by
  obtain ⟨i, hi, hhex, hdata⟩ := h
  exact ⟨i, hk.lookup (durable_short _) hi, hhex, (hk.data (durable_short _) hi).trans hdata⟩

theorem Stored.kept {bytes : Bytes} (h : Stored prims bytes disk) (hk : Kept disk disk') :
    Stored prims bytes disk' := by
  obtain ⟨i, hi, hdata⟩ := h
  exact ⟨i, hk.lookup (durable_object _) hi, (hk.data (durable_object _) hi).trans hdata⟩

theorem HasId.unique {storeId storeId' : Text} (h : HasId prims keyId storeId disk)
    (h' : HasId prims keyId storeId' disk) : storeId = storeId' := by
  obtain ⟨i, hi, -, hdata⟩ := h
  obtain ⟨j, hj, -, hdata'⟩ := h'
  rw [hi] at hj
  cases hj
  rw [hdata] at hdata'
  have hparse := congrArg prims.parseMeta hdata'
  rw [prims.parseMeta_metaBytes, prims.parseMeta_metaBytes] at hparse
  exact congrArg (fun document => document.payload.storeId) (Option.some.inj hparse)

theorem Proper.kept (hk : Kept disk disk') (hlookup : disk.lookup path = some entry)
    (h : Proper prims keyId contents disk path entry) :
    Proper prims keyId contents disk' path entry := by
  match path, entry with
  | [], .directory => exact trivial
  | [a], .directory => exact h
  | [a], .file i =>
    rcases h with h | ⟨ha, storeId, hhex, hdata⟩
    · exact Or.inl h
    · exact Or.inr ⟨ha, storeId, hhex, (hk.data (durable_short a) hlookup).trans hdata⟩
  | [a, b], .directory =>
    obtain ⟨ha, hb, hsome⟩ := h
    obtain ⟨e, he⟩ := Option.isSome_iff_exists.mp hsome
    have hafter : disk'.lookup metaPath = some e := hk.lookup (durable_short _) he
    exact ⟨ha, hb, Option.isSome_iff_exists.mpr ⟨e, hafter⟩⟩
  | [a, b], .file _ => exact h
  | [a, b, c], .directory => exact h
  | [a, b, c, d], .file i =>
    have hdata : disk'.data i = disk.data i := by
      refine hk.data ?_ hlookup
      rw [h.1]
      exact durable_object _
    show _ ∧ _ ∧ _ ∧ _ ∧ _ ∧ _
    rw [hdata]
    exact h

theorem Intact.change (h : Intact prims keyId contents disk) (hk : Kept disk disk')
    (hother : ∀ q e, q ≠ path → disk'.lookup q = some e → disk.lookup q = some e)
    (hpath : ∀ e, disk'.lookup path = some e → Proper prims keyId contents disk' path e) :
    Intact prims keyId contents disk' := by
  intro q e hq
  by_cases hne : q = path
  · subst hne
    exact hpath e hq
  · have hbefore := hother q e hne hq
    exact (h q e hbefore).kept hk hbefore

theorem Settled.change (h : Settled disk)
    (hother : ∀ q e, q ≠ path → disk'.lookup q = some e → disk.lookup q = some e)
    (hpath : ∀ i, disk'.lookup path = some (.file i) →
      ∀ q, q ≠ path → disk'.lookup q ≠ some (.file i)) : Settled disk' := by
  intro p q i hp hq
  by_cases hpp : p = path
  · by_cases hqp : q = path
    · rw [hpp, hqp]
    · rw [hpp] at hp
      exact absurd hq (hpath i hp q hqp)
  · by_cases hqp : q = path
    · rw [hqp] at hq
      exact absurd hp (hpath i hq p hpp)
    · exact h p q i (hother _ _ hpp hp) (hother _ _ hqp hq)

theorem Kept.insert {added : Entry} (hnone : disk.lookup path = none)
    (hlookup : ∀ q, disk'.lookup q = if q = path then some added else disk.lookup q)
    (hdata : ∀ q i, disk.lookup q = some (.file i) → disk'.data i = disk.data i) :
    Kept disk disk' where
  lookup := by
    intro q e _ hq
    rw [hlookup, if_neg, hq]
    rintro rfl
    rw [hnone] at hq
    cases hq
  data := fun _ hq => hdata _ _ hq

theorem other_of_insert {added : Option Entry}
    (hlookup : ∀ q, disk'.lookup q = if q = path then added else disk.lookup q) :
    ∀ q e, q ≠ path → disk'.lookup q = some e → disk.lookup q = some e := by
  intro q e hne hq
  rwa [hlookup, if_neg hne] at hq

/-! ## Operations -/

theorem Sound.mkdir (h : Sound prims keyId contents disk)
    (hmk : disk.mkdir path = .ok disk')
    (hproper : Kept disk disk' → Proper prims keyId contents disk' path .directory) :
    Sound prims keyId contents disk' ∧ Kept disk disk' := by
  obtain ⟨hvacant, hdata, hlookup⟩ := FileSystem.mkdir_eq_ok hmk
  have hk : Kept disk disk' := Kept.insert hvacant.1 hlookup fun _ _ _ => by rw [hdata]
  have hother := other_of_insert hlookup
  have hself : disk'.lookup path = some .directory := by rw [hlookup, if_pos rfl]
  refine ⟨⟨h.intact.change hk hother ?_, h.settled.change hother ?_⟩, hk⟩
  · intro e he
    rw [hself] at he
    cases he
    exact hproper hk
  · intro i hi
    rw [hself] at hi
    cases hi

theorem Sound.create {inode : ℕ} (h : Sound prims keyId contents disk)
    (hcreate : disk.create path = .ok (inode, disk'))
    (hproper : Proper prims keyId contents disk' path (.file inode)) :
    Sound prims keyId contents disk' ∧ Kept disk disk' ∧
      disk'.lookup path = some (.file inode) ∧ disk'.data inode = [] := by
  obtain ⟨hvacant, rfl, hdata, hlookup⟩ := FileSystem.create_eq_ok hcreate
  have hold : ∀ q i, disk.lookup q = some (.file i) → i ≠ disk.next := by
    intro q i hq
    exact Nat.ne_of_lt (disk.fresh q i hq)
  have hk : Kept disk disk' := by
    refine Kept.insert hvacant.1 hlookup fun q i hq => ?_
    rw [hdata, Function.update_of_ne (hold q i hq)]
  have hother := other_of_insert hlookup
  have hself : disk'.lookup path = some (.file disk.next) := by rw [hlookup, if_pos rfl]
  refine ⟨⟨h.intact.change hk hother ?_, h.settled.change hother ?_⟩, hk, hself, ?_⟩
  · intro e he
    rw [hself] at he
    cases he
    exact hproper
  · intro i hi q hq hqi
    rw [hself] at hi
    cases hi
    exact hold q _ (hother q _ hq hqi) rfl
  · rw [hdata, Function.update_self]

theorem Sound.append {token : Token} {inode : ℕ} (h : Sound prims keyId contents disk)
    (htemp : disk.lookup (tempPath token) = some (.file inode)) (bytes : Bytes) :
    Sound prims keyId contents (disk.append inode bytes) ∧
      Kept disk (disk.append inode bytes) := by
  have hk : Kept disk (disk.append inode bytes) := by
    refine ⟨fun _ hq => hq, fun {q i} hd hq => ?_⟩
    rw [FileSystem.data_append, if_neg]
    rintro rfl
    exact hd _ (h.settled _ _ i hq htemp)
  refine ⟨⟨fun q e hq => (h.intact q e hq).kept hk hq, fun p q i hp hq => ?_⟩, hk⟩
  exact h.settled p q i hp hq

theorem Intact.temporary (h : Intact prims keyId contents disk) {name : Text}
    (hlookup : disk.lookup [temporaryName, name] = some entry) :
    isTempName name = true ∧ ∃ i, entry = .file i := by
  have hproper := h _ _ hlookup
  cases entry with
  | file i => exact ⟨hproper.2, i, rfl⟩
  | directory => exact absurd hproper.1.symm objectsName_ne_temporaryName

theorem SettledBut.unlink {name : Text} (h : SettledBut [temporaryName, name] disk)
    (hintact : Intact prims keyId contents disk)
    (hunlink : disk.unlink [temporaryName, name] = .ok disk') :
    Sound prims keyId contents disk' ∧ Kept disk disk' := by
  obtain ⟨-, hdata, hlookup⟩ := FileSystem.unlink_eq_ok hunlink
  have hk : Kept disk disk' := by
    refine ⟨fun hd hq => ?_, fun _ _ => by rw [hdata]⟩
    rw [hlookup, if_neg (hd name), hq]
  have hother := other_of_insert hlookup
  have hself : disk'.lookup [temporaryName, name] = none := by rw [hlookup, if_pos rfl]
  refine ⟨⟨hintact.change hk hother ?_, ?_⟩, hk⟩
  · intro e he
    rw [hself] at he
    cases he
  · intro p q i hp hq
    have hne : ∀ r, disk'.lookup r = some (.file i) → r ≠ [temporaryName, name] := by
      rintro _ hr rfl
      rw [hself] at hr
      cases hr
    exact h p q i (hne p hp) (hne q hq) (hother _ _ (hne p hp) hp) (hother _ _ (hne q hq) hq)

end Ecosystem.Artifacts
