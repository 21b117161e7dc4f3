import Ecosystem.Sources.Ingestion

/-!
# Exactness of an ingestion

A file is taken in if and only if it is what its entry says (`Declared`).  All files are
read in front of the store, and what is read is sorted before anything is made of it.
-/

namespace Ecosystem.Sources

open Ecosystem.Lib Ecosystem.Lib.Checks
open Ecosystem.Artifacts (Bytes Disk Input Primitives isHex lit inspect put putLocked
  verifyAvailability install makeProof)
open Ecosystem.Research (IsDocument refusedByDecoder valueCount pushed stackCount stackOrder
  stackOrder_append order_eq valueCount_eq depth_order order)

/-! ## The limits on JSON -/

section Json

variable {limits : SourceBundleLimits}

/-- **The loop counts every value once and its depth from 1.** -/
theorem enforce_eq_ok (n : ℕ) (pending : List (JsonTree × ℕ)) (observed : ℕ)
    (hn : stackCount pending ≤ n) :
    enforce limits n pending observed = .ok () ↔
      (∀ entry ∈ stackOrder pending, entry.2 ≤ limits.maximumJsonDepth) ∧
      (pending = [] ∨ observed + stackCount pending ≤ limits.maximumJsonItems) := by
  induction n generalizing pending observed with
  | zero =>
    cases pending with
    | nil => simp [enforce, stackOrder]
    | cons entry pending =>
      rw [stackCount, List.map_cons, List.sum_cons, valueCount_eq] at hn
      omega
  | succ n ih =>
    cases pending with
    | nil => simp [enforce, stackOrder]
    | cons entry pending =>
      have hsplit : stackCount (entry :: pending) =
          1 + stackCount (pushed entry ++ pending) := by
        rw [stackCount, List.map_cons, List.sum_cons, valueCount_eq, stackCount, stackCount,
          List.map_append, List.sum_append]
        omega
      have horder : stackOrder (entry :: pending) =
          entry :: stackOrder (pushed entry ++ pending) := by
        rw [stackOrder_append, ← List.cons_append, ← order_eq]
        rfl
      have hzero : pushed entry ++ pending = [] →
          stackCount (pushed entry ++ pending) = 0 := by
        intro hnil
        rw [hnil]
        rfl
      rw [enforce, require_bind_eq_ok, ih _ _ (by omega), horder, List.forall_mem_cons,
        Bool.and_eq_true, decide_eq_true_eq, decide_eq_true_eq, hsplit]
      constructor
      · rintro ⟨⟨hitems, hdepth⟩, hrest, hcount⟩
        refine ⟨⟨hdepth, hrest⟩, .inr ?_⟩
        rcases hcount with hnil | hcount
        · have := hzero hnil
          omega
        · omega
      · rintro ⟨⟨hdepth, hrest⟩, hnil | hcount⟩
        · cases hnil
        · exact ⟨⟨by omega, hdepth⟩, hrest, .inr (by omega)⟩

/-- **The limits hold exactly.** -/
theorem enforceJsonShapeLimits_eq_ok {document : JsonTree} :
    enforceJsonShapeLimits limits document = .ok () ↔
      document.depth ≤ limits.maximumJsonDepth ∧
      valueCount document ≤ limits.maximumJsonItems := by
  have hcount : stackCount [(document, 1)] = valueCount document := by
    simp [stackCount]
  have horder : stackOrder [(document, 1)] = order 1 document := by
    simp [stackOrder]
  have hdepth := @depth_order (limits.maximumJsonDepth : ℤ) 1 document
  unfold enforceJsonShapeLimits
  rw [enforce_eq_ok _ _ _ hcount.le, horder, hcount]
  constructor
  · rintro ⟨hall, hnil | hitems⟩
    · cases hnil
    · have := hdepth.mp fun entry h => by exact_mod_cast hall entry h
      push_cast at this
      exact ⟨by omega, by omega⟩
  · rintro ⟨hle, hitems⟩
    refine ⟨?_, .inr (by omega)⟩
    intro entry hentry
    exact_mod_cast hdepth.mpr (by push_cast; omega) entry hentry

end Json

/-! ## Declared files -/

section Declared

variable {tools : TextTools} {digests : Digests} {prims : Primitives} {recursionLimit : ℕ}
  {limits : SourceBundleLimits} {rootIdentityDigest : Text} {tree : FileTree}

structure JsonWithin (recursionLimit : ℕ) (limits : SourceBundleLimits) (content : Bytes)
    (document : JsonTree) : Prop where
  isDocument : IsDocument content document
  decoded : refusedByDecoder recursionLimit document = false
  depth : document.depth ≤ limits.maximumJsonDepth
  items : valueCount document ≤ limits.maximumJsonItems

structure Declared (prims : Primitives) (recursionLimit : ℕ) (limits : SourceBundleLimits)
    (tree : FileTree) (entry : SourceManifestEntry) (content : Bytes) : Prop where
  /-- There is a regular file of one name. -/
  file : tree entry.path = .ok ⟨true, 1, content⟩
  size : content.length ≤ limits.maximumFileBytes
  noNul : 0 ∉ content
  utf8 : (readUtf8 content).isSome
  json : entry.mediaType = .json → ∃ document, JsonWithin recursionLimit limits content document
  length : (content.length : ℤ) = entry.byteLength
  digest : prims.sha256 content = entry.sha256

theorem checkText_eq_ok {mediaType : MediaType} {content : Bytes} {text : Text}
    (htext : readUtf8 content = some text) :
    checkText recursionLimit limits mediaType text = .ok () ↔
      (mediaType = .json → ∃ document, JsonWithin recursionLimit limits content document) := by
  unfold checkText
  by_cases hmedia : mediaType = .json
  · rw [if_pos hmedia, forall_prop_of_true hmedia]
    unfold loadJson
    constructor
    · intro h
      obtain ⟨document, hload, hlimits⟩ := bind_eq_ok.mp h
      obtain ⟨tree, htree, hload⟩ := expect_bind_eq_ok.mp hload
      obtain ⟨hduplicates, hload⟩ := require_bind_eq_ok.mp hload
      obtain ⟨hconstants, hload⟩ := require_bind_eq_ok.mp hload
      obtain ⟨hdecoded, hload⟩ := require_bind_eq_ok.mp hload
      obtain rfl := Except.ok.inj hload
      obtain ⟨hdepth, hitems⟩ := enforceJsonShapeLimits_eq_ok.mp hlimits
      simp only [Bool.not_eq_true'] at hduplicates hconstants hdecoded
      exact ⟨tree, ⟨text, htext, htree, hduplicates, hconstants⟩, hdecoded, hdepth, hitems⟩
    · rintro ⟨document, ⟨text', htext', htree, hduplicates, hconstants⟩, hdecoded, hdepth,
        hitems⟩
      obtain rfl : text' = text := Option.some.inj (htext'.symm.trans htext)
      refine bind_eq_ok.mpr ⟨document, ?_, enforceJsonShapeLimits_eq_ok.mpr ⟨hdepth, hitems⟩⟩
      refine expect_bind_eq_ok.mpr ⟨document, htree, ?_⟩
      rw [hduplicates, hconstants, hdecoded]
      rfl
  · rw [if_neg hmedia]
    exact iff_of_true rfl fun h => absurd h hmedia

theorem canonicalPath_eq_ok {value : Value} {path : Text}
    (h : canonicalPath tools value = .ok path) : canonicalPath tools (.text path) = .ok path := by
  have hcheck := h
  unfold canonicalPath at hcheck
  obtain ⟨written, hwritten, hcheck⟩ := expect_bind_eq_ok.mp hcheck
  obtain ⟨_, hcheck⟩ := require_bind_eq_ok.mp hcheck
  obtain ⟨_, hcheck⟩ := require_bind_eq_ok.mp hcheck
  obtain rfl := Except.ok.inj hcheck
  obtain ⟨htext, _⟩ := Option.filter_eq_some_iff.mp hwritten
  cases value with
  | text s =>
    obtain rfl := Option.some.inj htext
    exact h
  | int n | list items | mapping members | other => cases htext

/-- What is made of the file of an entry. -/
def readSource (digests : Digests) (rootIdentityDigest : Text) (entry : SourceManifestEntry)
    (content : Bytes) : ReadSource where
  manifest := entry
  content := content
  provenanceDigest := digests.provenanceDigest
    { rootIdentityDigest, path := entry.path, contentDigest := entry.sha256
      byteLength := content.length }

/-- **A file is taken in if and only if it is what its entry says.** -/
theorem readDeclaredSource_eq_ok {entry : SourceManifestEntry} {source : ReadSource}
    (hpath : canonicalPath tools (.text entry.path) = .ok entry.path) :
    readDeclaredSource tools digests prims recursionLimit limits rootIdentityDigest tree entry =
        .ok source ↔ ∃ content, Declared prims recursionLimit limits tree entry content ∧
        source = readSource digests rootIdentityDigest entry content := by
  unfold readDeclaredSource readFile
  rw [hpath, ok_bind]
  constructor
  · intro h
    obtain ⟨content, hread, h⟩ := bind_eq_ok.mp h
    obtain ⟨hnul, h⟩ := require_bind_eq_ok.mp h
    obtain ⟨text, htext, h⟩ := expect_bind_eq_ok.mp h
    obtain ⟨_, hjson, h⟩ := bind_eq_ok.mp h
    obtain ⟨hlength, h⟩ := require_bind_eq_ok.mp h
    obtain ⟨hdigest, h⟩ := require_bind_eq_ok.mp h
    obtain rfl := Except.ok.inj h
    split at hread
    · cases hread
    next file hfile =>
    obtain ⟨hregular, hread⟩ := require_bind_eq_ok.mp hread
    obtain ⟨hlinks, hread⟩ := require_bind_eq_ok.mp hread
    obtain ⟨hsize, hread⟩ := require_bind_eq_ok.mp hread
    obtain rfl := Except.ok.inj hread
    have hdigest' := of_decide_eq_true hdigest
    refine ⟨file.content, ?_, by rw [readSource, hdigest']⟩
    exact
      { file := by
          rw [hfile, ← hregular, ← of_decide_eq_true hlinks]
        size := of_decide_eq_true hsize
        noNul := of_decide_eq_true hnul
        utf8 := by
          rw [htext]
          rfl
        json := (checkText_eq_ok htext).mp hjson
        length := of_decide_eq_true hlength
        digest := hdigest' }
  · rintro ⟨content, hdeclared, rfl⟩
    obtain ⟨text, htext⟩ := Option.isSome_iff_exists.mp hdeclared.utf8
    rw [hdeclared.file]
    refine bind_eq_ok.mpr ⟨content, ?_, ?_⟩
    · refine require_bind_eq_ok.mpr ⟨rfl, require_bind_eq_ok.mpr ⟨rfl, ?_⟩⟩
      exact require_bind_eq_ok.mpr ⟨decide_eq_true hdeclared.size, rfl⟩
    · refine require_bind_eq_ok.mpr ⟨decide_eq_true hdeclared.noNul, ?_⟩
      refine expect_bind_eq_ok.mpr ⟨text, htext, bind_eq_ok.mpr ⟨(), ?_, ?_⟩⟩
      · exact (checkText_eq_ok htext).mpr hdeclared.json
      · refine require_bind_eq_ok.mpr ⟨decide_eq_true hdeclared.length, ?_⟩
        refine require_bind_eq_ok.mpr ⟨decide_eq_true hdeclared.digest, ?_⟩
        rw [readSource, hdeclared.digest]
        rfl

end Declared

/-! ## Manifests -/

section Manifests

variable {tools : TextTools} {limits : SourceBundleLimits}

variable {value : Value} {members : List (Text × Value)} {manifest : SourceBundleManifest}

theorem parseEntry_path {dataClass : DataClass} {entry : SourceManifestEntry}
    (h : parseEntry tools dataClass value = .ok entry) :
    canonicalPath tools (.text entry.path) = .ok entry.path ∧ entry.dataClass = dataClass := by
  unfold parseEntry at h
  obtain ⟨item, _, h⟩ := bind_eq_ok.mp h
  obtain ⟨id, _, h⟩ := bind_eq_ok.mp h
  obtain ⟨path, hpath, h⟩ := bind_eq_ok.mp h
  obtain ⟨mediaType, _, h⟩ := expect_bind_eq_ok.mp h
  obtain ⟨_, h⟩ := require_bind_eq_ok.mp h
  obtain ⟨sha256, _, h⟩ := expect_bind_eq_ok.mp h
  obtain ⟨byteLength, _, h⟩ := expect_bind_eq_ok.mp h
  obtain rfl := Except.ok.inj h
  exact ⟨canonicalPath_eq_ok hpath, rfl⟩

/-- What the checks on all the entries come to, which does not depend on their order. -/
structure EntriesWithin (limits : SourceBundleLimits) (entries : List SourceManifestEntry) :
    Prop where
  ids : (entries.map (·.id)).Nodup
  paths : (entries.map (·.path)).Nodup
  lengths : ∀ entry ∈ entries, entry.byteLength ≤ limits.maximumFileBytes
  total : (entries.map (·.byteLength)).sum ≤ limits.maximumTotalBytes

theorem checkEntries_eq_ok {entries : List SourceManifestEntry} :
    checkEntries limits entries = .ok () ↔ EntriesWithin limits entries := by
  unfold checkEntries
  rw [require_bind_eq_ok, require_bind_eq_ok, require_bind_eq_ok, require_eq_ok]
  constructor
  · rintro ⟨hids, hpaths, hlengths, htotal⟩
    refine ⟨of_decide_eq_true hids, of_decide_eq_true hpaths, ?_, of_decide_eq_true htotal⟩
    intro entry hentry
    exact of_decide_eq_true (List.all_eq_true.mp hlengths entry hentry)
  · rintro ⟨hids, hpaths, hlengths, htotal⟩
    refine ⟨decide_eq_true hids, decide_eq_true hpaths, ?_, decide_eq_true htotal⟩
    exact List.all_eq_true.mpr fun entry hentry => decide_eq_true (hlengths entry hentry)

theorem EntriesWithin.perm {entries entries' : List SourceManifestEntry}
    (h : EntriesWithin limits entries) (hperm : entries.Perm entries') :
    EntriesWithin limits entries' where
  ids := (hperm.map _).nodup_iff.mp h.ids
  paths := (hperm.map _).nodup_iff.mp h.paths
  lengths := fun entry hentry => h.lengths entry (hperm.mem_iff.mpr hentry)
  total := by
    rw [← (hperm.map _).sum_eq]
    exact h.total

structure Parsed (tools : TextTools) (limits : SourceBundleLimits)
    (members : List (Text × Value)) (items : List Value) (manifest : SourceBundleManifest) :
    Prop where
  keys : exactKeys (.mapping members)
    [lit "bundleId", lit "dataClass", lit "question", lit "sources"] "Source bundle manifest" =
      .ok members
  bundleId : identifier tools (field members (lit "bundleId")) "Bundle identifier" =
    .ok manifest.bundleId
  dataClass : (field members (lit "dataClass")).text?.bind dataClassOf = some manifest.dataClass
  sources : field members (lit "sources") = .list items
  nonempty : items ≠ []
  count : items.length + 1 ≤ limits.maximumSourceCount
  question : parseEntry tools manifest.dataClass (field members (lit "question")) =
    .ok manifest.question
  media : manifest.question.mediaType ≠ .json
  entries : List.Forall₂ (fun item entry => parseEntry tools manifest.dataClass item = .ok entry)
    items manifest.sources
  within : EntriesWithin limits manifest.entries

theorem exactKeys_eq_ok {expected : List Text} {context : String}
    (h : exactKeys value expected context = .ok members) :
    value = .mapping members ∧ exactKeys (.mapping members) expected context = .ok members := by
  cases value with
  | mapping members' =>
    have hsame := h
    unfold exactKeys at h
    obtain ⟨_, h⟩ := require_bind_eq_ok.mp h
    obtain rfl := Except.ok.inj h
    exact ⟨rfl, hsame⟩
  | int n | text s | list items | other => cases h

theorem validateManifest_eq_ok :
    validateManifest tools limits value = .ok manifest ↔
      ∃ members items, value = .mapping members ∧ Parsed tools limits members items manifest := by
  unfold validateManifest
  constructor
  · intro h
    obtain ⟨members, hkeys, h⟩ := bind_eq_ok.mp h
    obtain ⟨bundleId, hbundle, h⟩ := bind_eq_ok.mp h
    obtain ⟨dataClass, hclass, h⟩ := expect_bind_eq_ok.mp h
    obtain ⟨items, hitems, h⟩ := expect_bind_eq_ok.mp h
    obtain ⟨hcount, h⟩ := require_bind_eq_ok.mp h
    obtain ⟨question, hquestion, h⟩ := bind_eq_ok.mp h
    obtain ⟨hmedia, h⟩ := require_bind_eq_ok.mp h
    obtain ⟨sources, hsources, h⟩ := bind_eq_ok.mp h
    obtain ⟨_, hwithin, h⟩ := bind_eq_ok.mp h
    obtain rfl := Except.ok.inj h
    obtain ⟨hvalue, hkeys⟩ := exactKeys_eq_ok hkeys
    obtain ⟨hlist, hne⟩ := Option.filter_eq_some_iff.mp hitems
    refine ⟨members, items, hvalue, ?_⟩
    exact
      { keys := hkeys
        bundleId := hbundle
        dataClass := hclass
        sources := by
          cases hfield : field members (lit "sources") with
          | list found =>
            rw [hfield] at hlist
            obtain rfl := Option.some.inj hlist
            rfl
          | int n | text s | mapping found | other => rw [hfield] at hlist; cases hlist
        nonempty := by
          rintro rfl
          cases hne
        count := of_decide_eq_true hcount
        question := hquestion
        media := of_decide_eq_true hmedia
        entries := mapM_eq_ok.mp hsources
        within := checkEntries_eq_ok.mp hwithin }
  · rintro ⟨members, items, rfl, hparsed⟩
    refine bind_eq_ok.mpr ⟨members, hparsed.keys, ?_⟩
    refine bind_eq_ok.mpr ⟨_, hparsed.bundleId, ?_⟩
    refine expect_bind_eq_ok.mpr ⟨_, hparsed.dataClass, ?_⟩
    refine expect_bind_eq_ok.mpr ⟨items, ?_, ?_⟩
    · rw [hparsed.sources]
      refine Option.filter_eq_some_iff.mpr ⟨rfl, ?_⟩
      rw [Bool.not_eq_true', List.isEmpty_eq_false_iff]
      exact hparsed.nonempty
    refine require_bind_eq_ok.mpr ⟨decide_eq_true hparsed.count, ?_⟩
    refine bind_eq_ok.mpr ⟨_, hparsed.question, ?_⟩
    refine require_bind_eq_ok.mpr ⟨decide_eq_true hparsed.media, ?_⟩
    refine bind_eq_ok.mpr ⟨_, mapM_eq_ok.mpr hparsed.entries, ?_⟩
    exact bind_eq_ok.mpr ⟨(), checkEntries_eq_ok.mpr hparsed.within, rfl⟩

theorem Parsed.entry {items : List Value} (h : Parsed tools limits members items manifest)
    {entry : SourceManifestEntry} (hentry : entry ∈ manifest.entries) :
    canonicalPath tools (.text entry.path) = .ok entry.path ∧
      entry.dataClass = manifest.dataClass := by
  rcases List.mem_cons.mp hentry with rfl | hentry
  · exact parseEntry_path h.question
  · obtain ⟨item, _, hitem⟩ := (mem_of_mapM (mapM_eq_ok.mpr h.entries)).mp hentry
    exact parseEntry_path hitem

def withSources (members : List (Text × Value)) (items : List Value) : List (Text × Value) :=
  members.map fun member => (member.1, if member.1 = lit "sources" then .list items else member.2)

theorem map_fst_withSources (members : List (Text × Value)) (items : List Value) :
    (withSources members items).map Prod.fst = members.map Prod.fst := by
  unfold withSources
  rw [List.map_map]
  rfl

theorem field_withSources (members : List (Text × Value)) (items : List Value) {key : Text}
    (hkey : key ≠ lit "sources") : field (withSources members items) key = field members key := by
  unfold field withSources
  rw [List.find?_map]
  have hsame : ((fun member : Text × Value => decide (member.1 = key)) ∘
      fun member : Text × Value =>
        (member.1, if member.1 = lit "sources" then Value.list items else member.2)) =
      fun member : Text × Value => decide (member.1 = key) := rfl
  rw [hsame]
  cases hfind : members.find? fun member => decide (member.1 = key) with
  | none => rfl
  | some member =>
    have hname : member.1 = key := by simpa using List.find?_some hfind
    show (if member.1 = lit "sources" then Value.list items else member.2) = member.2
    rw [if_neg]
    rw [hname]
    exact hkey

theorem field_sources_withSources (items : List Value)
    (h : lit "sources" ∈ members.map Prod.fst) :
    field (withSources members items) (lit "sources") = .list items := by
  unfold field withSources
  rw [List.find?_map]
  have hsame : ((fun member : Text × Value => decide (member.1 = lit "sources")) ∘
      fun member : Text × Value =>
        (member.1, if member.1 = lit "sources" then Value.list items else member.2)) =
      fun member : Text × Value => decide (member.1 = lit "sources") := rfl
  rw [hsame]
  cases hfind : members.find? fun member => decide (member.1 = lit "sources") with
  | none =>
    obtain ⟨member, hmember, hname⟩ := List.mem_map.mp h
    exact absurd hname (by simpa using List.find?_eq_none.mp hfind member hmember)
  | some member =>
    have hname : member.1 = lit "sources" := by simpa using List.find?_some hfind
    show (if member.1 = lit "sources" then Value.list items else member.2) = .list items
    rw [if_pos hname]

/-- **The order of the sources** is the order of the entries. -/
theorem Parsed.perm {items items' : List Value}
    (h : Parsed tools limits members items manifest) (hperm : items.Perm items') :
    ∃ sources', manifest.sources.Perm sources' ∧
      Parsed tools limits (withSources members items') items'
        { manifest with sources := sources' } := by
  obtain ⟨sources', hentries, hsources⟩ := List.perm_comp_forall₂ hperm.symm h.entries
  have hkeys := h.keys
  unfold exactKeys at hkeys
  obtain ⟨hkeys, _⟩ := require_bind_eq_ok.mp hkeys
  have hmem : lit "sources" ∈ members.map Prod.fst := by
    rw [Bool.and_eq_true, List.all_eq_true] at hkeys
    exact of_decide_eq_true (hkeys.1 (lit "sources") (by simp))
  refine ⟨sources', hsources.symm, ?_⟩
  exact
    { keys := by
        unfold exactKeys
        refine require_bind_eq_ok.mpr ⟨?_, rfl⟩
        rw [map_fst_withSources]
        unfold withSources
        rw [List.all_map]
        exact hkeys
      bundleId := by
        rw [field_withSources members items' (by decide)]
        exact h.bundleId
      dataClass := by
        rw [field_withSources members items' (by decide)]
        exact h.dataClass
      sources := field_sources_withSources items' hmem
      nonempty := by
        rintro rfl
        exact h.nonempty (List.perm_nil.mp hperm)
      count := by
        rw [← hperm.length_eq]
        exact h.count
      question := by
        rw [field_withSources members items' (by decide)]
        exact h.question
      media := h.media
      entries := hentries
      within := h.within.perm (hsources.symm.cons _) }

end Manifests

/-! ## What a program returns -/

section Yields

variable {ι σ ε α β : Type} {P : α → Prop} {p : Prog ι σ ε α}

/-- What a program returns satisfies `P`, wherever it starts. -/
def Yields (P : α → Prop) (p : Prog ι σ ε α) : Prop :=
  ∀ s, p.Safe (fun _ => True) ⟨fun _ => True, fun a _ => P a, fun _ _ => True⟩ s

theorem Yields.run (h : Yields P p) {script : List ι} {s s' : σ} {a : α}
    (hrun : p.run script s = (.returned a, s')) : P a := by
  have hend := (h s).run (fun i (_ : i ∈ script) => trivial)
  rwa [hrun] at hend

theorem yields_any : Yields (fun _ => True) p :=
  fun _ => .of_forall (fun _ => trivial) (fun _ _ => trivial) fun _ _ => trivial

theorem yields_bind {Q : β → Prop} {k : α → Prog ι σ ε β} (h : Yields P p)
    (hk : ∀ a, P a → Yields Q (k a)) : Yields Q (p >>= k) :=
  fun s => Prog.safe_bind (h s) fun a s' ha => hk a ha s'

theorem yields_then {Q : β → Prop} {k : α → Prog ι σ ε β} (hk : ∀ a, Yields Q (k a)) :
    Yields Q (p >>= k) :=
  yields_bind yields_any fun a _ => hk a

theorem yields_pure {a : α} (h : P a) : Yields P (pure a : Prog ι σ ε α) :=
  fun _ => h

theorem yields_ofExcept {x : Except ε α} (h : ∀ a, x = .ok a → P a) :
    Yields P (Prog.ofExcept x : Prog ι σ ε α) :=
  fun _ => Prog.safe_ofExcept h fun _ _ => trivial

theorem yields_andFinally {cleanup : Prog ι σ ε Unit} (h : Yields P p) :
    Yields P (p.andFinally cleanup) := by
  intro s
  refine Prog.safe_andFinally (h s) ?_ ?_
  · intro _ s' _
    exact yields_any s'
  · intro a s' ha
    exact .of_forall (fun _ => trivial) (fun _ _ => ha) fun _ _ => trivial

theorem yields_onStore {p : Prog Input Disk Artifacts.Failure α} (h : Yields P p) :
    Yields P (onStore p) := by
  intro s
  have hsafe := h s
  clear h
  induction p generalizing s with
  | done a => exact hsafe
  | fail e => trivial
  | step commit next ih => exact ⟨trivial, fun i hi => ih i s _ (hsafe.2 i hi)⟩

end Yields

/-! ## Entries -/

section Store

variable {tools : TextTools} {digests : Digests} {prims : Primitives} {keyId storeId : Text}
  {limits : SourceBundleLimits}

def entryOf (source : ReadSource) : BundleEntry where
  id := source.manifest.id
  artifact :=
    { ref := lit "artifact://sha256/" ++ source.manifest.sha256
      contentDigest := source.manifest.sha256
      byteLength := source.manifest.byteLength
      dataClass := source.manifest.dataClass }
  mediaType := source.manifest.mediaType
  provenance :=
    { kind := .localFile
      provenanceDigest := source.provenanceDigest
      remoteIdentityDigest := none
      commitDigest := none }

theorem yields_put (source : ReadSource) :
    Yields (fun proof : Artifacts.Proof => bundleEntry source proof = entryOf source)
      (put prims keyId storeId (putRequest limits source)) := by
  obtain ⟨request, hrequest⟩ : ∃ request, request = putRequest limits source := ⟨_, rfl⟩
  rw [← hrequest]
  unfold put putLocked
  refine yields_then fun _ => yields_then fun temporary => yields_then fun inode => ?_
  have hinstalled : Yields (fun _ => request.checkContent prims = .ok ())
      (install prims request temporary inode) := by
    unfold install
    refine yields_then fun _ => ?_
    refine yields_bind (P := fun _ => request.checkContent prims = .ok ()) ?_ ?_
    · exact yields_ofExcept fun _ h => h
    · intro _ hchecked s
      exact .of_forall (fun _ => trivial) (fun _ _ => hchecked) fun _ _ => trivial
  refine yields_bind (yields_andFinally hinstalled) fun _ hchecked => ?_
  refine yields_then fun _ => yields_pure ?_
  -- the digest and the length are those that were asked for
  unfold Artifacts.PutRequest.checkContent at hchecked
  obtain ⟨_, hchecked⟩ := require_bind_eq_ok.mp hchecked
  obtain ⟨hdigest, hchecked⟩ := require_bind_eq_ok.mp hchecked
  have hlength := require_eq_ok.mp hchecked
  subst hrequest
  have hdigest' : source.manifest.sha256 =
      prims.sha256 (putRequest limits source).content := of_decide_eq_true hdigest
  have hlength' : source.manifest.byteLength =
      ((putRequest limits source).content.length : ℤ) := of_decide_eq_true hlength
  unfold bundleEntry makeProof entryOf
  rw [hdigest', hlength', ← hdigest']
  rfl

theorem yields_publishSources (sources : List ReadSource) :
    Yields (fun entries => entries = sources.map entryOf)
      (publishSources prims keyId storeId limits sources) := by
  induction sources with
  | nil => exact yields_pure rfl
  | cons source sources ih =>
    unfold publishSources publishSource
    refine yields_bind (P := fun entry => entry = entryOf source) ?_ ?_
    · refine yields_bind (yields_onStore (yields_put source)) fun proof hproof => ?_
      exact yields_then fun _ => yields_pure hproof
    · rintro _ rfl
      refine yields_bind ih ?_
      rintro _ rfl
      exact yields_pure rfl

theorem yields_publish (prepared : Prepared) :
    Yields (fun record => record = bundleRecord digests limits prepared
        ((sortOn (·.manifest.id) prepared.sources).map entryOf))
      (publish tools digests prims keyId storeId limits prepared) := by
  unfold publish
  refine yields_bind (yields_publishSources _) ?_
  rintro _ rfl
  refine yields_ofExcept fun record hrecord => ?_
  unfold validateRecord at hrecord
  obtain ⟨_, hrecord⟩ := require_bind_eq_ok.mp hrecord
  exact (Except.ok.inj hrecord).symm

end Store

/-! ## Preparing -/

section Prepare

variable {tools : TextTools} {digests : Digests} {prims : Primitives} {keyId storeId : Text}
  {recursionLimit : ℕ} {limits : SourceBundleLimits} {rootIdentityDigest : Text}
  {tree : FileTree}

/-- What is read in front of the store, of a manifest. -/
structure PreparedFrom (tools : TextTools) (digests : Digests) (prims : Primitives)
    (recursionLimit : ℕ) (limits : SourceBundleLimits) (rootIdentityDigest : Text)
    (tree : FileTree) (metadata : Metadata) (manifest : SourceBundleManifest)
    (prepared : Prepared) : Prop where
  bundleId : prepared.bundleId = manifest.bundleId
  dataClass : prepared.dataClass = manifest.dataClass
  questionId : prepared.questionId = manifest.question.id
  metadata : checkMetadata tools digests limits metadata = .ok prepared.metadata
  sources : List.Forall₂ (fun entry source =>
    readDeclaredSource tools digests prims recursionLimit limits rootIdentityDigest tree entry =
      .ok source) manifest.entries prepared.sources
  total : observedTotal prepared.sources ≤ limits.maximumTotalBytes

theorem prepare_eq_ok {document : Value} {metadata : Metadata} {prepared : Prepared} :
    prepare tools digests prims recursionLimit limits rootIdentityDigest tree document metadata =
        .ok prepared ↔ ∃ manifest, validateManifest tools limits document = .ok manifest ∧
        PreparedFrom tools digests prims recursionLimit limits rootIdentityDigest tree metadata
          manifest prepared := by
  unfold prepare
  constructor
  · intro h
    obtain ⟨manifest, hmanifest, h⟩ := bind_eq_ok.mp h
    obtain ⟨checked, hchecked, h⟩ := bind_eq_ok.mp h
    obtain ⟨sources, hsources, h⟩ := bind_eq_ok.mp h
    obtain ⟨htotal, h⟩ := require_bind_eq_ok.mp h
    obtain rfl := Except.ok.inj h
    exact ⟨manifest, hmanifest, rfl, rfl, rfl, hchecked, mapM_eq_ok.mp hsources,
      of_decide_eq_true htotal⟩
  · rintro ⟨manifest, hmanifest, hprepared⟩
    refine bind_eq_ok.mpr ⟨manifest, hmanifest, bind_eq_ok.mpr ⟨_, hprepared.metadata, ?_⟩⟩
    refine bind_eq_ok.mpr ⟨_, mapM_eq_ok.mpr hprepared.sources, ?_⟩
    refine require_bind_eq_ok.mpr ⟨decide_eq_true hprepared.total, ?_⟩
    rw [← hprepared.bundleId, ← hprepared.dataClass, ← hprepared.questionId]
    rfl

variable {sources : List ReadSource}

theorem sources_of_read {entries : List SourceManifestEntry}
    (hpaths : ∀ entry ∈ entries, canonicalPath tools (.text entry.path) = .ok entry.path)
    (h : List.Forall₂ (fun entry source => readDeclaredSource tools digests prims recursionLimit
      limits rootIdentityDigest tree entry = .ok source) entries sources) :
    sources.map (·.manifest) = entries ∧ ∀ source ∈ sources,
      Declared prims recursionLimit limits tree source.manifest source.content := by
  induction h with
  | nil => exact ⟨rfl, fun _ h => by cases h⟩
  | cons hread _ ih =>
    rw [List.forall_mem_cons] at hpaths
    obtain ⟨content, hdeclared, rfl⟩ := (readDeclaredSource_eq_ok hpaths.1).mp hread
    obtain ⟨hmanifests, hall⟩ := ih hpaths.2
    refine ⟨?_, List.forall_mem_cons.mpr ⟨hdeclared, hall⟩⟩
    rw [List.map_cons, hmanifests]
    rfl

theorem observedTotal_eq (h : ∀ source ∈ sources,
      Declared prims recursionLimit limits tree source.manifest source.content) :
    observedTotal sources = (sources.map (·.manifest.byteLength)).sum := by
  unfold observedTotal
  refine congrArg List.sum (List.map_congr_left ?_)
  intro source hsource
  exact (h source hsource).length

theorem publish_perm {prepared : Prepared}
    (hids : (prepared.sources.map (·.manifest.id)).Nodup) (hperm : prepared.sources.Perm sources) :
    publish tools digests prims keyId storeId limits { prepared with sources } =
      publish tools digests prims keyId storeId limits prepared := by
  have hkey : KeyInjective (fun source : ReadSource => source.manifest.id) prepared.sources :=
    fun a ha b hb hab => List.inj_on_of_nodup_map hids ha hb hab
  have htotal : observedTotal sources = observedTotal prepared.sources := by
    unfold observedTotal
    exact (hperm.map _).sum_eq.symm
  have hrecord : ∀ entries, bundleRecord digests limits { prepared with sources } entries =
      bundleRecord digests limits prepared entries := by
    intro entries
    unfold bundleRecord
    dsimp only
    rw [htotal]
  unfold publish
  dsimp only
  rw [sortOn_eq_of_perm hkey hperm]
  simp only [hrecord]

end Prepare

/-! ## Exactness -/

def SourceManifestEntry.summary (entry : SourceManifestEntry) :
    Text × MediaType × DataClass × Text × ℤ :=
  (entry.id, entry.mediaType, entry.dataClass, entry.sha256, entry.byteLength)

def BundleEntry.summary (entry : BundleEntry) : Text × MediaType × DataClass × Text × ℤ :=
  (entry.id, entry.mediaType, entry.artifact.dataClass, entry.artifact.contentDigest,
    entry.artifact.byteLength)

structure ExactBundle (prims : Primitives) (recursionLimit : ℕ) (limits : SourceBundleLimits)
    (tree : FileTree) (manifest : SourceBundleManifest) (record : SourceBundle) : Prop where
  sorted : (record.entries.map (·.id)).Pairwise (· < ·)
  entries : (record.entries.map (·.summary)).Perm (manifest.entries.map (·.summary))
  files : ∀ entry ∈ manifest.entries, ∃ content,
    Declared prims recursionLimit limits tree entry content
  total : record.totalByteLength = (record.entries.map (·.artifact.byteLength)).sum
  total_le : record.totalByteLength ≤ limits.maximumTotalBytes
  length_le : ∀ entry ∈ record.entries, entry.artifact.byteLength ≤ limits.maximumFileBytes
  count_le : record.entries.length ≤ limits.maximumSourceCount
  bundleId : record.id = manifest.bundleId
  dataClass : record.dataClass = manifest.dataClass
  question : record.questionEntryId = manifest.question.id

section Exact

variable {tools : TextTools} {digests : Digests} {prims : Primitives} {keyId storeId : Text}
  {recursionLimit : ℕ} {limits : SourceBundleLimits} {rootIdentityDigest : Text}
  {tree : FileTree}

theorem PreparedFrom.exact {metadata : Metadata} {members : List (Text × Value)}
    {items : List Value} {manifest : SourceBundleManifest} {prepared : Prepared}
    (hparsed : Parsed tools limits members items manifest)
    (h : PreparedFrom tools digests prims recursionLimit limits rootIdentityDigest tree metadata
      manifest prepared) :
    ExactBundle prims recursionLimit limits tree manifest
      (bundleRecord digests limits prepared
        ((sortOn (·.manifest.id) prepared.sources).map entryOf)) := by
  obtain ⟨hmanifests, hdeclared⟩ :=
    sources_of_read (fun entry hentry => (hparsed.entry hentry).1) h.sources
  have hsorted := sortOn_perm (fun source : ReadSource => source.manifest.id) prepared.sources
  have hids : (manifest.entries.map (·.id)).Nodup := hparsed.within.ids
  have hcount : manifest.entries.length = items.length + 1 := by
    show manifest.sources.length + 1 = items.length + 1
    rw [hparsed.entries.length_eq]
  -- the entries are those of the sources in their order
  have hentries : ((sortOn (·.manifest.id) prepared.sources).map entryOf).map (·.id) =
      (sortOn (·.manifest.id) prepared.sources).map (·.manifest.id) := by
    rw [List.map_map]
    rfl
  have hnodup : ((sortOn (·.manifest.id) prepared.sources).map (·.manifest.id)).Nodup := by
    rw [(hsorted.map _).nodup_iff, ← hmanifests, List.map_map] at *
    exact hids
  exact
    { sorted := by
        show (((sortOn (·.manifest.id) prepared.sources).map entryOf).map (·.id)).Pairwise (· < ·)
        rw [hentries]
        have hle := pairwise_map_sortOn (fun source : ReadSource => source.manifest.id)
          prepared.sources
        exact (hle.and hnodup).imp fun h => lt_of_le_of_ne h.1 h.2
      entries := by
        show (((sortOn (·.manifest.id) prepared.sources).map entryOf).map (·.summary)).Perm _
        rw [← hmanifests, List.map_map, List.map_map]
        exact hsorted.map _
      files := by
        intro entry hentry
        rw [← hmanifests] at hentry
        obtain ⟨source, hsource, rfl⟩ := List.mem_map.mp hentry
        exact ⟨source.content, hdeclared source hsource⟩
      total := by
        show observedTotal prepared.sources =
          (((sortOn (·.manifest.id) prepared.sources).map entryOf).map
            (·.artifact.byteLength)).sum
        rw [observedTotal_eq hdeclared, List.map_map]
        exact ((hsorted.map _).sum_eq).symm
      total_le := h.total
      length_le := by
        intro entry hentry
        obtain ⟨source, hsource, rfl⟩ := List.mem_map.mp hentry
        have hmem : source.manifest ∈ manifest.entries := by
          rw [← hmanifests]
          exact List.mem_map_of_mem (mem_sortOn.mp hsource)
        exact hparsed.within.lengths _ hmem
      count_le := by
        show ((sortOn (·.manifest.id) prepared.sources).map entryOf).length ≤ _
        have hlength := congrArg List.length hmanifests
        rw [List.length_map] at hlength
        rw [List.length_map, hsorted.length_eq, hlength, hcount]
        exact hparsed.count
      bundleId := h.bundleId
      dataClass := h.dataClass
      question := h.questionId }

theorem PreparedFrom.perm {metadata : Metadata} {manifest : SourceBundleManifest}
    {prepared : Prepared} {entries : List SourceManifestEntry}
    (h : PreparedFrom tools digests prims recursionLimit limits rootIdentityDigest tree metadata
      manifest prepared) (hperm : manifest.sources.Perm entries) :
    ∃ sources, prepared.sources.Perm sources ∧
      PreparedFrom tools digests prims recursionLimit limits rootIdentityDigest tree metadata
        { manifest with sources := entries } { prepared with sources } := by
  have hentries : manifest.entries.Perm (manifest.question :: entries) := hperm.cons _
  obtain ⟨sources, hsources, hsame⟩ := List.perm_comp_forall₂ hentries.symm h.sources
  refine ⟨sources, hsame.symm, h.bundleId, h.dataClass, h.questionId, h.metadata, hsources, ?_⟩
  unfold observedTotal
  rw [(hsame.map _).sum_eq]
  exact h.total

/-- **Ingestion is exact, independent of the order of the sources, and validates before it
stores.** -/
theorem ingestion_exact (tools : TextTools) (digests : Digests) (prims : Primitives)
    (keyId storeId : Text) (recursionLimit : ℕ) (limits : SourceBundleLimits)
    (rootIdentityDigest : Text) (tree : FileTree) (document : Value) (metadata : Metadata) :
    (∀ script disk record disk',
      (ingest tools digests prims keyId storeId recursionLimit limits rootIdentityDigest tree
        document metadata).run script disk = (.returned record, disk') →
      (∃ manifest, validateManifest tools limits document = .ok manifest ∧
        ExactBundle prims recursionLimit limits tree manifest record) ∧
      ∀ members items items', document = .mapping members →
        field members (lit "sources") = .list items → items.Perm items' →
        (ingest tools digests prims keyId storeId recursionLimit limits rootIdentityDigest tree
          (.mapping (withSources members items')) metadata).run script disk =
            (.returned record, disk')) ∧
    (∀ manifest, validateManifest tools limits document = .ok manifest →
      (∃ entry ∈ manifest.entries,
        ∀ content, ¬ Declared prims recursionLimit limits tree entry content) →
      ∃ failure, ∀ script disk,
        (ingest tools digests prims keyId storeId recursionLimit limits rootIdentityDigest tree
          document metadata).run script disk = (.raised failure, disk)) ∧
    (∀ manifest, validateManifest tools limits document = .ok manifest →
      (∀ entry ∈ manifest.entries,
        ∃ content, Declared prims recursionLimit limits tree entry content) →
      ∃ sources, manifest.entries.mapM (readDeclaredSource tools digests prims recursionLimit
        limits rootIdentityDigest tree) = .ok sources) := by
  refine ⟨?_, ?_, ?_⟩
  · intro script disk record disk' hrun
    unfold ingest at hrun
    cases hprepare : prepare tools digests prims recursionLimit limits rootIdentityDigest tree
        document metadata with
    | error failure =>
      rw [hprepare] at hrun
      cases hrun
    | ok prepared =>
      rw [hprepare] at hrun
      have hpublish : (publish tools digests prims keyId storeId limits prepared).run script
          disk = (.returned record, disk') := hrun
      obtain ⟨manifest, hmanifest, hfrom⟩ := prepare_eq_ok.mp hprepare
      obtain ⟨members, items, rfl, hparsed⟩ := validateManifest_eq_ok.mp hmanifest
      have hrecord := (yields_publish prepared).run hpublish
      refine ⟨⟨manifest, hmanifest, hrecord ▸ hfrom.exact hparsed⟩, ?_⟩
      intro members' items' permuted hmembers hitems hperm
      obtain rfl := Value.mapping.inj hmembers
      have hsame : items' = items := by
        rw [hparsed.sources] at hitems
        exact (Value.list.inj hitems).symm
      subst hsame
      obtain ⟨entries, hentries, hparsed'⟩ := hparsed.perm hperm
      obtain ⟨sources, hsources, hfrom'⟩ := hfrom.perm hentries
      have hprepare' := prepare_eq_ok.mpr
        ⟨_, validateManifest_eq_ok.mpr ⟨_, _, rfl, hparsed'⟩, hfrom'⟩
      obtain ⟨hmanifests, _⟩ :=
        sources_of_read (fun entry hentry => (hparsed.entry hentry).1) hfrom.sources
      have hids : (prepared.sources.map (·.manifest.id)).Nodup := by
        have := hparsed.within.ids
        rwa [← hmanifests, List.map_map] at this
      unfold ingest
      rw [hprepare']
      show (publish tools digests prims keyId storeId limits { prepared with sources }).run
        script disk = _
      rw [publish_perm hids hsources]
      exact hpublish
  · rintro manifest hmanifest ⟨entry, hentry, hnot⟩
    cases hprepare : prepare tools digests prims recursionLimit limits rootIdentityDigest tree
        document metadata with
    | error failure =>
      refine ⟨failure, fun script disk => ?_⟩
      unfold ingest
      rw [hprepare]
      rfl
    | ok prepared =>
      obtain ⟨manifest', hmanifest', hfrom⟩ := prepare_eq_ok.mp hprepare
      obtain rfl : manifest' = manifest := Except.ok.inj (hmanifest'.symm.trans hmanifest)
      obtain ⟨members, items, _, hparsed⟩ := validateManifest_eq_ok.mp hmanifest
      obtain ⟨content, hdeclared⟩ := (hfrom.exact hparsed).files entry hentry
      exact absurd hdeclared (hnot content)
  · intro manifest hmanifest hall
    obtain ⟨members, items, _, hparsed⟩ := validateManifest_eq_ok.mp hmanifest
    refine exists_mapM_eq_ok.mpr ?_
    intro entry hentry
    obtain ⟨content, hdeclared⟩ := hall entry hentry
    exact ⟨_, (readDeclaredSource_eq_ok (hparsed.entry hentry).1).mpr ⟨content, hdeclared, rfl⟩⟩

end Exact

end Ecosystem.Sources
