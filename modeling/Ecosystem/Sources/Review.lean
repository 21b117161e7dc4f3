import Ecosystem.Artifacts.Crashes
import Ecosystem.Lib.Observation
import Ecosystem.Orchestration.TypedInput
import Ecosystem.Sources.Exactness

/-!
# Reading a bundle for its review

`_load_sources` of `source_review.py` reads the objects that the record of a bundle names.
An ingestion or a review is a sequence of calls, and other processes make theirs between
any two.  `Published` is what an ingestion among others has come to.
-/

namespace Ecosystem.Sources

open Ecosystem.Lib Ecosystem.Lib.Checks
open Ecosystem.Artifacts (Bytes Disk Input Primitives World Reached Halfway Settled Stored
  isArtifactRef lit inspect put proofForRecord readProof makeProof)
open Ecosystem.Orchestration (UntrustedArtifact)

/-! ## `_read_binding` and `_load_sources` -/

inductive ReviewFailure
  /-- `SourceReviewError`. -/
  | review (code message : String)
  /-- What is not caught. -/
  | store (failure : Artifacts.Failure)

def artifactUnavailable : ReviewFailure :=
  .review "ECO_SOURCE_REVIEW_ARTIFACT_INVALID" "Source review artifact is unavailable"

def contextTooLarge : ReviewFailure :=
  .review "ECO_SOURCE_REVIEW_CONTEXT_TOO_LARGE" "Source review context is too large"

def maxSourceContextBytes : ℤ := 8388608

/-- `except (KeyError, RuntimeStoreError, OSError)`. -/
def caught : Artifacts.Failure → ReviewFailure
  | .store _ _ | .os _ => artifactUnavailable
  | failure => .store failure

section Reading

variable (prims : Primitives) (keyId storeId : Text)

/-- `_read_binding`; each of its two calls holds the lock on its own. -/
def readBinding (binding : ArtifactBinding) : Prog Input Disk ReviewFailure Bytes := do
  let payload ← Prog.mapError caught do
    let proof ← inspect (proofForRecord prims keyId storeId binding.ref binding.contentDigest
      binding.byteLength)
    let stream ← inspect (readProof prims keyId storeId proof)
    return stream.take (binding.byteLength + 1).toNat
  if (payload.length : ℤ) = binding.byteLength then return payload
  else Prog.fail artifactUnavailable

variable {Φ : Type}

def ArtifactBinding.members (binding : ArtifactBinding) : List (String × Json Φ) :=
  [("byteLength", .int binding.byteLength),
    ("contentDigest", .str (String.ofList binding.contentDigest)),
    ("dataClass", .str (String.ofList binding.dataClass.name)),
    ("ref", .str (String.ofList binding.ref))]

theorem ArtifactBinding.ordered (binding : ArtifactBinding) :
    (Json.obj (binding.members (Φ := Φ))).Ordered := by
  refine @Json.Ordered.of_keys _ _ ["byteLength", "contentDigest", "dataClass", "ref"]
    (by decide) rfl ?_
  simp only [members, List.mem_cons, List.not_mem_nil, or_false, forall_eq_or_imp, forall_eq]
  exact ⟨.int _, .str _, .str _, .str _⟩

theorem MediaType.name_ne (mediaType : MediaType) : String.ofList mediaType.name ≠ "" := by
  cases mediaType <;> decide

/-- What an invocation is given of an entry and its bytes. -/
def untrustedArtifact (entry : BundleEntry) (content : Bytes) : UntrustedArtifact Φ where
  binding := ⟨entry.artifact.members, entry.artifact.ordered⟩
  content := content
  mediaType := String.ofList entry.mediaType.name
  sourceEntryId := some (String.ofList entry.id)
  mediaType_ne := entry.mediaType.name_ne

/-- The loop of `_load_sources`. -/
def loadEntries : List BundleEntry → Prog Input Disk ReviewFailure (List (UntrustedArtifact Φ))
  | [] => pure []
  | entry :: entries => do
    let content ← readBinding prims keyId storeId entry.artifact
    let artifacts ← loadEntries entries
    return untrustedArtifact entry content :: artifacts

def loadSources (record : SourceBundle) :
    Prog Input Disk ReviewFailure (List (UntrustedArtifact Φ)) :=
  if maxSourceContextBytes < record.totalByteLength then Prog.fail contextTooLarge
  else loadEntries prims keyId storeId record.entries

end Reading

/-! ## Publication -/

/-- The store has given out a proof for the bytes of `source`, and `entry` names it. -/
def Taken (world : World) (source : ReadSource) (entry : BundleEntry) : Prop :=
  ∃ proof, (proof, source.content) ∈ world.issued ∧ entry = bundleEntry source proof

/-- The record that an ingestion makes once it holds all its proofs. -/
def Published (tools : TextTools) (digests : Digests) (limits : SourceBundleLimits)
    (prepared : Prepared) (record : SourceBundle) (world : World) : Prop :=
  ∃ entries, List.Forall₂ (Taken world) (sortOn (·.manifest.id) prepared.sources) entries ∧
    validateRecord tools digests (bundleRecord digests limits prepared entries) = .ok record

variable {tools : TextTools} {digests : Digests} {prims : Primitives} {keyId storeId : Text}
  {recursionLimit : ℕ} {limits : SourceBundleLimits} {rootIdentityDigest : Text}
  {tree : FileTree} {document : Value} {metadata : Metadata} {prepared : Prepared}
  {record : SourceBundle} {contents : Set Bytes} {world world' : World} {Φ : Type}

theorem Taken.mono (hissued : world.issued ⊆ world'.issued) {source : ReadSource}
    {entry : BundleEntry} (h : Taken world source entry) : Taken world' source entry := by
  obtain ⟨proof, hmem, rfl⟩ := h
  exact ⟨proof, hissued hmem, rfl⟩

/-! ## Objects that are there -/

structure Names (prims : Primitives) (source : ReadSource) (entry : BundleEntry) : Prop where
  ref : isArtifactRef entry.artifact.ref = true
  digest : entry.artifact.contentDigest = prims.sha256 source.content
  length : entry.artifact.byteLength = source.content.length
  id : entry.id = source.manifest.id
  mediaType : entry.mediaType = source.manifest.mediaType

/-- The bytes of all sources are stored, and no installation is halfway. -/
def AllStored (prims : Primitives) (sources : List ReadSource) (disk : Disk) : Prop :=
  Settled disk ∧ ∀ source ∈ sources, Stored prims source.content disk

theorem names_of_taken (hsound : world.Sound prims keyId contents) {source : ReadSource}
    {entry : BundleEntry} (h : Taken world source entry) :
    Names prims source entry ∧ Stored prims source.content world.disk := by
  obtain ⟨proof, hmem, rfl⟩ := h
  obtain ⟨storeId, reference, -, href, hproof, hstored⟩ := hsound.issued _ hmem
  have hproof : proof = makeProof prims keyId storeId reference (prims.sha256 source.content)
      source.content.length := hproof
  subst hproof
  exact ⟨⟨href, rfl, rfl, rfl, rfl⟩, hstored⟩

theorem answers_inspect {α : Type} {P : Disk → Prop} {read : Disk → Except Artifacts.Failure α}
    {a : α} (h : ∀ disk, P disk → read disk = .ok a) :
    (inspect read).Answers P (· = .ok a) :=
  Prog.answers_act fun _ disk hdisk => h disk hdisk

/-- **A binding is read as it was put**, whatever happens between its two calls. -/
theorem answers_readBinding {sources : List ReadSource} {source : ReadSource}
    {entry : BundleEntry} (hsource : source ∈ sources) (hnames : Names prims source entry) :
    (readBinding prims keyId storeId entry.artifact).Answers (AllStored prims sources)
      (· = .ok source.content) := by
  unfold readBinding
  rw [hnames.digest, hnames.length]
  have hproof : ∀ disk, AllStored prims sources disk →
      proofForRecord prims keyId storeId entry.artifact.ref (prims.sha256 source.content)
        source.content.length disk = .ok (makeProof prims keyId storeId entry.artifact.ref
          (prims.sha256 source.content) source.content.length) := fun disk hdisk =>
    Artifacts.proofForRecord_of_stored hdisk.1 hnames.ref (hdisk.2 source hsource)
  have hread : ∀ disk, AllStored prims sources disk →
      readProof prims keyId storeId (makeProof prims keyId storeId entry.artifact.ref
        (prims.sha256 source.content) source.content.length) disk = .ok source.content :=
    fun disk hdisk => Artifacts.readProof_makeProof hdisk.1 hnames.ref (hdisk.2 source hsource)
  have htake : source.content.take ((source.content.length : ℤ) + 1).toNat = source.content :=
    List.take_of_length_le (by omega)
  refine Prog.answers_bind (a := source.content) (Prog.answers_mapError ?_) ?_
  · refine Prog.answers_bind (answers_inspect hproof) ?_
    exact Prog.answers_bind (answers_inspect hread) (congrArg Except.ok htake)
  · rw [if_pos rfl]
    rfl

def untrustedArtifacts (sources : List ReadSource) (entries : List BundleEntry) :
    List (UntrustedArtifact Φ) :=
  List.zipWith (fun source entry => untrustedArtifact entry source.content) sources entries

theorem answers_loadEntries {all sources : List ReadSource} {entries : List BundleEntry}
    (hall : sources ⊆ all) (h : List.Forall₂ (Names prims) sources entries) :
    (loadEntries (Φ := Φ) prims keyId storeId entries).Answers (AllStored prims all)
      (· = .ok (untrustedArtifacts sources entries)) := by
  induction h with
  | nil => rfl
  | cons hnames _ ih =>
    rw [List.cons_subset] at hall
    refine Prog.answers_bind (answers_readBinding hall.1 hnames) ?_
    exact Prog.answers_bind (ih hall.2) rfl

/-! ## What a review is given -/

/-- The artifact of a declared file: its bytes, under its own name and media type. -/
structure ReadBack (tree : FileTree) (declared : SourceManifestEntry)
    (artifact : UntrustedArtifact Φ) : Prop where
  file : tree declared.path = .ok ⟨true, 1, artifact.content⟩
  sourceEntryId : artifact.sourceEntryId = some (String.ofList declared.id)
  mediaType : artifact.mediaType = String.ofList declared.mediaType.name

theorem sorted_manifests (sources : List ReadSource) :
    (sortOn (·.manifest.id) sources).map (·.manifest) =
      sortOn (·.id) (sources.map (·.manifest)) := by
  unfold sortOn
  exact List.map_insertionSort _ _ _ _ fun _ _ _ _ => Iff.rfl

theorem forall₂_readBack {sources : List ReadSource} {entries : List BundleEntry}
    (hfiles : ∀ source ∈ sources, tree source.manifest.path = .ok ⟨true, 1, source.content⟩)
    (h : List.Forall₂ (Names prims) sources entries) :
    List.Forall₂ (ReadBack (Φ := Φ) tree) (sources.map (·.manifest))
      (untrustedArtifacts sources entries) := by
  induction h with
  | nil => exact .nil
  | cons hnames _ ih =>
    rw [List.forall_mem_cons] at hfiles
    refine .cons ⟨hfiles.1, ?_, ?_⟩ (ih hfiles.2)
    · exact congrArg (fun id => some (String.ofList id)) hnames.id
    · exact congrArg (fun mediaType : MediaType => String.ofList mediaType.name) hnames.mediaType

/-- **A review is given the declared files.**  Whatever other processes do between any two
calls, and wherever they stop, the artifacts of a published bundle are the files of its
manifest in the order of their ids; it is refused only if it is too large as a whole. -/
theorem review_reads_files (hinj : Set.InjOn prims.sha256 contents)
    (hprepare : prepare tools digests prims recursionLimit limits rootIdentityDigest tree
      document metadata = .ok prepared)
    (worlds : ℕ → World)
    (hworlds : ∀ n, Reached prims keyId contents (worlds n) ∧ ¬ Halfway (worlds n).disk)
    (hpublished : ∀ n, Published tools digests limits prepared record (worlds n))
    (inputs : ℕ → Input) :
    ∃ manifest, validateManifest tools limits document = .ok manifest ∧
      record.totalByteLength ≤ limits.maximumTotalBytes ∧
      ∃ artifacts, List.Forall₂ (ReadBack (Φ := Φ) tree) (sortOn (·.id) manifest.entries)
          artifacts ∧
        (loadSources prims keyId storeId record).observe inputs (fun n => (worlds n).disk) =
          if maxSourceContextBytes < record.totalByteLength then .error contextTooLarge
          else .ok artifacts := by
  obtain ⟨manifest, hmanifest, hfrom⟩ := prepare_eq_ok.mp hprepare
  obtain ⟨members, items, -, hparsed⟩ := validateManifest_eq_ok.mp hmanifest
  obtain ⟨hmanifests, hdeclared⟩ :=
    sources_of_read (fun entry hentry => (hparsed.entry hentry).1) hfrom.sources
  obtain ⟨entries, htaken, hrecord⟩ := hpublished 0
  obtain ⟨-, hrecord⟩ := require_bind_eq_ok.mp hrecord
  obtain rfl := Except.ok.inj hrecord
  have hsound : ∀ n, (worlds n).Sound prims keyId contents := fun n => (hworlds n).1.sound hinj
  have hnames : List.Forall₂ (Names prims) (sortOn (·.manifest.id) prepared.sources) entries :=
    htaken.imp fun _ _ h => (names_of_taken (hsound 0) h).1
  -- what is stored once is stored in each of the states that the review finds
  have hstored : ∀ n, AllStored prims (sortOn (·.manifest.id) prepared.sources)
      (worlds n).disk := by
    intro n
    obtain ⟨entries', htaken', -⟩ := hpublished n
    have hflip : List.Forall₂ (flip (Taken (worlds n))) entries'
        (sortOn (·.manifest.id) prepared.sources) := htaken'.flip
    refine ⟨(hsound n).settled (hworlds n).2, forall_mem_of_forall₂ hflip ?_⟩
    intro entry _ source hentry
    exact (names_of_taken (hsound n) hentry).2
  refine ⟨manifest, hmanifest, hfrom.total,
    untrustedArtifacts (sortOn (·.manifest.id) prepared.sources) entries, ?_, ?_⟩
  · rw [← hmanifests, ← sorted_manifests]
    refine forall₂_readBack ?_ hnames
    intro source hsource
    exact (hdeclared source (mem_sortOn.mp hsource)).file
  · unfold loadSources
    split
    · rfl
    · exact (answers_loadEntries (List.Subset.refl _) hnames).observe hstored

/-! ## Ingestions are calls -/

theorem flatten_go {α : Type} (n : ℕ) (xs : List α) (part : Array α)
    (parts : Array (List α)) :
    (List.toChunks.go n xs part parts).flatten =
      parts.toList.flatten ++ (part.toList ++ xs) := by
  induction xs generalizing part parts with
  | nil => simp [List.toChunks.go]
  | cons x xs ih =>
    unfold List.toChunks.go
    split
    · rw [ih]
      simp
    · rw [ih]
      simp

theorem flatten_toChunks {α : Type} (n : ℕ) (xs : List α) : (xs.toChunks n).flatten = xs := by
  cases xs with
  | nil => rfl
  | cons x xs =>
    cases n with
    | zero => simp [List.toChunks]
    | succ n => exact flatten_go ..

theorem content_putRequest (source : ReadSource) :
    (putRequest limits source).content = source.content :=
  flatten_toChunks ..

theorem run_onStore {α : Type} {p : Prog Input Disk Artifacts.Failure α} {script : List Input}
    {disk disk' : Disk} {a : α} (h : (onStore p).run script disk = (.returned a, disk')) :
    p.run script disk = (.returned a, disk') := by
  induction p generalizing script disk with
  | done a' =>
    obtain ⟨ha, rfl⟩ := Prod.mk.inj h
    obtain rfl := Ending.returned.inj ha
    rfl
  | fail e => cases h
  | step commit next ih =>
    cases script with
    | nil => cases h
    | cons i script => exact ih _ _ h

/-- A process can make its next call in `world`. -/
structure Ready (prims : Primitives) (keyId : Text) (contents : Set Bytes) (storeId : Text)
    (world : World) : Prop where
  reached : Reached prims keyId contents world
  clean : ¬ Halfway world.disk
  handle : storeId ∈ world.handles

theorem taken_of_put (hinj : Set.InjOn prims.sha256 contents)
    (h : Ready prims keyId contents storeId world) {source : ReadSource}
    (hmem : source.content ∈ contents) {script : List Input} {proof : Artifacts.Proof}
    {disk : Disk}
    (hrun : (put prims keyId storeId (putRequest limits source)).run script world.disk =
      (.returned proof, disk)) :
    ∃ world', Ready prims keyId contents storeId world' ∧ world'.disk = disk ∧
      world.issued ⊆ world'.issued ∧ Taken world' source (bundleEntry source proof) := by
  obtain ⟨call, hcall⟩ : ∃ call, call = Artifacts.Call.put storeId (putRequest limits source) :=
    ⟨_, rfl⟩
  have hreturned : (call.program prims keyId).run script world.disk =
      (.returned (.given proof source.content), disk) := by
    rw [hcall, ← content_putRequest source]
    exact Prog.run_map_of_returned hrun
  have hpossible : call.Possible contents world := by
    rw [hcall]
    refine ⟨h.handle, ?_⟩
    rwa [content_putRequest]
  have hworld : world.run prims keyId call script =
      { world with disk, issued := (proof, source.content) :: world.issued } := by
    unfold World.run
    rw [hreturned]
    rfl
  have hends : world.ends prims keyId call script := by
    unfold World.ends
    rw [hreturned]
    intro hno
    cases hno
  have hclean := ((h.reached.sound hinj).run hinj h.clean hpossible script).2 hends
  have hreached := h.reached.call h.clean hpossible script
  rw [hworld] at hclean hreached
  exact ⟨_, ⟨hreached, hclean, h.handle⟩, rfl, List.subset_cons_self .., proof,
    List.mem_cons_self .., rfl⟩

theorem run_inspect {α : Type} {read : Disk → Except Artifacts.Failure α} {script : List Input}
    {disk disk' : Disk} {a : α} (h : (inspect read).run script disk = (.returned a, disk')) :
    disk' = disk := by
  cases script with
  | nil => cases h
  | cons i script =>
    have hrun : (Prog.ofExcept (read disk) : Prog Input Disk Artifacts.Failure α).run script
        disk = (.returned a, disk') := h
    cases hread : read disk with
    | error e =>
      rw [hread] at hrun
      cases hrun
    | ok b =>
      rw [hread] at hrun
      exact (Prod.mk.inj hrun).2.symm

theorem taken_of_publishSources (hinj : Set.InjOn prims.sha256 contents)
    {sources : List ReadSource} (hmem : ∀ source ∈ sources, source.content ∈ contents)
    (h : Ready prims keyId contents storeId world) {script : List Input}
    {entries : List BundleEntry} {disk : Disk}
    (hrun : (publishSources prims keyId storeId limits sources).run script world.disk =
      (.returned entries, disk)) :
    ∃ world', Ready prims keyId contents storeId world' ∧ world'.disk = disk ∧
      world.issued ⊆ world'.issued ∧ List.Forall₂ (Taken world') sources entries := by
  induction sources generalizing world script entries with
  | nil =>
    obtain ⟨hentries, hdisk⟩ := Prod.mk.inj hrun
    obtain rfl := Ending.returned.inj hentries
    exact ⟨world, h, hdisk, List.Subset.refl _, .nil⟩
  | cons source sources ih =>
    rw [List.forall_mem_cons] at hmem
    obtain ⟨_, _, entry, _, hfirst, hrest⟩ := Prog.run_bind_eq_returned hrun
    obtain ⟨_, _, entries', _, hothers, hend⟩ := Prog.run_bind_eq_returned hrest
    obtain ⟨hentries, rfl⟩ := Prod.mk.inj hend
    obtain rfl := Ending.returned.inj hentries
    -- the two calls for the first source, of which the second changes nothing
    obtain ⟨_, _, proof, _, hput, hfirst⟩ := Prog.run_bind_eq_returned hfirst
    obtain ⟨_, _, _, _, hverify, hend⟩ := Prog.run_bind_eq_returned hfirst
    obtain ⟨hentry, rfl⟩ := Prod.mk.inj hend
    obtain rfl := Ending.returned.inj hentry
    obtain rfl := run_inspect (run_onStore hverify)
    obtain ⟨world₁, hready, rfl, hissued, htaken⟩ :=
      taken_of_put hinj h hmem.1 (run_onStore hput)
    obtain ⟨world', hready', hdisk, hissued', hall⟩ := ih hmem.2 hready hothers
    refine ⟨world', hready', hdisk, List.Subset.trans hissued hissued', .cons ?_ hall⟩
    exact htaken.mono hissued'

/-- **An ingestion that returns is a sequence of calls**, behind which its record is
published. -/
theorem ingest_publishes (hinj : Set.InjOn prims.sha256 contents)
    (h : Ready prims keyId contents storeId world)
    (htree : ∀ path file, tree path = .ok file → file.content ∈ contents)
    {script : List Input} {disk : Disk}
    (hrun : (ingest tools digests prims keyId storeId recursionLimit limits rootIdentityDigest
      tree document metadata).run script world.disk = (.returned record, disk)) :
    ∃ prepared world', prepare tools digests prims recursionLimit limits rootIdentityDigest
        tree document metadata = .ok prepared ∧
      Ready prims keyId contents storeId world' ∧ world'.disk = disk ∧
      Published tools digests limits prepared record world' := by
  unfold ingest at hrun
  cases hprepare : prepare tools digests prims recursionLimit limits rootIdentityDigest tree
      document metadata with
  | error failure =>
    rw [hprepare] at hrun
    cases hrun
  | ok prepared =>
    rw [hprepare] at hrun
    have hpublish : (publish tools digests prims keyId storeId limits prepared).run script
        world.disk = (.returned record, disk) := hrun
    obtain ⟨manifest, hmanifest, hfrom⟩ := prepare_eq_ok.mp hprepare
    obtain ⟨members, items, -, hparsed⟩ := validateManifest_eq_ok.mp hmanifest
    obtain ⟨-, hdeclared⟩ :=
      sources_of_read (fun entry hentry => (hparsed.entry hentry).1) hfrom.sources
    have hmem : ∀ source ∈ sortOn (·.manifest.id) prepared.sources,
        source.content ∈ contents := by
      intro source hsource
      exact htree _ _ (hdeclared source (mem_sortOn.mp hsource)).file
    obtain ⟨_, _, entries, _, hsources, hrecord⟩ := Prog.run_bind_eq_returned hpublish
    obtain ⟨world', hready, rfl, -, htaken⟩ := taken_of_publishSources hinj hmem h hsources
    cases hvalid : validateRecord tools digests (bundleRecord digests limits prepared entries)
      with
    | error failure =>
      rw [hvalid] at hrecord
      cases hrecord
    | ok valid =>
      rw [hvalid] at hrecord
      obtain ⟨hsame, hdisk⟩ := Prod.mk.inj hrecord
      obtain rfl := Ending.returned.inj hsame
      exact ⟨prepared, world', rfl, hready, hdisk, entries, htaken, hvalid⟩

/-! ### A bundle of two files -/

section Sample

open Ecosystem.Artifacts (openedWorld samplePrimitives sampleKey sampleToken sampleInput)

def sampleTools : TextTools where
  casefold := fun text => text
  nfc := fun text => text
  isControl := fun _ => false
  isTimestamp := fun _ => true
  isDateTime := fun _ => true

def sampleDigests : Digests where
  policyDigest := fun _ => List.replicate 64 '1'
  provenanceDigest := fun _ => List.replicate 64 '2'
  recordDigest := fun _ => List.replicate 64 '3'
  recordDigest_own := fun _ _ => rfl

def sampleEntry (id path : String) : Value :=
  .mapping [(lit "id", .text (lit id)), (lit "path", .text (lit path)),
    (lit "mediaType", .text (lit "text/markdown")), (lit "dataClass", .text (lit "D0")),
    (lit "sha256", .text (samplePrimitives.sha256 [1])), (lit "byteLength", .int 1)]

def sampleDocument : Value :=
  .mapping [(lit "bundleId", .text (lit "bundle-1")), (lit "dataClass", .text (lit "D0")),
    (lit "question", sampleEntry "question" "docs/question.md"),
    (lit "sources", .list [sampleEntry "notes" "docs/notes.md"])]

def sampleMetadata : Metadata where
  projectId := .text (lit "project-1")
  teamId := .text (lit "team-1")
  runId := .text (lit "run-1")
  createdAt := .text (lit "2026-01-01T00:00:00Z")
  ingestionPolicyDigest := none

def sampleTree : FileTree := fun _ => .ok ⟨true, 1, [1]⟩

def sampleIngestion : Ending Failure SourceBundle × Disk :=
  (ingest sampleTools sampleDigests samplePrimitives sampleKey sampleToken.val 100 {}
    (List.replicate 64 '4') sampleTree sampleDocument sampleMetadata).run
      (List.replicate 100 sampleInput) openedWorld.disk

theorem sampleIngestion_returns : sampleIngestion.1.isReturned = true := by
  decide +kernel

theorem ingestion_exact_sample :
    ∃ record disk manifest, sampleIngestion = (.returned record, disk) ∧
      validateManifest sampleTools {} sampleDocument = .ok manifest ∧
      ExactBundle samplePrimitives 100 {} sampleTree manifest record := by
  have hreturns := sampleIngestion_returns
  cases hrun : sampleIngestion with
  | mk ending disk =>
    rw [hrun] at hreturns
    cases ending with
    | raised _ | crashed => cases hreturns
    | returned record =>
      obtain ⟨⟨manifest, hmanifest, hexact⟩, -⟩ := (ingestion_exact sampleTools sampleDigests
        samplePrimitives sampleKey sampleToken.val 100 {} (List.replicate 64 '4') sampleTree
        sampleDocument sampleMetadata).1 _ _ record disk hrun
      exact ⟨record, disk, manifest, rfl, hmanifest, hexact⟩

theorem review_reads_files_sample :
    ∃ record disk, sampleIngestion = (.returned record, disk) ∧
      ∃ manifest, validateManifest sampleTools {} sampleDocument = .ok manifest ∧
        record.totalByteLength ≤ ({} : SourceBundleLimits).maximumTotalBytes ∧
        ∃ artifacts, List.Forall₂ (ReadBack (Φ := Empty) sampleTree)
            (sortOn (·.id) manifest.entries) artifacts ∧
          (loadSources samplePrimitives sampleKey sampleToken.val record).observe
              (fun _ => sampleInput) (fun _ => disk) =
            if maxSourceContextBytes < record.totalByteLength then .error contextTooLarge
            else .ok artifacts := by
  obtain ⟨hhandles, hempty, -⟩ := Artifacts.sampleWorlds_links
  have hready : Ready samplePrimitives sampleKey {[1]} sampleToken.val openedWorld := by
    refine ⟨Artifacts.reached_openedWorld, Artifacts.not_halfway_of_clean hempty, ?_⟩
    rw [hhandles]
    exact List.mem_singleton.mpr rfl
  have hcontents : ∀ path file, sampleTree path = .ok file →
      file.content ∈ ({[1]} : Set Bytes) := by
    rintro path _ ⟨⟩
    exact Set.mem_singleton _
  have hreturns := sampleIngestion_returns
  cases hrun : sampleIngestion with
  | mk ending disk =>
    rw [hrun] at hreturns
    cases ending with
    | raised _ | crashed => cases hreturns
    | returned record =>
      obtain ⟨prepared, world, hprepare, hready', rfl, hpublished⟩ :=
        ingest_publishes Artifacts.injOn_sample hready hcontents hrun
      refine ⟨record, world.disk, rfl, ?_⟩
      exact review_reads_files Artifacts.injOn_sample hprepare (fun _ => world)
        (fun _ => ⟨hready'.reached, hready'.clean⟩) (fun _ => hpublished) fun _ => sampleInput

end Sample

end Ecosystem.Sources
