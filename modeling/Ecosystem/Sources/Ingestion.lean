import Ecosystem.Lib.Sorting
import Ecosystem.Research.StrictJson
import Ecosystem.Sources.Manifest

/-!
# Ingestion of source bundles

`ingest_source_bundle`: every file of a manifest is read and checked, then all are put
into the artifact store, and the record of the bundle is made.  Reading is a function of
the file tree; the store is the program of `Artifacts.Store` on its disk.
-/

namespace Ecosystem.Sources

open Ecosystem.Lib Ecosystem.Lib.Checks
open Ecosystem.Artifacts (Bytes Disk Input Primitives isHex isArtifactRef lit inspect put
  verifyAvailability)
open Ecosystem.Research (refusedByDecoder valueCount pushed)

/-! ## Files -/

/-- What stands at a path, with what its identity and its state are compared by. -/
structure SourceFile where
  regular : Bool
  links : ℕ
  content : Bytes

/-- What the reader finds at a path, or the code that it fails with there: to open, to
reopen or to read a file, or since the file changes meanwhile. -/
abbrev FileTree := Text → Except String SourceFile

section Reading

variable (tools : TextTools) (recursionLimit : ℕ) (limits : SourceBundleLimits)
  (tree : FileTree)

def fileTooLarge : Failure :=
  .source "ECO_SOURCE_FILE_TOO_LARGE" "Source file exceeds the read limit"

/-- `_LinuxAnchoredSourceReader.read`. -/
def readFile (path : Text) (maximumBytes : ℕ) : Except Failure Bytes := do
  let path ← canonicalPath tools (.text path)
  match tree path with
  | .error code => .error (.source code "Source file could not be read safely")
  | .ok file => do
    require file.regular
      (.source "ECO_SOURCE_NOT_REGULAR" "Source path is not a regular file")
    require (file.links = 1) (.source "ECO_SOURCE_HARDLINK_DENIED" "Hardlinked source is denied")
    require (file.content.length ≤ maximumBytes) fileTooLarge
    return file.content

/-! ## JSON -/

def jsonLimitExceeded : Failure :=
  .source "ECO_SOURCE_JSON_LIMIT" "JSON exceeds the broker-owned structural limits"

/-- The loop of `_enforce_json_shape_limits`, whose top is its head. -/
def enforce : ℕ → List (JsonTree × ℕ) → ℕ → Except Failure Unit
  | _, [], _ => .ok ()
  | 0, _ :: _, _ => .error jsonLimitExceeded
  | n + 1, entry :: pending, observed => do
    require (observed + 1 ≤ limits.maximumJsonItems && entry.2 ≤ limits.maximumJsonDepth)
      jsonLimitExceeded
    enforce n (pushed entry ++ pending) (observed + 1)

/-- `_enforce_json_shape_limits`.  The loop ends before it has seen more values than there
are. -/
def enforceJsonShapeLimits (document : JsonTree) : Except Failure Unit :=
  enforce limits (valueCount document) [(document, 1)] 0

/-- `json.loads` with its hooks.  A document that is refused for several reasons is refused
for the one that the decoder comes to first; here they have an order. -/
def loadJson (text : Text) : Except Failure JsonTree := do
  let document ← expect (.source "ECO_SOURCE_JSON_INVALID" "JSON source is invalid")
    (JsonTree.ofText text)
  require (!document.any JsonTree.duplicates)
    (.source "ECO_SOURCE_JSON_DUPLICATE_KEY" "JSON contains duplicate object keys")
  require (!document.any JsonTree.isConstant)
    (.source "ECO_SOURCE_JSON_INVALID" "JSON source is invalid")
  require (!refusedByDecoder recursionLimit document)
    (.source "ECO_SOURCE_JSON_LIMIT" "JSON source exceeds the broker-owned structural limits")
  return document

def checkText (mediaType : MediaType) (text : Text) : Except Failure Unit :=
  if mediaType = .json then do
    let document ← loadJson recursionLimit text
    enforceJsonShapeLimits limits document
  else .ok ()

end Reading

/-! ## `_read_declared_source` -/

structure ReadSource where
  manifest : SourceManifestEntry
  content : Bytes
  provenanceDigest : Text

structure FileProvenance where
  rootIdentityDigest : Text
  path : Text
  contentDigest : Text
  byteLength : ℕ

/-! ## Records -/

structure ArtifactBinding where
  ref : Text
  contentDigest : Text
  byteLength : ℤ
  dataClass : DataClass

inductive ProvenanceKind
  | localFile | git | researchWeb
deriving DecidableEq

structure Provenance where
  kind : ProvenanceKind
  provenanceDigest : Text
  remoteIdentityDigest : Option Text
  commitDigest : Option Text

structure BundleEntry where
  id : Text
  artifact : ArtifactBinding
  mediaType : MediaType
  provenance : Provenance

/-- A record of the kind `SourceBundle`. -/
structure SourceBundle where
  id : Text
  projectId : Text
  teamId : Text
  runId : Text
  createdAt : Text
  recordDigest : Text
  ingestionPolicyDigest : Text
  dataClass : DataClass
  questionEntryId : Text
  totalByteLength : ℤ
  entries : List BundleEntry

structure Digests where
  policyDigest : SourceBundleLimits → Text
  provenanceDigest : FileProvenance → Text
  /-- `orchestration_record_digest`, which leaves its own field out. -/
  recordDigest : SourceBundle → Text
  recordDigest_own : ∀ record digest,
    recordDigest { record with recordDigest := digest } = recordDigest record

/-- A text that a pattern up to `$` finds: it may end with a line break. -/
def matchesPattern (p : Text → Bool) (s : Text) : Bool :=
  p s || (s.getLast? = some '\n' && p s.dropLast)

/-- `common/v1alpha1#/$defs/artifactBinding`. -/
def ArtifactBinding.valid (artifact : ArtifactBinding) : Bool :=
  19 ≤ artifact.ref.length && artifact.ref.length ≤ 256 &&
    matchesPattern (fun ref => isArtifactRef ref && !ref.any Char.isUpper &&
      ref.getLast?.any isIdentifierEdge) artifact.ref &&
    matchesPattern (isHex 64) artifact.contentDigest &&
    0 ≤ artifact.byteLength && artifact.byteLength ≤ 1000000000

def Provenance.valid (provenance : Provenance) : Bool :=
  matchesPattern (isHex 64) provenance.provenanceDigest &&
    provenance.remoteIdentityDigest.all (matchesPattern (isHex 64)) &&
    provenance.commitDigest.all (matchesPattern (isHex 64))

/-- The schema of a `SourceBundle`. -/
def SourceBundle.structural (tools : TextTools) (record : SourceBundle) : Bool :=
  [record.id, record.projectId, record.teamId, record.runId, record.questionEntryId].all
      (fun id => id.length ≤ 128 && matchesPattern isIdentifier id) &&
    tools.isDateTime record.createdAt &&
    matchesPattern (isHex 64) record.recordDigest &&
    matchesPattern (isHex 64) record.ingestionPolicyDigest &&
    1 ≤ record.totalByteLength && record.totalByteLength ≤ 1000000000 &&
    1 ≤ record.entries.length && record.entries.length ≤ 100 &&
    record.entries.all fun entry =>
      entry.id.length ≤ 128 && matchesPattern isIdentifier entry.id && entry.artifact.valid &&
        entry.provenance.valid

def Provenance.hasGitFields (provenance : Provenance) : Bool :=
  provenance.remoteIdentityDigest.isSome && provenance.commitDigest.isSome

/-- `_semantic_errors` finds nothing. -/
def SourceBundle.semantic (digests : Digests) (record : SourceBundle) : Bool :=
  record.recordDigest = digests.recordDigest record &&
    sortOn (fun name => name) (record.entries.map (·.id)) = record.entries.map (·.id) &&
    (record.entries.map (·.id)).Nodup &&
    (record.entries.map (·.artifact.byteLength)).sum = record.totalByteLength &&
    record.entries.all (·.artifact.dataClass = record.dataClass) &&
    (match record.entries.filter (·.id = record.questionEntryId) with
      | [question] => question.mediaType ≠ .json
      | _ => false) &&
    record.entries.all fun entry =>
      ((entry.provenance.kind = .git) = entry.provenance.hasGitFields) &&
        !(entry.provenance.kind = .researchWeb && entry.provenance.hasGitFields)

/-- `validate_orchestration_record`. -/
def validateRecord (tools : TextTools) (digests : Digests) (record : SourceBundle) :
    Except Failure SourceBundle := do
  require (record.structural tools && record.semantic digests) .contract
  return record

/-! ## `ingest_source_bundle` -/

/-- The arguments of `ingest_source_bundle` besides the manifest. -/
structure Metadata where
  projectId : Value
  teamId : Value
  runId : Value
  createdAt : Value
  ingestionPolicyDigest : Option Value

structure BundleMetadata where
  projectId : Text
  teamId : Text
  runId : Text
  createdAt : Text

/-- What is known before the store is written to: the sources in the order of the
manifest. -/
structure Prepared where
  bundleId : Text
  dataClass : DataClass
  questionId : Text
  metadata : BundleMetadata
  sources : List ReadSource

def onStore {α : Type} :
    Prog Input Disk Artifacts.Failure α → Prog Input Disk Failure α
  | .done a => .done a
  | .fail failure => .fail (.store failure)
  | .step commit next => .step commit fun input disk => onStore (next input disk)

section Ingest

variable (tools : TextTools) (digests : Digests) (prims : Primitives) (keyId storeId : Text)
  (recursionLimit : ℕ) (limits : SourceBundleLimits) (rootIdentityDigest : Text)
  (tree : FileTree)

def readDeclaredSource (entry : SourceManifestEntry) : Except Failure ReadSource := do
  let content ← readFile tools tree entry.path limits.maximumFileBytes
  require (0 ∉ content) (.source "ECO_SOURCE_BINARY_DENIED" "Source contains a NUL byte")
  let text ← expect (.source "ECO_SOURCE_ENCODING_DENIED" "Source is not valid UTF-8")
    (readUtf8 content)
  checkText recursionLimit limits entry.mediaType text
  require ((content.length : ℤ) = entry.byteLength)
    (.source "ECO_SOURCE_LENGTH_MISMATCH" "Source length differs from manifest")
  require (prims.sha256 content = entry.sha256)
    (.source "ECO_SOURCE_DIGEST_MISMATCH" "Source digest differs from manifest")
  return { manifest := entry, content
           provenanceDigest := digests.provenanceDigest
            { rootIdentityDigest, path := entry.path, contentDigest := prims.sha256 content
              byteLength := content.length } }

def checkMetadata (metadata : Metadata) : Except Failure BundleMetadata := do
  let projectId ← identifier tools metadata.projectId "Project identifier"
  let teamId ← identifier tools metadata.teamId "Team identifier"
  let runId ← identifier tools metadata.runId "Run identifier"
  let createdAt ← expect (.source "ECO_SOURCE_METADATA_INVALID" "Creation time is invalid")
    (metadata.createdAt.text?.filter tools.isTimestamp)
  match metadata.ingestionPolicyDigest with
  | none => return { projectId, teamId, runId, createdAt }
  | some value => do
    let digest ← expect
      (.source "ECO_SOURCE_POLICY_INVALID" "Ingestion policy digest is invalid")
      (value.text?.filter (isHex 64))
    require (digest = digests.policyDigest limits)
      (.source "ECO_SOURCE_POLICY_MISMATCH"
        "Ingestion policy digest does not match the enforced limits")
    return { projectId, teamId, runId, createdAt }

def observedTotal (sources : List ReadSource) : ℤ :=
  (sources.map fun source => (source.content.length : ℤ)).sum

def prepare (document : Value) (metadata : Metadata) : Except Failure Prepared := do
  let manifest ← validateManifest tools limits document
  let metadata ← checkMetadata tools digests limits metadata
  let sources ← manifest.entries.mapM (readDeclaredSource tools digests prims recursionLimit
    limits rootIdentityDigest tree)
  require (observedTotal sources ≤ limits.maximumTotalBytes) totalTooLarge
  return { bundleId := manifest.bundleId, dataClass := manifest.dataClass
           questionId := manifest.question.id, metadata, sources }

/-- What is asked of the store for a source; its bytes come in blocks of a mebibyte. -/
def putRequest (source : ReadSource) : Artifacts.PutRequest where
  chunks := source.content.toChunks (1024 * 1024)
  breaks := false
  storageRef := some (lit "artifact://sha256/" ++ source.manifest.sha256)
  expectedSha256 := some source.manifest.sha256
  expectedByteLength := some source.manifest.byteLength
  maxBytes := some limits.maximumFileBytes
  chunkSize := 1024 * 1024

def bundleEntry (source : ReadSource) (proof : Artifacts.Proof) : BundleEntry where
  id := source.manifest.id
  artifact :=
    { ref := proof.storageRef
      contentDigest := proof.sha256
      byteLength := proof.byteLength
      dataClass := source.manifest.dataClass }
  mediaType := source.manifest.mediaType
  provenance :=
    { kind := .localFile
      provenanceDigest := source.provenanceDigest
      remoteIdentityDigest := none
      commitDigest := none }

def publishSource (source : ReadSource) : Prog Input Disk Failure BundleEntry := do
  let proof ← onStore (put prims keyId storeId (putRequest limits source))
  onStore (inspect (verifyAvailability prims keyId storeId proof))
  return bundleEntry source proof

def publishSources : List ReadSource → Prog Input Disk Failure (List BundleEntry)
  | [] => pure []
  | source :: sources => do
    let entry ← publishSource prims keyId storeId limits source
    let entries ← publishSources sources
    return entry :: entries

def bundleRecord (prepared : Prepared) (entries : List BundleEntry) : SourceBundle :=
  let record : SourceBundle :=
    { id := prepared.bundleId
      projectId := prepared.metadata.projectId
      teamId := prepared.metadata.teamId
      runId := prepared.metadata.runId
      createdAt := prepared.metadata.createdAt
      recordDigest := List.replicate 64 '0'
      ingestionPolicyDigest := digests.policyDigest limits
      dataClass := prepared.dataClass
      questionEntryId := prepared.questionId
      totalByteLength := observedTotal prepared.sources
      entries }
  { record with recordDigest := digests.recordDigest record }

def publish (prepared : Prepared) : Prog Input Disk Failure SourceBundle := do
  let entries ← publishSources prims keyId storeId limits
    (sortOn (·.manifest.id) prepared.sources)
  Prog.ofExcept (validateRecord tools digests (bundleRecord digests limits prepared entries))

/-- `ingest_source_bundle`. -/
def ingest (document : Value) (metadata : Metadata) : Prog Input Disk Failure SourceBundle := do
  let prepared ← Prog.ofExcept (prepare tools digests prims recursionLimit limits
    rootIdentityDigest tree document metadata)
  publish tools digests prims keyId storeId limits prepared

end Ingest

end Ecosystem.Sources
