import Ecosystem.Artifacts.Store
import Ecosystem.Projections.Compiler

/-!
# Manifests of source bundles

`validate_source_bundle_manifest` of `source_bundle.py`: a document that says which files
a bundle is made of becomes a manifest whose entries are within the limits.  Unicode's
tables and its case folding are parameters.
-/

namespace Ecosystem.Sources

open Ecosystem.Lib Ecosystem.Lib.Checks
open Ecosystem.Projections (byteSize)
open Ecosystem.Artifacts (isHex lit)

/-! ## Values -/

/-- A Python value as the checks tell it apart. -/
inductive Value
  | int (n : ℤ)
  | text (s : Text)
  | list (items : List Value)
  | mapping (members : List (Text × Value))
  /-- Anything else: also a `bool`, a float and a string without an encoding, as well as a
  mapping with a key that is no text. -/
  | other

def Value.text? : Value → Option Text
  | .text s => some s
  | _ => none

def Value.int? : Value → Option ℤ
  | .int n => some n
  | _ => none

def Value.list? : Value → Option (List Value)
  | .list items => some items
  | _ => none

/-- `value[key]` of a mapping that has the key. -/
def field (members : List (Text × Value)) (key : Text) : Value :=
  ((members.find? fun member => member.1 = key).map Prod.snd).getD .other

inductive DataClass
  | d0 | d1 | d2 | d3
deriving DecidableEq

def DataClass.name : DataClass → Text
  | .d0 => lit "D0"
  | .d1 => lit "D1"
  | .d2 => lit "D2"
  | .d3 => lit "D3"

/-- `ALLOWED_DATA_CLASSES`. -/
def dataClassOf (s : Text) : Option DataClass :=
  [.d0, .d1, .d2, .d3].find? fun dataClass => dataClass.name = s

inductive MediaType
  | plain | markdown | json
deriving DecidableEq

def MediaType.name : MediaType → Text
  | .plain => lit "text/plain"
  | .markdown => lit "text/markdown"
  | .json => lit "application/json"

/-- `ALLOWED_MEDIA_TYPES`. -/
def mediaTypeOf (s : Text) : Option MediaType :=
  [.plain, .markdown, .json].find? fun mediaType => mediaType.name = s

/-! ## Failures -/

inductive Failure
  /-- `SourceBundleError`. -/
  | source (code message : String)
  | store (failure : Artifacts.Failure)
  /-- `ContractValidationError`. -/
  | contract
deriving DecidableEq

def manifestInvalid (message : String) : Failure :=
  .source "ECO_SOURCE_MANIFEST_INVALID" message

def pathInvalid : Failure := .source "ECO_SOURCE_PATH_INVALID" "Source path is invalid"

def totalTooLarge : Failure :=
  .source "ECO_SOURCE_TOTAL_TOO_LARGE" "Source bundle exceeds the aggregate limit"

/-! ## Limits -/

/-- `SourceBundleLimits`, with what `__post_init__` asks of it. -/
structure SourceBundleLimits where
  maximumFileBytes : ℕ := 1048576
  maximumSourceCount : ℕ := 64
  maximumTotalBytes : ℕ := 8388608
  maximumManifestBytes : ℕ := 262144
  maximumJsonDepth : ℕ := 64
  maximumJsonItems : ℕ := 20000
  positive : 1 ≤ maximumFileBytes ∧ 1 ≤ maximumSourceCount ∧ 1 ≤ maximumTotalBytes ∧
    1 ≤ maximumManifestBytes ∧ 1 ≤ maximumJsonDepth ∧ 1 ≤ maximumJsonItems := by decide
  file_le_total : maximumFileBytes ≤ maximumTotalBytes := by decide
  sourceCount_le : maximumSourceCount ≤ 100 := by decide
  totalBytes_le : maximumTotalBytes ≤ 1000000000 := by decide
  jsonDepth_le : maximumJsonDepth ≤ 256 := by decide
  jsonItems_le : maximumJsonItems ≤ 1000000 := by decide

/-! ## Names -/

structure TextTools where
  casefold : Text → Text
  /-- `unicodedata.normalize("NFC", …)`. -/
  nfc : Text → Text
  /-- A category of `unicodedata` that begins with `C`. -/
  isControl : Char → Bool
  /-- `_TIMESTAMP_RE`, and that `strptime` and `strftime` give the text back. -/
  isTimestamp : Text → Bool
  /-- The format and the pattern of a timestamp in the schema of a record. -/
  isDateTime : Text → Bool

def isIdentifierEdge (c : Char) : Bool := c.isLower || c.isDigit

def isIdentifierChar (c : Char) : Bool := isIdentifierEdge c || c ∈ ['.', '_', ':', '-']

/-- `_IDENTIFIER_RE`. -/
def isIdentifier (s : Text) : Bool :=
  s.length ≤ 128 && s.head?.any isIdentifierEdge && s.getLast?.any isIdentifierEdge &&
    s.all isIdentifierChar

def protectedSegments : List Text :=
  [lit ".git", lit ".hg", lit ".svn", lit ".ssh", lit ".aws", lit ".docker", lit ".kube",
    lit "secrets"]

def protectedNames : List Text :=
  [lit ".env", lit ".netrc", lit ".npmrc", lit ".pypirc", lit "id_rsa", lit "id_dsa",
    lit "id_ecdsa", lit "id_ed25519", lit "credentials", lit "credentials.json",
    lit "service-account.json", lit "secrets.json", lit "secrets.yaml", lit "secrets.yml"]

def protectedSuffixes : List Text :=
  [lit ".pem", lit ".key", lit ".p12", lit ".pfx", lit ".kdbx"]

section Checks

variable (tools : TextTools) (limits : SourceBundleLimits)

def protectedRepositoryPath (path : Text) : Bool :=
  let lowered := (path.splitOn '/').map tools.casefold
  let name := lowered.getLast?.getD []
  lowered.any (· ∈ protectedSegments) || (lit ".env.").isPrefixOf name ||
    name ∈ protectedNames || protectedSuffixes.any (·.isSuffixOf name)

def canonicalPath (value : Value) : Except Failure Text := do
  let path ← expect pathInvalid (value.text?.filter (· ≠ []))
  require (byteSize path ≤ 4096 && !(lit "/").isPrefixOf path && !(lit "./").isPrefixOf path &&
      !(lit "/").isSuffixOf path && (cutFirst (lit "//") path).isNone && '\\' ∉ path &&
      '%' ∉ path && path ≠ ['.'] &&
      (path.splitOn '/').all (· ∉ [[], ['.'], ['.', '.']]) && !path.any tools.isControl &&
      tools.nfc path = path)
    (.source "ECO_SOURCE_PATH_INVALID"
      "Source path is not canonical repository-relative UTF-8")
  require (!protectedRepositoryPath tools path)
    (.source "ECO_SOURCE_PATH_PROTECTED" "Protected repository path is not ingestible")
  return path

def identifier (value : Value) (name : String) : Except Failure Text := do
  let s ← expect (manifestInvalid (name ++ " is invalid")) (value.text?.filter isIdentifier)
  require (tools.nfc s = s) (manifestInvalid (name ++ " is invalid"))
  return s

/-- `_exact_keys`: the members of a mapping that has these keys and no others. -/
def exactKeys (value : Value) (expected : List Text) (context : String) :
    Except Failure (List (Text × Value)) :=
  match value with
  | .mapping members => do
    require (expected.all (· ∈ members.map Prod.fst) && members.all (·.1 ∈ expected))
      (manifestInvalid (context ++ " has invalid fields"))
    return members
  | _ => .error (manifestInvalid (context ++ " has invalid fields"))

/-! ## Entries -/

structure SourceManifestEntry where
  id : Text
  path : Text
  mediaType : MediaType
  dataClass : DataClass
  sha256 : Text
  byteLength : ℤ

def parseEntry (bundleDataClass : DataClass) (value : Value) :
    Except Failure SourceManifestEntry := do
  let item ← exactKeys value
    [lit "id", lit "path", lit "mediaType", lit "dataClass", lit "sha256", lit "byteLength"]
    "Source entry"
  let id ← identifier tools (field item (lit "id")) "Source identifier"
  let path ← canonicalPath tools (field item (lit "path"))
  let mediaType ← expect
    (.source "ECO_SOURCE_MEDIA_TYPE_DENIED" "Source media type is not allowed")
    ((field item (lit "mediaType")).text?.bind mediaTypeOf)
  require ((field item (lit "dataClass")).text? = some bundleDataClass.name)
    (.source "ECO_SOURCE_DATA_CLASS_MISMATCH" "Source data class differs from bundle")
  let sha256 ← expect (.source "ECO_SOURCE_DIGEST_INVALID" "Source digest is invalid")
    ((field item (lit "sha256")).text?.filter (isHex 64))
  let byteLength ← expect (.source "ECO_SOURCE_LENGTH_INVALID" "Source byte length is invalid")
    ((field item (lit "byteLength")).int?.filter (1 ≤ ·))
  return { id, path, mediaType, dataClass := bundleDataClass, sha256, byteLength }

/-! ## Manifests -/

structure SourceBundleManifest where
  bundleId : Text
  dataClass : DataClass
  question : SourceManifestEntry
  sources : List SourceManifestEntry

def SourceBundleManifest.entries (manifest : SourceBundleManifest) : List SourceManifestEntry :=
  manifest.question :: manifest.sources

def checkEntries (entries : List SourceManifestEntry) : Except Failure Unit := do
  require (entries.map (·.id)).Nodup
    (.source "ECO_SOURCE_DUPLICATE_ID" "Source identifiers must be unique")
  require (entries.map (·.path)).Nodup
    (.source "ECO_SOURCE_DUPLICATE_PATH" "Source paths must be unique")
  require (entries.all (·.byteLength ≤ limits.maximumFileBytes))
    (.source "ECO_SOURCE_FILE_TOO_LARGE" "Source file exceeds the per-file limit")
  require ((entries.map (·.byteLength)).sum ≤ limits.maximumTotalBytes) totalTooLarge

/-- `validate_source_bundle_manifest`. -/
def validateManifest (value : Value) : Except Failure SourceBundleManifest := do
  let document ← exactKeys value
    [lit "bundleId", lit "dataClass", lit "question", lit "sources"] "Source bundle manifest"
  let bundleId ← identifier tools (field document (lit "bundleId")) "Bundle identifier"
  let dataClass ← expect
    (.source "ECO_SOURCE_DATA_CLASS_DENIED" "Bundle data class is not allowed")
    ((field document (lit "dataClass")).text?.bind dataClassOf)
  let items ← expect (manifestInvalid "Source list is invalid")
    ((field document (lit "sources")).list?.filter fun items => !items.isEmpty)
  require (items.length + 1 ≤ limits.maximumSourceCount)
    (.source "ECO_SOURCE_COUNT_EXCEEDED" "Source bundle exceeds the source count limit")
  let question ← parseEntry tools dataClass (field document (lit "question"))
  require (question.mediaType ≠ .json)
    (.source "ECO_SOURCE_QUESTION_INVALID" "Question must be plain text or Markdown")
  let sources ← items.mapM (parseEntry tools dataClass)
  checkEntries limits (question :: sources)
  return { bundleId, dataClass, question, sources }

end Checks

end Ecosystem.Sources
