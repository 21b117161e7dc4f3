import Ecosystem.Lib.DepthFirst
import Ecosystem.Lib.Sorting
import Ecosystem.Projections.Compiler

/-!
# The skill registry and its projections

`sync.py` of `eco_skills`, up to `_projections`: a registry document is validated with the
texts of its skills, which are rendered for four native surfaces and into two common
files.  `document.valid` is what the schema asks; digests and the normal form of Unicode
are parameters.
-/

namespace Ecosystem.Skills

open Ecosystem.Lib Ecosystem.Lib.Checks
open Ecosystem.Projections (lit RawContent Content byteSize Failure components isAbsolute)

/-! ## Surfaces -/

inductive Surface
  | codex | claude | gemini | portable | copilot | cursor
deriving DecidableEq

def Surface.name : Surface → Text
  | .codex => lit "codex"
  | .claude => lit "claude"
  | .gemini => lit "gemini"
  | .portable => lit "portable"
  | .copilot => lit "copilot"
  | .cursor => lit "cursor"

def defaultSurfaces : List Surface :=
  [.codex, .claude, .gemini, .portable, .copilot, .cursor]

/-- `roots` of `_projections`: the surfaces with a file for each skill. -/
def nativeRoots : List (Surface × Text) :=
  [(.codex, lit ".agents/skills"), (.claude, lit ".claude/skills"),
    (.gemini, lit ".gemini/skills"), (.portable, lit ".ai/skills/projected")]

def aggregateFiles : List (Surface × Text) :=
  [(.copilot, lit ".github/instructions/eco-skills.instructions.md"),
    (.cursor, lit ".cursor/rules/eco-skills.mdc")]

/-! ## The document -/

inductive SupportMode
  | native | portable | instructionOnly | unsupported
deriving DecidableEq

structure Support where
  mode : SupportMode
  limitations : List Text

structure Source where
  uri : Text
  commit : Text

structure Revocation where
  revoked : Bool
  reason : Option Text

structure SkillRecord where
  id : Text
  version : Text
  source : Source
  contentDigest : Text
  license : Text
  owner : Text
  capabilities : List Text
  dependencies : List Text
  tests : List Text
  evidence : List Text
  revocation : Revocation
  compatibility : Surface → Support
  resource : Text

/-- A document with the kind of a registry and `metadata.id` of the builtin one. -/
structure RegistryDocument where
  version : Text
  skills : List SkillRecord

/-! ## The schema -/

def isLowerDigit (c : Char) : Bool := c.isLower || c.isDigit

def isHexLower (c : Char) : Bool := c.isDigit || ('a' ≤ c && c ≤ 'f')

/-- A `$` at the end of a pattern also matches in front of a last line break. -/
def matchesLine (p : Text → Bool) (text : Text) : Bool :=
  p text || (text.getLast? = some '\n' && p text.dropLast)

/-- `[a-z0-9]+(?:-[a-z0-9]+)*`. -/
def isIdentifier (text : Text) : Bool :=
  (text.splitOn '-').all fun part => part ≠ [] && part.all isLowerDigit

/-- `[0-9]+\.[0-9]+\.[0-9]+`. -/
def isVersion (text : Text) : Bool :=
  let parts := text.splitOn '.'
  parts.length = 3 && parts.all fun part => part ≠ [] && part.all Char.isDigit

/-- `[0-9a-f]{64}`. -/
def isDigest (text : Text) : Bool := text.length = 64 && text.all isHexLower

/-- `commit` of a source: a letter or a digit, and up to 127 characters behind it. -/
def isCommit : Text → Bool
  | [] => false
  | c :: cs => c.isAlphanum && cs.length ≤ 127 &&
      cs.all fun c => c.isAlphanum || c ∈ ['.', '_', ':', '@', '/', '-']

/-- `[a-z0-9-]+/SKILL\.md`. -/
def isResource (text : Text) : Bool :=
  match cutFirst ['/'] text with
  | some (name, file) =>
    name ≠ [] && name.all (fun c => isLowerDigit c || c = '-') && file = lit "SKILL.md"
  | none => false

/-- `identifier` of the schema. -/
def identifierValid (text : Text) : Bool :=
  matchesLine isIdentifier text && text.length ≤ 80

/-- `stringSet` of the schema. -/
def stringSetValid (texts : List Text) : Bool :=
  texts.all (fun text => 1 ≤ text.length && text.length ≤ 160) && texts.Nodup &&
    texts.length ≤ 32

/-- `skill` of the schema. -/
def SkillRecord.valid (record : SkillRecord) : Bool :=
  identifierValid record.id && matchesLine isVersion record.version &&
    (lit "package://eco_skills/catalog/").isPrefixOf record.source.uri &&
    record.source.uri.length ≤ 240 && matchesLine isCommit record.source.commit &&
    matchesLine isDigest record.contentDigest &&
    matchesLine (fun text => text ≠ [] &&
      text.all fun c => c.isAlphanum || c ∈ ['.', '-']) record.license &&
    record.license.length ≤ 40 &&
    1 ≤ record.owner.length && record.owner.length ≤ 120 &&
    stringSetValid record.capabilities &&
    record.dependencies.all identifierValid && record.dependencies.Nodup &&
    record.dependencies.length ≤ 16 &&
    stringSetValid record.tests && stringSetValid record.evidence &&
    record.revocation.reason.all (·.length ≤ 240) &&
    defaultSurfaces.all (fun surface =>
      stringSetValid (record.compatibility surface).limitations) &&
    matchesLine isResource record.resource && record.resource.length ≤ 120

/-- What the schema asks of a document of this shape. -/
def RegistryDocument.valid (document : RegistryDocument) : Bool :=
  matchesLine isVersion document.version &&
    1 ≤ document.skills.length && document.skills.length ≤ 64 &&
    document.skills.all SkillRecord.valid

/-! ## Validation -/

/-- What the code takes from its surroundings. -/
structure Primitives where
  sha256 : RawContent → Text
  /-- `_semantic_digest`. -/
  semanticDigest : RegistryDocument → Text
  /-- `unicodedata.normalize("NFC", text)`. -/
  nfc : Text → Text
  casefold : Text → Text

/-- `unicodedata.normalize("NFC", text).casefold()`. -/
def Primitives.folded (prims : Primitives) (text : Text) : Text :=
  prims.casefold (prims.nfc text)

/-- A skill whose bytes are the encoding of `text`. -/
structure Skill where
  record : SkillRecord
  text : Text

abbrev Skill.identifier (skill : Skill) : Text := skill.record.id

abbrev Skill.revoked (skill : Skill) : Bool := skill.record.revocation.revoked

structure Registry where
  document : RegistryDocument
  digest : Text
  skills : List Skill

def registryInvalid : Failure := .eco "ECO_SKILL_REGISTRY_INVALID"

def resourceInvalid : Failure := .eco "ECO_SKILL_RESOURCE_INVALID"

def decodeResource : RawContent → Except Failure Text
  | .utf8 text => .ok text
  | .binary _ => .error resourceInvalid

def loadSkill (prims : Primitives) (resourceReader : Text → Option RawContent)
    (known : List Text) (record : SkillRecord) : Except Failure Skill := do
  let name := record.resource
  require (!isAbsolute name && '\\' ∉ name && prims.nfc name = name &&
    lit ".." ∉ components name && name = record.id ++ lit "/SKILL.md") registryInvalid
  require (record.dependencies.all (· ∈ known)) registryInvalid
  let content ← expect resourceInvalid (resourceReader name)
  require (content.size ≤ 256 * 1024) resourceInvalid
  let decoded ← decodeResource content
  require ('\x00' ∉ decoded && prims.sha256 content = record.contentDigest) resourceInvalid
  require (!record.revocation.revoked || record.revocation.reason.any (· ≠ []))
    registryInvalid
  require (record.revocation.revoked || record.revocation.reason = none) registryInvalid
  require ([Surface.copilot, .cursor].all fun surface =>
    (record.compatibility surface).mode = .instructionOnly &&
      (record.compatibility surface).limitations ≠ [])
    (.eco "ECO_SKILL_COMPATIBILITY_OVERCLAIM")
  return { record, text := decoded }

/-- `graph[identifier]`. -/
def dependenciesOf (records : List SkillRecord) (identifier : Text) : List Text :=
  match records.find? (·.id = identifier) with
  | some record => record.dependencies
  | none => []

def validateRegistry (prims : Primitives) (resourceReader : Text → Option RawContent)
    (document : RegistryDocument) : Except Failure Registry := do
  require document.valid registryInvalid
  let identifiers := document.skills.map (·.id)
  require (identifiers = sortOn id identifiers && identifiers.Nodup &&
    (identifiers.map prims.folded).Nodup) registryInvalid
  let loaded ← document.skills.mapM (loadSkill prims resourceReader identifiers)
  -- a path holds every skill at most once, so its bound is never met
  let _ ← DepthFirst.scan (fun _ => true) (dependenciesOf document.skills)
    (.eco "RecursionError") (.eco "ECO_SKILL_DEPENDENCY_CYCLE") registryInvalid
    (identifiers.length + 1) identifiers
  return { document, digest := prims.semanticDigest document, skills := loaded }

/-! ## Rendering -/

def marker (surface : Surface) (registryDigest : Text) (skillId : Option Text) : Text :=
  lit "<!-- eco-skills:managed surface=\"" ++ surface.name ++ lit "\" registry=\"" ++
    registryDigest ++ lit "\"" ++
    (match skillId with
      | some id => lit " skill=\"" ++ id ++ lit "\""
      | none => []) ++ lit " -->"

/-- The line that closes a front matter, with the line break before it. -/
def frontMatterEnd : Text := lit "\n---\n"

/-- `text.find("\n---\n", 4)`: what stands before the match and what stands behind. -/
def findEnd (text : Text) : Option (Text × Text) :=
  (cutFirst frontMatterEnd (text.drop 4)).map fun cut => (text.take 4 ++ cut.1, cut.2)

/-- `text.startswith("---\n")`. -/
def startsFrontMatter (text : Text) : Bool := (lit "---\n").isPrefixOf text

def nativeContent (skill : Skill) (surface : Surface) (registryDigest : Text) :
    Except Failure Text :=
  let mark := marker surface registryDigest (some skill.identifier)
  if startsFrontMatter skill.text then
    match findEnd skill.text with
    | none => .error resourceInvalid
    | some (front, rest) =>
      .ok (front ++ frontMatterEnd ++ mark ++ lit "\n\n" ++ rest)
  else .ok (mark ++ lit "\n\n" ++ skill.text)

/-- The lines of an aggregate projection in front of its first skill. -/
def aggregateHeader (surface : Surface) (registryDigest : Text) : List Text :=
  (if surface = .cursor then
    [lit "---", lit "description: Eco managed portable skill guidance",
      lit "alwaysApply: false", lit "---"]
  else []) ++
  [marker surface registryDigest none, [], lit "# Eco skill guidance", [],
    lit "> This is an instruction-only projection. Native skill discovery, invocation, dependency resolution, and semantic parity are not claimed.",
    []]

/-- `## id (version)`. -/
def heading (skill : Skill) : Text :=
  lit "## " ++ skill.identifier ++ lit " (" ++ skill.record.version ++ lit ")"

def sectionLines (skill : Skill) (body : Text) : List Text :=
  [heading skill, [], strip body, []]

def aggregateWith (body : Skill → Text) (registry : Registry) (surface : Surface) : Text :=
  rstrip ((lit "\n").intercalate (aggregateHeader surface registry.digest ++
    (registry.skills.filter (!·.revoked)).flatMap fun skill =>
      sectionLines skill (body skill))) ++ lit "\n"

/-- The body as `_aggregate_content` cuts it. -/
def aggregateBody (skill : Skill) : Text :=
  match findEnd skill.text with
  | some (_, rest) => rest
  | none => skill.text

def aggregateContent (registry : Registry) (surface : Surface) : Text :=
  aggregateWith aggregateBody registry surface

/-! ## The projections -/

/-- A file to be written: its bytes are the encoding of `content`. -/
structure Projection where
  path : Text
  surface : Surface
  skillId : Option Text
  content : Text

/-- `{root}/{identifier}/SKILL.md`. -/
def nativePath (root identifier : Text) : Text :=
  root ++ lit "/" ++ identifier ++ lit "/SKILL.md"

def nativeProjection (registryDigest : Text) (surface : Surface) (root : Text)
    (skill : Skill) : Except Failure Projection := do
  let content ← nativeContent skill surface registryDigest
  return { path := nativePath root skill.identifier, surface,
           skillId := some skill.identifier, content }

def nativeProjections (registry : Registry) (native : Surface × Text) :
    Except Failure (List Projection) :=
  (registry.skills.filter (!·.revoked)).mapM
    (nativeProjection registry.digest native.1 native.2)

def aggregateProjection (registry : Registry) (aggregate : Surface × Text) : Projection where
  path := aggregate.2
  surface := aggregate.1
  skillId := none
  content := aggregateContent registry aggregate.1

def projections (prims : Primitives) (registry : Registry) :
    Except Failure (List Projection) := do
  let natives ← nativeRoots.mapM (nativeProjections registry)
  let result := sortOn Projection.path
    (natives.flatten ++ aggregateFiles.map (aggregateProjection registry))
  require (result.map fun item => prims.folded item.path).Nodup
    (.eco "ECO_SKILL_TARGET_COLLISION")
  return result

end Ecosystem.Skills
