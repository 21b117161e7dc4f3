import Ecosystem.Lib.FileSystem
import Ecosystem.Lib.Program
import Ecosystem.Lib.Text

/-!
# The content-addressed artifact store

`artifact_store.py`: an object is written to a temporary name, linked to the name that
its digest says, and the temporary name is removed.  An opening collects temporary
names, creates or reads the identity and re-hashes every object.

A step is one access to the disk, and a run that ends early is a crash.  The lock
serialises the calls.  Modes and owners are left out.
-/

namespace Ecosystem.Artifacts

open Ecosystem.Lib Ecosystem.Lib.Checks

abbrev Bytes := List UInt8

abbrev Path := List Text

abbrev Disk := FileSystem Text UInt8

abbrev lit (s : String) : Text := s.toList

/-! ## Names -/

/-- `re.fullmatch(r"[a-f0-9]{n}", ...)`. -/
def isHex (n : ℕ) (text : Text) : Bool :=
  text.length = n && text.all fun c => c.isDigit || ('a' ≤ c && c ≤ 'f')

/-- What `secrets.token_hex(16)` answers. -/
abbrev Token := { text : Text // isHex 32 text = true }

def rootPath : Path := []

def objectsName : Text := lit "objects"

def temporaryName : Text := lit "tmp"

def lockName : Text := lit "store.lock"

def metaName : Text := lit "store-meta.json"

def objectsPath : Path := [objectsName]

def temporaryPath : Path := [temporaryName]

def lockPath : Path := [lockName]

def metaPath : Path := [metaName]

def tempName (token : Token) : Text := lit "put-" ++ token.val ++ lit ".tmp"

def tempPath (token : Token) : Path := [temporaryName, tempName token]

/-- `_TEMP_RE`. -/
def isTempName (name : Text) : Bool :=
  name.take 4 = lit "put-" && isHex 32 ((name.drop 4).take 32) &&
    (name.drop 36) = lit ".tmp"

/-- `_object_path`, of a digest that is one. -/
def objectPath (digest : Text) : Path :=
  [objectsName, digest.take 2, (digest.drop 2).take 2, digest]

/-- `_ARTIFACT_REF_RE`: behind the scheme a letter or digit and up to 4095 safe
characters, without empty, `.` or `..` segments in between. -/
def isArtifactRef (text : Text) : Bool :=
  let body := text.drop 11
  let safe := fun c : Char => c.isAlphanum || c ∈ ['.', '_', ':', '/', '-']
  text.take 11 = lit "artifact://" && (body.head?.any Char.isAlphanum) &&
    body.length ≤ 4096 && body.all safe &&
    (body.splitOn '/').all (fun part => part ≠ ['.'] && part ≠ ['.', '.']) &&
    (body.splitOn '/').dropLast.all (· ≠ [])

/-! ## Records -/

/-- `_metadata_payload`. -/
structure MetaPayload where
  domain : Text
  version : ℤ
  storeId : Text
  keyId : Text

/-- `store-meta.json`. -/
structure MetaDocument where
  payload : MetaPayload
  hmac : Text

structure ProofPayload where
  domain : Text
  version : ℤ
  storeId : Text
  keyId : Text
  storageRef : Text
  sha256 : Text
  byteLength : ℤ

/-- `ArtifactAvailabilityProof`. -/
structure Proof where
  storageRef : Text
  sha256 : Text
  byteLength : ℤ
  keyId : Text
  token : Text

/-- SHA-256, the keyed hashes of one proof key, and the text of the identity, which is
read only as it was written. -/
structure Primitives where
  sha256 : Bytes → Text
  sha256_hex : ∀ bytes, isHex 64 (sha256 bytes) = true
  metadataHmac : MetaPayload → Text
  proofHmac : ProofPayload → Text
  proofHmac_hex : ∀ payload, isHex 64 (proofHmac payload) = true
  metaBytes : MetaDocument → Bytes
  parseMeta : Bytes → Option MetaDocument
  parseMeta_metaBytes : ∀ document, parseMeta (metaBytes document) = some document

inductive Failure
  /-- `RuntimeStoreError`, with its code and message. -/
  | store (code message : String)
  /-- `ValueError`. -/
  | value (message : String)
  /-- Whatever the source of the bytes raises. -/
  | source
  /-- `OSError`. -/
  | os (error : FileError)
deriving DecidableEq

def corrupt (message : String) : Failure := .store "ECO_ARTIFACT_STORE_CORRUPT" message

/-! ## Steps -/

/-- What the surroundings bring to a step: random digits, and the number of bytes that a
write takes. -/
structure Input where
  token : Token
  written : ℕ

abbrev DiskProg := Prog Input Disk Failure

variable {α : Type}

def inspect (read : Disk → Except Failure α) : DiskProg α :=
  Prog.act fun _ disk => (read disk, disk)

def change (edit : Disk → Except Failure Disk) : DiskProg Unit :=
  Prog.act fun _ disk =>
    match edit disk with
    | .ok disk' => (.ok (), disk')
    | .error failure => (.error failure, disk)

/-- `secrets.token_hex(16)`. -/
def drawToken : DiskProg Token := Prog.act fun input disk => (.ok input.token, disk)

/-- `os.fsync`: the steps before it are in order anyway. -/
def sync : DiskProg Unit := inspect fun _ => .ok ()

def osError {β : Type} : Except FileError β → Except Failure β
  | .ok b => .ok b
  | .error e => .error (.os e)

/-- `os.open` with `O_CREAT | O_EXCL`. -/
def createTemp (token : Token) : DiskProg ℕ :=
  Prog.act fun _ disk =>
    match disk.create (tempPath token) with
    | .ok (inode, disk') => (.ok inode, disk')
    | .error e => (.error (.os e), disk)

/-- `os.write`, which takes some of the bytes. -/
def writeSome (inode : ℕ) (bytes : Bytes) : DiskProg ℕ :=
  Prog.act fun input disk =>
    (.ok (min input.written bytes.length), disk.append inode (bytes.take input.written))

/-- `_write_all`, with the number of rounds that are left. -/
def writeRounds (inode : ℕ) : ℕ → Bytes → DiskProg Unit
  | 0, _ => pure ()
  | n + 1, bytes =>
    if bytes = [] then pure ()
    else do
      let written ← writeSome inode bytes
      if written = 0 then
        Prog.fail (.store "ECO_ARTIFACT_WRITE_FAILED" "Artifact bytes could not be persisted")
      else writeRounds inode n (bytes.drop written)

/-- `_write_all`: every round takes a byte at least. -/
def writeAll (inode : ℕ) (bytes : Bytes) : DiskProg Unit :=
  writeRounds inode bytes.length bytes

/-- `os.link`; false is a `FileExistsError`. -/
def tryLink (token : Token) (target : Path) : DiskProg Bool :=
  Prog.act fun _ disk =>
    match disk.link (tempPath token) target with
    | .ok disk' => (.ok true, disk')
    | .error .fileExists => (.ok false, disk)
    | .error e => (.error (.os e), disk)

/-- `temporary.unlink(missing_ok=True)`. -/
def dropTemp (token : Token) : DiskProg Unit :=
  change fun disk =>
    match disk.unlink (tempPath token) with
    | .ok disk' => .ok disk'
    | .error .notFound => .ok disk
    | .error e => .error (.os e)

/-! ## Directories -/

def createPrivateDirectory (path : Path) : DiskProg Unit :=
  change fun disk =>
    match disk.lookup path with
    | some .directory => .ok disk
    | some (.file _) => .error (.os .fileExists)
    | none => osError (disk.mkdir path)

def requirePrivateDirectory (path : Path) (disk : Disk) : Except Failure Unit :=
  match disk.lookup path with
  | some .directory => .ok ()
  | some (.file _) =>
    .error (.store "ECO_ARTIFACT_STORE_PERMISSIONS" "Artifact store directory is not trusted")
  | none => .error (.os .notFound)

def openControlFile : DiskProg Unit :=
  change fun disk =>
    let unsafeFile := Failure.store "ECO_ARTIFACT_STORE_PERMISSIONS"
      "Artifact store control file is not private"
    match disk.lookup lockPath with
    | none => (osError (disk.create lockPath)).map Prod.snd
    | some (.file inode) =>
      if disk.linkCount inode = 1 then .ok disk else .error unsafeFile
    | some .directory => .error unsafeFile

/-! ## Objects -/

section Store

variable (prims : Primitives) (keyId : Text)

/-- `_open_verified_descriptor`: the bytes that have been verified. -/
def openVerified (path : Path) (digest : Text) (length : Option ℤ) (disk : Disk) :
    Except Failure Bytes :=
  match disk.lookup path with
  | none => .error (.store "ECO_ARTIFACT_UNAVAILABLE" "Artifact object is unavailable")
  | some .directory => .error (corrupt "Artifact object metadata is unsafe")
  | some (.file inode) => do
    require (disk.linkCount inode = 1) (corrupt "Artifact object metadata is unsafe")
    let bytes := disk.data inode
    require (prims.sha256 bytes = digest && (length.all fun n => (bytes.length : ℤ) = n))
      (corrupt "Artifact object verification failed")
    return bytes

def verifyObject (path : Path) (digest : Text) (length : Option ℤ) (disk : Disk) :
    Except Failure Unit := do
  let _ ← openVerified prims path digest length disk
  return ()

def baseName (path : Path) : Text := path.getLast?.getD []

def verifyItem (levelOne levelTwo : Path) (disk : Disk) (item : Path) :
    Except Failure Unit := do
  let digest := baseName item
  require (isHex 64 digest && digest.take 2 = baseName levelOne &&
      (digest.drop 2).take 2 = baseName levelTwo &&
      (match disk.lookup item with
        | some (.file _) => true
        | _ => false))
    (corrupt "Artifact object inventory is malformed")
  verifyObject prims item digest none disk

def verifyShard (disk : Disk) (path : Path) : Except Failure Unit :=
  require (isHex 2 (baseName path) && disk.lookup path = some .directory)
    (corrupt "Artifact object inventory is malformed")

def forEach {β : Type} (check : β → Except Failure Unit) : List β → Except Failure Unit
  | [] => .ok ()
  | b :: bs => do
    check b
    forEach check bs

def rootNames (disk : Disk) : List Text := (disk.children rootPath).map baseName

def verifyLocked (disk : Disk) : Except Failure Unit := do
  let expected := [metaName, lockName, objectsName, temporaryName]
  require ((rootNames disk).all (· ∈ expected) && expected.all (· ∈ rootNames disk))
    (corrupt "Artifact store inventory is unexpected")
  requirePrivateDirectory rootPath disk
  requirePrivateDirectory objectsPath disk
  requirePrivateDirectory temporaryPath disk
  forEach (fun levelOne => do
    verifyShard disk levelOne
    forEach (fun levelTwo => do
      verifyShard disk levelTwo
      forEach (verifyItem prims levelOne levelTwo disk) (disk.children levelTwo))
      (disk.children levelOne))
    (disk.children objectsPath)

/-! ## Opening -/

/-- One entry of `_collect_orphaned_temporary_locked`. -/
def collectTemp (path : Path) : DiskProg Unit :=
  change fun disk => do
    require (isTempName (baseName path)) (corrupt "Artifact temporary inventory is unsafe")
    match disk.lookup path with
    | some (.file inode) =>
      require (disk.linkCount inode = 1) (corrupt "Artifact temporary object is unsafe")
      osError (disk.unlink path)
    | _ => .error (corrupt "Artifact temporary inventory is unsafe")

def collectAll : List Path → DiskProg Unit
  | [] => pure ()
  | path :: paths => do
    collectTemp path
    collectAll paths

/-- `_collect_orphaned_temporary_locked`. -/
def collectTemps : DiskProg ℕ := do
  let paths ← inspect fun disk => .ok (disk.children temporaryPath)
  collectAll paths
  if paths = [] then pure 0
  else do
    sync
    return paths.length

def metadataPayload (storeId : Text) : MetaPayload where
  domain := lit "eco-artifact-store-meta-v1"
  version := 1
  storeId := storeId
  keyId := keyId

def metaDocument (storeId : Text) : MetaDocument where
  payload := metadataPayload keyId storeId
  hmac := prims.metadataHmac (metadataPayload keyId storeId)

/-- The part of `_load_or_create_metadata` that makes an identity. -/
def createMetadata : DiskProg Unit := do
  inspect fun disk =>
    require ((rootNames disk).all (· ∈ [lockName, objectsName, temporaryName]) &&
        disk.children objectsPath = [] && disk.children temporaryPath = [])
      (corrupt "Artifact store identity is missing")
  let storeId ← drawToken
  let temporary ← drawToken
  let inode ← createTemp temporary
  writeAll inode (prims.metaBytes (metaDocument prims keyId storeId.val))
  sync
  -- a name that is there already is as good
  let _ ← (tryLink temporary metaPath).andFinally (dropTemp temporary)
  sync
  sync

/-- The part of `_load_or_create_metadata` that reads the identity. -/
def loadMetadata (disk : Disk) : Except Failure Text :=
  let invalid := corrupt "Artifact store identity is invalid"
  match disk.lookup metaPath with
  | some (.file inode) => do
    require (disk.linkCount inode = 1) invalid
    let encoded := disk.data inode
    let document ← expect invalid (prims.parseMeta encoded)
    let payload := document.payload
    require (payload.domain = lit "eco-artifact-store-meta-v1" && payload.version = 1 &&
        payload.keyId = keyId && isHex 32 payload.storeId &&
        document.hmac = prims.metadataHmac payload &&
        encoded = prims.metaBytes document)
      (corrupt "Artifact store identity authentication failed")
    return payload.storeId
  | _ => .error invalid

/-- `_load_or_create_metadata`: the id of the store. -/
def loadOrCreateMetadata : DiskProg Text := do
  let there ← inspect fun disk => .ok (disk.lookup metaPath).isSome
  if there then inspect (loadMetadata prims keyId)
  else do
    createMetadata prims keyId
    inspect (loadMetadata prims keyId)

def prepareSteps : List (DiskProg Unit) :=
  [createPrivateDirectory rootPath, inspect (requirePrivateDirectory rootPath),
   createPrivateDirectory objectsPath,
   createPrivateDirectory temporaryPath,
   inspect (requirePrivateDirectory objectsPath),
   inspect (requirePrivateDirectory temporaryPath),
   openControlFile]

def inOrder : List (DiskProg Unit) → DiskProg Unit
  | [] => pure ()
  | step :: steps => do
    step
    inOrder steps

def openLocked : DiskProg Text := do
  let _ ← collectTemps
  let storeId ← loadOrCreateMetadata prims keyId
  inspect (verifyLocked prims)
  return storeId

/-- `ContentAddressedArtifactStore.__init__`, on a key and a root that are accepted. -/
def openStore : DiskProg Text := do
  inOrder prepareSteps
  openLocked prims keyId

/-! ## Putting -/

/-- The arguments of `put`: what the source yields, and whether it raises then. -/
structure PutRequest where
  chunks : List Bytes
  breaks : Bool
  storageRef : Option Text
  expectedSha256 : Option Text
  expectedByteLength : Option ℤ
  maxBytes : Option ℤ
  chunkSize : ℤ

def PutRequest.content (request : PutRequest) : Bytes := request.chunks.flatten

/-- The checks in front of `put`. -/
def PutRequest.check (request : PutRequest) : Except Failure Unit := do
  require (request.expectedSha256.all (isHex 64))
    (.value "expected_sha256 must be a lowercase SHA-256 digest")
  require (request.expectedByteLength.all (0 ≤ ·))
    (.value "expected_byte_length must be a non-negative integer")
  require (request.maxBytes.all (0 ≤ ·)) (.value "max_bytes must be a non-negative integer")
  require (0 < request.chunkSize) (.value "chunk_size must be a positive integer")
  require (request.storageRef.all isArtifactRef)
    (.value "storage_ref must be a safe artifact reference")

/-- The loop over the chunks, after `length` bytes. -/
def receive (inode : ℕ) (maxBytes : Option ℤ) : List Bytes → ℕ → DiskProg Unit
  | [], _ => pure ()
  | chunk :: chunks, length =>
    if maxBytes.any (· < ((length + chunk.length : ℕ) : ℤ)) then
      Prog.fail (.store "ECO_ARTIFACT_TOO_LARGE" "Artifact exceeds the approved byte limit")
    else do
      writeAll inode chunk
      receive inode maxBytes chunks (length + chunk.length)

def PutRequest.checkContent (request : PutRequest) : Except Failure Unit := do
  require (!request.breaks) .source
  require (request.expectedSha256.all (· = prims.sha256 request.content))
    (.store "ECO_ARTIFACT_DIGEST_MISMATCH" "Artifact content digest does not match")
  require (request.expectedByteLength.all (· = (request.content.length : ℤ)))
    (.store "ECO_ARTIFACT_SIZE_MISMATCH" "Artifact byte length does not match")

/-- The `try` block of `put`. -/
def install (request : PutRequest) (temporary : Token) (inode : ℕ) : DiskProg Unit := do
  receive inode request.maxBytes request.chunks 0
  Prog.ofExcept (request.checkContent prims)
  let digest := prims.sha256 request.content
  let final := objectPath digest
  sync
  createPrivateDirectory final.dropLast.dropLast
  createPrivateDirectory final.dropLast
  inspect (requirePrivateDirectory final.dropLast.dropLast)
  inspect (requirePrivateDirectory final.dropLast)
  let linked ← tryLink temporary final
  if linked then do
    sync
    sync
    sync
  else
    inspect (verifyObject prims final digest (some request.content.length))

def proofPayload (storeId storageRef digest : Text) (byteLength : ℤ) : ProofPayload where
  domain := lit "eco-artifact-availability-v1"
  version := 1
  storeId := storeId
  keyId := keyId
  storageRef := storageRef
  sha256 := digest
  byteLength := byteLength

def makeProof (storeId storageRef digest : Text) (byteLength : ℤ) : Proof where
  storageRef := storageRef
  sha256 := digest
  byteLength := byteLength
  keyId := keyId
  token := prims.proofHmac (proofPayload keyId storeId storageRef digest byteLength)

def defaultRef (digest : Text) : Text := lit "artifact://sha256/" ++ digest

/-- `put`, under the lock. -/
def putLocked (storeId : Text) (request : PutRequest) : DiskProg Proof := do
  let temporary ← drawToken
  let inode ← createTemp temporary
  (install prims request temporary inode).andFinally (do
    dropTemp temporary
    sync)
  let digest := prims.sha256 request.content
  inspect (verifyObject prims (objectPath digest) digest (some request.content.length))
  return makeProof prims keyId storeId (request.storageRef.getD (defaultRef digest)) digest
    request.content.length

/-- `put`, by a handle with the id of the store. -/
def put (storeId : Text) (request : PutRequest) : DiskProg Proof := do
  Prog.ofExcept request.check
  putLocked prims keyId storeId request

/-! ## Reading -/

def requireProof (storeId : Text) (proof : Proof) : Except Failure Unit := do
  require (isArtifactRef proof.storageRef && isHex 64 proof.sha256 &&
      decide (0 ≤ proof.byteLength) && proof.keyId = keyId && isHex 64 proof.token)
    (.store "ECO_ARTIFACT_PROOF_INVALID" "Artifact availability proof is invalid")
  let payload := proofPayload keyId storeId proof.storageRef proof.sha256 proof.byteLength
  require (prims.proofHmac payload = proof.token)
    (.store "ECO_ARTIFACT_PROOF_INVALID" "Artifact availability proof authentication failed")

/-- `open_verified`: what the stream holds. -/
def readProof (storeId : Text) (proof : Proof) (disk : Disk) : Except Failure Bytes := do
  requireProof prims keyId storeId proof
  openVerified prims (objectPath proof.sha256) proof.sha256 (some proof.byteLength) disk

def verifyAvailability (storeId : Text) (proof : Proof) (disk : Disk) :
    Except Failure Unit := do
  let _ ← readProof prims keyId storeId proof disk
  return ()

/-- `proof_for_record`, of metadata that is authenticated already. -/
def proofForRecord (storeId storageRef digest : Text) (byteLength : ℤ) (disk : Disk) :
    Except Failure Proof := do
  require (isArtifactRef storageRef)
    (.store "ECO_ARTIFACT_PROOF_INVALID" "Artifact reference is invalid")
  require (isHex 64 digest)
    (.store "ECO_ARTIFACT_DIGEST_INVALID" "Artifact digest is invalid")
  require (0 ≤ byteLength) (.store "ECO_ARTIFACT_PROOF_INVALID" "Artifact length is invalid")
  verifyObject prims (objectPath digest) digest (some byteLength) disk
  return makeProof prims keyId storeId storageRef digest byteLength

end Store

end Ecosystem.Artifacts
