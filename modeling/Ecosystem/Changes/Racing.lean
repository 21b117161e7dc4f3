import Ecosystem.Changes.Documents
import Ecosystem.Lib.Calls
import Ecosystem.Lib.Utf8

/-!
# The write broker beside another process

`apply` and `rollback` of `LinuxWorkspaceWriteBroker` over a directory in which another
process replaces or edits the target at one `Moment`.  Files have bytes, mode, identity
and link count; the renames and `unlink` are atomic.

Two records that the broker does not read: what the others have last left under the
target name, and which files have lost their last name by `unlink`.
-/

namespace Ecosystem.Changes.Racing

open Ecosystem.Lib

/-! ## Files -/

/-- A regular file.  Its identity is the one of device and inode. -/
structure Node where
  bytes : List UInt8
  mode : ℕ
  identity : ℕ
  links : ℕ

/-- What a name stands for: a regular file, or something that the broker refuses with a
code as soon as it opens it. -/
inductive Item
  | regular (node : Node)
  | refused (code : String)

def secondByteOk (a b : UInt8) : Bool :=
  if a = 0xE0 then 0xA0 ≤ b && b ≤ 0xBF
  else if a = 0xED then 0x80 ≤ b && b ≤ 0x9F
  else if a = 0xF0 then 0x90 ≤ b && b ≤ 0xBF
  else if a = 0xF4 then 0x80 ≤ b && b ≤ 0x8F
  else 0x80 ≤ b && b ≤ 0xBF

/-- The beginning of a sequence of UTF-8. -/
def sequenceStart : List UInt8 → Bool
  | [] => true
  | [a] => 0xC2 ≤ a && a ≤ 0xF4
  | [a, b] => 0xE0 ≤ a && a ≤ 0xF4 && secondByteOk a b
  | [a, b, c] => 0xF0 ≤ a && a ≤ 0xF4 && secondByteOk a b && 0x80 ≤ c && c ≤ 0xBF
  | _ => false

/-- The incremental decoder accepts the bytes so far: a text and the start of a sequence. -/
def decodesSoFar (bytes : List UInt8) : Bool :=
  (List.range 4).any fun n =>
    (readUtf8 (bytes.take (bytes.length - n))).isSome &&
      sequenceStart (bytes.drop (bytes.length - n))

/-- The loop over the chunks, with the bytes before the chunk. -/
def scanChunks : List UInt8 → List (List UInt8) → Option String
  | seen, [] => if (readUtf8 seen).isSome then none else some "ECO_TEXT_ENCODING"
  | seen, chunk :: chunks =>
    if 0 ∈ chunk then some "ECO_BINARY_FILE"
    else if !decodesSoFar (seen ++ chunk) then some "ECO_TEXT_ENCODING"
    else scanChunks (seen ++ chunk) chunks

def contentFault (bytes : List UInt8) : Option String :=
  scanChunks [] (bytes.toChunks 65536)

/-- What the broker is built with: the limit, the digest, what the artifact store holds
under a proof, and the proof that it gives for bytes that it takes. -/
structure Settings where
  maximumFileBytes : ℕ
  sha256 : List UInt8 → String
  stored : ArtifactProof → Option (List UInt8)
  put : List UInt8 → Option ArtifactProof

section Files

variable (cfg : Settings)

def fileOf (node : Node) : File :=
  ⟨cfg.sha256 node.bytes, node.bytes.length, node.mode⟩

/-- The opening of a name and `_read_file_state`. -/
def readFileState : Item → Except String (File × Node)
  | .refused code => .error code
  | .regular node =>
    if node.links ≠ 1 then .error "ECO_HARDLINK_DENIED"
    else if cfg.maximumFileBytes < node.bytes.length then .error "ECO_FILE_TOO_LARGE"
    else match contentFault node.bytes with
      | some code => .error code
      | none => .ok (fileOf cfg node, node)

end Files

/-! ## The workspace -/

/-- The steps in front of which the other process may act. -/
inductive Moment
  | observe | capture | ready | create | copy | owned | revalidate | authority | rename
  | inspect | takeBack | unlink | verify | cleanup
deriving DecidableEq

structure Names where
  target : String
  temporary : String
  distinct : target ≠ temporary

structure Workspace where
  files : String → Option Item
  /-- what the other process is going to do, and when -/
  edit : Option (Moment × Item)
  /-- what the others have last left under the target name -/
  left : Option Item
  /-- what `unlink` has removed -/
  removed : List Item

/-- A `BrokerError`, what a hook raises, or an `OSError`. -/
inductive Failure
  | broker (code : String)
  | hook
  | os
deriving DecidableEq

abbrev Call (α : Type) := EStateM Failure Workspace α

def setFile (files : String → Option Item) (name : String) (item : Option Item) :
    String → Option Item :=
  fun other => if other = name then item else files other

section Steps

variable (cfg : Settings) (names : Names)

/-- The other process acts, when this is its moment. -/
def Workspace.pass (moment : Moment) (ws : Workspace) : Workspace :=
  match ws.edit with
  | some (m, item) =>
    if m = moment then
      { ws with
        files := setFile ws.files names.target (some item)
        edit := none
        left := some item }
    else ws
  | none => ws

def arrive (moment : Moment) : Call Unit :=
  modify (Workspace.pass names moment)

def observe (name : String) : Call (Option (File × Node)) := do
  let ws ← get
  match ws.files name with
  | none => return none
  | some item =>
    match readFileState cfg item with
    | .error code => throw (.broker code)
    | .ok observed => return some observed

def check (ok : Bool) (code : String) : Call Unit :=
  if ok then return () else throw (.broker code)

def runHook (raises : Bool) : Call Unit :=
  if raises then throw .hook else return ()

def sameIdentity (a b : Node) : Bool :=
  a.identity = b.identity && a.mode = b.mode

def unlink (name : String) : Call Unit := do
  let ws ← get
  match ws.files name with
  | none => throw .os
  | some item =>
    set { ws with files := setFile ws.files name none, removed := ws.removed ++ [item] }

/-- `_renameat2` with `RENAME_NOREPLACE`. -/
def renameNoReplace (source target : String) : Call Unit := do
  let ws ← get
  match ws.files source, ws.files target with
  | some item, none =>
    set { ws with files := setFile (setFile ws.files source none) target (some item) }
  | _, _ => throw (.broker "ECO_EXPECTED_BEFORE_MISMATCH")

/-- `_renameat2` with `RENAME_EXCHANGE`. -/
def renameExchange (source target : String) : Call Unit := do
  let ws ← get
  match ws.files source, ws.files target with
  | some item, some old =>
    set { ws with
      files := setFile (setFile ws.files source (some old)) target (some item) }
  | _, _ => throw (.broker "ECO_EXPECTED_BEFORE_MISMATCH")

/-! ## Copies -/

/-- The bytes that the open descriptor of a file reads: those of the file as it is now,
when it still stands under the target name, and else those that it had. -/
def descriptorBytes (ws : Workspace) (node : Node) : List UInt8 :=
  match ws.files names.target with
  | some (.regular now) => if now.identity = node.identity then now.bytes else node.bytes
  | _ => node.bytes

def persistBefore (expected : File) (node : Node) : Call ArtifactProof := do
  arrive names .capture
  let ws ← get
  let bytes := descriptorBytes names ws node
  check (cfg.sha256 bytes = expected.sha256 && bytes.length = expected.byteLength)
    "ECO_ROLLBACK_ARTIFACT_FAILED"
  match cfg.put bytes with
  | none => throw (.broker "ECO_ROLLBACK_ARTIFACT_FAILED")
  | some proof => return proof

def newTemp (inode : ℕ) : Call Unit := do
  arrive names .create
  let ws ← get
  match ws.files names.temporary with
  | some _ => throw (.broker "ECO_TEMP_CREATE_FAILED")
  | none =>
    set { ws with
      files := setFile ws.files names.temporary (some (.regular ⟨[], 0o600, inode, 1⟩)) }

def fillTemp (proof : ArtifactProof) (mode inode : ℕ) : Call Node := do
  arrive names .copy
  match cfg.stored proof with
  | none => throw (.broker "ECO_CANDIDATE_UNAVAILABLE")
  | some bytes => do
    check (bytes.length ≤ cfg.maximumFileBytes) "ECO_FILE_TOO_LARGE"
    match contentFault bytes with
    | some code => throw (.broker code)
    | none => do
      check (bytes.length = proof.byteLength && cfg.sha256 bytes = proof.sha256)
        "ECO_CANDIDATE_MISMATCH"
      let node : Node := ⟨bytes, mode, inode, 1⟩
      modify fun ws =>
        { ws with files := setFile ws.files names.temporary (some (.regular node)) }
      return node

/-- `os.unlink` on the way out, which ignores that there is nothing to remove. -/
def dropTemp : Call Unit := do
  arrive names .cleanup
  unlink names.temporary

def copyCandidateToTemp (proof : ArtifactProof) (mode inode : ℕ) : Call Node := do
  check (proof.byteLength ≤ cfg.maximumFileBytes) "ECO_FILE_TOO_LARGE"
  newTemp names inode
  onError (fillTemp cfg names proof mode inode) (dropTemp names)

def verifyOwnedTemp (node : Node) : Call Unit := do
  arrive names .owned
  let observed ← observe cfg names.temporary
  check (observed.any fun o => sameIdentity o.2 node) "ECO_TEMP_CHANGED"

/-! ## Apply -/

/-- The arguments of `apply`; the hooks are told by whether they raise, the temporary by
the inode that the kernel gives to it. -/
structure ApplyCall where
  operation : WriteOperation
  candidate : ArtifactProof
  mode : ℕ
  inode : ℕ
  readyRaises : Bool := false
  authorityRaises : Bool := false

def ApplyCall.after (call : ApplyCall) : File :=
  ⟨call.candidate.sha256, call.candidate.byteLength, call.mode⟩

def requireExpected (actual : Option (File × Node)) (expected : FileState) : Call Unit :=
  check (actual.map (·.1) = expected) "ECO_EXPECTED_BEFORE_MISMATCH"

def revalidate (expected : FileState) (initial : Option (File × Node)) : Call Unit := do
  arrive names .revalidate
  let current ← observe cfg names.target
  requireExpected current expected
  match initial, current with
  | none, none => return ()
  | none, some _ => throw (.broker "ECO_EXPECTED_BEFORE_MISMATCH")
  | some _, none => throw (.broker "ECO_FILE_CHANGED")
  | some first, some second => check (sameIdentity first.2 second.2) "ECO_FILE_CHANGED"

def isDisplaced (expected : File) (initial found : Option (File × Node)) : Bool :=
  found.any fun o => o.1 = expected && initial.any fun first => sameIdentity first.2 o.2

/-- The check of what a rename has brought out: it is removed when it is what it should
be, and else the rename is taken back. -/
def settle (expected : File) (initial : Option (File × Node)) (back : Call Unit)
    (code : String) : Call Unit := do
  arrive names .inspect
  let found ← observe cfg names.temporary
  if isDisplaced expected initial found then do
    arrive names .unlink
    unlink names.temporary
  else do
    arrive names .takeBack
    back
    throw (.broker code)

/-- The rename of `apply` and the check of what it has brought out. -/
def install (operation : WriteOperation) (initial : Option (File × Node)) : Call Unit := do
  arrive names .rename
  match operation with
  | .create => renameNoReplace names.temporary names.target
  | .replace expected => do
    renameExchange names.temporary names.target
    settle cfg names expected initial (renameExchange names.temporary names.target)
      "ECO_FILE_CHANGED"

/-- `apply` from the temporary to the rename. -/
def commit (call : ApplyCall) (initial : Option (File × Node)) (node : Node) :
    Call Unit := do
  verifyOwnedTemp cfg names node
  revalidate cfg names call.operation.before initial
  arrive names .authority
  runHook call.authorityRaises
  install cfg names call.operation initial

def verifyTarget (ok : Option (File × Node) → Bool) (code : String) : Call Unit := do
  arrive names .verify
  let found ← observe cfg names.target
  check (ok found) code

/-- `apply`, which answers with the proof of the captured bytes. -/
def apply (call : ApplyCall) : Call (Option ArtifactProof) := do
  check (call.operation.before.all (·.byteLength ≤ cfg.maximumFileBytes))
    "ECO_FILE_TOO_LARGE"
  arrive names .observe
  let initial ← observe cfg names.target
  requireExpected initial call.operation.before
  let proof ← initial.mapM fun first => persistBefore cfg names first.1 first.2
  arrive names .ready
  runHook call.readyRaises
  let node ← copyCandidateToTemp cfg names call.candidate call.mode call.inode
  onError (commit cfg names call initial node) (dropTemp names)
  verifyTarget cfg names
    (fun found => found.any fun o => o.1 = call.after && sameIdentity node o.2)
    "ECO_WRITE_VERIFY_FAILED"
  return proof

/-! ## Rollback -/

/-- The receipt of a write, with the inode that the kernel gives to the temporary and
whether the hook raises. -/
structure RollbackCall where
  operation : WriteOperation
  after : File
  candidate : ArtifactProof
  rollbackProof : Option ArtifactProof
  inode : ℕ
  authorityRaises : Bool := false

/-- `_validate_receipt`, the check of the candidate and `_verify_rollback_proof`. -/
def validateReceipt (call : RollbackCall) : Call Unit := do
  check (call.operation.before.isNone = call.rollbackProof.isNone)
    "ECO_ROLLBACK_REQUEST_INVALID"
  check (call.candidate.sha256 = call.after.sha256 &&
    call.candidate.byteLength = call.after.byteLength) "ECO_ROLLBACK_REQUEST_INVALID"
  match call.operation, call.rollbackProof with
  | .replace before, some proof => do
    check (proof.sha256 = before.sha256 && proof.byteLength = before.byteLength)
      "ECO_ROLLBACK_PROOF_INVALID"
    check (cfg.stored proof).isSome "ECO_ROLLBACK_PROOF_INVALID"
  | _, _ => return ()

def removeCreated (call : RollbackCall) (current : Option (File × Node)) : Call Unit := do
  arrive names .authority
  runHook call.authorityRaises
  arrive names .rename
  renameNoReplace names.target names.temporary
  settle cfg names call.after current (renameNoReplace names.temporary names.target)
    "ECO_ROLLBACK_CONFLICT"

def restoreBefore (call : RollbackCall) (current : Option (File × Node)) : Call Unit := do
  arrive names .revalidate
  let latest ← observe cfg names.target
  check (isDisplaced call.after current latest) "ECO_ROLLBACK_CONFLICT"
  arrive names .authority
  runHook call.authorityRaises
  arrive names .rename
  renameExchange names.temporary names.target
  settle cfg names call.after current (renameExchange names.temporary names.target)
    "ECO_ROLLBACK_CONFLICT"

/-- The compensation of `rollback` on a target that is the applied one. -/
def compensate (call : RollbackCall) (current : Option (File × Node)) : Call Unit :=
  match call.operation, call.rollbackProof with
  | .replace before, some proof => do
    let _ ← copyCandidateToTemp cfg names proof before.mode call.inode
    onError (restoreBefore cfg names call current) (dropTemp names)
  | _, _ => onError (removeCreated cfg names call current) (dropTemp names)

/-- `rollback`, which answers whether it has changed the file. -/
def rollback (call : RollbackCall) : Call Bool := do
  validateReceipt cfg call
  arrive names .observe
  let current ← observe cfg names.target
  if current.map (·.1) = call.operation.before then return false
  else do
    check (current.map (·.1) = some call.after) "ECO_ROLLBACK_CONFLICT"
    compensate cfg names call current
    verifyTarget cfg names (fun found => found.map (·.1) = call.operation.before)
      "ECO_ROLLBACK_VERIFY_FAILED"
    return true

end Steps

end Ecosystem.Changes.Racing
