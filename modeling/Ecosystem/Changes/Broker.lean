import Ecosystem.Changes.Documents
import Ecosystem.Lib.Program

/-!
# The workspace write broker

`LinuxWorkspaceWriteBroker` as programs over the workspace: a step is a call into the
file system, a store, the authority or a hook, may be the last one before a crash, and
meets a `Circumstance`.

Temporaries are kept apart from the targets.  Inode numbers are left out: they matter
only beside an editor, and what the broker then raises is one of the faults.
-/

namespace Ecosystem.Changes

open Ecosystem.Lib
open Ecosystem.Runtime (RunState)

/-! ## The world -/

/-- What a name stands for: a regular file with one link, or something that the
broker refuses with a code. -/
inductive Entry
  | regular (file : File)
  | other (code : String)
deriving DecidableEq

inductive Failure
  | broker (code message : String)
  | store (error : StoreError)
  | other
deriving DecidableEq

/-- The row of a run as far as a write reads it. -/
structure RunStatus where
  state : RunState
  activePlanDigest : Option String
deriving DecidableEq

inductive Event
  | authorized (operationId : String) (row : OperationRow) (run : RunStatus)
      (now : Instant)
  | landed (path : String) (entry : Entry)
  | restored (path : String) (entry : Option Entry)
  /-- What the validator answered: `none` without a validator, `some none` when it
  raised. -/
  | judged (operationId : String) (verdict : Option (Option Bool))
deriving DecidableEq

/-- `accepted` of `execute`. -/
def accepts : Option (Option Bool) → Bool
  | none => true
  | some verdict => verdict = some true

structure World where
  db : Db := {}
  files : String → Option Entry := fun _ => none
  temporaries : String × String → Option Entry := fun _ => none
  /-- The code with which the broker refuses a path or cannot open its directory. -/
  refusal : String → Option String := fun _ => none
  bundles : RecoveryArtifact → Option RecoveryBundle := fun _ => none
  trace : List Event := []

structure Circumstance where
  fault : Option Failure := none
  now : Instant
  run : RunStatus
  /-- The answer of the validator; `none` when it raises. -/
  verdict : Option Bool := some true
  /-- The policy engine confirms the decision. -/
  trusted : Bool := true
  /-- What an interrupted copy leaves behind. -/
  draft : File := ⟨"", 0, 0o600⟩
  /-- A temporary is unlinked when a call is abandoned. -/
  dropped : Bool := true
  transactionId : String := ""
  secret : String := ""

abbrev WriteProg := Prog Circumstance World Failure

/-! ## Steps -/

/-- A step that raises what the circumstances say, or else does its work. -/
def attempt {α : Type} (f : Circumstance → World → Except Failure α × World) :
    WriteProg α :=
  .act fun c w => match c.fault with
    | some e => (.error e, w)
    | none => f c w

def inspect {α : Type} (f : Circumstance → World → Except Failure α) : WriteProg α :=
  attempt fun c w => (f c w, w)

def perform (f : Circumstance → World → Except Failure World) : WriteProg Unit :=
  attempt fun c w => match f c w with
    | .ok w' => (.ok (), w')
    | .error e => (.error e, w)

/-- A step that only may raise: `_phase`, `fsync`, the composition of a record. -/
def phase : WriteProg Unit := inspect fun _ _ => .ok ()

def check (ok : Bool) (e : Failure) : WriteProg Unit :=
  if ok then pure () else .fail e

/-- The directory of a path: what stands before the last slash, or the root. -/
def parentOf (path : String) : String :=
  if '/' ∈ path.toList then
    String.ofList ((path.toList.reverse.dropWhile (· ≠ '/')).drop 1).reverse
  else "."

abbrev TemporaryKey := String × String

def World.setFile (w : World) (path : String) (entry : Option Entry) : World :=
  { w with files := fun p => if p = path then entry else w.files p }

def World.setTemporary (w : World) (key : TemporaryKey) (entry : Option Entry) : World :=
  { w with temporaries := fun k => if k = key then entry else w.temporaries k }

def World.record (w : World) (event : Event) : World :=
  { w with trace := w.trace ++ [event] }

section Broker

variable (cfg : WriteConfig)

/-- `_validate_path` and `_open_parent`. -/
def openParent (path : String) : WriteProg Unit :=
  inspect fun _ w => match w.refusal path with
    | some code => .error (.broker code "Workspace path is refused")
    | none => .ok ()

def assertParentStable (path : String) : WriteProg Unit := openParent path

def readFileState : Option Entry → Except Failure FileState
  | none => .ok none
  | some (.other code) => .error (.broker code "Workspace target is refused")
  | some (.regular file) =>
    if cfg.maximumFileBytes < file.byteLength then
      .error (.broker "ECO_FILE_TOO_LARGE" "Workspace file exceeds the write limit")
    else match cfg.contentFault file.sha256 with
      | some code => .error (.broker code "Workspace file is no UTF-8 text")
      | none => .ok (some file)

/-- `_observe` of a target. -/
def observeTarget (path : String) : WriteProg FileState :=
  inspect fun _ w => readFileState cfg (w.files path)

/-- `_observe` of a temporary. -/
def observeTemporary (key : TemporaryKey) : WriteProg FileState :=
  inspect fun _ w => readFileState cfg (w.temporaries key)

def requireExpected (actual expected : FileState) : WriteProg Unit :=
  check (actual = expected)
    (.broker "ECO_EXPECTED_BEFORE_MISMATCH"
      "Workspace target differs from expected before state")

/-- `verify_availability`: the proof is authentic, and its object is there.  The
broker raises an error of its own when it is not. -/
def verifyAvailability (proof : ArtifactProof) (e : Failure) : WriteProg Unit :=
  inspect fun _ _ =>
    if proof = cfg.makeProof proof.storageRef proof.sha256 proof.byteLength then .ok ()
    else .error e

def persistBefore : FileState → WriteProg (Option ArtifactProof)
  | none => pure none
  | some file => do
    phase
    return some (cfg.makeProof ("artifact://sha256/" ++ file.sha256) file.sha256
      file.byteLength)

/-! ## Temporaries -/

/-- `_new_temp`, with what the first writes leave in it. -/
def newTemp (key : TemporaryKey) : WriteProg Unit :=
  perform fun c w => match w.temporaries key with
    | some _ => .error (.broker "ECO_TEMP_CREATE_FAILED"
        "Authorized workspace temp name already exists")
    | none => .ok (w.setTemporary key (some (.regular c.draft)))

/-- `os.unlink` on the way out, whose failure is ignored. -/
def dropTemp (key : TemporaryKey) : WriteProg Unit :=
  .act fun c w => (.ok (), if c.dropped then w.setTemporary key none else w)

/-- `os.unlink`. -/
def unlinkTemp (key : TemporaryKey) : WriteProg Unit :=
  perform fun _ w => match w.temporaries key with
    | none => .error .other
    | some _ => .ok (w.setTemporary key none)

/-- The last write of a copy, with `fchmod` and `fsync`. -/
def fillTemp (key : TemporaryKey) (file : File) : WriteProg Unit :=
  perform fun _ w => match cfg.contentFault file.sha256 with
    | some code => .error (.broker code "Candidate is no UTF-8 text")
    | none => .ok (w.setTemporary key (some (.regular file)))

def copyCandidateToTemp (key : TemporaryKey) (proof : ArtifactProof) (mode : ℕ) :
    WriteProg Unit := do
  check (proof.byteLength ≤ cfg.maximumFileBytes)
    (.broker "ECO_FILE_TOO_LARGE" "Candidate exceeds the write limit")
  newTemp key
  Prog.onFail
    (do verifyAvailability cfg proof
          (.broker "ECO_CANDIDATE_UNAVAILABLE" "Candidate proof is unavailable")
        fillTemp cfg key ⟨proof.sha256, proof.byteLength, mode⟩
        phase)
    (dropTemp key)

/-! ## Renames -/

def renameFailed : Failure :=
  .broker "ECO_EXPECTED_BEFORE_MISMATCH" "Atomic workspace update failed"

/-- `_renameat2` of a temporary to an absent target. -/
def renameToTarget (key : TemporaryKey) (path : String) (event : Entry → Event) :
    WriteProg Unit :=
  perform fun _ w => match w.temporaries key, w.files path with
    | some entry, none =>
      .ok (((w.setTemporary key none).setFile path (some entry)).record (event entry))
    | _, _ => .error renameFailed

/-- `_renameat2` of a target to an absent temporary. -/
def renameToTemp (key : TemporaryKey) (path : String) : WriteProg Unit :=
  perform fun _ w => match w.temporaries key, w.files path with
    | none, some entry =>
      .ok (((w.setFile path none).setTemporary key (some entry)).record
        (.restored path none))
    | _, _ => .error renameFailed

/-- `_renameat2` that exchanges a temporary and a target. -/
def exchange (key : TemporaryKey) (path : String) (event : Entry → Event) :
    WriteProg Unit :=
  perform fun _ w => match w.temporaries key, w.files path with
    | some entry, some old =>
      .ok (((w.setTemporary key (some old)).setFile path (some entry)).record
        (event entry))
    | _, _ => .error renameFailed

/-- An exchange has brought out another file than it should, so it is taken back. -/
def takeBack (key : TemporaryKey) (path : String) (e : Failure) : WriteProg Unit := do
  exchange key path fun entry => .restored path (some entry)
  phase
  .fail e

/-! ## Apply -/

structure ApplyRequest where
  path : String
  operation : WriteOperation
  candidate : ArtifactProof
  mode : ℕ
  temporaryName : String

def ApplyRequest.key (request : ApplyRequest) : TemporaryKey :=
  (parentOf request.path, request.temporaryName)

def ApplyRequest.after (request : ApplyRequest) : File :=
  ⟨request.candidate.sha256, request.candidate.byteLength, request.mode⟩

/-- `WorkspaceWriteResult`. -/
structure WriteResult where
  path : String
  operation : WriteOperation
  after : File
  candidate : ArtifactProof
  rollbackProof : Option ArtifactProof

/-- The rename of `apply`, with the check of the file that it brings out. -/
def installTemp (request : ApplyRequest) : WriteProg Unit :=
  match request.operation with
  | .create => renameToTarget request.key request.path (.landed request.path)
  | .replace before => do
    exchange request.key request.path (.landed request.path)
    let exchanged ← observeTemporary cfg request.key
    if exchanged = some before then unlinkTemp request.key
    else
      takeBack request.key request.path
        (.broker "ECO_FILE_CHANGED" "Workspace target raced the atomic replace")

/-- `apply` from the candidate in its temporary to the rename. -/
def commitTemp (request : ApplyRequest) (commitAuthority : WriteProg Unit) :
    WriteProg Unit := do
  assertParentStable request.path
  let owned ← observeTemporary cfg request.key
  check (owned ≠ none)
    (.broker "ECO_TEMP_CHANGED" "Workspace temp identity changed")
  let current ← observeTarget cfg request.path
  requireExpected current request.operation.before
  phase
  commitAuthority
  installTemp cfg request

def apply (request : ApplyRequest)
    (rollbackReady : Option ArtifactProof → WriteProg Unit)
    (commitAuthority : WriteProg Unit) : WriteProg WriteResult := do
  check (request.operation.before.all (·.byteLength ≤ cfg.maximumFileBytes))
    (.broker "ECO_FILE_TOO_LARGE" "Expected before file exceeds the write limit")
  openParent request.path
  let initial ← observeTarget cfg request.path
  requireExpected initial request.operation.before
  phase
  let rollbackProof ← persistBefore cfg initial
  rollbackReady rollbackProof
  phase
  copyCandidateToTemp cfg request.key request.candidate request.mode
  (commitTemp cfg request commitAuthority).onFail (dropTemp request.key)
  phase
  phase
  let applied ← observeTarget cfg request.path
  check (applied = some request.after)
    (.broker "ECO_WRITE_VERIFY_FAILED" "Applied file failed verification")
  return {
    path := request.path
    operation := request.operation
    after := request.after
    candidate := request.candidate
    rollbackProof := rollbackProof }

/-! ## Observation and cleanup -/

def observe (path : String) : WriteProg FileState := do
  openParent path
  let observed ← observeTarget cfg path
  assertParentStable path
  return observed

def cleanupTemporary (path temporaryName : String) : WriteProg Bool := do
  openParent path
  let found ← inspect fun _ w => .ok (w.temporaries (parentOf path, temporaryName))
  match found with
  | none => return false
  | some (.other _) =>
    .fail (.broker "ECO_TEMP_CHANGED" "Recovery temp metadata is unsafe")
  | some (.regular _) => do
    assertParentStable path
    unlinkTemp (parentOf path, temporaryName)
    phase
    assertParentStable path
    return true

/-! ## Rollback -/

structure RollbackResult where
  path : String
  state : FileState
  changed : Bool

def rollbackRaced : Failure :=
  .broker "ECO_ROLLBACK_CONFLICT" "Workspace target raced rollback"

/-- `_verify_rollback_proof`, with `_validate_receipt` before it. -/
def verifyRollbackProof (receipt : WriteResult) : WriteProg Unit :=
  match receipt.operation, receipt.rollbackProof with
  | .create, none => pure ()
  | .replace before, some proof => do
    check (proof.sha256 = before.sha256 && proof.byteLength = before.byteLength)
      (.broker "ECO_ROLLBACK_PROOF_INVALID" "Rollback proof does not match receipt")
    verifyAvailability cfg proof
      (.broker "ECO_ROLLBACK_PROOF_INVALID" "Rollback proof is unavailable")
  | .create, some _ =>
    .fail (.broker "ECO_ROLLBACK_REQUEST_INVALID" "Create receipt is invalid")
  | .replace _, none =>
    .fail (.broker "ECO_ROLLBACK_REQUEST_INVALID" "Replace receipt is invalid")

def removeCreated (key : TemporaryKey) (path : String) (after : File)
    (commitAuthority : WriteProg Unit) : WriteProg Unit := do
  commitAuthority
  renameToTemp key path
  phase
  let moved ← observeTemporary cfg key
  if moved = some after then unlinkTemp key
  else do
    renameToTarget key path fun entry => .restored path (some entry)
    phase
    .fail rollbackRaced

def restoreBefore (key : TemporaryKey) (path : String) (after : File)
    (commitAuthority : WriteProg Unit) : WriteProg Unit := do
  assertParentStable path
  let latest ← observeTarget cfg path
  check (latest = some after) rollbackRaced
  commitAuthority
  exchange key path fun entry => .restored path (some entry)
  phase
  let exchanged ← observeTemporary cfg key
  if exchanged = some after then unlinkTemp key
  else takeBack key path rollbackRaced

/-- The compensation of `rollback` on a target that is the applied one. -/
def compensate (receipt : WriteResult) (temporaryName : String)
    (commitAuthority : WriteProg Unit) : WriteProg Unit :=
  let key := (parentOf receipt.path, temporaryName)
  match receipt.operation, receipt.rollbackProof with
  | .replace before, some proof => do
    copyCandidateToTemp cfg key proof before.mode
    (restoreBefore cfg key receipt.path receipt.after commitAuthority).onFail
      (dropTemp key)
  | _, _ =>
    (removeCreated cfg key receipt.path receipt.after commitAuthority).onFail
      (dropTemp key)

def rollback (receipt : WriteResult) (temporaryName : String)
    (commitAuthority : WriteProg Unit) : WriteProg RollbackResult := do
  verifyRollbackProof cfg receipt
  openParent receipt.path
  let current ← observeTarget cfg receipt.path
  if current = receipt.operation.before then
    return ⟨receipt.path, receipt.operation.before, false⟩
  check (current = some receipt.after)
    (.broker "ECO_ROLLBACK_CONFLICT"
      "Workspace target changed after the applied write")
  assertParentStable receipt.path
  compensate cfg receipt temporaryName commitAuthority
  phase
  let restored ← observeTarget cfg receipt.path
  check (restored = receipt.operation.before)
    (.broker "ECO_ROLLBACK_VERIFY_FAILED" "Before state was not restored")
  return ⟨receipt.path, receipt.operation.before, true⟩

end Broker

end Ecosystem.Changes
