import Ecosystem.Lib.Json
import Ecosystem.Store.Records

/-!
# External audit anchors

`persistence.py` publishes the head of the audit log of a store: an anchor is a JSON
record of the store, the sequence number and entry hash of the head, with the digest of
the anchor before it and an HMAC tag.

An anchor is a text that has to be the canonical spelling of its value.  Of the database
the identity and the entry hashes are kept.
-/

namespace Ecosystem.Persistence

open Ecosystem.Lib
open Ecosystem.Store (Instant)

/-! ## Errors and patterns -/

/-- `RuntimeStoreError`; a number that SQLite cannot hold raises `OverflowError`. -/
inductive Failure
  | store (code message : String)
  | overflow

def recordInvalid (message : String) : Failure :=
  .store "ECO_PERSISTENCE_RECORD_INVALID" message

def databaseMismatch (message : String) : Failure :=
  .store "ECO_ANCHOR_DATABASE_MISMATCH" message

def chainInvalid (message : String) : Failure :=
  .store "ECO_ANCHOR_CHAIN_INVALID" message

def isLowerHex (c : Char) : Bool :=
  c.isDigit || ('a' ≤ c && c ≤ 'f')

/-- `HEX_DIGEST_RE`. -/
def isHexDigest (s : String) : Bool :=
  s.toList.length = 64 && s.toList.all isLowerHex

/-- `KEY_ID_RE`. -/
def isKeyId (s : String) : Bool :=
  match s.toList with
  | [] => false
  | c :: cs => c.isAlphanum && cs.length ≤ 127 &&
      cs.all fun c => c.isAlphanum || c ∈ ['.', '_', ':', '-']

def byteLength (s : String) : ℕ := (s.toList.map Char.utf8Size).sum

def genesisDigest : String := String.ofList (List.replicate 64 '0')

def storeApplicationId : ℤ := 0x45434F31

def storeSchemaVersion : ℤ := 4

def maxAnchorBytes : ℕ := 64 * 1024

def anchorProtocol : String := "eco-external-audit-anchor-v1"

def authenticationDomain : String := "eco-persistence-authentication-v1"

/-! ## Surroundings -/

/-- What comes from the standard library: floats and their spelling, HMAC and SHA-256 in
hexadecimal, and the text of an instant in UTC. -/
structure Primitives (Φ : Type) where
  floats : FloatText Φ
  /-- Python compares a float with an integer by value. -/
  floatEqInt : Φ → ℤ → Bool
  hmac : String → String → String
  hmac_hex : ∀ key message, isHexDigest (hmac key message) = true
  sha256 : String → String
  sha256_hex : ∀ text, isHexDigest (sha256 text) = true
  /-- `_utc`. -/
  utc : Instant → String
  /-- `datetime.fromisoformat` and the conversion to UTC of `_parse_utc`. -/
  parseUtc : String → Option Instant
  parseUtc_utc : ∀ t, parseUtc (utc t) = some t
  utc_length : ∀ t, (utc t).toList.length ≤ 32

structure HmacKeyring where
  keys : List (String × String)
  activeKeyId : String
  activeKey : String
  ids : ∀ entry ∈ keys, isKeyId entry.1 = true
  active : keys.lookup activeKeyId = some activeKey

/-- A store draws its id as 16 random bytes in hexadecimal. -/
abbrev StoreId := { s : String // s.toList.length = 32 ∧ s.toList.all isLowerHex }

/-- What a database shows of itself. -/
structure AuditDatabase where
  storeId : StoreId
  applicationId : ℤ
  schemaVersion : ℤ
  /-- The entry hashes of the audit rows 1, 2, … -/
  entries : List String
  bounded : entries.length < 2 ^ 63

/-- `secrets.token_hex(32)`. -/
abbrev AnchorId := { s : String // isHexDigest s = true }

section Verification

variable {Φ : Type} (prims : Primitives Φ) (keyring : HmacKeyring)

abbrev Members (Φ : Type) := List (String × Json Φ)

def Primitives.dumps (v : Json Φ) : String := prims.floats.codec.dumps v

def Primitives.loads (text : String) : Option (Json Φ) := prims.floats.codec.loads text

/-! ## Authentication -/

/-- `_authentication_bytes`. -/
def authenticationText (body : Members Φ) : String :=
  prims.dumps (.obj [("domain", .str authenticationDomain), ("payload", .obj body)])

def HmacKeyring.sign (body : Members Φ) (keyId : String) : Except Failure String :=
  match keyring.keys.lookup keyId with
  | some key => .ok (prims.hmac key (authenticationText prims body))
  | none => .error (.store "ECO_HMAC_KEY_UNKNOWN" "HMAC key id is not configured")

def HmacKeyring.verify (body : Members Φ) (keyId : String) (tag : Json Φ) :
    Except Failure Unit :=
  match tag with
  | .str tag =>
    if isHexDigest tag then do
      let expected ← keyring.sign prims body keyId
      if tag = expected then .ok ()
      else .error (.store "ECO_AUTHENTICATION_FAILED"
        "Authentication tag does not match")
    else .error (.store "ECO_AUTHENTICATION_FAILED" "Authentication tag is invalid")
  | _ => .error (.store "ECO_AUTHENTICATION_FAILED" "Authentication tag is invalid")

/-- The keys of a canonical object stand in their order. -/
def authenticationKeys : List String := ["algorithm", "keyId", "tag"]

/-- `authentication` of a record: the algorithm, the key and the tag. -/
def readAuthentication (authentication : Members Φ) : Option (String × String × Json Φ) :=
  if authentication.map Prod.fst = authenticationKeys then
    match authentication.map Prod.snd with
    | [.str algorithm, .str keyId, tag] => some (algorithm, keyId, tag)
    | _ => none
  else none

/-- `_decode_authenticated_record`, up to the body of the record. -/
def decodeAuthenticatedRecord (raw : String) (maximumBytes : ℕ) (protocol : String) :
    Except Failure (Members Φ) :=
  if maximumBytes < byteLength raw then
    .error (recordInvalid "Authenticated record is too large")
  else match prims.loads raw with
    | none => .error (recordInvalid "Authenticated record is unreadable")
    | some (.obj record) =>
      if prims.dumps (.obj record) = raw then
        let body := record.filter (·.1 ≠ "authentication")
        match body.lookup "protocol", record.lookup "authentication" with
        | some (.str found), some (.obj authentication) =>
          match readAuthentication authentication with
          | some (algorithm, keyId, tag) =>
            if found = protocol ∧ algorithm = "HMAC-SHA256" then do
              keyring.verify prims body keyId tag
              return body
            else .error (recordInvalid "Authenticated record shape is invalid")
          | none => .error (recordInvalid "Authenticated record shape is invalid")
        | _, _ => .error (recordInvalid "Authenticated record shape is invalid")
      else .error (recordInvalid "Authenticated record is not canonical")
    | some _ => .error (recordInvalid "Authenticated record is not canonical")

/-! ## One anchor -/

/-- The body of an anchor that has the shape of one. -/
structure Anchor (Φ : Type) where
  anchorId : String
  storeId : String
  issuedAt : Instant
  applicationId : Json Φ
  schemaVersion : Json Φ
  auditSequence : ℕ
  auditEntryHash : String
  previousAnchorDigest : Option String

/-- `isinstance(value, int)`; a truth value is an integer. -/
def intValue : Json Φ → Option ℤ
  | .int n => some n
  | .bool b => some (if b then 1 else 0)
  | _ => none

/-- Whether a value equals an integer. -/
def Primitives.equalsInt : Json Φ → ℤ → Bool
  | .float x, n => prims.floatEqInt x n
  | v, n => intValue v = some n

def anchorKeys : List String :=
  ["anchorId", "applicationId", "auditEntryHash", "auditSequence", "issuedAt",
    "previousAnchorDigest", "protocol", "schemaVersion", "storeId"]

def anchorShapeInvalid : Failure := recordInvalid "External anchor shape is invalid"

/-- The digest of the anchor before, if the value can be one. -/
def previousDigest : Json Φ → Except Failure (Option String)
  | .null => .ok none
  | .str digest => if isHexDigest digest then .ok (some digest) else .error anchorShapeInvalid
  | _ => .error anchorShapeInvalid

/-- `_parse_utc`. -/
def readTime : Json Φ → Except Failure Instant
  | .str text =>
    match prims.parseUtc text with
    | some time => .ok time
    | none => .error (recordInvalid "Timestamp is invalid")
  | _ => .error (recordInvalid "Timestamp is invalid")

/-- The checks of `verify_external_anchor` on the body. -/
def readAnchor (body : Members Φ) : Except Failure (Anchor Φ) :=
  if body.map Prod.fst = anchorKeys then
    match body.map Prod.snd with
    | [.str anchorId, applicationId, .str auditEntryHash, auditSequence, issuedAt, previous,
        _, schemaVersion, .str storeId] =>
      match intValue auditSequence with
      | some (.ofNat auditSequence) =>
        if isHexDigest anchorId ∧ isHexDigest auditEntryHash then do
          let previous ← previousDigest previous
          let issuedAt ← readTime prims issuedAt
          return {
            anchorId := anchorId
            storeId := storeId
            issuedAt := issuedAt
            applicationId := applicationId
            schemaVersion := schemaVersion
            auditSequence := auditSequence
            auditEntryHash := auditEntryHash
            previousAnchorDigest := previous }
        else .error anchorShapeInvalid
      | _ => .error anchorShapeInvalid
    | _ => .error anchorShapeInvalid
  else .error anchorShapeInvalid

/-- `_read_sqlite_identity`. -/
def AuditDatabase.checkIdentity (db : AuditDatabase) : Except Failure Unit :=
  if db.applicationId = storeApplicationId ∧ db.schemaVersion = storeSchemaVersion then
    .ok ()
  else .error (.store "ECO_BACKUP_PROFILE_MISMATCH" "SQLite runtime profile is unsupported")

def AuditDatabase.entryHash (db : AuditDatabase) (sequence : ℕ) : Option String :=
  if sequence = 0 then some genesisDigest else db.entries[sequence - 1]?

/-- The checks of `verify_external_anchor` on a database. -/
def checkDatabase (anchor : Anchor Φ) (db : AuditDatabase) (exactHead : Bool) :
    Except Failure Unit := do
  db.checkIdentity
  -- a parameter of the query beyond 64 bits
  if db.entries.length ≠ anchor.auditSequence ∧ 2 ^ 63 ≤ anchor.auditSequence then
    .error .overflow
  else if anchor.storeId ≠ db.storeId.1 ∨
      ¬prims.equalsInt anchor.applicationId db.applicationId ∨
      ¬prims.equalsInt anchor.schemaVersion db.schemaVersion ∨
      db.entries.length < anchor.auditSequence ∨
      (exactHead ∧ anchor.auditSequence ≠ db.entries.length) then
    .error (databaseMismatch "Database does not contain anchored history")
  else if db.entryHash anchor.auditSequence ≠ some anchor.auditEntryHash then
    .error (databaseMismatch "Anchored audit entry is absent")
  else .ok ()

def verifyExternalAnchor (raw : String) (database : Option AuditDatabase)
    (exactHead : Bool) : Except Failure (Anchor Φ) := do
  let body ← decodeAuthenticatedRecord prims keyring raw maxAnchorBytes anchorProtocol
  let anchor ← readAnchor prims body
  match database with
  | some db => checkDatabase prims anchor db exactHead
  | none => .ok ()
  return anchor

/-! ## A chain -/

/-- What `verify_anchor_chain` carries from anchor to anchor. -/
structure ChainState (Φ : Type) where
  previous : Option (String × Anchor Φ) := none
  verified : List (Anchor Φ) := []

def continues (previous : Option (String × Anchor Φ)) (anchor : Anchor Φ) : Bool :=
  match previous with
  | none => anchor.previousAnchorDigest = none
  | some (raw, before) =>
    anchor.previousAnchorDigest = some (prims.sha256 raw) &&
      anchor.storeId = before.storeId &&
      before.auditSequence ≤ anchor.auditSequence &&
      before.issuedAt.us ≤ anchor.issuedAt.us

/-- The loop of `verify_anchor_chain`: only the last anchor meets the database. -/
def verifyAnchors (database : Option AuditDatabase) (exactHead : Bool) :
    List String → ChainState Φ → Except Failure (List (Anchor Φ))
  | [], state => .ok state.verified
  | raw :: rest, state => do
    let anchor ← verifyExternalAnchor prims keyring raw
      (if rest.isEmpty then database else none) (rest.isEmpty && exactHead)
    if continues prims state.previous anchor then
      verifyAnchors database exactHead rest
        { previous := some (raw, anchor), verified := state.verified ++ [anchor] }
    else .error (chainInvalid "Anchor chain continuity is invalid")

def verifyAnchorChain (anchors : List String) (database : Option AuditDatabase)
    (exactHead : Bool) : Except Failure (List (Anchor Φ)) :=
  if anchors = [] then .error (chainInvalid "Anchor chain is empty")
  else verifyAnchors prims keyring database exactHead anchors {}

/-! ## Exporting -/

def Anchor.body (anchor : Anchor Φ) : Members Φ :=
  [("anchorId", .str anchor.anchorId), ("applicationId", anchor.applicationId),
    ("auditEntryHash", .str anchor.auditEntryHash),
    ("auditSequence", .int anchor.auditSequence),
    ("issuedAt", .str (prims.utc anchor.issuedAt)),
    ("previousAnchorDigest", anchor.previousAnchorDigest.elim .null .str),
    ("protocol", .str anchorProtocol), ("schemaVersion", anchor.schemaVersion),
    ("storeId", .str anchor.storeId)]

/-- `_authenticated_record` of an anchor, as canonical JSON. -/
def Anchor.text (anchor : Anchor Φ) : String :=
  let body := anchor.body prims
  let authentication : Members Φ :=
    [("algorithm", .str "HMAC-SHA256"), ("keyId", .str keyring.activeKeyId),
      ("tag", .str (prims.hmac keyring.activeKey (authenticationText prims body)))]
  prims.dumps (.obj (body.take 4 ++ ("authentication", .obj authentication) :: body.drop 4))

/-- `export_external_anchor`, on the text that goes to the sink. -/
def exportExternalAnchor (db : AuditDatabase) (now : Instant) (anchorId : AnchorId)
    (previousAnchor : Option String) : Except Failure String := do
  db.checkIdentity
  match db.entryHash db.entries.length with
  | none => .error (.store "ECO_ANCHOR_SOURCE_INVALID" "Audit head is unavailable")
  | some head =>
    if isHexDigest head then do
      let anchor : Anchor Φ :=
        { anchorId := anchorId.1
          storeId := db.storeId.1
          issuedAt := now
          applicationId := .int db.applicationId
          schemaVersion := .int db.schemaVersion
          auditSequence := db.entries.length
          auditEntryHash := head
          previousAnchorDigest := previousAnchor.map prims.sha256 }
      match previousAnchor with
      | none => return anchor.text prims keyring
      | some raw =>
        let previous ← verifyExternalAnchor prims keyring raw none false
        if previous.storeId ≠ db.storeId.1 ∨
            db.entries.length < previous.auditSequence then
          .error (chainInvalid "Previous anchor is incompatible")
        else return anchor.text prims keyring
    else .error (.store "ECO_ANCHOR_SOURCE_INVALID" "Audit head digest is invalid")

end Verification

end Ecosystem.Persistence
