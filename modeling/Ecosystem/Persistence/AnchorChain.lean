import Ecosystem.Persistence.Anchors

/-!
# What an accepted chain of anchors pins

In an accepted chain the sequence numbers rise, so no anchor is ahead of the database.
The entry hash of an anchor before the last one is compared with nothing: a replaced
history passes as soon as it has grown to the sequence of that anchor.
-/

namespace Ecosystem.Lib.Json

/-! ## The length of a text -/

theorem length_escape_le (c : Char) : (escape c).length ≤ 6 := by
  unfold escape
  repeat' split
  all_goals simp

theorem length_strText_le (s : String) : (strText s).length ≤ 6 * s.toList.length + 2 := by
  have hflat (cs : List Char) : (cs.flatMap escape).length ≤ 6 * cs.length := by
    induction cs with
    | nil => simp
    | cons c cs ih =>
      rw [List.flatMap_cons, List.length_append, List.length_cons]
      have := length_escape_le c
      omega
  have := hflat s.toList
  simp only [strText, List.length_cons, List.length_append, List.length_nil]
  omega

theorem length_intText_le {n : ℕ} (h : n < 2 ^ 63) : (intText n).length ≤ 19 := by
  refine (Nat.length_toDigits_le_iff (by decide) (by decide)).mpr ?_
  exact h.trans (by decide)

variable {Φ : Type} (floats : FloatText Φ)

def keysLength (keys : List String) : ℕ :=
  (keys.map fun k => (strText k).length + 1).sum

theorem length_writeMembers (ms : List (String × Json Φ)) :
    (writeMembers floats ms).length = keysLength (ms.map (·.1)) +
        (ms.map fun m => (write floats m.2).length + 1).sum + 1 := by
  induction ms with
  | nil => rfl
  | cons m ms ih =>
    simp only [writeMembers, List.length_cons, List.length_append, ih, List.map_cons,
      List.sum_cons, keysLength]
    omega

theorem length_write_obj {ms : List (String × Json Φ)} (hne : ms ≠ []) :
    (write floats (.obj ms)).length = keysLength (ms.map (·.1)) +
        (ms.map fun m => (write floats m.2).length + 1).sum + 1 := by
  cases ms with
  | nil => exact absurd rfl hne
  | cons m ms =>
    simp only [write, List.length_cons, List.length_append, length_writeMembers,
      List.map_cons, List.sum_cons, keysLength]
    omega

end Ecosystem.Lib.Json

namespace Ecosystem.Persistence

open Ecosystem.Lib
open Ecosystem.Store (Instant)

variable {Φ : Type} {prims : Primitives Φ} {keyring : HmacKeyring}

/-! ## An exported anchor -/

/-- The values of an anchor that the exporter can write. -/
structure Anchor.Exportable (anchor : Anchor Φ) : Prop where
  anchorId : isHexDigest anchor.anchorId = true
  storeId : anchor.storeId.toList.length = 32
  application : anchor.applicationId = .int storeApplicationId
  schema : anchor.schemaVersion = .int storeSchemaVersion
  sequence : anchor.auditSequence < 2 ^ 63
  entry : isHexDigest anchor.auditEntryHash = true
  previous : ∀ digest ∈ anchor.previousAnchorDigest, isHexDigest digest = true

theorem length_of_isHexDigest {s : String} (h : isHexDigest s = true) :
    s.toList.length = 64 := by
  simp only [isHexDigest, Bool.and_eq_true, decide_eq_true_eq] at h
  exact h.1

theorem byteLength_ofList_le (cs : List Char) : byteLength (String.ofList cs) ≤ 4 * cs.length := by
  rw [byteLength, String.toList_ofList]
  induction cs with
  | nil => simp
  | cons c cs ih =>
    have := c.utf8Size_le_four
    simp only [List.map_cons, List.sum_cons, List.length_cons]
    omega

theorem HmacKeyring.length_activeKeyId_le (keyring : HmacKeyring) :
    keyring.activeKeyId.toList.length ≤ 128 := by
  obtain ⟨before, after, hkeys, -⟩ := List.lookup_eq_some_iff.mp keyring.active
  have hid := keyring.ids (keyring.activeKeyId, keyring.activeKey) (by rw [hkeys]; simp)
  unfold isKeyId at hid
  split at hid
  · cases hid
  next c cs hcs =>
  simp only [Bool.and_eq_true, decide_eq_true_eq] at hid
  rw [hcs, List.length_cons]
  omega

/-- The record of an anchor behind its tag. -/
def Anchor.authentication (anchor : Anchor Φ) (prims : Primitives Φ)
    (keyring : HmacKeyring) : Members Φ :=
  [("algorithm", .str "HMAC-SHA256"), ("keyId", .str keyring.activeKeyId),
    ("tag", .str (prims.hmac keyring.activeKey
      (authenticationText prims (anchor.body prims))))]

def Anchor.record (anchor : Anchor Φ) (prims : Primitives Φ) (keyring : HmacKeyring) :
    Members Φ :=
  (anchor.body prims).take 4 ++
    ("authentication", .obj (anchor.authentication prims keyring)) ::
      (anchor.body prims).drop 4

theorem Anchor.text_eq (anchor : Anchor Φ) :
    anchor.text prims keyring = prims.dumps (.obj (anchor.record prims keyring)) :=
  rfl

variable {anchor : Anchor Φ}

theorem length_write_authentication :
    (Json.write prims.floats (.obj (anchor.authentication prims keyring))).length ≤
      1300 := by
  have hkeys : (anchor.authentication prims keyring).map (·.1) =
      ["algorithm", "keyId", "tag"] := rfl
  have hlength : Json.keysLength ["algorithm", "keyId", "tag"] = 26 := by rfl
  have htag := Json.length_strText_le (prims.hmac keyring.activeKey
    (authenticationText prims (anchor.body prims)))
  rw [length_of_isHexDigest (prims.hmac_hex _ _)] at htag
  have hid := Json.length_strText_le keyring.activeKeyId
  have hid' := keyring.length_activeKeyId_le
  have halgorithm : (Json.strText "HMAC-SHA256").length = 13 := by rfl
  rw [Json.length_write_obj prims.floats (by simp [Anchor.authentication]), hkeys, hlength]
  simp only [Anchor.authentication, List.map_cons, List.map_nil, List.sum_cons,
    List.sum_nil, Json.write]
  omega

def recordKeys : List String :=
  ["anchorId", "applicationId", "auditEntryHash", "auditSequence", "authentication",
    "issuedAt", "previousAnchorDigest", "protocol", "schemaVersion", "storeId"]

/-- **An exported anchor is far from the limit of its length.** -/
theorem Anchor.Exportable.byteLength_le (h : anchor.Exportable) :
    byteLength (anchor.text prims keyring) ≤ maxAnchorBytes := by
  have hrecord : (Json.write prims.floats
      (.obj (anchor.record prims keyring))).length ≤ 4000 := by
    have hkeys : (anchor.record prims keyring).map (·.1) = recordKeys := rfl
    have hlength : Json.keysLength recordKeys ≤ 200 := by decide
    have hanchor := Json.length_strText_le anchor.anchorId
    have hentry := Json.length_strText_le anchor.auditEntryHash
    have htime := Json.length_strText_le (prims.utc anchor.issuedAt)
    have hstore := Json.length_strText_le anchor.storeId
    have hutc := prims.utc_length anchor.issuedAt
    have hprotocol : (Json.strText anchorProtocol).length = 30 := by rfl
    have hsequence := Json.length_intText_le h.sequence
    have happlication : (Json.intText storeApplicationId).length = 10 := by rfl
    have hschema : (Json.intText storeSchemaVersion).length = 1 := by rfl
    have hauth : (Json.write prims.floats
        (.obj (anchor.authentication prims keyring))).length ≤ 1300 :=
      length_write_authentication
    have hprevious : (Json.write prims.floats
        (anchor.previousAnchorDigest.elim .null .str)).length ≤ 386 := by
      cases hdigest : anchor.previousAnchorDigest with
      | none => simp [Json.write]
      | some digest =>
        have := Json.length_strText_le digest
        rw [length_of_isHexDigest (h.previous digest hdigest)] at this
        exact this
    rw [length_of_isHexDigest h.anchorId] at hanchor
    rw [length_of_isHexDigest h.entry] at hentry
    rw [h.storeId] at hstore
    rw [Json.length_write_obj prims.floats (by simp [Anchor.record]), hkeys]
    simp only [Anchor.record, Anchor.body, h.application, h.schema, List.take,
      List.drop, List.cons_append, List.nil_append, List.map_cons, List.map_nil,
      List.sum_cons, List.sum_nil]
    generalize Json.write prims.floats (.obj (anchor.authentication prims keyring)) = auth at *
    generalize Json.write prims.floats (anchor.previousAnchorDigest.elim .null .str) = prev at *
    simp only [Json.write]
    omega
  rw [Anchor.text_eq]
  refine (byteLength_ofList_le _).trans ?_
  rw [maxAnchorBytes]
  omega

/-! ## What is exported is accepted -/

theorem Primitives.loads_dumps (prims : Primitives Φ) {v : Json Φ} (h : v.Ordered) :
    prims.loads (prims.dumps v) = some v :=
  prims.floats.codec.loads_dumps v h

theorem Anchor.Exportable.ordered (h : anchor.Exportable) :
    (Json.obj (anchor.record prims keyring)).Ordered := by
  have hauth : (Json.obj (anchor.authentication prims keyring)).Ordered := by
    have hkeys : ["algorithm", "keyId", "tag"].Pairwise (· < ·) := by decide
    refine .obj _ (List.pairwise_map.mp hkeys) ?_
    simp only [Anchor.authentication, List.forall_mem_cons, List.not_mem_nil, false_implies,
      implies_true, and_true]
    exact ⟨.str _, .str _, .str _⟩
  have hprevious : (anchor.previousAnchorDigest.elim (.null : Json Φ) .str).Ordered := by
    cases anchor.previousAnchorDigest with
    | none => exact .null
    | some digest => exact .str digest
  have hsorted : recordKeys.Pairwise (· < ·) := by decide
  refine .obj _ (List.pairwise_map.mp hsorted) ?_
  simp only [Anchor.record, Anchor.body, h.application, h.schema, List.take, List.drop,
    List.cons_append, List.nil_append, List.forall_mem_cons, List.not_mem_nil,
    false_implies, implies_true, and_true]
  exact ⟨.str _, .int _, .str _, .int _, hauth, .str _, hprevious, .str _, .int _, .str _⟩

theorem filter_record :
    (anchor.record prims keyring).filter (·.1 ≠ "authentication") = anchor.body prims := by
  simp [Anchor.record, Anchor.body]

theorem readAuthentication_authentication :
    readAuthentication (anchor.authentication prims keyring) =
      some ("HMAC-SHA256", keyring.activeKeyId, .str (prims.hmac keyring.activeKey
        (authenticationText prims (anchor.body prims)))) := by
  have hkeys : (anchor.authentication prims keyring).map Prod.fst = authenticationKeys := rfl
  rw [readAuthentication, if_pos hkeys]
  rfl

theorem HmacKeyring.verify_sign {body : Members Φ} :
    keyring.verify prims body keyring.activeKeyId
      (.str (prims.hmac keyring.activeKey (authenticationText prims body))) = .ok () := by
  have hsign : keyring.sign prims body keyring.activeKeyId =
      .ok (prims.hmac keyring.activeKey (authenticationText prims body)) := by
    rw [HmacKeyring.sign, keyring.active]
  rw [HmacKeyring.verify, if_pos (prims.hmac_hex _ _), hsign]
  exact if_pos rfl

theorem decode_text (h : anchor.Exportable) :
    decodeAuthenticatedRecord prims keyring (anchor.text prims keyring) maxAnchorBytes
      anchorProtocol = .ok (anchor.body prims) := by
  have hloads : prims.loads (anchor.text prims keyring) =
      some (.obj (anchor.record prims keyring)) := by
    rw [anchor.text_eq, prims.loads_dumps h.ordered]
  have hprotocol : (anchor.body prims).lookup "protocol" = some (.str anchorProtocol) := by
    simp [Anchor.body, List.lookup]
  have hauth : (anchor.record prims keyring).lookup "authentication" =
      some (.obj (anchor.authentication prims keyring)) := by
    simp [Anchor.record, Anchor.body, List.lookup]
  unfold decodeAuthenticatedRecord
  rw [if_neg (Nat.not_lt.mpr h.byteLength_le), hloads]
  dsimp only
  rw [if_pos anchor.text_eq.symm, filter_record, hprotocol, hauth]
  dsimp only
  rw [readAuthentication_authentication]
  dsimp only
  rw [if_pos ⟨rfl, rfl⟩, HmacKeyring.verify_sign]
  rfl

theorem readAnchor_body (h : anchor.Exportable) :
    readAnchor prims (anchor.body prims) = .ok anchor := by
  have hprevious : previousDigest (Φ := Φ) (anchor.previousAnchorDigest.elim .null .str) =
      .ok anchor.previousAnchorDigest := by
    cases hdigest : anchor.previousAnchorDigest with
    | none => rfl
    | some digest =>
      change (if _ then _ else _) = _
      rw [if_pos (h.previous digest hdigest)]
  have hkeys : (anchor.body prims).map Prod.fst = anchorKeys := rfl
  rw [readAnchor, if_pos hkeys]
  dsimp only [Anchor.body, List.map_cons, List.map_nil, intValue]
  change (if _ then _ else _) = _
  rw [if_pos ⟨h.anchorId, h.entry⟩, hprevious, readTime, prims.parseUtc_utc]
  rfl

/-- **What the exporter writes, the verifier reads.** -/
theorem verify_text (h : anchor.Exportable) :
    verifyExternalAnchor prims keyring (anchor.text prims keyring) none false =
      .ok anchor := by
  rw [verifyExternalAnchor, decode_text h]
  simp only [bind, Except.bind, readAnchor_body h]
  rfl

/-! ## An anchor and a database -/

theorem checkIdentity_eq_ok {db : AuditDatabase} :
    db.checkIdentity = .ok () ↔
      db.applicationId = storeApplicationId ∧ db.schemaVersion = storeSchemaVersion := by
  unfold AuditDatabase.checkIdentity
  split
  · next h => exact ⟨fun _ => h, fun _ => rfl⟩
  · next h => exact ⟨nofun, fun h' => absurd h' h⟩

structure Meets (prims : Primitives Φ) (anchor : Anchor Φ) (db : AuditDatabase)
    (exactHead : Bool) : Prop where
  identity : db.applicationId = storeApplicationId ∧ db.schemaVersion = storeSchemaVersion
  store : anchor.storeId = db.storeId.1
  application : prims.equalsInt anchor.applicationId db.applicationId = true
  schema : prims.equalsInt anchor.schemaVersion db.schemaVersion = true
  sequence : anchor.auditSequence ≤ db.entries.length
  head : exactHead = true → anchor.auditSequence = db.entries.length
  entry : db.entryHash anchor.auditSequence = some anchor.auditEntryHash

theorem checkDatabase_eq_ok {db : AuditDatabase} {exactHead : Bool} :
    checkDatabase prims anchor db exactHead = .ok () ↔ Meets prims anchor db exactHead := by
  have hbounded := db.bounded
  unfold checkDatabase
  constructor
  · intro h
    obtain ⟨⟨⟩, hidentity, h⟩ := bind_eq_ok.mp h
    split at h
    · cases h
    split at h
    · cases h
    split at h
    · cases h
    next _ hchecks hentry =>
      simp only [not_or, not_and, Decidable.not_not, not_lt] at hchecks hentry
      obtain ⟨hstore, happlication, hschema, hsequence, hhead⟩ := hchecks
      exact ⟨checkIdentity_eq_ok.mp hidentity, hstore, happlication, hschema, hsequence,
        hhead, hentry⟩
  · intro h
    have hsequence := h.sequence
    rw [checkIdentity_eq_ok.mpr h.identity]
    change (if _ then _ else _) = _
    rw [if_neg (by omega), if_neg, if_neg (not_not.mpr h.entry)]
    simp only [not_or, not_and, Decidable.not_not, not_lt]
    exact ⟨h.store, h.application, h.schema, h.sequence, h.head⟩

theorem verify_database {raw : String} {db : AuditDatabase} {exactHead : Bool} :
    verifyExternalAnchor prims keyring raw (some db) exactHead = .ok anchor ↔
      verifyExternalAnchor prims keyring raw none false = .ok anchor ∧
        Meets prims anchor db exactHead := by
  unfold verifyExternalAnchor
  cases decodeAuthenticatedRecord prims keyring raw maxAnchorBytes anchorProtocol with
  | error e => exact ⟨nofun, nofun⟩
  | ok body =>
    cases hread : readAnchor prims body with
    | error e =>
      simp only [bind, Except.bind, hread]
      exact ⟨nofun, nofun⟩
    | ok found =>
      simp only [bind, Except.bind, hread]
      cases hcheck : checkDatabase prims found db exactHead with
      | error e =>
        refine ⟨nofun, ?_⟩
        rintro ⟨hok, hmeets⟩
        cases hok
        rw [checkDatabase_eq_ok.mpr hmeets] at hcheck
        cases hcheck
      | ok _ =>
        have hmeets := checkDatabase_eq_ok.mp hcheck
        constructor
        · intro hok
          cases hok
          exact ⟨rfl, hmeets⟩
        · rintro ⟨hok, -⟩
          exact hok

/-! ## Following a chain -/

section Follow

variable (prims : Primitives Φ) (keyring : HmacKeyring)

/-- One turn of the loop, away from the database. -/
def followOne (state : ChainState Φ) (raw : String) : Except Failure (ChainState Φ) := do
  let anchor ← verifyExternalAnchor prims keyring raw none false
  if continues prims state.previous anchor then
    return { previous := some (raw, anchor), verified := state.verified ++ [anchor] }
  else .error (chainInvalid "Anchor chain continuity is invalid")

def follow (anchors : List String) : Except Failure (ChainState Φ) :=
  anchors.foldlM (followOne prims keyring) {}

end Follow

variable {state : ChainState Φ} {anchors : List String} {raw : String}
  {records : List (Anchor Φ)} {db : AuditDatabase} {exactHead : Bool}

theorem followOne_eq_ok {state' : ChainState Φ} :
    followOne prims keyring state raw = .ok state' ↔
      ∃ anchor, verifyExternalAnchor prims keyring raw none false = .ok anchor ∧
        continues prims state.previous anchor = true ∧
        state' = ⟨some (raw, anchor), state.verified ++ [anchor]⟩ := by
  unfold followOne
  constructor
  · intro h
    obtain ⟨anchor, hverify, h⟩ := bind_eq_ok.mp h
    split at h
    · next hcontinues =>
        cases h
        exact ⟨anchor, hverify, hcontinues, rfl⟩
    · cases h
  · rintro ⟨anchor, hverify, hcontinues, rfl⟩
    refine bind_eq_ok.mpr ⟨anchor, hverify, ?_⟩
    rw [if_pos hcontinues]
    rfl

theorem verifyAnchors_concat :
    verifyAnchors prims keyring (some db) exactHead (anchors ++ [raw]) state = .ok records ↔
      ∃ before after anchor, anchors.foldlM (followOne prims keyring) state = .ok before ∧
        followOne prims keyring before raw = .ok after ∧
        after.previous = some (raw, anchor) ∧ Meets prims anchor db exactHead ∧
        after.verified = records := by
  induction anchors generalizing state with
  | nil =>
    simp only [List.nil_append, verifyAnchors, List.isEmpty_nil, if_true, Bool.true_and]
    constructor
    · intro h
      obtain ⟨anchor, hverify, h⟩ := bind_eq_ok.mp h
      obtain ⟨hverify, hmeets⟩ := verify_database.mp hverify
      split at h
      · next hcontinues =>
          cases h
          exact ⟨state, _, anchor, rfl,
            followOne_eq_ok.mpr ⟨anchor, hverify, hcontinues, rfl⟩, rfl, hmeets, rfl⟩
      · cases h
    · rintro ⟨before, after, anchor, hbefore, hafter, hprevious, hmeets, rfl⟩
      cases hbefore
      obtain ⟨found, hverify, hcontinues, rfl⟩ := followOne_eq_ok.mp hafter
      obtain rfl : found = anchor := congrArg Prod.snd (Option.some.inj hprevious)
      refine bind_eq_ok.mpr ⟨found, verify_database.mpr ⟨hverify, hmeets⟩, ?_⟩
      exact if_pos hcontinues
  | cons first anchors ih =>
    have hempty : (anchors ++ [raw]).isEmpty = false := by simp
    simp only [List.cons_append, verifyAnchors, hempty, if_false, Bool.false_and,
      Bool.false_eq_true, List.foldlM_cons]
    constructor
    · intro h
      obtain ⟨anchor, hverify, h⟩ := bind_eq_ok.mp h
      split at h
      · next hcontinues =>
          obtain ⟨before, after, last, hbefore, hrest⟩ := ih.mp h
          exact ⟨before, after, last, bind_eq_ok.mpr ⟨_, followOne_eq_ok.mpr
            ⟨anchor, hverify, hcontinues, rfl⟩, hbefore⟩, hrest⟩
      · cases h
    · rintro ⟨before, after, last, hbefore, hrest⟩
      obtain ⟨state', hfirst, hbefore⟩ := bind_eq_ok.mp hbefore
      obtain ⟨anchor, hverify, hcontinues, rfl⟩ := followOne_eq_ok.mp hfirst
      refine bind_eq_ok.mpr ⟨anchor, hverify, ?_⟩
      rw [if_pos hcontinues]
      exact ih.mpr ⟨before, after, last, hbefore, hrest⟩

theorem verifyAnchors_none :
    verifyAnchors prims keyring none exactHead anchors state = .ok records ↔
      ∃ after, anchors.foldlM (followOne prims keyring) state = .ok after ∧
        after.verified = records := by
  induction anchors generalizing state with
  | nil =>
    simp only [verifyAnchors, List.foldlM_nil]
    constructor
    · intro h
      exact ⟨state, rfl, Except.ok.inj h⟩
    · rintro ⟨after, hafter, rfl⟩
      cases hafter
      rfl
  | cons raw anchors ih =>
    simp only [verifyAnchors, ite_self, List.foldlM_cons]
    constructor
    · intro h
      obtain ⟨anchor, hverify, h⟩ := bind_eq_ok.mp h
      split at h
      · next hcontinues =>
          obtain ⟨after, hafter, hrecords⟩ := ih.mp h
          exact ⟨after, bind_eq_ok.mpr ⟨_, followOne_eq_ok.mpr
            ⟨anchor, hverify, hcontinues, rfl⟩, hafter⟩, hrecords⟩
      · cases h
    · rintro ⟨after, hafter, hrecords⟩
      obtain ⟨state', hfirst, hafter⟩ := bind_eq_ok.mp hafter
      obtain ⟨anchor, hverify, hcontinues, rfl⟩ := followOne_eq_ok.mp hfirst
      refine bind_eq_ok.mpr ⟨anchor, hverify, ?_⟩
      rw [if_pos hcontinues]
      exact ih.mpr ⟨after, hafter, hrecords⟩

theorem verifyAnchorChain_database :
    verifyAnchorChain prims keyring anchors (some db) exactHead = .ok records ↔
      ∃ state raw anchor, follow prims keyring anchors = .ok state ∧
        state.previous = some (raw, anchor) ∧ Meets prims anchor db exactHead ∧
        state.verified = records := by
  unfold verifyAnchorChain follow
  rcases List.eq_nil_or_concat anchors with rfl | ⟨before, raw, rfl⟩
  · rw [if_pos rfl]
    refine ⟨nofun, ?_⟩
    rintro ⟨state, raw, anchor, hfollow, hprevious, -⟩
    cases hfollow
    cases hprevious
  · rw [List.concat_eq_append, if_neg (by simp), verifyAnchors_concat]
    constructor
    · rintro ⟨state, after, anchor, hbefore, hafter, hrest⟩
      exact ⟨after, raw, anchor, foldlM_concat_eq_ok.mpr ⟨state, hbefore, hafter⟩, hrest⟩
    · rintro ⟨after, raw', anchor, hfollow, hprevious, hrest⟩
      obtain ⟨state, hbefore, hafter⟩ := foldlM_concat_eq_ok.mp hfollow
      obtain ⟨found, -, -, rfl⟩ := followOne_eq_ok.mp hafter
      cases hprevious
      exact ⟨state, _, _, hbefore, hafter, rfl, hrest⟩

/-! ## What a followed chain has -/

/-- Store and sequence numbers of a chain that has been followed. -/
structure Followed (state : ChainState Φ) : Prop where
  ordered : ∀ anchor ∈ state.verified, ∃ raw last, state.previous = some (raw, last) ∧
    anchor.auditSequence ≤ last.auditSequence ∧ anchor.storeId = last.storeId
  last : state.verified.getLast? = state.previous.map Prod.snd
  entry : ∀ raw anchor, state.previous = some (raw, anchor) →
    isHexDigest anchor.auditEntryHash = true

theorem isHexDigest_of_verify
    (h : verifyExternalAnchor prims keyring raw none false = .ok anchor) :
    isHexDigest anchor.auditEntryHash = true := by
  obtain ⟨body, h⟩ := rest_ok h
  obtain ⟨found, hread, h⟩ := bind_eq_ok.mp h
  obtain rfl : found = anchor := Except.ok.inj h
  unfold readAnchor at hread
  split at hread
  · split at hread
    · split at hread
      · split at hread
        · next hhex =>
            obtain ⟨_, hread⟩ := rest_ok hread
            obtain ⟨_, hread⟩ := rest_ok hread
            obtain rfl := Except.ok.inj hread
            exact hhex.2
        · cases hread
      · cases hread
    · cases hread
  · cases hread

theorem Followed.step {state' : ChainState Φ} (h : Followed state)
    (hstep : followOne prims keyring state raw = .ok state') : Followed state' := by
  obtain ⟨anchor, hverify, hcontinues, rfl⟩ := followOne_eq_ok.mp hstep
  refine ⟨fun found hfound => ⟨raw, anchor, rfl, ?_⟩, by simp, ?_⟩
  · rcases List.mem_append.mp hfound with hfound | hfound
    · obtain ⟨raw', last, hprevious, hsequence, hstore⟩ := h.ordered found hfound
      rw [hprevious] at hcontinues
      simp only [continues, Bool.and_eq_true, decide_eq_true_eq] at hcontinues
      obtain ⟨⟨⟨-, hstore'⟩, hsequence'⟩, -⟩ := hcontinues
      exact ⟨hsequence.trans hsequence', hstore.trans hstore'.symm⟩
    · rw [List.mem_singleton.mp hfound]
      exact ⟨le_rfl, rfl⟩
  · rintro raw' anchor' hprevious
    cases hprevious
    exact isHexDigest_of_verify hverify

theorem isHexDigest_genesisDigest : isHexDigest genesisDigest = true := by
  rfl

theorem followed_of_follow (h : follow prims keyring anchors = .ok state) :
    Followed state := by
  induction anchors using List.reverseRecOn generalizing state with
  | nil =>
    obtain rfl := Except.ok.inj h
    exact ⟨fun _ h => (nomatch h), rfl, fun _ _ h => (nomatch h)⟩
  | append_singleton anchors raw ih =>
    obtain ⟨before, hbefore, hstep⟩ := foldlM_concat_eq_ok.mp h
    exact (ih hbefore).step hstep

theorem verified_of_foldlM {state' : ChainState Φ}
    (h : anchors.foldlM (followOne prims keyring) state = .ok state')
    (hmem : anchor ∈ state.verified) : anchor ∈ state'.verified := by
  induction anchors generalizing state with
  | nil =>
    cases h
    exact hmem
  | cons raw anchors ih =>
    obtain ⟨next, hnext, h⟩ := bind_eq_ok.mp h
    obtain ⟨found, -, -, rfl⟩ := followOne_eq_ok.mp hnext
    exact ih h (List.mem_append_left _ hmem)

/-! ## What the database is asked for -/

/-- The database can take the chain on behind an anchor: it is under the same store, and
it has a row that an anchor could name at or behind the sequence of this one. -/
structure Extendable (db : AuditDatabase) (anchor : Anchor Φ) : Prop where
  identity : db.applicationId = storeApplicationId ∧ db.schemaVersion = storeSchemaVersion
  store : anchor.storeId = db.storeId.1
  row : ∃ sequence hash, anchor.auditSequence ≤ sequence ∧
    sequence ≤ db.entries.length ∧ db.entryHash sequence = some hash ∧
    isHexDigest hash = true

def nextAnchor (prims : Primitives Φ) (raw : String) (before : Anchor Φ) (sequence : ℕ)
    (hash : String) : Anchor Φ where
  anchorId := genesisDigest
  storeId := before.storeId
  issuedAt := before.issuedAt
  applicationId := .int storeApplicationId
  schemaVersion := .int storeSchemaVersion
  auditSequence := sequence
  auditEntryHash := hash
  previousAnchorDigest := some (prims.sha256 raw)

theorem equalsInt_int {n : ℤ} : prims.equalsInt (.int n) n = true := by
  simp [Primitives.equalsInt, intValue]

theorem accepted_of_extendable (hfollow : follow prims keyring anchors = .ok state)
    (hprevious : state.previous = some (raw, anchor)) (h : Extendable db anchor) :
    ∃ text records, verifyAnchorChain prims keyring (anchors ++ [text]) (some db) false =
      .ok records := by
  obtain ⟨sequence, hash, hle, hlength, hentry, hhex⟩ := h.row
  have hbounded := db.bounded
  have hexportable : (nextAnchor prims raw anchor sequence hash).Exportable :=
    { anchorId := isHexDigest_genesisDigest
      storeId := by rw [nextAnchor, h.store]; exact db.storeId.2.1
      application := rfl
      schema := rfl
      sequence := hlength.trans_lt hbounded
      entry := hhex
      previous := by
        rintro _ ⟨⟩
        exact prims.sha256_hex raw }
  refine ⟨(nextAnchor prims raw anchor sequence hash).text prims keyring,
    state.verified ++ [nextAnchor prims raw anchor sequence hash],
    verifyAnchorChain_database.mpr ⟨_, _, _, foldlM_concat_eq_ok.mpr ⟨state, hfollow,
      followOne_eq_ok.mpr ⟨_, verify_text hexportable, ?_, rfl⟩⟩, rfl, ?_, rfl⟩⟩
  · rw [hprevious]
    simp [continues, nextAnchor, hle]
  · exact
      { identity := h.identity
        store := h.store
        application := by
          rw [h.identity.1]
          exact equalsInt_int
        schema := by
          rw [h.identity.2]
          exact equalsInt_int
        sequence := hlength
        head := nofun
        entry := hentry }

/-! ## Exporting -/

def headAnchor (prims : Primitives Φ) (db : AuditDatabase) (now : Instant)
    (anchorId : AnchorId) (head : String) (previousAnchor : Option String) : Anchor Φ where
  anchorId := anchorId.1
  storeId := db.storeId.1
  issuedAt := now
  applicationId := .int db.applicationId
  schemaVersion := .int db.schemaVersion
  auditSequence := db.entries.length
  auditEntryHash := head
  previousAnchorDigest := previousAnchor.map prims.sha256

variable {now : Instant} {anchorId : AnchorId} {head : String}

theorem headAnchor_exportable {previousAnchor : Option String}
    (hidentity : db.applicationId = storeApplicationId ∧
      db.schemaVersion = storeSchemaVersion) (hhead : isHexDigest head = true) :
    (headAnchor prims db now anchorId head previousAnchor).Exportable where
  anchorId := anchorId.2
  storeId := db.storeId.2.1
  application := congrArg Json.int hidentity.1
  schema := congrArg Json.int hidentity.2
  sequence := db.bounded
  entry := hhead
  previous := by
    cases previousAnchor with
    | none => exact fun _ h => (nomatch h)
    | some raw =>
      rintro _ ⟨⟩
      exact prims.sha256_hex raw

theorem export_eq {previousAnchor : Option String}
    (hidentity : db.applicationId = storeApplicationId ∧
      db.schemaVersion = storeSchemaVersion)
    (hentry : db.entryHash db.entries.length = some head) (hhead : isHexDigest head = true)
    (hprevious : ∀ raw ∈ previousAnchor, ∃ before,
      verifyExternalAnchor prims keyring raw none false = .ok before ∧
        before.storeId = db.storeId.1 ∧ before.auditSequence ≤ db.entries.length) :
    exportExternalAnchor prims keyring db now anchorId previousAnchor =
      .ok ((headAnchor prims db now anchorId head previousAnchor).text prims keyring) := by
  unfold exportExternalAnchor
  rw [checkIdentity_eq_ok.mpr hidentity, hentry]
  change (if _ then _ else _) = _
  rw [if_pos hhead]
  cases previousAnchor with
  | none => rfl
  | some raw =>
    obtain ⟨before, hverify, hstore, hle⟩ := hprevious raw rfl
    dsimp only
    rw [hverify]
    change (if _ then _ else _) = _
    rw [if_neg (by simp [hstore, hle])]
    rfl

/-- **A history can be replaced behind its anchor.**  The anchor of one database and the
next one, of another that is under the same store and as long, make a chain that the
second accepts. -/
theorem replaced_accepted {original replaced : AuditDatabase} {t₀ t₁ : Instant}
    {head₀ head₁ : String} (hidentity₀ : original.applicationId = storeApplicationId ∧
      original.schemaVersion = storeSchemaVersion)
    (hidentity₁ : replaced.applicationId = storeApplicationId ∧
      replaced.schemaVersion = storeSchemaVersion)
    (hentry₀ : original.entryHash original.entries.length = some head₀)
    (hentry₁ : replaced.entryHash replaced.entries.length = some head₁)
    (hhead₀ : isHexDigest head₀ = true) (hhead₁ : isHexDigest head₁ = true)
    (hstore : original.storeId = replaced.storeId)
    (hlength : original.entries.length ≤ replaced.entries.length)
    (htime : t₀.us ≤ t₁.us) {first second : Anchor Φ}
    (hfirst : first = headAnchor prims original t₀ anchorId head₀ none)
    (hsecond : second = headAnchor prims replaced t₁ anchorId head₁
      (some (first.text prims keyring))) :
    verifyAnchorChain prims keyring [first.text prims keyring] none false =
        .ok ([] ++ [first]) ∧ exportExternalAnchor prims keyring original t₀ anchorId none =
        .ok (first.text prims keyring) ∧
      exportExternalAnchor prims keyring replaced t₁ anchorId
        (some (first.text prims keyring)) = .ok (second.text prims keyring) ∧
      verifyAnchorChain prims keyring [first.text prims keyring, second.text prims keyring]
        (some replaced) true = .ok [first, second] := by
  have hfirst' : verifyExternalAnchor prims keyring (first.text prims keyring) none false =
      .ok first :=
    verify_text (hfirst ▸ headAnchor_exportable hidentity₀ hhead₀)
  have hsecond' : verifyExternalAnchor prims keyring (second.text prims keyring) none false =
      .ok second :=
    verify_text (hsecond ▸ headAnchor_exportable hidentity₁ hhead₁)
  have hfollow : followOne prims keyring {} (first.text prims keyring) =
      .ok ⟨some (first.text prims keyring, first), [] ++ [first]⟩ :=
    followOne_eq_ok.mpr ⟨first, hfirst', by rw [hfirst]; rfl, rfl⟩
  have hstores : first.storeId = replaced.storeId.1 := by rw [hfirst, ← hstore]; rfl
  have hsequence : first.auditSequence ≤ replaced.entries.length := by
    rw [hfirst]
    exact hlength
  refine ⟨verifyAnchors_none.mpr ⟨_, bind_eq_ok.mpr ⟨_, hfollow, rfl⟩, rfl⟩, ?_, ?_, ?_⟩
  · rw [hfirst]
    exact export_eq hidentity₀ hentry₀ hhead₀ fun _ h => (nomatch h)
  · rw [export_eq hidentity₁ hentry₁ hhead₁, hsecond]
    intro raw hraw
    rw [← Option.mem_some_iff.mp hraw]
    exact ⟨first, hfirst', hstores, hsequence⟩
  · have hcontinues : continues prims (some (first.text prims keyring, first)) second =
        true := by
      simp only [continues, Bool.and_eq_true, decide_eq_true_eq]
      rw [hsecond]
      refine ⟨⟨⟨rfl, hstores.symm⟩, hsequence⟩, ?_⟩
      rw [hfirst]
      exact htime
    have hmeets : Meets prims second replaced true := by
      rw [hsecond]
      exact
        { identity := hidentity₁
          store := rfl
          application := equalsInt_int
          schema := equalsInt_int
          sequence := Nat.le_refl _
          head := fun _ => rfl
          entry := hentry₁ }
    have hfollow' : follow prims keyring
        ([first.text prims keyring] ++ [second.text prims keyring]) =
        .ok ⟨some (second.text prims keyring, second), [] ++ [first] ++ [second]⟩ :=
      foldlM_concat_eq_ok.mpr ⟨_, bind_eq_ok.mpr ⟨_, hfollow, rfl⟩,
        followOne_eq_ok.mpr ⟨second, hsecond', hcontinues, rfl⟩⟩
    exact verifyAnchorChain_database.mpr ⟨_, _, second, hfollow', rfl, hmeets, rfl⟩

/-- **A replaced history is detected exactly when it cannot take the chain on.**  No
anchor of an accepted chain is ahead of the database, and the last one is in it.  Behind
an anchor whose row was replaced every later chain is refused if and only if the database
that replaced it is under another store or has no row at or behind that anchor. -/
theorem anchor_chain_pins_iff (prims : Primitives Φ) (keyring : HmacKeyring)
    (db : AuditDatabase) :
    (∀ anchors exactHead records,
      verifyAnchorChain prims keyring anchors (some db) exactHead = .ok records →
      (∀ anchor ∈ records, anchor.auditSequence ≤ db.entries.length) ∧
        ∃ last, records.getLast? = some last ∧
          db.entryHash last.auditSequence = some last.auditEntryHash) ∧
    ∀ anchors records anchor,
      verifyAnchorChain prims keyring anchors none false = .ok (records ++ [anchor]) →
      db.entryHash anchor.auditSequence ≠ some anchor.auditEntryHash →
      ((∀ more exactHead, ∃ failure,
          verifyAnchorChain prims keyring (anchors ++ more) (some db) exactHead =
            .error failure) ↔ ¬Extendable db anchor) := by
  refine ⟨fun anchors exactHead records h => ?_, fun anchors records last hchain hne => ?_⟩
  · obtain ⟨state, raw, final, hfollow, hprevious, hmeets, rfl⟩ :=
      verifyAnchorChain_database.mp h
    have hfollowed := followed_of_follow hfollow
    refine ⟨fun anchor hanchor => ?_, final, ?_, hmeets.entry⟩
    · obtain ⟨raw', final', hprevious', hle, -⟩ := hfollowed.ordered anchor hanchor
      cases hprevious.symm.trans hprevious'
      exact hle.trans hmeets.sequence
    · rw [hfollowed.last, hprevious]
      rfl
  · have hsome : anchors ≠ [] := by
      rintro rfl
      cases hchain
    rw [verifyAnchorChain, if_neg hsome] at hchain
    obtain ⟨state, hfollow, hverified⟩ := verifyAnchors_none.mp hchain
    have hfollowed := followed_of_follow hfollow
    obtain ⟨raw, hprevious⟩ : ∃ raw, state.previous = some (raw, last) := by
      have hlast := hfollowed.last
      rw [hverified, List.getLast?_concat] at hlast
      obtain ⟨⟨raw, found⟩, hfound, rfl⟩ := Option.map_eq_some_iff.mp hlast.symm
      exact ⟨raw, hfound⟩
    constructor
    · intro hrefused hextendable
      obtain ⟨text, records', haccepted⟩ :=
        accepted_of_extendable hfollow hprevious hextendable
      obtain ⟨failure, hfails⟩ := hrefused [text] false
      rw [haccepted] at hfails
      cases hfails
    · intro hclosed more exactHead
      cases haccepted : verifyAnchorChain prims keyring (anchors ++ more) (some db)
          exactHead with
      | error failure => exact ⟨failure, rfl⟩
      | ok records' =>
        obtain ⟨state', raw', final, hfollow', hprevious', hmeets, -⟩ :=
          verifyAnchorChain_database.mp haccepted
        have hfollowed' := followed_of_follow hfollow'
        have hmem : last ∈ state'.verified := by
          rw [follow, List.foldlM_append] at hfollow'
          obtain ⟨middle, hmiddle, hmore⟩ := bind_eq_ok.mp hfollow'
          cases hmiddle.symm.trans hfollow
          exact verified_of_foldlM hmore (by rw [hverified]; simp)
        obtain ⟨raw₁, last₁, hprevious₁, hle, hstore⟩ := hfollowed'.ordered last hmem
        cases hprevious'.symm.trans hprevious₁
        exact absurd ⟨hmeets.identity, hstore.trans hmeets.store, final.auditSequence,
          final.auditEntryHash, hle, hmeets.sequence, hmeets.entry,
          hfollowed'.entry _ _ hprevious'⟩ hclosed

/-! ## A replaced history -/

section Sample

theorem isHexDigest_replicate {c : Char} (h : isLowerHex c = true) :
    isHexDigest (String.ofList (List.replicate 64 c)) = true := by
  simp only [isHexDigest, String.toList_ofList, List.length_replicate, Bool.and_eq_true,
    decide_eq_true_eq, List.all_eq_true, true_and]
  intro x hx
  rwa [List.eq_of_mem_replicate hx]

def sampleDigest (text : String) : String :=
  String.ofList (List.replicate 64 (Json.hexDigit (text.toList.length % 16)))

theorem isHexDigest_sampleDigest (text : String) : isHexDigest (sampleDigest text) = true := by
  have hdigits : ∀ n < 16, isLowerHex (Json.hexDigit n) = true := by decide
  exact isHexDigest_replicate (hdigits _ (Nat.mod_lt _ (by decide)))

def sampleParse (text : String) : Option Instant := do
  let us ← Json.readInt text.toList
  if h : Store.representable us = true then some ⟨us, h⟩ else none

theorem sampleParse_intText (t : Instant) :
    sampleParse (String.ofList (Json.intText t.us)) = some t := by
  unfold sampleParse
  rw [String.toList_ofList, Json.readInt_intText, Option.bind_eq_bind, Option.bind_some,
    dif_pos t.inRange]

theorem length_intText_instant (t : Instant) : (Json.intText t.us).length ≤ 32 := by
  have hrange := t.inRange
  simp only [Store.representable, Store.minInstant, Store.maxInstant, Bool.and_eq_true]
    at hrange
  have hdigits {n : ℕ} (h : n < 10 ^ 31) : (Nat.toDigits 10 n).length ≤ 31 :=
    (Nat.length_toDigits_le_iff (by decide) (by decide)).mpr h
  cases hus : t.us with
  | ofNat n =>
    refine (hdigits (n := n) ?_).trans (by decide)
    rw [hus] at hrange
    have hle : Int.ofNat n ≤ 253402300799999999 := of_decide_eq_true hrange.2
    have : n ≤ 253402300799999999 := Int.ofNat_le.mp hle
    omega
  | negSucc n =>
    rw [Json.intText, List.length_cons]
    refine Nat.succ_le_succ (hdigits ?_)
    rw [hus] at hrange
    have hle : -62135596800000000 ≤ Int.negSucc n := of_decide_eq_true hrange.1
    omega

def samplePrimitives : Primitives Empty where
  floats := noFloats
  floatEqInt x := x.elim
  hmac key message := sampleDigest (key ++ message)
  hmac_hex _ _ := isHexDigest_sampleDigest _
  sha256 := sampleDigest
  sha256_hex := isHexDigest_sampleDigest
  utc t := String.ofList (Json.intText t.us)
  parseUtc := sampleParse
  parseUtc_utc := sampleParse_intText
  utc_length t := by
    rw [String.toList_ofList]
    exact length_intText_instant t

def sampleKeyring : HmacKeyring where
  keys := [("key-1", "0123456789abcdef0123456789abcdef")]
  activeKeyId := "key-1"
  activeKey := "0123456789abcdef0123456789abcdef"
  ids := by decide
  active := by decide

def sampleEntry (c : Char) : String := String.ofList (List.replicate 64 c)

def sampleDatabase (c : Char) : AuditDatabase where
  storeId := ⟨String.ofList (List.replicate 32 '5'), by decide⟩
  applicationId := storeApplicationId
  schemaVersion := storeSchemaVersion
  entries := [sampleEntry c]
  bounded := (by decide : 1 < 2 ^ 63)

def sampleStart : Instant := ⟨0, by decide⟩

def sampleEnd : Instant := ⟨1, by decide⟩

def sampleAnchorId : AnchorId := ⟨genesisDigest, isHexDigest_genesisDigest⟩

/-- The anchor of the original history, and its text. -/
def firstAnchor : Anchor Empty :=
  headAnchor samplePrimitives (sampleDatabase 'a') sampleStart sampleAnchorId
    (sampleEntry 'a') none

def firstText : String := firstAnchor.text samplePrimitives sampleKeyring

/-- The anchor of the history that replaced it, and its text. -/
def secondAnchor : Anchor Empty :=
  headAnchor samplePrimitives (sampleDatabase 'b') sampleEnd sampleAnchorId
    (sampleEntry 'b') (some firstText)

def secondText : String := secondAnchor.text samplePrimitives sampleKeyring

theorem sampleEntry_hex {c : Char} (h : isLowerHex c = true) :
    isHexDigest (sampleEntry c) = true :=
  isHexDigest_replicate h

theorem firstAnchor_replaced :
    (sampleDatabase 'b').entryHash firstAnchor.auditSequence ≠
      some firstAnchor.auditEntryHash := by
  have hentry : (sampleDatabase 'b').entryHash firstAnchor.auditSequence =
      some (sampleEntry 'b') := rfl
  have hhash : firstAnchor.auditEntryHash = sampleEntry 'a' := rfl
  rw [hentry, hhash]
  decide

theorem samples_accepted :
    verifyAnchorChain samplePrimitives sampleKeyring [firstText] none false =
        .ok ([] ++ [firstAnchor]) ∧
      exportExternalAnchor samplePrimitives sampleKeyring (sampleDatabase 'a')
        sampleStart sampleAnchorId none = .ok firstText ∧
      exportExternalAnchor samplePrimitives sampleKeyring (sampleDatabase 'b')
        sampleEnd sampleAnchorId (some firstText) = .ok secondText ∧
      verifyAnchorChain samplePrimitives sampleKeyring [firstText, secondText]
        (some (sampleDatabase 'b')) true = .ok [firstAnchor, secondAnchor] :=
  @replaced_accepted _ _ _ _ (sampleDatabase 'a') (sampleDatabase 'b') sampleStart
    sampleEnd (sampleEntry 'a') (sampleEntry 'b') ⟨rfl, rfl⟩ ⟨rfl, rfl⟩ rfl rfl
    (sampleEntry_hex (by decide)) (sampleEntry_hex (by decide)) rfl (Nat.le_refl 1)
    (by decide) _ _ firstAnchor.eq_1 secondAnchor.eq_1

theorem replaced_history_accepted :
    exportExternalAnchor samplePrimitives sampleKeyring (sampleDatabase 'a')
        sampleStart sampleAnchorId none = .ok firstText ∧
      exportExternalAnchor samplePrimitives sampleKeyring (sampleDatabase 'b')
        sampleEnd sampleAnchorId (some firstText) = .ok secondText ∧
      verifyAnchorChain samplePrimitives sampleKeyring [firstText, secondText]
        (some (sampleDatabase 'b')) true = .ok [firstAnchor, secondAnchor] ∧
      (sampleDatabase 'b').entryHash firstAnchor.auditSequence ≠
        some firstAnchor.auditEntryHash :=
  ⟨samples_accepted.2.1, samples_accepted.2.2.1, samples_accepted.2.2.2,
    firstAnchor_replaced⟩

/-- The database without its row. -/
def emptiedDatabase : AuditDatabase :=
  { sampleDatabase 'a' with
    entries := []
    bounded := (by decide : 0 < 2 ^ 63) }

theorem anchor_chain_pins_iff_replaced :
    (¬∀ more exactHead, ∃ failure, verifyAnchorChain samplePrimitives sampleKeyring
        ([firstText] ++ more) (some (sampleDatabase 'b')) exactHead = .error failure) ∧
      ∀ more exactHead, ∃ failure, verifyAnchorChain samplePrimitives sampleKeyring
        ([firstText] ++ more) (some emptiedDatabase) exactHead = .error failure := by
  have hextendable : Extendable (sampleDatabase 'b') firstAnchor :=
    ⟨⟨rfl, rfl⟩, rfl, 1, sampleEntry 'b', Nat.le_refl 1, Nat.le_refl 1, rfl,
      sampleEntry_hex (by decide)⟩
  have hemptied : ¬Extendable emptiedDatabase firstAnchor := by
    rintro ⟨-, -, sequence, _, hone, hzero, -⟩
    exact absurd (hone.trans hzero) (by decide)
  have hgone : emptiedDatabase.entryHash firstAnchor.auditSequence ≠
      some firstAnchor.auditEntryHash := by
    intro h
    cases h
  refine ⟨?_, ?_⟩
  · rw [(anchor_chain_pins_iff samplePrimitives sampleKeyring (sampleDatabase 'b')).2
      [firstText] [] firstAnchor samples_accepted.1 firstAnchor_replaced]
    exact not_not.mpr hextendable
  · exact ((anchor_chain_pins_iff samplePrimitives sampleKeyring emptiedDatabase).2
      [firstText] [] firstAnchor samples_accepted.1 hgone).mpr hemptied

end Sample

end Ecosystem.Persistence
