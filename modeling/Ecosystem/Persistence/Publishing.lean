import Ecosystem.Persistence.AnchorChain

/-!
# Publishing anchors one after the other

Every call of `export_external_anchor` is given the anchor that the call before it
published, and the audit history only grows.  The verifier of the list asks for rising
times as well, and the clock of a call is whatever the caller hands over: the list is
accepted exactly when no call is dated before the one in front of it.
-/

namespace Ecosystem.Persistence

open Ecosystem.Lib
open Ecosystem.Store (Instant)

/-! ## A run of exports -/

/-- One call of `export_external_anchor`: the database as it is then, the keyring, the
clock and the id that is drawn. -/
structure ExportCall where
  db : AuditDatabase
  keyring : HmacKeyring
  now : Instant
  anchorId : AnchorId

structure AuditDatabase.Grows (db later : AuditDatabase) : Prop where
  store : later.storeId = db.storeId
  application : later.applicationId = db.applicationId
  schema : later.schemaVersion = db.schemaVersion
  entries : db.entries <+: later.entries

section Run

variable {Φ : Type} (prims : Primitives Φ)

/-- The published anchors behind one more call, which is given the last of them. -/
def publish (published : List String) (call : ExportCall) :
    Except Failure (List String) := do
  let text ← exportExternalAnchor prims call.keyring call.db call.now call.anchorId
    published.getLast?
  return published ++ [text]

def publishAll (calls : List ExportCall) : Except Failure (List String) :=
  calls.foldlM (publish prims) []

/-- No call is dated before the one in front of it. -/
def ClockForward (calls : List ExportCall) : Prop :=
  (calls.map (·.now.us)).IsChain (· ≤ ·)

instance (calls : List ExportCall) : Decidable (ClockForward calls) :=
  inferInstanceAs (Decidable (List.IsChain _ _))

/-- What the verifier is handed: the anchors of a run of calls on one database, all of
them under keys of one keyring, and the database at or behind its last call. -/
structure Publication (keyring : HmacKeyring) (calls : List ExportCall)
    (last : ExportCall) (published : List String) (db : AuditDatabase) : Prop where
  returned : publishAll prims (calls ++ [last]) = .ok published
  keys : ∀ call ∈ calls ++ [last], call.keyring.keys = keyring.keys
  grown : ((calls ++ [last]).map (·.db)).IsChain AuditDatabase.Grows
  database : last.db.Grows db

end Run

variable {Φ : Type} {prims : Primitives Φ} {keyring : HmacKeyring} {call : ExportCall}
  {raw text : String} {anchor before : Anchor Φ} {db later : AuditDatabase}

/-! ## One call -/

theorem verifyExternalAnchor_keys {other : HmacKeyring} (h : keyring.keys = other.keys)
    {database : Option AuditDatabase} {exactHead : Bool} :
    verifyExternalAnchor prims keyring raw database exactHead =
      verifyExternalAnchor prims other raw database exactHead := by
  have hsign (body : Members Φ) (keyId : String) :
      keyring.sign prims body keyId = other.sign prims body keyId := by
    unfold HmacKeyring.sign
    rw [h]
  have hverify (body : Members Φ) (keyId : String) (tag : Json Φ) :
      keyring.verify prims body keyId tag = other.verify prims body keyId tag := by
    unfold HmacKeyring.verify
    simp only [hsign]
  unfold verifyExternalAnchor decodeAuthenticatedRecord
  simp only [hverify]

variable {previousAnchor : Option String}

theorem text_of_export
    (h : exportExternalAnchor prims call.keyring call.db call.now call.anchorId
      previousAnchor = .ok text) :
    ∃ head, (call.db.applicationId = storeApplicationId ∧
        call.db.schemaVersion = storeSchemaVersion) ∧
      call.db.entryHash call.db.entries.length = some head ∧ isHexDigest head = true ∧
      text = (headAnchor prims call.db call.now call.anchorId head previousAnchor).text
        prims call.keyring := by
  unfold exportExternalAnchor at h
  obtain ⟨⟨⟩, hidentity, h⟩ := bind_eq_ok.mp h
  split at h
  · cases h
  next head hhead =>
    split at h
    · next hhex =>
        refine ⟨head, checkIdentity_eq_ok.mp hidentity, hhead, hhex, ?_⟩
        cases previousAnchor with
        | none => exact (Except.ok.inj h).symm
        | some raw =>
          obtain ⟨found, h⟩ := rest_ok h
          split at h
          · cases h
          exact (Except.ok.inj h).symm
    · cases h

structure PublishedBy (prims : Primitives Φ) (keyring : HmacKeyring) (call : ExportCall)
    (previousAnchor : Option String) (text : String) (anchor : Anchor Φ) : Prop where
  verified : verifyExternalAnchor prims keyring text none false = .ok anchor
  issued : anchor.issuedAt = call.now
  previous : anchor.previousAnchorDigest = previousAnchor.map prims.sha256
  meets : Meets prims anchor call.db true

theorem publishedBy_of_export (hkeys : call.keyring.keys = keyring.keys)
    (h : exportExternalAnchor prims call.keyring call.db call.now call.anchorId
      previousAnchor = .ok text) :
    ∃ anchor, PublishedBy prims keyring call previousAnchor text anchor := by
  obtain ⟨head, hidentity, hhead, hhex, rfl⟩ := text_of_export h
  refine ⟨headAnchor prims call.db call.now call.anchorId head previousAnchor,
    ?_, rfl, rfl, ?_⟩
  · rw [← verifyExternalAnchor_keys hkeys]
    exact verify_text (headAnchor_exportable hidentity hhex)
  · exact
      { identity := hidentity
        store := rfl
        application := equalsInt_int
        schema := equalsInt_int
        sequence := Nat.le_refl _
        head := fun _ => rfl
        entry := hhead }

/-! ## The database behind a call -/

theorem AuditDatabase.Grows.entryHash (h : db.Grows later) {sequence : ℕ}
    (hle : sequence ≤ db.entries.length) :
    later.entryHash sequence = db.entryHash sequence := by
  unfold AuditDatabase.entryHash
  by_cases hzero : sequence = 0
  · rw [if_pos hzero, if_pos hzero]
  · rw [if_neg hzero, if_neg hzero]
    obtain ⟨more, hmore⟩ := h.entries
    rw [← hmore, List.getElem?_append_left (by omega)]

theorem AuditDatabase.Grows.meets (h : db.Grows later) {exactHead : Bool}
    (hmeets : Meets prims anchor db true)
    (hexact : exactHead = true → later.entries.length = db.entries.length) :
    Meets prims anchor later exactHead where
  identity := by
    rw [h.application, h.schema]
    exact hmeets.identity
  store := by
    rw [h.store]
    exact hmeets.store
  application := by
    rw [h.application]
    exact hmeets.application
  schema := by
    rw [h.schema]
    exact hmeets.schema
  sequence := hmeets.sequence.trans h.entries.length_le
  head := by
    intro hhead
    rw [hexact hhead]
    exact hmeets.head rfl
  entry := by
    rw [h.entryHash hmeets.sequence]
    exact hmeets.entry

/-! ## Following what has been published -/

variable {calls : List ExportCall} {last : ExportCall} {published : List String}

theorem continues_first (h : PublishedBy prims keyring call none text anchor) :
    continues prims none anchor = true := by
  rw [continues, h.previous]
  exact decide_eq_true rfl

theorem continues_iff {earlier : ExportCall}
    (hbefore : PublishedBy prims keyring earlier previousAnchor raw before)
    (h : PublishedBy prims keyring call (some raw) text anchor)
    (hgrows : earlier.db.Grows call.db) :
    continues prims (some (raw, before)) anchor = true ↔ earlier.now.us ≤ call.now.us := by
  have hstore : anchor.storeId = before.storeId := by
    rw [h.meets.store, hbefore.meets.store, hgrows.store]
  have hsequence : before.auditSequence ≤ anchor.auditSequence := by
    rw [h.meets.head rfl, hbefore.meets.head rfl]
    exact hgrows.entries.length_le
  simp only [continues, Bool.and_eq_true, decide_eq_true_eq]
  rw [h.previous, h.issued, hbefore.issued]
  constructor
  · rintro ⟨-, htime⟩
    exact htime
  · intro htime
    exact ⟨⟨⟨rfl, hstore⟩, hsequence⟩, htime⟩

theorem clockForward_concat :
    ClockForward (calls ++ [last]) ↔ ClockForward calls ∧
      ∀ call, calls.getLast? = some call → call.now.us ≤ last.now.us := by
  unfold ClockForward
  rw [List.map_append, List.isChain_append]
  constructor
  · rintro ⟨hbefore, -, hlast⟩
    refine ⟨hbefore, fun call hcall => hlast call.now.us ?_ last.now.us rfl⟩
    rw [List.getLast?_map, hcall]
    rfl
  · rintro ⟨hbefore, hlast⟩
    refine ⟨hbefore, List.isChain_singleton _, ?_⟩
    rintro time htime _ ⟨⟩
    rw [List.getLast?_map] at htime
    obtain ⟨call, hcall, rfl⟩ := Option.map_eq_some_iff.mp htime
    exact hlast call hcall

structure RunEnd (prims : Primitives Φ) (keyring : HmacKeyring) (last : ExportCall)
    (published : List String) (raw : String) (anchor : Anchor Φ) : Prop where
  text : published.getLast? = some raw
  publishedBy : ∃ previousAnchor, PublishedBy prims keyring last previousAnchor raw anchor
  state : ∀ state, follow prims keyring published = .ok state →
    state.previous = some (raw, anchor)

/-- **The chain of a run is followed to its end exactly when the clock went forward.** -/
theorem follow_published (hrun : publishAll prims (calls ++ [last]) = .ok published)
    (hkeys : ∀ call ∈ calls ++ [last], call.keyring.keys = keyring.keys)
    (hgrown : ((calls ++ [last]).map (·.db)).IsChain AuditDatabase.Grows) :
    ∃ raw anchor, RunEnd prims keyring last published raw anchor ∧
      ((∃ state, follow prims keyring published = .ok state) ↔
        ClockForward (calls ++ [last])) := by
  induction calls using List.reverseRecOn generalizing last published with
  | nil =>
    obtain ⟨none, hnone, hstep⟩ := foldlM_concat_eq_ok.mp hrun
    cases hnone
    obtain ⟨text, hexport, hpublished⟩ := bind_eq_ok.mp hstep
    cases hpublished
    obtain ⟨anchor, hanchor⟩ := publishedBy_of_export (hkeys last (by simp)) hexport
    have hfollow : followOne prims keyring {} text = .ok ⟨some (text, anchor), [anchor]⟩ :=
      followOne_eq_ok.mpr ⟨anchor, hanchor.verified, continues_first hanchor, rfl⟩
    have hall : follow prims keyring [text] = .ok ⟨some (text, anchor), [anchor]⟩ :=
      bind_eq_ok.mpr ⟨_, hfollow, rfl⟩
    refine ⟨text, anchor, ⟨rfl, ⟨_, hanchor⟩, ?_⟩, ?_⟩
    · intro state hstate
      cases hall.symm.trans hstate
      rfl
    · constructor
      · intro _
        exact List.isChain_singleton _
      · intro _
        exact ⟨_, hall⟩
  | append_singleton calls earlier ih =>
    obtain ⟨published', hbefore, hstep⟩ := foldlM_concat_eq_ok.mp hrun
    obtain ⟨text, hexport, hpublished⟩ := bind_eq_ok.mp hstep
    cases hpublished
    rw [List.map_append, List.isChain_append] at hgrown
    obtain ⟨hgrown, -, hlink⟩ := hgrown
    obtain ⟨raw, before, hend, hiff⟩ :=
      ih hbefore (fun call hcall => hkeys call (List.mem_append_left _ hcall)) hgrown
    have hgrows : earlier.db.Grows last.db :=
      hlink earlier.db (by simp) last.db rfl
    rw [hend.text] at hexport
    obtain ⟨anchor, hanchor⟩ := publishedBy_of_export (hkeys last (by simp)) hexport
    obtain ⟨previousAnchor, hearlier⟩ := hend.publishedBy
    have hcontinues := continues_iff hearlier hanchor hgrows
    refine ⟨text, anchor, ⟨by simp, ⟨_, hanchor⟩, ?_⟩, ?_⟩
    · intro state hstate
      obtain ⟨state', -, hone⟩ := foldlM_concat_eq_ok.mp hstate
      obtain ⟨found, hverify, -, rfl⟩ := followOne_eq_ok.mp hone
      cases hverify.symm.trans hanchor.verified
      rfl
    · rw [clockForward_concat, ← hiff]
      constructor
      · rintro ⟨state, hstate⟩
        obtain ⟨state', hstate', hone⟩ := foldlM_concat_eq_ok.mp hstate
        refine ⟨⟨state', hstate'⟩, ?_⟩
        intro call hcall
        obtain rfl : earlier = call := by simpa using hcall
        obtain ⟨found, hverify, hfits, -⟩ := followOne_eq_ok.mp hone
        cases hverify.symm.trans hanchor.verified
        rw [hend.state state' hstate'] at hfits
        exact hcontinues.mp hfits
      · rintro ⟨⟨state', hstate'⟩, htime⟩
        refine ⟨_, foldlM_concat_eq_ok.mpr ⟨state', hstate', followOne_eq_ok.mpr
          ⟨anchor, hanchor.verified, ?_, rfl⟩⟩⟩
        rw [hend.state state' hstate']
        exact hcontinues.mpr (htime earlier (by simp))

/-! ## Verifying what has been published -/

def Asks (last : ExportCall) (db : AuditDatabase) (database : Option AuditDatabase)
    (exactHead : Bool) : Prop :=
  database = none ∨ database = some db ∧
    (exactHead = true → db.entries.length = last.db.entries.length)

/-- **Published anchors chain exactly when the clock went forward.**  For every run of
calls on one database, under any active keys of one keyring, `verify_anchor_chain`
accepts the published list if and only if no call is dated before the one in front of
it. -/
theorem published_chain_iff (h : Publication prims keyring calls last published db)
    {database : Option AuditDatabase} {exactHead : Bool}
    (hasks : Asks last db database exactHead) :
    (∃ records, verifyAnchorChain prims keyring published database exactHead =
        .ok records) ↔ ClockForward (calls ++ [last]) := by
  obtain ⟨raw, anchor, hend, hiff⟩ := follow_published h.returned h.keys h.grown
  rw [← hiff]
  rcases hasks with rfl | ⟨rfl, hexact⟩
  · have hne : published ≠ [] := by
      rintro rfl
      cases hend.text
    rw [verifyAnchorChain, if_neg hne]
    constructor
    · rintro ⟨records, hrecords⟩
      obtain ⟨state, hstate, -⟩ := verifyAnchors_none.mp hrecords
      exact ⟨state, hstate⟩
    · rintro ⟨state, hstate⟩
      exact ⟨_, verifyAnchors_none.mpr ⟨state, hstate, rfl⟩⟩
  · constructor
    · rintro ⟨records, hrecords⟩
      obtain ⟨state, -, -, hstate, -⟩ := verifyAnchorChain_database.mp hrecords
      exact ⟨state, hstate⟩
    · rintro ⟨state, hstate⟩
      obtain ⟨_, hlast⟩ := hend.publishedBy
      exact ⟨_, verifyAnchorChain_database.mpr ⟨state, raw, anchor, hstate,
        hend.state state hstate, h.database.meets hlast.meets hexact, rfl⟩⟩

/-! ## Two calls -/

section Sample

def sampleCall (now : Instant) : ExportCall :=
  ⟨sampleDatabase 'a', sampleKeyring, now, sampleAnchorId⟩

def samplePublished (now : Instant) (previousAnchor : Option String) : String :=
  (headAnchor samplePrimitives (sampleDatabase 'a') now sampleAnchorId (sampleEntry 'a')
    previousAnchor).text samplePrimitives sampleKeyring

theorem sample_export {now : Instant} {previousAnchor : Option String}
    (h : ∀ raw ∈ previousAnchor, ∃ before,
      verifyExternalAnchor samplePrimitives sampleKeyring raw none false = .ok before ∧
        before.storeId = (sampleDatabase 'a').storeId.1 ∧
        before.auditSequence ≤ (sampleDatabase 'a').entries.length) :
    exportExternalAnchor samplePrimitives sampleKeyring (sampleDatabase 'a') now
      sampleAnchorId previousAnchor = .ok (samplePublished now previousAnchor) :=
  export_eq ⟨rfl, rfl⟩ rfl (sampleEntry_hex (by decide)) h

theorem sample_publication (first second : Instant) :
    Publication samplePrimitives sampleKeyring [sampleCall first] (sampleCall second)
      [samplePublished first none,
        samplePublished second (some (samplePublished first none))]
      (sampleDatabase 'a') where
  returned := by
    have hfirst : publish samplePrimitives [] (sampleCall first) =
        .ok [samplePublished first none] :=
      bind_eq_ok.mpr ⟨_, sample_export fun _ h => (nomatch h), rfl⟩
    have hsecond : publish samplePrimitives [samplePublished first none]
        (sampleCall second) = .ok ([samplePublished first none] ++
          [samplePublished second (some (samplePublished first none))]) := by
      refine bind_eq_ok.mpr ⟨_, sample_export ?_, rfl⟩
      rintro _ ⟨⟩
      exact ⟨_, verify_text (headAnchor_exportable ⟨rfl, rfl⟩
        (sampleEntry_hex (by decide))), rfl, Nat.le_refl 1⟩
    exact bind_eq_ok.mpr ⟨_, hfirst, bind_eq_ok.mpr ⟨_, hsecond, rfl⟩⟩
  keys := by simp [sampleCall]
  grown := by
    have hgrows : (sampleDatabase 'a').Grows (sampleDatabase 'a') :=
      ⟨rfl, rfl, rfl, List.prefix_refl _⟩
    exact .cons_cons hgrows (List.isChain_singleton _)
  database := ⟨rfl, rfl, rfl, List.prefix_refl _⟩

theorem published_chain_iff_forward :
    ∃ records, verifyAnchorChain samplePrimitives sampleKeyring
      [samplePublished sampleStart none,
        samplePublished sampleEnd (some (samplePublished sampleStart none))]
      (some (sampleDatabase 'a')) true = .ok records :=
  (published_chain_iff (sample_publication sampleStart sampleEnd)
    (.inr ⟨rfl, fun _ => rfl⟩)).mpr (by decide)

/-- The clock goes back between two calls: both return, and the list that the sink holds
is refused. -/
theorem backward_clock_unverifiable :
    publishAll samplePrimitives ([sampleCall sampleEnd] ++ [sampleCall sampleStart]) =
        .ok [samplePublished sampleEnd none,
          samplePublished sampleStart (some (samplePublished sampleEnd none))] ∧
      ¬∃ records, verifyAnchorChain samplePrimitives sampleKeyring
        [samplePublished sampleEnd none,
          samplePublished sampleStart (some (samplePublished sampleEnd none))]
        none false = .ok records := by
  have hpublication := sample_publication sampleEnd sampleStart
  refine ⟨hpublication.returned, ?_⟩
  rintro ⟨records, hrecords⟩
  obtain ⟨_, _, _, hiff⟩ :=
    follow_published hpublication.returned hpublication.keys hpublication.grown
  rw [verifyAnchorChain, if_neg (by simp)] at hrecords
  obtain ⟨state, hstate, -⟩ := verifyAnchors_none.mp hrecords
  exact absurd (hiff.mp ⟨state, hstate⟩) (by decide)

end Sample

end Ecosystem.Persistence
