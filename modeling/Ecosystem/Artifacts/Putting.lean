import Ecosystem.Artifacts.Recovering

/-!
# Putting an object

`put` writes a temporary file, links it to the name of its digest and removes the
temporary name, whether it succeeds or raises.  What it returns a proof of is stored.
-/

namespace Ecosystem.Artifacts

open Ecosystem.Lib Ecosystem.Lib.Checks

variable {prims : Primitives} {keyId storeId : Text} {contents : Set Bytes}

variable {faulty : Prop} {before s : Disk} {token : Token} {inode : ℕ}

variable {bytes sofar : Bytes} {raised : Disk → Prop}

/-! ## Digests -/

theorem isHex_slice {n m k : ℕ} {text : Text} (h : isHex n text = true) (hle : m + k ≤ n) :
    isHex k ((text.drop m).take k) = true := by
  simp only [isHex, Bool.and_eq_true, decide_eq_true_eq, List.all_eq_true] at h ⊢
  refine ⟨?_, fun c hc => h.2 c (List.mem_of_mem_drop (List.mem_of_mem_take hc))⟩
  rw [List.length_take, List.length_drop, h.1]
  omega

theorem isHex_take {n k : ℕ} {text : Text} (h : isHex n text = true) (hle : k ≤ n) :
    isHex k (text.take k) = true := by
  have hslice := isHex_slice (m := 0) (k := k) h (by omega)
  rwa [List.drop_zero] at hslice

theorem isArtifactRef_defaultRef {digest : Text} (h : isHex 64 digest = true) :
    isArtifactRef (defaultRef digest) = true := by
  simp only [isHex, Bool.and_eq_true, decide_eq_true_eq, List.all_eq_true] at h
  obtain ⟨hlen, hchars⟩ := h
  have halnum : ∀ c ∈ digest, c.isAlphanum = true := by
    intro c hc
    rcases Bool.or_eq_true_iff.mp (hchars c hc) with hdigit | hletter
    · simp [Char.isAlphanum, hdigit]
    · simp only [Bool.and_eq_true, decide_eq_true_eq] at hletter
      have hlower : c.isLower = true := by
        simp only [Char.isLower, Bool.and_eq_true, decide_eq_true_eq, ge_iff_le]
        exact ⟨hletter.1, UInt32.le_trans hletter.2 (by decide)⟩
      simp [Char.isAlphanum, Char.isAlpha, hlower]
  have hslash : '/' ∉ digest := fun hc => absurd (halnum _ hc) (by decide)
  have hbody : (defaultRef digest).drop 11 = lit "sha256" ++ '/' :: digest := rfl
  have hsplit : (lit "sha256" ++ '/' :: digest).splitOn '/' = [lit "sha256", digest] := by
    rw [List.splitOn_append_cons_self_of_not_mem (by decide), List.splitOn_eq_singleton hslash]
  have hdot : ∀ part : Text, '.' ∈ part → (∀ c ∈ part, c.isAlphanum = true) → False :=
    fun part hmem hall => absurd (hall _ hmem) (by decide)
  simp only [isArtifactRef, hbody, hsplit, Bool.and_eq_true, decide_eq_true_eq,
    List.all_eq_true]
  have hword : ∀ c ∈ lit "sha256", c.isAlphanum = true :=
    forall_mem_of_all (by decide)
  have hsix : (lit "sha256").length = 6 := rfl
  refine ⟨⟨⟨⟨⟨rfl, rfl⟩, ?_⟩, ?_⟩, ?_⟩, ?_⟩
  · rw [List.length_append, List.length_cons, hlen, hsix]
    omega
  · intro c hc
    rcases List.mem_append.mp hc with hhead | htail
    · simp [hword c hhead]
    · rcases List.mem_cons.mp htail with rfl | hrest
      · decide
      · simp [halnum c hrest]
  · intro part hpart
    simp only [List.mem_cons, List.not_mem_nil, or_false] at hpart
    rcases hpart with rfl | rfl
    · decide
    · exact ⟨fun heq => hdot part (by simp [heq]) halnum,
        fun heq => hdot part (by simp [heq]) halnum⟩
  · intro part hpart
    obtain rfl : part = lit "sha256" := List.mem_singleton.mp hpart
    decide

/-! ## The bytes -/

theorem safe_receive {maxBytes : Option ℤ} {chunks : List Bytes} {length : ℕ}
    (h : Writing prims keyId contents before token inode sofar s) :
    (receive inode maxBytes chunks length).Safe (Fair faulty)
      (post prims keyId contents before
        (fun _ => Writing prims keyId contents before token inode (sofar ++ chunks.flatten))
        (fun s' => ∃ part, Writing prims keyId contents before token inode part s')) s := by
  induction chunks generalizing sofar length s with
  | nil =>
    rw [List.flatten_nil, List.append_nil]
    exact h
  | cons chunk chunks ih =>
    unfold receive
    split
    · exact ⟨sofar, h⟩
    have hwrite : (writeAll inode chunk).Safe (Fair faulty)
        (post prims keyId contents before
          (fun _ => Writing prims keyId contents before token inode (sofar ++ chunk))
          (fun s' => ∃ part, Writing prims keyId contents before token inode part s')) s :=
      safe_writeRounds le_rfl h (fun _ hdone => hdone) fun _ part _ hpart => ⟨part, hpart⟩
    refine Prog.safe_bind hwrite ?_
    intro _ s' hwriting
    rw [List.flatten_cons, ← List.append_assoc]
    exact ih hwriting

theorem Writing.grown {s' : Disk} {path : Path}
    (h : Writing prims keyId contents before token inode bytes s) (hdurable : Durable path)
    (hrest : AtRest prims keyId contents before s') (hdata : s'.data = s.data)
    (hother : ∀ q, q ≠ path → s'.lookup q = s.lookup q) :
    Writing prims keyId contents before token inode bytes s' where
  rest := hrest
  temporary := by
    refine ⟨h.temporary.fresh, fun name hname => ?_⟩
    rw [hother _ (hdurable name).symm, h.temporary.others name hname]
  temp := (hother _ (hdurable _).symm).trans h.temp
  data := by rw [hdata, h.data]

theorem safe_createShard {path : Path}
    (h : Writing prims keyId contents before token inode bytes s) (hdurable : Durable path)
    (hproper : ∀ s', Kept s s' → Proper prims keyId contents s' path .directory)
    (hfile : ∀ i, s.lookup path ≠ some (.file i))
    (hparent : s.lookup path.dropLast = some .directory) :
    (createPrivateDirectory path).Safe (Fair faulty) (post prims keyId contents before
      (fun _ s' => Writing prims keyId contents before token inode bytes s' ∧ Kept s s' ∧
        s'.lookup path = some .directory) raised) s := by
  refine safe_createPrivateDirectory h.rest hproper hfile (fun hno => (hno (Or.inr hparent)).elim)
    ?_
  intro s' hrest hkept hdir hdata hother
  exact ⟨h.grown hdurable hrest hdata hother, hkept, hdir⟩

theorem Intact.shard_kind (h : Intact prims keyId contents s) {a b : Text} (i : ℕ) :
    s.lookup [objectsName, a] ≠ some (.file i) ∧
      s.lookup [objectsName, a, b] ≠ some (.file i) := by
  constructor
  · intro hfile
    exact objectsName_ne_temporaryName (h _ _ hfile).1
  · intro hfile
    exact h _ _ hfile

/-! ## The installation -/

/-- The state in front of the `finally` block of `put`. -/
structure Leaving (prims : Primitives) (keyId : Text) (contents : Set Bytes) (before : Disk)
    (token : Token) (disk : Disk) : Prop where
  underway : Underway prims keyId contents before disk
  temporary : Temporary before token disk
  but : SettledBut (tempPath token) disk

theorem Writing.leaving (h : Writing prims keyId contents before token inode bytes s) :
    Leaving prims keyId contents before token s :=
  ⟨h.underway, h.temporary, h.rest.sound.settled.but⟩

theorem Intact.stored (h : Intact prims keyId contents s)
    (hinj : Set.InjOn prims.sha256 contents) (hmem : bytes ∈ contents)
    (hsome : (s.lookup (objectPath (prims.sha256 bytes))).isSome) : Stored prims bytes s := by
  obtain ⟨entry, hlookup⟩ := Option.isSome_iff_exists.mp hsome
  have hproper := h _ _ hlookup
  cases entry with
  | directory => exact hproper.elim
  | file i =>
    obtain ⟨-, -, -, -, hin, hsha⟩ := hproper
    exact ⟨i, hlookup, hinj hin hmem hsha⟩

/-- **The `try` block of `put`**: when it comes to its end, the object is stored. -/
theorem safe_install {request : PutRequest} (hinj : Set.InjOn prims.sha256 contents)
    (hmem : request.content ∈ contents) (hprep : Prepared before)
    (hid : HasId prims keyId storeId before)
    (h : Writing prims keyId contents before token inode [] s) :
    (install prims request token inode).Safe (Fair faulty) (post prims keyId contents before
      (fun _ s' => Leaving prims keyId contents before token s' ∧
        Stored prims request.content s')
      (Leaving prims keyId contents before token)) s := by
  have hhex := prims.sha256_hex request.content
  have hreceive : (receive inode request.maxBytes request.chunks 0).Safe (Fair faulty)
      (post prims keyId contents before
        (fun _ => Writing prims keyId contents before token inode request.content)
        (Leaving prims keyId contents before token)) s := by
    refine (safe_receive h).mono (fun _ hs => hs) (fun _ _ hdone => hdone) ?_
    rintro _ s' ⟨part, hpart⟩
    exact hpart.leaving
  refine Prog.safe_bind hreceive ?_
  intro _ s₁ hwriting
  have hcheck : (Prog.ofExcept (request.checkContent prims) : DiskProg Unit).Safe (Fair faulty)
      (post prims keyId contents before (fun _ s' => s₁ = s')
        (Leaving prims keyId contents before token)) s₁ :=
    Prog.safe_ofExcept (fun _ _ => rfl) fun _ _ => hwriting.leaving
  refine Prog.safe_bind hcheck ?_
  rintro _ _ rfl
  refine Prog.safe_bind (safe_sync hwriting.underway) ?_
  rintro ⟨⟩ _ rfl
  -- the two directories of the shard
  have hobjects := (hprep.kept hwriting.rest.kept).objects
  have hone : ∀ s', Kept s₁ s' → Proper prims keyId contents s'
      [objectsName, (prims.sha256 request.content).take 2] .directory := by
    intro s' hkept
    obtain ⟨i, hi, -, -⟩ := (hid.kept hwriting.rest.kept).kept hkept
    exact ⟨rfl, isHex_take hhex (by omega), Option.isSome_of_eq_some hi⟩
  refine Prog.safe_bind (safe_createShard hwriting (durable_object _) hone
    (fun i => (hwriting.rest.sound.intact.shard_kind (b := []) i).1) hobjects) ?_
  rintro ⟨⟩ s₂ ⟨hwriting, -, hlevel⟩
  refine Prog.safe_bind (safe_createShard hwriting (durable_object _)
    (fun _ _ => ⟨rfl, isHex_take hhex (by omega), isHex_slice hhex (by omega)⟩)
    (fun i => (hwriting.rest.sound.intact.shard_kind i).2) hlevel) ?_
  rintro ⟨⟩ s₃ ⟨hwriting, hkept, hshard⟩
  have hlevel := hkept.lookup (durable_object _) hlevel
  refine Prog.safe_bind (safe_read hwriting.underway (requirePrivateDirectory_ok hlevel)) ?_
  rintro _ _ ⟨-, rfl⟩
  refine Prog.safe_bind (safe_read hwriting.underway (requirePrivateDirectory_ok hshard)) ?_
  rintro _ _ ⟨-, rfl⟩
  -- the link, or the object that is there
  have hlink : (tryLink token (objectPath (prims.sha256 request.content))).Safe (Fair faulty)
      (post prims keyId contents before
        (fun linked s' => (Leaving prims keyId contents before token s' ∧
          Stored prims request.content s') ∧ (linked = false → s₃ = s'))
        (Leaving prims keyId contents before token)) s₃ := by
    refine safe_tryLink hwriting (durable_object _) hshard ?_ ?_ ?_
    · intro s' _ hdata
      exact ⟨rfl, rfl, rfl, hhex, by rw [hdata]; exact hmem, by rw [hdata]⟩
    · intro s' hlinked
      exact ⟨⟨⟨hlinked.underway, hlinked.temporary, hlinked.but⟩, hlinked.stored⟩,
        fun hno => (nomatch hno)⟩
    · intro hsome
      exact ⟨⟨hwriting.leaving, hwriting.rest.sound.intact.stored hinj hmem hsome⟩, fun _ => rfl⟩
  refine Prog.safe_bind hlink ?_
  rintro linked s₄ ⟨hdone, -⟩
  cases linked with
  | true =>
    refine Prog.safe_bind (safe_sync hdone.1.underway) ?_
    rintro ⟨⟩ _ rfl
    refine Prog.safe_bind (safe_sync hdone.1.underway) ?_
    rintro ⟨⟩ _ rfl
    exact safe_inspect_ok hdone.1.underway rfl hdone
  | false =>
    exact safe_inspect hdone.1.underway (fun _ _ => hdone) fun _ _ => hdone.1

/-! ## Puts -/

/-- A call that ends has left the temporary names as they were. -/
structure Left (prims : Primitives) (keyId : Text) (contents : Set Bytes)
    (before disk : Disk) : Prop where
  rest : AtRest prims keyId contents before disk
  same : ∀ name, disk.lookup [temporaryName, name] = before.lookup [temporaryName, name]

/-- What `put` has come to. -/
structure Put (prims : Primitives) (keyId : Text) (contents : Set Bytes) (before : Disk)
    (storeId : Text) (request : PutRequest) (proof : Proof) (disk : Disk) : Prop where
  left : Left prims keyId contents before disk
  stored : Stored prims request.content disk
  proof_eq : ∃ reference, isArtifactRef reference = true ∧
    proof = makeProof prims keyId storeId reference (prims.sha256 request.content)
      request.content.length

theorem safe_leave {P : Disk → Prop} {released : Unit → Disk → Prop}
    (h : Leaving prims keyId contents before token s) (hP : P s)
    (hkept : ∀ s', P s → Kept s s' → P s')
    (hreleased : ∀ s', Left prims keyId contents before s' → P s' → released () s') :
    (do dropTemp token; sync : DiskProg Unit).Safe (Fair faulty)
      (post prims keyId contents before released raised) s := by
  have hdrop : (dropTemp token).Safe (Fair faulty) (post prims keyId contents before
      (fun _ s' => Left prims keyId contents before s' ∧ P s') raised) s := by
    refine safe_dropTemp h.underway h.temporary h.but fun s' hrest hk hsame => ?_
    exact ⟨⟨hrest, hsame⟩, hkept s' hP hk⟩
  refine Prog.safe_bind hdrop ?_
  rintro _ s' ⟨hleft, hP'⟩
  exact safe_inspect_ok hleft.rest.underway rfl (hreleased s' hleft hP')

/-- **`put` under the lock**: a proof is returned of what is stored, and no temporary
name is left in any case. -/
theorem safe_put {request : PutRequest} (hinj : Set.InjOn prims.sha256 contents)
    (hmem : request.content ∈ contents) (h : Sound prims keyId contents s) (hprep : Prepared s)
    (hid : HasId prims keyId storeId s) :
    (put prims keyId storeId request).Safe (Fair faulty) (post prims keyId contents s
      (Put prims keyId contents s storeId request) (Left prims keyId contents s)) s := by
  have hrest := AtRest.refl h
  have hstart : Left prims keyId contents s s := ⟨hrest, fun _ => rfl⟩
  have hcheck : (Prog.ofExcept request.check : DiskProg Unit).Safe (Fair faulty)
      (post prims keyId contents s
        (fun _ s' => s = s' ∧ request.storageRef.all isArtifactRef = true)
        (Left prims keyId contents s)) s := by
    refine Prog.safe_ofExcept (fun _ hok => ⟨rfl, ?_⟩) fun _ _ => hstart
    simp only [PutRequest.check, require_bind_eq_ok, require_eq_ok] at hok
    exact hok.2.2.2.2
  refine Prog.safe_bind hcheck ?_
  rintro _ _ ⟨rfl, href⟩
  refine Prog.safe_bind (safe_drawToken hrest.underway) ?_
  rintro token _ rfl
  have hcreate : (createTemp token).Safe (Fair faulty) (post prims keyId contents s
      (fun inode => Writing prims keyId contents s token inode [])
      (Left prims keyId contents s)) s :=
    safe_createTemp h hprep.temporaries (fun _ => hstart) fun _ _ hwriting => hwriting
  refine Prog.safe_bind hcreate ?_
  intro inode s₁ hwriting
  have hbody : ((install prims request token inode).andFinally
      (do dropTemp token; sync)).Safe (Fair faulty) (post prims keyId contents s
        (fun _ s' => Left prims keyId contents s s' ∧ Stored prims request.content s')
        (Left prims keyId contents s)) s₁ := by
    refine Prog.safe_andFinally (safe_install hinj hmem hprep hid hwriting) ?_ ?_
    · intro e s' hleaving
      exact safe_leave (P := fun _ => True) hleaving trivial (fun _ _ _ => trivial)
        fun _ hleft _ => hleft
    · rintro _ s' ⟨hleaving, hstored⟩
      exact safe_leave (P := Stored prims request.content) hleaving hstored
        (fun _ hs hk => hs.kept hk) fun _ hleft hs => ⟨hleft, hs⟩
  refine Prog.safe_bind hbody ?_
  rintro _ s₂ ⟨hleft, hstored⟩
  have hverify : (inspect (verifyObject prims (objectPath (prims.sha256 request.content))
      (prims.sha256 request.content) (some request.content.length))).Safe (Fair faulty)
      (post prims keyId contents s (fun _ s' => s₂ = s') (Left prims keyId contents s)) s₂ :=
    safe_inspect hleft.rest.underway (fun _ _ => rfl) fun _ _ => hleft
  refine Prog.safe_bind hverify ?_
  rintro _ _ rfl
  refine ⟨hleft, hstored, _, ?_, rfl⟩
  cases hreference : request.storageRef with
  | none => exact isArtifactRef_defaultRef (prims.sha256_hex _)
  | some reference =>
    rw [hreference] at href
    exact href

/-! ## Proofs -/

theorem openVerified_of_stored (hsettled : Settled s) (h : Stored prims bytes s) :
    openVerified prims (objectPath (prims.sha256 bytes)) (prims.sha256 bytes)
      (some bytes.length) s = .ok bytes := by
  obtain ⟨i, hlookup, rfl⟩ := h
  exact openVerified_ok hsettled hlookup rfl (by simp)

theorem readProof_makeProof {reference : Text} (hsettled : Settled s)
    (hreference : isArtifactRef reference = true) (h : Stored prims bytes s) :
    readProof prims keyId storeId
      (makeProof prims keyId storeId reference (prims.sha256 bytes) bytes.length) s =
        .ok bytes := by
  have hrequire : requireProof prims keyId storeId
      (makeProof prims keyId storeId reference (prims.sha256 bytes) bytes.length) = .ok () := by
    simp only [requireProof, require_bind_eq_ok, require_eq_ok, makeProof, Bool.and_eq_true,
      decide_eq_true_eq]
    exact ⟨⟨⟨⟨⟨hreference, prims.sha256_hex _⟩, decide_eq_true (Int.natCast_nonneg _)⟩, trivial⟩,
      prims.proofHmac_hex _⟩, trivial⟩
  rw [readProof, hrequire]
  exact openVerified_of_stored hsettled h

theorem proofForRecord_of_stored {reference : Text} (hsettled : Settled s)
    (hreference : isArtifactRef reference = true) (h : Stored prims bytes s) :
    proofForRecord prims keyId storeId reference (prims.sha256 bytes) bytes.length s =
      .ok (makeProof prims keyId storeId reference (prims.sha256 bytes) bytes.length) := by
  refine require_bind_eq_ok.mpr ⟨hreference, require_bind_eq_ok.mpr ⟨prims.sha256_hex _, ?_⟩⟩
  refine require_bind_eq_ok.mpr ⟨decide_eq_true (Int.natCast_nonneg _), ?_⟩
  exact bind_eq_ok.mpr ⟨(), bind_eq_ok.mpr ⟨_, openVerified_of_stored hsettled h, rfl⟩, rfl⟩

end Ecosystem.Artifacts
