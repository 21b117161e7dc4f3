import Ecosystem.Artifacts.Putting
import Ecosystem.Artifacts.Identity

/-!
# Histories with crashes

Any number of processes open the store, put, verify and read, one call at a time, and a
call may be cut short anywhere.  A disk that a crash has left halfway cannot be opened
and is not taken any further; every other disk holds what a proof was returned for.
-/

namespace Ecosystem.Artifacts

open Ecosystem.Lib

/-! ## Calls -/

inductive Call
  | prepare (step : DiskProg Unit)
  /-- The rest of an opening whose first part is done. -/
  | openLocked
  | openStore
  | put (storeId : Text) (request : PutRequest)
  | verify
  | verifyAvailability (storeId : Text) (proof : Proof)
  | openVerified (storeId : Text) (proof : Proof)
  | collect

inductive Answer
  | nothing
  | handle (storeId : Text)
  | given (proof : Proof) (bytes : Bytes)

/-- The disk, the ids that handles hold, and the proofs that have been returned with what
was put. -/
structure World where
  disk : Disk
  handles : List Text
  issued : List (Proof × Bytes)

def World.new : World := ⟨FileSystem.empty, [], []⟩

def World.answered (world : World) (disk : Disk) : Answer → World
  | .nothing => { world with disk := disk }
  | .handle storeId => { world with disk := disk, handles := storeId :: world.handles }
  | .given proof bytes => { world with disk := disk, issued := (proof, bytes) :: world.issued }

section Store

variable (prims : Primitives) (keyId : Text)

def Call.program : Call → DiskProg Answer
  | .prepare step => do
    step
    return .nothing
  | .openLocked => do
    let storeId ← Artifacts.openLocked prims keyId
    return .handle storeId
  | .openStore => do
    let storeId ← Artifacts.openStore prims keyId
    return .handle storeId
  | .put storeId request => do
    let proof ← Artifacts.put prims keyId storeId request
    return .given proof request.content
  | .verify => do
    inspect (verifyLocked prims)
    return .nothing
  | .verifyAvailability storeId proof => do
    inspect (Artifacts.verifyAvailability prims keyId storeId proof)
    return .nothing
  | .openVerified storeId proof => do
    let _ ← inspect (readProof prims keyId storeId proof)
    return .nothing
  | .collect => do
    let _ ← collectTemps
    return .nothing

def World.run (world : World) (call : Call) (script : List Input) : World :=
  match (call.program prims keyId).run script world.disk with
  | (.returned answer, disk) => world.answered disk answer
  | (_, disk) => { world with disk := disk }

def World.ends (world : World) (call : Call) (script : List Input) : Prop :=
  ((call.program prims keyId).run script world.disk).1 ≠ .crashed

/-- A call that can be made: what it needs it has got from an earlier one. -/
def Call.Possible (contents : Set Bytes) (world : World) : Call → Prop
  | .prepare step => step ∈ prepareSteps
  | .openLocked => Prepared world.disk
  | .openStore => True
  | .put storeId request => storeId ∈ world.handles ∧ request.content ∈ contents
  | .verify => world.handles ≠ []
  | .verifyAvailability storeId _ => storeId ∈ world.handles
  | .openVerified storeId _ => storeId ∈ world.handles
  | .collect => world.handles ≠ []

/-- What comes about when no call follows on a disk that is halfway. -/
inductive Reached (contents : Set Bytes) : World → Prop
  | new : Reached contents World.new
  | call {world : World} (h : Reached contents world) (hclean : ¬ Halfway world.disk)
      {call : Call} (hcall : call.Possible contents world) (script : List Input) :
      Reached contents (world.run prims keyId call script)

/-! ## What a call keeps -/

def Issued (disk : Disk) (entry : Proof × Bytes) : Prop :=
  ∃ storeId reference, HasId prims keyId storeId disk ∧ isArtifactRef reference = true ∧
    entry.1 = makeProof prims keyId storeId reference (prims.sha256 entry.2) entry.2.length ∧
    Stored prims entry.2 disk

structure World.Sound (contents : Set Bytes) (world : World) : Prop where
  intact : Intact prims keyId contents world.disk
  links : Settled world.disk ∨ Halfway world.disk
  handles : ∀ storeId ∈ world.handles, HasId prims keyId storeId world.disk ∧
    Prepared world.disk
  issued : ∀ entry ∈ world.issued, Issued prims keyId world.disk entry

def Answer.Holds (disk : Disk) : Answer → Prop
  | .nothing => True
  | .handle storeId => HasId prims keyId storeId disk ∧ Prepared disk
  | .given proof bytes => Issued prims keyId disk (proof, bytes)

end Store

variable {prims : Primitives} {keyId : Text} {contents : Set Bytes} {world : World}

variable {faulty : Prop} {before s : Disk}

theorem safe_reading {α : Type} (read : Disk → Except Failure α)
    (h : Sound prims keyId contents s) :
    (do let _ ← inspect read; return .nothing : DiskProg Answer).Safe (Fair faulty)
      (post prims keyId contents s (fun answer s' => AtRest prims keyId contents s s' ∧
        answer.Holds prims keyId s') (AtRest prims keyId contents s)) s := by
  have hrest := AtRest.refl h
  have hread : (inspect read).Safe (Fair faulty) (post prims keyId contents s
      (fun _ s' => s = s') (AtRest prims keyId contents s)) s :=
    safe_inspect hrest.underway (fun _ _ => rfl) fun _ _ => hrest
  refine Prog.safe_bind hread ?_
  rintro _ _ rfl
  exact ⟨hrest, trivial⟩

/-- **Every call** keeps the disk intact at each step, and one that ends leaves no
installation halfway. -/
theorem safe_call (hinj : Set.InjOn prims.sha256 contents) {call : Call}
    (hworld : world.Sound prims keyId contents) (hsettled : Settled world.disk)
    (hcall : call.Possible contents world) :
    (call.program prims keyId).Safe (Fair True) (post prims keyId contents world.disk
      (fun answer s' => AtRest prims keyId contents world.disk s' ∧
        answer.Holds prims keyId s') (AtRest prims keyId contents world.disk)) world.disk := by
  have hsound : Sound prims keyId contents world.disk := ⟨hworld.intact, hsettled⟩
  have hrest := AtRest.refl hsound
  have hopened : ∀ {p : DiskProg Text},
      p.Safe (Fair True) (post prims keyId contents world.disk
        (Opened prims keyId contents world.disk)
        (fun s' => True ∧ AtRest prims keyId contents world.disk s')) world.disk →
      (do let storeId ← p; return .handle storeId : DiskProg Answer).Safe (Fair True)
        (post prims keyId contents world.disk
          (fun answer s' => AtRest prims keyId contents world.disk s' ∧
            answer.Holds prims keyId s')
          (AtRest prims keyId contents world.disk)) world.disk := by
    intro p hp
    have hopens : p.Safe (Fair True) (post prims keyId contents world.disk
        (Opened prims keyId contents world.disk)
        (AtRest prims keyId contents world.disk)) world.disk :=
      hp.mono (fun _ hs => hs) (fun _ _ hs => hs) fun _ _ hs => hs.2
    refine Prog.safe_bind hopens fun storeId s' hopened => ?_
    exact ⟨hopened.rest, hopened.hasId, hopened.prepared⟩
  cases call with
  | prepare step =>
    refine Prog.safe_bind (safe_prepareStep hcall hrest) ?_
    rintro _ s' hdone
    exact ⟨hdone, trivial⟩
  | openLocked => exact hopened (safe_openLocked hrest hcall)
  | openStore => exact hopened (safe_openStore hsound)
  | put storeId request =>
    obtain ⟨hhandle, hmem⟩ := hcall
    obtain ⟨hid, hprep⟩ := hworld.handles storeId hhandle
    have hput : (put prims keyId storeId request).Safe (Fair True)
        (post prims keyId contents world.disk
          (Put prims keyId contents world.disk storeId request)
          (AtRest prims keyId contents world.disk)) world.disk :=
      (safe_put hinj hmem hsound hprep hid).mono (fun _ hs => hs) (fun _ _ hs => hs)
        fun _ _ hs => hs.rest
    refine Prog.safe_bind hput fun proof s' hdone => ?_
    obtain ⟨reference, href, hproof⟩ := hdone.proof_eq
    exact ⟨hdone.left.rest, storeId, reference, hid.kept hdone.left.rest.kept, href, hproof,
      hdone.stored⟩
  | verify | verifyAvailability storeId proof | openVerified storeId proof =>
    exact safe_reading _ hsound
  | collect =>
    have hcollect : collectTemps.Safe (Fair True) (post prims keyId contents world.disk
        (fun _ => AtRest prims keyId contents world.disk)
        (AtRest prims keyId contents world.disk)) world.disk :=
      (safe_collectTemps hrest).mono (fun _ hs => hs) (fun _ _ hs => hs.1)
        fun _ _ hno => hno.elim
    refine Prog.safe_bind hcollect fun _ s' hdone => ?_
    exact ⟨hdone, trivial⟩

theorem Issued.kept {disk disk' : Disk} {entry : Proof × Bytes}
    (h : Issued prims keyId disk entry) (hk : Kept disk disk') : Issued prims keyId disk' entry := by
  obtain ⟨storeId, reference, hid, href, hproof, hstored⟩ := h
  exact ⟨storeId, reference, hid.kept hk, href, hproof, hstored.kept hk⟩

theorem World.Sound.settled (h : world.Sound prims keyId contents)
    (hclean : ¬ Halfway world.disk) : Settled world.disk :=
  h.links.resolve_right hclean

theorem World.Sound.next {disk : Disk} (h : world.Sound prims keyId contents)
    (hunderway : Underway prims keyId contents world.disk disk) :
    World.Sound prims keyId contents { world with disk := disk } where
  intact := hunderway.intact
  links := hunderway.links
  handles := by
    intro storeId hmem
    obtain ⟨hid, hprep⟩ := h.handles storeId hmem
    exact ⟨hid.kept hunderway.kept, hprep.kept hunderway.kept⟩
  issued := fun entry hmem => (h.issued entry hmem).kept hunderway.kept

theorem World.Sound.answered {disk : Disk} {answer : Answer}
    (h : World.Sound prims keyId contents { world with disk := disk })
    (hanswer : answer.Holds prims keyId disk) :
    (world.answered disk answer).Sound prims keyId contents := by
  cases answer with
  | nothing => exact h
  | handle storeId =>
    refine ⟨h.intact, h.links, fun id hmem => ?_, h.issued⟩
    rcases List.mem_cons.mp hmem with rfl | hmem
    · exact hanswer
    · exact h.handles id hmem
  | given proof bytes =>
    refine ⟨h.intact, h.links, h.handles, fun entry hmem => ?_⟩
    rcases List.mem_cons.mp hmem with rfl | hmem
    · exact hanswer
    · exact h.issued entry hmem

/-- One call, cut short or not, keeps the invariant; and it leaves the disk halfway only
when it is cut short. -/
theorem World.Sound.run (hinj : Set.InjOn prims.sha256 contents) {call : Call}
    (h : world.Sound prims keyId contents) (hclean : ¬ Halfway world.disk)
    (hcall : call.Possible contents world) (script : List Input) :
    (world.run prims keyId call script).Sound prims keyId contents ∧
      (world.ends prims keyId call script →
        ¬ Halfway (world.run prims keyId call script).disk) := by
  have hfair : ∀ i ∈ script, Fair True i := fun _ _ => Or.inl trivial
  have hrun := (safe_call hinj h (h.settled hclean) hcall).run hfair
  unfold World.run World.ends
  cases hend : (call.program prims keyId).run script world.disk with
  | mk ending disk =>
    rw [hend] at hrun
    cases ending with
    | returned answer =>
      obtain ⟨hrest, hanswer⟩ := hrun
      refine ⟨(h.next hrest.underway).answered hanswer, fun _ => ?_⟩
      have hdisk : (world.answered disk answer).disk = disk := by cases answer <;> rfl
      rw [hdisk]
      exact not_halfway hrest.sound.settled
    | raised e => exact ⟨h.next hrun.underway, fun _ => not_halfway hrun.sound.settled⟩
    | crashed => exact ⟨h.next hrun, fun hno => absurd rfl hno⟩

theorem World.Sound.new : World.new.Sound prims keyId contents where
  intact := fun path entry h => by
    simp [World.new, FileSystem.empty, FileSystem.lookup] at h
  links := Or.inl fun p q i h => by
    simp [World.new, FileSystem.empty, FileSystem.lookup] at h
  handles := fun _ h => (nomatch h)
  issued := fun _ h => (nomatch h)

/-- **Every history** keeps the invariant. -/
theorem Reached.sound (hinj : Set.InjOn prims.sha256 contents)
    (h : Reached prims keyId contents world) : world.Sound prims keyId contents := by
  induction h with
  | new => exact World.Sound.new
  | call _ hclean hcall script ih => exact (ih.run hinj hclean hcall script).1

/-! ## Opening again -/

/-- An opening that removes what crashes have left and gives back what was put. -/
def World.Recovers (prims : Primitives) (keyId : Text) (world : World)
    (inputs : ℕ → Input) : Prop :=
  ∃ storeId disk, (openStore prims keyId).complete inputs world.disk = (.ok storeId, disk) ∧
    disk.children temporaryPath = [] ∧
    ∀ entry ∈ world.issued, verifyAvailability prims keyId storeId entry.1 disk = .ok () ∧
        readProof prims keyId storeId entry.1 disk = .ok entry.2

theorem Issued.read {entry : Proof × Bytes} {storeId : Text} (h : Issued prims keyId s entry)
    (hsettled : Settled s) (hid : HasId prims keyId storeId s) :
    readProof prims keyId storeId entry.1 s = .ok entry.2 := by
  obtain ⟨storeId', reference, hid', href, hproof, hstored⟩ := h
  rw [hproof, hid'.unique hid]
  exact readProof_makeProof hsettled href hstored

theorem Halfway.closes (h : Halfway world.disk) (inputs : ℕ → Input) :
    ¬ world.Recovers prims keyId inputs := by
  rintro ⟨storeId, disk, hopens, -, -⟩
  have hrefuses : (openStore prims keyId).Safe (Fair True) (refusal Text fun _ => False)
      world.disk := refused_openStore h
  have hrefused := hrefuses.complete fun n => (Or.inl trivial : Fair True (inputs n))
  rw [hopens] at hrefused
  exact hrefused

theorem World.Sound.recovers (h : world.Sound prims keyId contents)
    (hclean : ¬ Halfway world.disk) {inputs : ℕ → Input} (hinputs : ∀ n, 1 ≤ (inputs n).written) :
    world.Recovers prims keyId inputs := by
  have hfair : ∀ n, Fair False (inputs n) := fun n => Or.inr (hinputs n)
  have hopen := (safe_openStore ⟨h.intact, h.settled hclean⟩).complete hfair
  cases hrun : (openStore prims keyId).complete inputs world.disk with
  | mk result disk =>
    rw [hrun] at hopen
    cases result with
    | error e => exact hopen.1.elim
    | ok storeId =>
      refine ⟨storeId, disk, hrun, hopen.clean, fun entry hentry => ?_⟩
      have hread := ((h.issued entry hentry).kept hopen.rest.kept).read
        hopen.rest.sound.settled hopen.hasId
      refine ⟨?_, hread⟩
      rw [verifyAvailability, hread]
      rfl

/-- **The store survives exactly the crashes that leave no installation halfway.**  From
every disk that a history has come to, an opening succeeds, removes the temporary names
and gives every object back under its proof, if and only if no temporary name shares
its inode with another name; and only a call that is cut short leaves such a disk. -/
theorem store_reopens_iff (hinj : Set.InjOn prims.sha256 contents)
    (h : Reached prims keyId contents world) {inputs : ℕ → Input}
    (hinputs : ∀ n, 1 ≤ (inputs n).written) :
    (world.Recovers prims keyId inputs ↔ ¬ Halfway world.disk) ∧
      (¬ Halfway world.disk → ∀ (call : Call) script, call.Possible contents world →
        world.ends prims keyId call script →
        ¬ Halfway (world.run prims keyId call script).disk) := by
  refine ⟨⟨?_, fun hclean => (h.sound hinj).recovers hclean hinputs⟩, ?_⟩
  · exact fun hrecovers hhalfway => Halfway.closes hhalfway inputs hrecovers
  · intro hclean call script hcall hends
    exact ((h.sound hinj).run hinj hclean hcall script).2 hends

/-! ### A crash between the link and the removal -/

/-- The digest of the one object of the sample, and the keyed hashes of its identity and
its proof. -/
def samplePrimitives : Primitives :=
  primitivesOf
    (fun _ => lit "4bf5122f344554c53bde2ebb8cd2b7e3d1600ad631c385a5d7cce23c7785459a")
    (fun _ => by rfl)
    (fun _ => lit "c625eec053a71c5934ef296e3facfbec91dff845807c4190ced6c57c4bf70d79")
    (fun _ => lit "f039af168e76341d23819649db274e80cf40417dc3bdad89c0d34e11d4835646")
    (fun _ => by rfl)

def sampleKey : Text := lit "test-key-1"

def sampleToken : Token := ⟨List.replicate 32 '0', by decide⟩

def sampleInput : Input := ⟨sampleToken, 4096⟩

def sampleRequest : PutRequest where
  chunks := [[1]]
  breaks := false
  storageRef := none
  expectedSha256 := none
  expectedByteLength := none
  maxBytes := none
  chunkSize := 1048576

def openedWorld : World :=
  World.new.run samplePrimitives sampleKey .openStore (List.replicate 40 sampleInput)

/-- An object is put, up to a number of steps. -/
def putWorld (steps : ℕ) : World :=
  openedWorld.run samplePrimitives sampleKey (.put sampleToken.val sampleRequest)
    (List.replicate steps sampleInput)

/-- The process stops after `os.link`. -/
def crashedWorld : World := putWorld 9

theorem sampleWorlds_links :
    openedWorld.handles = [sampleToken.val] ∧
      openedWorld.disk.children temporaryPath = [] ∧
      (putWorld 40).disk.children temporaryPath = [] ∧
      (putWorld 40).issued.map (·.2) = [[1]] ∧
      crashedWorld.disk.lookup (tempPath sampleToken) = some (.file 2) ∧
      crashedWorld.disk.lookup (objectPath (samplePrimitives.sha256 [1])) = some (.file 2) := by
  decide +kernel

theorem not_halfway_of_clean (h : s.children temporaryPath = []) : ¬ Halfway s := by
  rintro ⟨name, path, i, -, htemp, -⟩
  have hmem : [temporaryName, name] ∈ s.children temporaryPath :=
    mem_temporaries.mpr ⟨Option.isSome_of_eq_some htemp, name, rfl⟩
  rw [h] at hmem
  cases hmem

theorem injOn_sample : Set.InjOn samplePrimitives.sha256 {[1]} := Set.injOn_singleton _ _

theorem reached_openedWorld : Reached samplePrimitives sampleKey {[1]} openedWorld :=
  @Reached.call _ _ _ _ Reached.new (not_halfway_of_clean rfl) .openStore trivial _

theorem reached_putWorld (steps : ℕ) :
    Reached samplePrimitives sampleKey {[1]} (putWorld steps) := by
  obtain ⟨hhandles, hclean, -⟩ := sampleWorlds_links
  refine reached_openedWorld.call (not_halfway_of_clean hclean) ?_ _
  show _ ∈ openedWorld.handles ∧ _
  rw [hhandles]
  exact ⟨List.mem_singleton.mpr rfl, rfl⟩

theorem store_reopens_iff_stored :
    (putWorld 40).issued.map (·.2) = [[1]] ∧
      (putWorld 40).Recovers samplePrimitives sampleKey (fun _ => sampleInput) := by
  obtain ⟨-, -, hclean, hissued, -⟩ := sampleWorlds_links
  exact ⟨hissued, (store_reopens_iff injOn_sample (reached_putWorld 40)
    fun _ => (by decide : 1 ≤ 4096)).1.mpr (not_halfway_of_clean hclean)⟩

/-- **A process that stops between the link and the removal closes the store for good.** -/
theorem crashed_store_refused :
    Reached samplePrimitives sampleKey {[1]} crashedWorld ∧
      ∀ inputs : ℕ → Input, ¬ crashedWorld.Recovers samplePrimitives sampleKey inputs := by
  obtain ⟨-, -, -, -, htemp, hobject⟩ := sampleWorlds_links
  have hhalfway : Halfway crashedWorld.disk :=
    ⟨_, _, 2, durable_object _ _, htemp, hobject⟩
  exact ⟨reached_putWorld 9, fun inputs => hhalfway.closes inputs⟩

end Ecosystem.Artifacts
