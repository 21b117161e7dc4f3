import Ecosystem.Changes.Racing

/-!
# What a racing broker preserves

Up to its rename the broker leaves the target alone (`At`).  The rename brings out what
stands there, and `settle` removes it or puts it back if it can read it.  So content is
lost only when it arrives between the last look and the rename and is unreadable.
-/

namespace Ecosystem.Changes.Racing

open Ecosystem.Lib

variable {cfg : Settings} {names : Names}

/-! ## Rules for steps -/

section Rules

variable {α : Type} {Q : α → Workspace → Prop} {E : Failure → Workspace → Prop}
  {ws : Workspace}

theorem wp_arrive {moment : Moment} {Q : Unit → Workspace → Prop} :
    Wp (arrive names moment) Q E ws ↔ Q () (ws.pass names moment) :=
  Iff.rfl

variable {name : String}

theorem wp_observe {Q : Option (File × Node) → Workspace → Prop}
    (hnone : ws.files name = none → Q none ws)
    (hok : ∀ item o, ws.files name = some item → readFileState cfg item = .ok o →
      Q (some o) ws) (herror : ∀ item code, ws.files name = some item →
      readFileState cfg item = .error code → E (.broker code) ws) :
    Wp (observe cfg name) Q E ws := by
  rw [observe, wp_bind, wp_get]
  cases hname : ws.files name with
  | none => exact hnone hname
  | some item =>
    cases hread : readFileState cfg item with
    | error code =>
      simp only [hread]
      exact herror item code hname hread
    | ok o =>
      simp only [hread]
      exact hok item o hname hread

theorem wp_check {ok : Bool} {code : String} {Q : Unit → Workspace → Prop}
    (hok : ok = true → Q () ws) (herror : ok = false → E (.broker code) ws) :
    Wp (check ok code) Q E ws := by
  cases ok with
  | true => exact hok rfl
  | false => exact herror rfl

theorem wp_runHook {raises : Bool} {Q : Unit → Workspace → Prop}
    (hok : raises = false → Q () ws) (herror : raises = true → E .hook ws) :
    Wp (runHook raises) Q E ws := by
  cases raises with
  | true => exact herror rfl
  | false => exact hok rfl

theorem wp_unlink {Q : Unit → Workspace → Prop} (hok : ∀ item, ws.files name = some item →
      Q () { ws with files := setFile ws.files name none, removed := ws.removed ++ [item] })
    (herror : ws.files name = none → E .os ws) : Wp (unlink name) Q E ws := by
  rw [unlink, wp_bind, wp_get]
  cases hname : ws.files name with
  | none => exact herror hname
  | some item => exact hok item hname

theorem wp_renameNoReplace {source target : String} {Q : Unit → Workspace → Prop}
    (hok : ∀ item, ws.files source = some item → ws.files target = none →
      Q () { ws with
        files := setFile (setFile ws.files source none) target (some item) })
    (herror : ws.files source = none ∨ ws.files target ≠ none →
      E (.broker "ECO_EXPECTED_BEFORE_MISMATCH") ws) :
    Wp (renameNoReplace source target) Q E ws := by
  rw [renameNoReplace, wp_bind, wp_get]
  cases hsource : ws.files source with
  | none => exact herror (Or.inl hsource)
  | some item =>
    cases htarget : ws.files target with
    | none => exact hok item hsource htarget
    | some old => exact herror (Or.inr (by simp [htarget]))

theorem wp_renameExchange {source target : String} {Q : Unit → Workspace → Prop}
    (hok : ∀ item old, ws.files source = some item → ws.files target = some old →
      Q () { ws with
        files := setFile (setFile ws.files source (some old)) target (some item) })
    (herror : ws.files source = none ∨ ws.files target = none →
      E (.broker "ECO_EXPECTED_BEFORE_MISMATCH") ws) :
    Wp (renameExchange source target) Q E ws := by
  rw [renameExchange, wp_bind, wp_get]
  cases hsource : ws.files source with
  | none => exact herror (Or.inl hsource)
  | some item =>
    cases htarget : ws.files target with
    | none => exact herror (Or.inr htarget)
    | some old => exact hok item old hsource htarget

@[simp] theorem setFile_self {files : String → Option Item}
    {item : Option Item} : setFile files name item name = item :=
  if_pos rfl

theorem setFile_of_ne {files : String → Option Item} {name other : String}
    {item : Option Item} (h : other ≠ name) : setFile files name item other = files other :=
  if_neg h

end Rules

/-! ## The other process -/

/-- A call has raised, and under the target name stands what the others have left. -/
def Intact (names : Names) (e : Failure) (ws : Workspace) : Prop :=
  e ≠ .os ∧ ws.files names.target = ws.left

theorem pass_cases (names : Names) (ws : Workspace) (moment : Moment) :
    ws.pass names moment = ws ∨ ∃ item, ws.edit = some (moment, item) ∧
      ws.pass names moment = { ws with
          files := setFile ws.files names.target (some item)
          edit := none
          left := some item } := by
  rw [Workspace.pass]
  cases hedit : ws.edit with
  | none => exact Or.inl rfl
  | some edit =>
    obtain ⟨m, item⟩ := edit
    dsimp only
    by_cases hm : m = moment
    · rw [if_pos hm]
      exact Or.inr ⟨item, by rw [hm], rfl⟩
    · rw [if_neg hm]
      exact Or.inl rfl

theorem pass_temporary (ws : Workspace) (moment : Moment) :
    (ws.pass names moment).files names.temporary = ws.files names.temporary := by
  rcases pass_cases names ws moment with h | ⟨item, -, h⟩
  · rw [h]
  · rw [h]
    exact setFile_of_ne names.distinct.symm

theorem pass_removed (ws : Workspace) (moment : Moment) :
    (ws.pass names moment).removed = ws.removed := by
  rcases pass_cases names ws moment with h | ⟨item, -, h⟩
  · rw [h]
  · rw [h]

theorem pass_target {ws : Workspace} {moment : Moment}
    (h : ws.files names.target = ws.left) :
    (ws.pass names moment).files names.target = (ws.pass names moment).left := by
  rcases pass_cases names ws moment with hp | ⟨item, -, hp⟩
  · rw [hp]
    exact h
  · rw [hp]
    exact setFile_self

theorem intact_pass {e : Failure} {ws : Workspace} {moment : Moment} (h : Intact names e ws) :
    Intact names e (ws.pass names moment) :=
  ⟨h.1, pass_target h.2⟩

theorem wp_dropTemp {e : Failure} {ws : Workspace} (h : Intact names e ws) :
    Wp (dropTemp names) (fun _ => Intact names e) (fun _ => Intact names e) ws := by
  have hpass : Intact names e (ws.pass names .cleanup) := intact_pass h
  rw [dropTemp, wp_bind, wp_arrive]
  refine wp_unlink (fun item _ => ⟨hpass.1, ?_⟩) fun _ => hpass
  exact (setFile_of_ne names.distinct).trans hpass.2

/-! ## Up to the rename -/

/-- The broker has not touched the target and has removed nothing; the other process has
acted, or everything is as at the start and `R` holds of it. -/
structure At (names : Names) (files : String → Option Item) (edit : Option (Moment × Item))
    (temporary : Option Item) (R : Prop) (ws : Workspace) : Prop where
  target : ws.files names.target = ws.left
  removed : ws.removed = []
  temporary : ws.files names.temporary = temporary
  tracks : ws.edit = none ∨
    (ws.edit = edit ∧ ws.files names.target = files names.target ∧ R)

section Up

variable {files : String → Option Item} {edit : Option (Moment × Item)}
  {temporary : Option Item} {R R' : Prop} {ws : Workspace}

theorem At.pass (h : At names files edit temporary R ws) (moment : Moment) :
    At names files edit temporary R (ws.pass names moment) where
  target := pass_target h.target
  removed := (pass_removed ws moment).trans h.removed
  temporary := (pass_temporary ws moment).trans h.temporary
  tracks := by
    rcases pass_cases names ws moment with hp | ⟨item, -, hp⟩
    · rw [hp]
      exact h.tracks
    · rw [hp]
      exact Or.inl rfl

theorem At.intact {e : Failure} (h : At names files edit temporary R ws) (he : e ≠ .os) :
    Intact names e ws :=
  ⟨he, h.target⟩

theorem At.learn (h : At names files edit temporary R ws)
    (hlearn : ws.files names.target = files names.target → R → R') :
    At names files edit temporary R' ws where
  target := h.target
  removed := h.removed
  temporary := h.temporary
  tracks := h.tracks.imp_right fun ⟨hedit, htarget, hR⟩ =>
    ⟨hedit, htarget, hlearn htarget hR⟩

theorem At.write (h : At names files edit temporary R ws) (item : Option Item) :
    At names files edit item R
      { ws with files := setFile ws.files names.temporary item } where
  target := (setFile_of_ne names.distinct).trans h.target
  removed := h.removed
  temporary := setFile_self
  tracks := h.tracks.imp_right fun ⟨hedit, htarget, hR⟩ =>
    ⟨hedit, (setFile_of_ne names.distinct).trans htarget, hR⟩

/-- The proof is of a text within the limit that the store holds, and the name of the
temporary is free. -/
def Copies (cfg : Settings) (names : Names) (files : String → Option Item)
    (proof : ArtifactProof) : Prop :=
  proof.byteLength ≤ cfg.maximumFileBytes ∧ files names.temporary = none ∧
    ∃ bytes, cfg.stored proof = some bytes ∧ bytes.length ≤ cfg.maximumFileBytes ∧
      contentFault bytes = none ∧ bytes.length = proof.byteLength ∧
      cfg.sha256 bytes = proof.sha256

theorem wp_newTemp {inode : ℕ} (h : At names files edit temporary R ws) :
    Wp (newTemp names inode) (fun _ ws' => temporary = none ∧
        At names files edit (some (.regular ⟨[], 0o600, inode, 1⟩)) R ws')
      (Intact names) ws := by
  have hpass := h.pass .create
  rw [newTemp, wp_bind, wp_arrive, wp_bind, wp_get]
  cases htemp : (ws.pass names .create).files names.temporary with
  | some item => exact hpass.intact (by decide)
  | none => exact ⟨hpass.temporary.symm.trans htemp, hpass.write _⟩

structure Copied (cfg : Settings) (proof : ArtifactProof) (mode inode : ℕ) (node : Node) :
    Prop where
  ofMode : node.mode = mode
  ofInode : node.identity = inode
  read : readFileState cfg (.regular node) =
    .ok (⟨proof.sha256, proof.byteLength, mode⟩, node)

variable {proof : ArtifactProof}

theorem copied_of_stored {bytes : List UInt8} {mode inode : ℕ}
    (hlimit : bytes.length ≤ cfg.maximumFileBytes) (htext : contentFault bytes = none)
    (hlength : bytes.length = proof.byteLength) (hdigest : cfg.sha256 bytes = proof.sha256) :
    Copied cfg proof mode inode ⟨bytes, mode, inode, 1⟩ where
  ofMode := rfl
  ofInode := rfl
  read := by
    simp only [readFileState, htext, fileOf, hlength, hdigest]
    rw [if_neg (by decide), if_neg (by omega)]

theorem wp_fillTemp {mode inode : ℕ}
    (h : At names files edit temporary R ws) (hfree : files names.temporary = none)
    (hsmall : proof.byteLength ≤ cfg.maximumFileBytes) :
    Wp (fillTemp cfg names proof mode inode)
      (fun node ws' => Copies cfg names files proof ∧ Copied cfg proof mode inode node ∧
        At names files edit (some (.regular node)) R ws') (Intact names) ws := by
  have hpass := h.pass .copy
  rw [fillTemp, wp_bind, wp_arrive]
  cases hstored : cfg.stored proof with
  | none => exact hpass.intact (by decide)
  | some bytes =>
    simp only []
    rw [wp_bind]
    refine wp_check (fun hlimit => ?_) fun _ => hpass.intact (by simp)
    rw [decide_eq_true_eq] at hlimit
    cases htext : contentFault bytes with
    | some code => exact hpass.intact (by simp)
    | none =>
      simp only []
      rw [wp_bind]
      refine wp_check (fun hsame => ?_) fun _ => hpass.intact (by simp)
      simp only [Bool.and_eq_true, decide_eq_true_eq] at hsame
      exact ⟨⟨hsmall, hfree, bytes, hstored, hlimit, htext, hsame.1, hsame.2⟩,
        copied_of_stored hlimit htext hsame.1 hsame.2, hpass.write _⟩

theorem wp_copyCandidateToTemp {mode inode : ℕ}
    (h : At names files edit (files names.temporary) R ws) :
    Wp (copyCandidateToTemp cfg names proof mode inode)
      (fun node ws' => Copies cfg names files proof ∧ Copied cfg proof mode inode node ∧
        At names files edit (some (.regular node)) R ws') (Intact names) ws := by
  rw [copyCandidateToTemp, wp_bind]
  refine wp_check (fun hsmall => ?_) fun _ => h.intact (by simp)
  rw [decide_eq_true_eq] at hsmall
  rw [wp_bind]
  refine (wp_newTemp h).mono ?_ fun _ _ => id
  rintro - ws' ⟨hfree, hws'⟩
  rw [wp_onError]
  exact (wp_fillTemp hws' hfree hsmall).mono (fun _ _ => id) fun _ _ => wp_dropTemp

theorem wp_verifyOwnedTemp {node : Node}
    (h : At names files edit (some (.regular node)) R ws) :
    Wp (verifyOwnedTemp cfg names node)
      (fun _ => At names files edit (some (.regular node)) R) (Intact names) ws := by
  have hpass := h.pass .owned
  rw [verifyOwnedTemp, wp_bind, wp_arrive, wp_bind]
  refine wp_observe (fun _ => ?_) (fun _ _ _ _ => ?_) (fun _ _ _ _ => hpass.intact (by simp))
  · exact wp_check (fun _ => hpass) fun _ => hpass.intact (by simp)
  · exact wp_check (fun _ => hpass) fun _ => hpass.intact (by simp)

def Seen (cfg : Settings) (names : Names) (expected : File) (initial : Option (File × Node))
    (ws : Workspace) : Prop :=
  ∃ item o, ws.files names.target = some item ∧ readFileState cfg item = .ok o ∧
    isDisplaced expected initial (some o) = true

theorem wp_revalidate {expected : File} {initial : Option (File × Node)}
    (h : At names files edit temporary R ws) :
    Wp (revalidate cfg names (some expected) initial)
      (fun _ ws' => At names files edit temporary R ws' ∧ Seen cfg names expected initial ws')
      (Intact names) ws := by
  have hpass := h.pass .revalidate
  rw [revalidate, wp_bind, wp_arrive, wp_bind]
  refine wp_observe (fun _ => ?_) (fun item o hitem ho => ?_) (fun _ _ _ _ =>
    hpass.intact (by simp))
  · rw [wp_bind]
    exact wp_check (fun hsome => absurd hsome (by simp)) fun _ => hpass.intact (by simp)
  · rw [wp_bind]
    refine wp_check (fun hexpected => ?_) fun _ => hpass.intact (by simp)
    have hexpected : o.1 = expected := by simpa using hexpected
    cases initial with
    | none => exact hpass.intact (by simp)
    | some first =>
      refine wp_check (fun hsame => ⟨hpass, item, o, hitem, ho, ?_⟩) fun _ =>
        hpass.intact (by simp)
      simp [isDisplaced, hexpected, hsame]

theorem wp_revalidate_absent {initial : Option (File × Node)}
    (h : At names files edit temporary R ws) :
    Wp (revalidate cfg names none initial)
      (fun _ => At names files edit temporary R) (Intact names) ws := by
  have hpass := h.pass .revalidate
  rw [revalidate, wp_bind, wp_arrive, wp_bind]
  refine wp_observe (fun _ => ?_) (fun _ _ _ _ => ?_) (fun _ _ _ _ => hpass.intact (by simp))
  · rw [wp_bind]
    refine wp_check (fun _ => ?_) fun _ => hpass.intact (by simp)
    cases initial with
    | none => exact hpass
    | some _ => exact hpass.intact (by simp)
  · rw [wp_bind]
    exact wp_check (fun hnone => absurd hnone (by simp)) fun _ => hpass.intact (by simp)

end Up

/-! ## The window -/

/-- The moments between the last look at the target and the rename. -/
def Moment.inWindow (moment : Moment) : Prop :=
  moment = .authority ∨ moment = .rename

/-- The edit falls into the window and brings a file that the broker refuses to read. -/
def Unreadable (cfg : Settings) (edit : Option (Moment × Item)) : Prop :=
  ∃ moment item code, edit = some (moment, item) ∧ moment.inWindow ∧
    readFileState cfg item = .error code

section Window

variable {files : String → Option Item} {edit : Option (Moment × Item)}
  {temporary : Option Item} {R : Prop} {ws : Workspace} {expected : File}
  {initial : Option (File × Node)}

/-- What the rename is going to bring out can be read: the expected file, or what the
other process has put there and after which it does not act again. -/
def Ready (cfg : Settings) (names : Names) (expected : File)
    (initial : Option (File × Node)) (ws : Workspace) : Prop :=
  ∃ item o, ws.files names.target = some item ∧ readFileState cfg item = .ok o ∧
    (isDisplaced expected initial (some o) = true ∨ ws.edit = none)

theorem Seen.ready (h : Seen cfg names expected initial ws) :
    Ready cfg names expected initial ws := by
  obtain ⟨item, o, hitem, ho, hdisplaced⟩ := h
  exact ⟨item, o, hitem, ho, Or.inl hdisplaced⟩

theorem Ready.pass (h : Ready cfg names expected initial ws)
    (hat : At names files edit temporary R ws) (hR : R → ¬ Unreadable cfg edit)
    {moment : Moment} (hmoment : moment.inWindow) :
    Ready cfg names expected initial (ws.pass names moment) := by
  rcases pass_cases names ws moment with hp | ⟨item, hedit, hp⟩
  · rw [hp]
    exact h
  · rw [hp]
    cases hread : readFileState cfg item with
    | ok o => exact ⟨item, o, setFile_self, hread, Or.inr rfl⟩
    | error code =>
      rcases hat.tracks with hnone | ⟨hsame, -, hr⟩
      · rw [hedit] at hnone
        cases hnone
      · exact absurd ⟨moment, item, code, hsame.symm.trans hedit, hmoment, hread⟩ (hR hr)

end Window

/-! ## After the rename -/

/-- The rename has brought `old` into the temporary and `new` under the target name;
since then the other process may have written the target. -/
structure Swapped (names : Names) (old : Item) (new : Option Item) (ws : Workspace) : Prop where
  temporary : ws.files names.temporary = some old
  removed : ws.removed = []
  target : ws.files names.target = ws.left ∨
    (ws.files names.target = new ∧ ws.left = some old)

/-- What stands under the target name at the end is what the others have left, or what
the broker has put there. -/
def Settled (names : Names) (new : Option Item) (ws : Workspace) : Prop :=
  ws.files names.target = ws.left ∨ ws.files names.target = new

def OnlyExpected (cfg : Settings) (expected : FileState) (ws : Workspace) : Prop :=
  ∀ item ∈ ws.removed, ∃ o, readFileState cfg item = .ok o ∧ some o.1 = expected

section After

variable {old : Item} {new : Option Item} {ws : Workspace} {expected : File}
  {initial : Option (File × Node)} {o : File × Node}

theorem Swapped.pass (h : Swapped names old new ws) (moment : Moment) :
    Swapped names old new (ws.pass names moment) where
  temporary := (pass_temporary ws moment).trans h.temporary
  removed := (pass_removed ws moment).trans h.removed
  target := by
    rcases pass_cases names ws moment with hp | ⟨item, -, hp⟩
    · rw [hp]
      exact h.target
    · rw [hp]
      exact Or.inl setFile_self

theorem Settled.pass (h : Settled names new ws) (moment : Moment) :
    Settled names new (ws.pass names moment) := by
  rcases pass_cases names ws moment with hp | ⟨item, -, hp⟩
  · rw [hp]
    exact h
  · rw [hp]
    exact Or.inl setFile_self

theorem pass_of_spent (hspent : ws.edit = none) (moment : Moment) :
    ws.pass names moment = ws := by
  rcases pass_cases names ws moment with hp | ⟨item, hedit, -⟩
  · exact hp
  · rw [hspent] at hedit
    cases hedit

/-- What the rename has brought out is removed when it is the expected file, and
otherwise stands under the target name again. -/
theorem wp_settle {back : Call Unit} {code : String} (h : Swapped names old new ws)
    (hread : readFileState cfg old = .ok o)
    (hdisplaced : isDisplaced expected initial (some o) = true ∨
      (ws.edit = none ∧ ws.files names.target = new ∧ ws.left = some old))
    (hback : ∀ ws', ws'.files names.temporary = some old → ws'.files names.target = new →
      ws'.left = some old → Wp back (fun _ ws'' => ws''.files names.target = ws''.left)
        (Intact names) ws') :
    Wp (settle cfg names expected initial back code)
      (fun _ ws' => Settled names new ws' ∧ OnlyExpected cfg (some expected) ws')
      (Intact names) ws := by
  have hinspect := h.pass .inspect
  rw [settle, wp_bind, wp_arrive, wp_bind]
  refine wp_observe (fun hnone => ?_) (fun item o' hitem ho' => ?_)
    (fun item code' hitem herror => ?_)
  · rw [hinspect.temporary] at hnone
    cases hnone
  · obtain rfl : old = item := Option.some.inj (hinspect.temporary.symm.trans hitem)
    obtain rfl : o = o' := Except.ok.inj (hread.symm.trans ho')
    by_cases hfound : isDisplaced expected initial (some o) = true
    · rw [if_pos hfound, wp_bind, wp_arrive]
      have hunlink := hinspect.pass .unlink
      refine wp_unlink (fun removed hremoved => ?_) fun hnone => ?_
      · obtain rfl := Option.some.inj (hunlink.temporary.symm.trans hremoved)
        constructor
        · rcases hunlink.target with htarget | ⟨htarget, -⟩
          · exact Or.inl ((setFile_of_ne names.distinct).trans htarget)
          · exact Or.inr ((setFile_of_ne names.distinct).trans htarget)
        · intro x hx
          change x ∈ ((ws.pass names .inspect).pass names .unlink).removed ++ [old] at hx
          rw [hunlink.removed, List.nil_append, List.mem_singleton] at hx
          have hexpected : o.1 = expected := by
            simp only [isDisplaced, Option.any_some, Bool.and_eq_true,
              decide_eq_true_eq] at hfound
            exact hfound.1
          exact ⟨o, hx ▸ hread, congrArg some hexpected⟩
      · rw [hunlink.temporary] at hnone
        cases hnone
    · rw [if_neg hfound]
      obtain ⟨hspent, htarget, hleft⟩ := hdisplaced.resolve_left hfound
      rw [pass_of_spent hspent, wp_bind, wp_arrive, pass_of_spent hspent, wp_bind]
      refine (hback ws h.temporary htarget hleft).mono ?_ fun _ _ => id
      intro _ ws' hws'
      exact ⟨by simp, hws'⟩
  · obtain rfl : old = item := Option.some.inj (hinspect.temporary.symm.trans hitem)
    rw [hread] at herror
    cases herror

theorem wp_verifyTarget {ok : Option (File × Node) → Bool} {code : String}
    {removedOk : FileState} (h : Settled names new ws)
    (hremoved : OnlyExpected cfg removedOk ws) (hnew : ∀ item, new = some item →
      ∃ o, readFileState cfg item = .ok o ∧ ok (some o) = true)
    (hnone : new = none → ok none = true) :
    Wp (verifyTarget cfg names ok code) (fun _ => OnlyExpected cfg removedOk)
      (Intact names) ws := by
  have hpass := h.pass .verify
  have hsame : OnlyExpected cfg removedOk (ws.pass names .verify) := by
    rw [OnlyExpected, pass_removed]
    exact hremoved
  rw [verifyTarget, wp_bind, wp_arrive, wp_bind]
  refine wp_observe (fun hfile => ?_) (fun item o hitem ho => ?_)
    (fun item code' hitem herror => ?_)
  · refine wp_check (fun _ => hsame) fun hfalse => ?_
    rcases hpass with hleft | hfiles
    · exact ⟨by simp, hleft⟩
    · rw [hnone (hfiles.symm.trans hfile)] at hfalse
      cases hfalse
  · refine wp_check (fun _ => hsame) fun hfalse => ?_
    rcases hpass with hleft | hfiles
    · exact ⟨by simp, hleft⟩
    · obtain ⟨o', ho', hok⟩ := hnew item (hfiles.symm.trans hitem)
      rw [Except.ok.inj (ho.symm.trans ho'), hok] at hfalse
      cases hfalse
  · rcases hpass with hleft | hfiles
    · exact ⟨by simp, hleft⟩
    · obtain ⟨o', ho', -⟩ := hnew item (hfiles.symm.trans hitem)
      rw [ho'] at herror
      cases herror

end After

/-! ## Apply -/

section Apply

variable {files : String → Option Item} {edit : Option (Moment × Item)} {R : Prop}
  {ws : Workspace} {call : ApplyCall} {node : Node} {expected : File}
  {initial : Option (File × Node)}

theorem swapped_of_exchange {item old : Item}
    (h : At names files edit (some item) R ws) (hold : ws.files names.target = some old) :
    Swapped names old (some item)
        { ws with files :=
            setFile (setFile ws.files names.temporary (some old)) names.target (some item) } ∧
      ws.left = some old := by
  refine ⟨⟨?_, h.removed, Or.inr ⟨setFile_self, ?_⟩⟩, ?_⟩
  · exact (setFile_of_ne names.distinct.symm).trans setFile_self
  · exact h.target.symm.trans hold
  · exact h.target.symm.trans hold

theorem wp_exchangeBack {item old : Item} (htemp : ws.files names.temporary = some old)
    (htarget : ws.files names.target = some item) (hleft : ws.left = some old) :
    Wp (renameExchange names.temporary names.target)
      (fun _ ws' => ws'.files names.target = ws'.left) (Intact names) ws := by
  refine wp_renameExchange (fun moved _ hmoved _ => ?_) fun hnone => ?_
  · rw [hleft, ← htemp, hmoved]
    exact setFile_self
  · rw [htemp, htarget] at hnone
    simp at hnone

variable {item : Item}

theorem wp_exchange {code : String} (h : At names files edit (some item) R ws)
    (hready : Ready cfg names expected initial ws) :
    Wp (do
        renameExchange names.temporary names.target
        settle cfg names expected initial (renameExchange names.temporary names.target) code)
      (fun _ ws' => Settled names (some item) ws' ∧ OnlyExpected cfg (some expected) ws')
      (Intact names) ws := by
  obtain ⟨old, o, hold, hread, hdisplaced⟩ := hready
  rw [wp_bind]
  refine wp_renameExchange (fun moved old' hmoved hold' => ?_) fun _ => h.intact (by simp)
  obtain rfl : item = moved := Option.some.inj (h.temporary.symm.trans hmoved)
  obtain rfl : old = old' := Option.some.inj (hold.symm.trans hold')
  obtain ⟨hswapped, hleft⟩ := swapped_of_exchange h hold
  exact wp_settle hswapped hread (hdisplaced.imp_right fun hspent => ⟨hspent, setFile_self,
    hleft⟩) fun ws' htemp htarget hleft => wp_exchangeBack htemp htarget hleft

theorem wp_commit_replace (hcall : call.operation = .replace expected)
    (h : At names files edit (some (.regular node)) R ws)
    (hR : R → call.authorityRaises = false → ¬ Unreadable cfg edit) :
    Wp (commit cfg names call initial node)
      (fun _ ws' => Settled names (some (.regular node)) ws' ∧
        OnlyExpected cfg (some expected) ws') (Intact names) ws := by
  rw [commit, hcall, wp_bind]
  refine (wp_verifyOwnedTemp h).mono ?_ fun _ _ => id
  intro _ ws hws
  rw [wp_bind]
  refine (wp_revalidate hws).mono ?_ fun _ _ => id
  rintro - ws ⟨hws, hseen⟩
  rw [wp_bind, wp_arrive, wp_bind]
  have hauthority := hws.pass .authority
  refine wp_runHook (fun hok => ?_) fun _ => hauthority.intact (by decide)
  have hsafe : R → ¬ Unreadable cfg edit := fun hr => hR hr hok
  have hready := (hseen.ready.pass hws hsafe (Or.inl rfl)).pass hauthority hsafe
    (Or.inr rfl : Moment.rename.inWindow)
  rw [install, wp_bind, wp_arrive]
  exact wp_exchange (hauthority.pass .rename) hready

theorem wp_commit_create (hcall : call.operation = .create)
    (h : At names files edit (some (.regular node)) R ws) :
    Wp (commit cfg names call initial node)
      (fun _ ws' => Settled names (some (.regular node)) ws' ∧ OnlyExpected cfg none ws')
      (Intact names) ws := by
  rw [commit, hcall, wp_bind]
  refine (wp_verifyOwnedTemp h).mono ?_ fun _ _ => id
  intro _ ws hws
  rw [wp_bind]
  refine (wp_revalidate_absent hws).mono ?_ fun _ _ => id
  intro _ ws hws
  rw [wp_bind, wp_arrive, wp_bind]
  have hauthority := hws.pass .authority
  refine wp_runHook (fun _ => ?_) fun _ => hauthority.intact (by decide)
  have hrename := hauthority.pass .rename
  rw [install, wp_bind, wp_arrive]
  refine wp_renameNoReplace (fun item hitem _ => ⟨Or.inr ?_, ?_⟩) fun _ =>
    hrename.intact (by simp)
  · rw [← hrename.temporary, hitem]
    exact setFile_self
  · intro x hx
    change x ∈ ((ws.pass names .authority).pass names .rename).removed at hx
    rw [hrename.removed] at hx
    exact absurd hx List.not_mem_nil

theorem regular_of_read {o : File × Node}
    (h : readFileState cfg item = .ok o) : item = .regular o.2 ∧ o.1 = fileOf cfg o.2 := by
  cases item with
  | refused code => cases h
  | regular node =>
    rw [readFileState] at h
    split at h
    · cases h
    split at h
    · cases h
    split at h
    · cases h
    cases h
    exact ⟨rfl, rfl⟩

/-- The artifact store takes the bytes of the file that the broker has first seen. -/
def Captured (cfg : Settings) (names : Names) (files : String → Option Item)
    (o : File × Node) : Prop :=
  ∃ item, files names.target = some item ∧ readFileState cfg item = .ok o ∧
    (cfg.put o.2.bytes).isSome = true

theorem wp_persistBefore {temporary : Option Item} {o : File × Node}
    (h : At names files edit temporary
      (files names.target = some item ∧ readFileState cfg item = .ok o) ws) :
    Wp (persistBefore cfg names o.1 o.2)
      (fun _ => At names files edit temporary (Captured cfg names files o))
      (Intact names) ws := by
  have hpass := h.pass .capture
  rw [persistBefore, wp_bind, wp_arrive, wp_bind, wp_get, wp_bind]
  refine wp_check (fun _ => ?_) fun _ => hpass.intact (by simp)
  cases hput : cfg.put (descriptorBytes names (ws.pass names .capture) o.2) with
  | none => exact hpass.intact (by simp)
  | some proof =>
    refine hpass.learn fun htarget hfound => ⟨item, hfound.1, hfound.2, ?_⟩
    have hbytes : descriptorBytes names (ws.pass names .capture) o.2 = o.2.bytes := by
      rw [descriptorBytes, htarget, hfound.1, (regular_of_read hfound.2).1]
      exact if_pos rfl
    rw [hbytes] at hput
    rw [hput]
    rfl

def Workspace.start (names : Names) (files : String → Option Item)
    (edit : Option (Moment × Item)) : Workspace :=
  ⟨files, edit, files names.target, []⟩

theorem at_start (names : Names) (files : String → Option Item)
    (edit : Option (Moment × Item)) : At names files edit (files names.temporary) True
    (Workspace.start names files edit) :=
  ⟨rfl, rfl, rfl, Or.inr ⟨rfl, rfl, trivial⟩⟩

/-- Without an edit in the window the call of `apply` gets to the rename. -/
structure ApplyReaches (cfg : Settings) (names : Names) (files : String → Option Item)
    (call : ApplyCall) (expected : File) : Prop where
  operation : call.operation = .replace expected
  small : expected.byteLength ≤ cfg.maximumFileBytes
  captured : ∃ o, Captured cfg names files o ∧ o.1 = expected
  ready : call.readyRaises = false
  copies : Copies cfg names files call.candidate
  authority : call.authorityRaises = false

theorem settled_node_passes {proof : ArtifactProof} {mode inode : ℕ} {node : Node}
    (h : Copied cfg proof mode inode node) :
    ∀ item, some (Item.regular node) = some item → ∃ o, readFileState cfg item = .ok o ∧
      ((some o).any fun o => decide (o.1 = ⟨proof.sha256, proof.byteLength, mode⟩) &&
        sameIdentity node o.2) = true := by
  intro item hitem
  refine ⟨_, Option.some.inj hitem ▸ h.read, ?_⟩
  simp [sameIdentity]

theorem wp_apply_replace (hcall : call.operation = .replace expected)
    (hsafe : ApplyReaches cfg names files call expected → ¬ Unreadable cfg edit) :
    Wp (apply cfg names call) (fun _ => OnlyExpected cfg (some expected)) (Intact names)
      (Workspace.start names files edit) := by
  have hbefore : call.operation.before = some expected := by
    rw [hcall]
    rfl
  rw [apply, hbefore, wp_bind]
  refine wp_check (fun hsmall => ?_) fun _ => (at_start names files edit).intact (by simp)
  have hsmall : expected.byteLength ≤ cfg.maximumFileBytes := by simpa using hsmall
  rw [wp_bind, wp_arrive, wp_bind]
  have hfirst := (at_start names files edit).pass .observe
  refine wp_observe (fun _ => ?_) (fun item o hitem ho => ?_) (fun _ _ _ _ =>
    hfirst.intact (by simp))
  · rw [wp_bind]
    exact wp_check (fun hsome => absurd hsome (by simp)) fun _ => hfirst.intact (by simp)
  · rw [wp_bind]
    refine wp_check (fun hexpected => ?_) fun _ => hfirst.intact (by simp)
    have hexpected : o.1 = expected := by simpa using hexpected
    rw [Option.mapM_some, wp_bind, wp_map]
    refine (wp_persistBefore (hfirst.learn fun htarget _ =>
      ⟨htarget ▸ hitem, ho⟩)).mono ?_ fun _ _ => id
    intro proof ws hws
    rw [wp_bind, wp_arrive, wp_bind]
    have hready := hws.pass .ready
    refine wp_runHook (fun hok => ?_) fun _ => hready.intact (by decide)
    rw [wp_bind]
    refine (wp_copyCandidateToTemp hready).mono ?_ fun _ _ => id
    rintro node ws ⟨hcopies, hcopied, hws⟩
    rw [wp_bind, wp_onError]
    refine (wp_commit_replace hcall hws fun hcaptured hauthority =>
      hsafe ⟨hcall, hsmall, ⟨o, hcaptured, hexpected⟩, hok, hcopies, hauthority⟩).mono ?_
        fun _ _ => wp_dropTemp
    rintro - ws ⟨hsettled, honly⟩
    rw [wp_bind]
    exact wp_verifyTarget hsettled honly (settled_node_passes hcopied) fun h => nomatch h

theorem wp_apply_create (hcall : call.operation = .create) :
    Wp (apply cfg names call) (fun _ => OnlyExpected cfg none) (Intact names)
      (Workspace.start names files edit) := by
  have hbefore : call.operation.before = none := by
    rw [hcall]
    rfl
  rw [apply, hbefore, wp_bind]
  refine wp_check (fun _ => ?_) fun hfalse => absurd hfalse (by simp)
  rw [wp_bind, wp_arrive, wp_bind]
  have hfirst := (at_start names files edit).pass .observe
  refine wp_observe (fun _ => ?_) (fun item o hitem ho => ?_) (fun _ _ _ _ =>
    hfirst.intact (by simp))
  · rw [wp_bind]
    refine wp_check (fun _ => ?_) fun _ => hfirst.intact (by simp)
    rw [Option.mapM_none, wp_bind, wp_pure, wp_bind, wp_arrive, wp_bind]
    have hready := hfirst.pass .ready
    refine wp_runHook (fun _ => ?_) fun _ => hready.intact (by decide)
    rw [wp_bind]
    refine (wp_copyCandidateToTemp hready).mono ?_ fun _ _ => id
    rintro node ws ⟨-, hcopied, hws⟩
    rw [wp_bind, wp_onError]
    refine (wp_commit_create hcall hws).mono ?_ fun _ _ => wp_dropTemp
    rintro - ws ⟨hsettled, honly⟩
    rw [wp_bind]
    exact wp_verifyTarget hsettled honly (settled_node_passes hcopied) fun h => nomatch h
  · rw [wp_bind]
    exact wp_check (fun hnone => absurd hnone (by simp)) fun _ => hfirst.intact (by simp)

end Apply

/-! ## Rollback -/

section Rollback

variable {files : String → Option Item} {edit : Option (Moment × Item)} {R : Prop}
  {temporary : Option Item} {ws : Workspace} {call : RollbackCall} {expected : File}
  {current : Option (File × Node)}

theorem wp_renameBack {old : Item} (htemp : ws.files names.temporary = some old)
    (htarget : ws.files names.target = none) (hleft : ws.left = some old) :
    Wp (renameNoReplace names.temporary names.target)
      (fun _ ws' => ws'.files names.target = ws'.left) (Intact names) ws := by
  refine wp_renameNoReplace (fun moved hmoved _ => ?_) fun hnone => ?_
  · rw [hleft, ← htemp, hmoved]
    exact setFile_self
  · rw [htemp, htarget] at hnone
    simp at hnone

theorem wp_moveAway {code : String} (h : At names files edit temporary R ws)
    (hready : Ready cfg names expected current ws) :
    Wp (do
        renameNoReplace names.target names.temporary
        settle cfg names expected current (renameNoReplace names.temporary names.target) code)
      (fun _ ws' => Settled names none ws' ∧ OnlyExpected cfg (some expected) ws')
      (Intact names) ws := by
  obtain ⟨old, o, hold, hread, hdisplaced⟩ := hready
  rw [wp_bind]
  refine wp_renameNoReplace (fun moved hmoved _ => ?_) fun _ => h.intact (by simp)
  obtain rfl : old = moved := Option.some.inj (hold.symm.trans hmoved)
  have hleft : ws.left = some old := h.target.symm.trans hold
  have htarget : setFile (setFile ws.files names.target none) names.temporary (some old)
      names.target = none :=
    (setFile_of_ne names.distinct).trans setFile_self
  have hswapped : Swapped names old none
      { ws with
        files := setFile (setFile ws.files names.target none) names.temporary (some old) } :=
    ⟨setFile_self, h.removed, Or.inr ⟨htarget, hleft⟩⟩
  exact wp_settle hswapped hread (hdisplaced.imp_right fun hspent => ⟨hspent, htarget, hleft⟩)
    fun ws' htemp htarget hleft => wp_renameBack htemp htarget hleft

theorem wp_removeCreated (h : At names files edit temporary R ws)
    (hseen : Seen cfg names call.after current ws)
    (hR : R → temporary = none → call.authorityRaises = false → ¬ Unreadable cfg edit) :
    Wp (removeCreated cfg names call current)
      (fun _ ws' => Settled names none ws' ∧ OnlyExpected cfg (some call.after) ws')
      (Intact names) ws := by
  rw [removeCreated, wp_bind, wp_arrive, wp_bind]
  have hauthority := h.pass .authority
  refine wp_runHook (fun hok => ?_) fun _ => hauthority.intact (by decide)
  rw [wp_bind, wp_arrive]
  have hrename := hauthority.pass .rename
  cases htemp : temporary with
  | none =>
    have hsafe : R → ¬ Unreadable cfg edit := fun hr => hR hr htemp hok
    have hready := (hseen.ready.pass h hsafe (Or.inl rfl)).pass hauthority hsafe
      (Or.inr rfl : Moment.rename.inWindow)
    exact wp_moveAway hrename hready
  | some item =>
    -- the name of the temporary is taken, so nothing is moved
    rw [wp_bind]
    refine wp_renameNoReplace (fun _ _ hnone => ?_) fun _ => hrename.intact (by simp)
    rw [hrename.temporary, htemp] at hnone
    cases hnone

theorem wp_restoreBefore {node : Node} (h : At names files edit (some (.regular node)) R ws)
    (hR : R → call.authorityRaises = false → ¬ Unreadable cfg edit) :
    Wp (restoreBefore cfg names call current)
      (fun _ ws' => Settled names (some (.regular node)) ws' ∧
        OnlyExpected cfg (some call.after) ws') (Intact names) ws := by
  have hpass := h.pass .revalidate
  rw [restoreBefore, wp_bind, wp_arrive, wp_bind]
  refine wp_observe (fun _ => ?_) (fun item o hitem ho => ?_) (fun _ _ _ _ =>
    hpass.intact (by simp))
  · rw [wp_bind]
    exact wp_check (fun hfound => absurd hfound (by simp [isDisplaced])) fun _ =>
      hpass.intact (by simp)
  · rw [wp_bind]
    refine wp_check (fun hdisplaced => ?_) fun _ => hpass.intact (by simp)
    have hseen : Seen cfg names call.after current (ws.pass names .revalidate) :=
      ⟨item, o, hitem, ho, hdisplaced⟩
    rw [wp_bind, wp_arrive, wp_bind]
    have hauthority := hpass.pass .authority
    refine wp_runHook (fun hok => ?_) fun _ => hauthority.intact (by decide)
    have hsafe : R → ¬ Unreadable cfg edit := fun hr => hR hr hok
    have hready := (hseen.ready.pass hpass hsafe (Or.inl rfl)).pass hauthority hsafe
      (Or.inr rfl : Moment.rename.inWindow)
    rw [wp_bind, wp_arrive]
    exact wp_exchange (hauthority.pass .rename) hready

/-- The receipt is one that `rollback` works on. -/
structure ReceiptValid (cfg : Settings) (call : RollbackCall) : Prop where
  proof : call.operation.before.isNone = call.rollbackProof.isNone
  candidate : call.candidate.sha256 = call.after.sha256 ∧
    call.candidate.byteLength = call.after.byteLength
  available : ∀ before proof, call.operation = .replace before →
    call.rollbackProof = some proof →
    proof.sha256 = before.sha256 ∧ proof.byteLength = before.byteLength ∧
      (cfg.stored proof).isSome = true

theorem wp_validateReceipt {Q : Unit → Workspace → Prop} {E : Failure → Workspace → Prop}
    (hok : ReceiptValid cfg call → Q () ws)
    (herror : ¬ ReceiptValid cfg call → ∀ code, E (.broker code) ws) :
    Wp (validateReceipt cfg call) Q E ws := by
  rw [validateReceipt, wp_bind]
  refine wp_check (fun hproof => ?_) fun hproof => herror (fun h => ?_) _
  · rw [decide_eq_true_eq] at hproof
    rw [wp_bind]
    refine wp_check (fun hcandidate => ?_) fun hcandidate => herror (fun h => ?_) _
    · simp only [Bool.and_eq_true, decide_eq_true_eq] at hcandidate
      cases hoperation : call.operation with
      | create =>
        refine hok ⟨hproof, hcandidate, fun before proof hreplace _ => ?_⟩
        rw [hoperation] at hreplace
        cases hreplace
      | replace before =>
        cases hrollback : call.rollbackProof with
        | none =>
          rw [hoperation, hrollback] at hproof
          cases hproof
        | some proof =>
          simp only []
          rw [wp_bind]
          refine wp_check (fun hsame => ?_) fun hsame => herror (fun h => ?_) _
          · simp only [Bool.and_eq_true, decide_eq_true_eq] at hsame
            refine wp_check (fun hstored => hok ⟨hproof, hcandidate, ?_⟩) fun hstored =>
              herror (fun h => ?_) _
            · intro before' proof' hreplace hsome
              cases hoperation.symm.trans hreplace
              cases hrollback.symm.trans hsome
              exact ⟨hsame.1, hsame.2, hstored⟩
            · rw [(h.available _ _ hoperation hrollback).2.2] at hstored
              cases hstored
          · obtain ⟨hdigest, hlength, -⟩ := h.available _ _ hoperation hrollback
            simp [hdigest, hlength] at hsame
    · simp [h.candidate] at hcandidate
  · simp [h.proof] at hproof

/-- Without an edit in the window the call of `rollback` gets to the rename. -/
structure RollbackReaches (cfg : Settings) (names : Names) (files : String → Option Item)
    (call : RollbackCall) : Prop where
  receipt : ReceiptValid cfg call
  found : ∃ item o, files names.target = some item ∧ readFileState cfg item = .ok o ∧
    o.1 = call.after
  changed : some call.after ≠ call.operation.before
  free : files names.temporary = none
  copies : ∀ before proof, call.operation = .replace before →
    call.rollbackProof = some proof → Copies cfg names files proof
  authority : call.authorityRaises = false

theorem wp_rollback (hsafe : RollbackReaches cfg names files call → ¬ Unreadable cfg edit) :
    Wp (rollback cfg names call) (fun _ => OnlyExpected cfg (some call.after))
      (Intact names) (Workspace.start names files edit) := by
  have hstart := at_start names files edit
  rw [rollback, wp_bind]
  refine wp_validateReceipt (fun hreceipt => ?_) fun _ code => hstart.intact (by simp)
  rw [wp_bind, wp_arrive, wp_bind]
  have hfirst := hstart.pass .observe
  have hunchanged : OnlyExpected cfg (some call.after)
      ((Workspace.start names files edit).pass names .observe) := by
    rw [OnlyExpected, hfirst.removed]
    exact fun _ hx => absurd hx List.not_mem_nil
  refine wp_observe (fun _ => ?_) (fun item o hitem ho => ?_) (fun _ _ _ _ =>
    hfirst.intact (by simp))
  · by_cases hbefore : (none : Option (File × Node)).map (·.1) = call.operation.before
    · rw [if_pos hbefore]
      exact hunchanged
    · rw [if_neg hbefore, wp_bind]
      exact wp_check (fun hsome => absurd hsome (by simp)) fun _ => hfirst.intact (by simp)
  · by_cases hbefore : (some o).map (·.1) = call.operation.before
    · rw [if_pos hbefore]
      exact hunchanged
    · rw [if_neg hbefore, wp_bind]
      refine wp_check (fun hafter => ?_) fun _ => hfirst.intact (by simp)
      have hafter : o.1 = call.after := by simpa using hafter
      have hchanged : some call.after ≠ call.operation.before := by
        rw [← hafter]
        exact hbefore
      have hseen : Seen cfg names call.after (some o)
          ((Workspace.start names files edit).pass names .observe) :=
        ⟨item, o, hitem, ho, by simp [isDisplaced, hafter, sameIdentity]⟩
      have hfound := hfirst.learn fun htarget _ =>
        (⟨item, o, htarget ▸ hitem, ho, hafter⟩ : ∃ item o, files names.target = some item ∧
          readFileState cfg item = .ok o ∧ o.1 = call.after)
      rw [wp_bind, compensate]
      cases hoperation : call.operation with
      | create =>
        simp only []
        rw [wp_onError]
        refine (wp_removeCreated hfound hseen fun hat hfree hok => hsafe
          ⟨hreceipt, hat, hchanged, hfree, ?_, hok⟩).mono ?_ fun _ _ => wp_dropTemp
        · intro before proof hreplace
          rw [hoperation] at hreplace
          cases hreplace
        · rintro - ws ⟨hsettled, honly⟩
          rw [wp_bind]
          exact wp_verifyTarget hsettled honly (fun item h => nomatch h) fun _ => rfl
      | replace before =>
        cases hrollback : call.rollbackProof with
        | none =>
          have hproof := hreceipt.proof
          rw [hoperation, hrollback] at hproof
          cases hproof
        | some proof =>
          simp only []
          rw [wp_bind]
          refine (wp_copyCandidateToTemp hfound).mono ?_ fun _ _ => id
          rintro node ws ⟨hcopies, hcopied, hws⟩
          rw [wp_onError]
          refine (wp_restoreBefore hws fun hat hok => hsafe
            ⟨hreceipt, hat, hchanged, hcopies.2.1, ?_, hok⟩).mono ?_ fun _ _ =>
              wp_dropTemp
          · intro before' proof' hreplace hsome
            cases hrollback.symm.trans hsome
            exact hcopies
          · rintro - ws ⟨hsettled, honly⟩
            rw [wp_bind]
            refine wp_verifyTarget hsettled honly (fun item hitem => ?_) fun h =>
              nomatch h
            obtain ⟨hdigest, hlength, -⟩ := hreceipt.available _ _ hoperation hrollback
            refine ⟨_, Option.some.inj hitem ▸ hcopied.read, ?_⟩
            simp [WriteOperation.before, hdigest, hlength]

end Rollback

end Ecosystem.Changes.Racing
