import Ecosystem.Changes.Invariant

/-!
# What the broker does to the workspace

Specifications of the broker's programs for a property `J` of the world that holds
wherever they are interrupted.  That of `apply` takes what its two hooks bring about:
the rollback is ready (`B`), the write is authorized (`C`), the candidate lands (`D`).
-/

namespace Ecosystem.Changes

open Ecosystem.Lib
open Ecosystem.Lib.Prog (safe_bind safe_act safe_onFail safe_catch)

/-! ## Rules for steps -/

/-- Whatever the circumstances: `J` between two steps and when the program raises, `Q`
when it returns. -/
abbrev Keeps {α : Type} (J : World → Prop) (Q : α → World → Prop) (p : WriteProg α)
    (w : World) : Prop :=
  p.Safe (fun _ => True) ⟨J, Q, fun _ => J⟩ w

variable {cfg : WriteConfig} {α β : Type} {J : World → Prop} {Q : α → World → Prop}
  {w : World}

theorem keeps_attempt {f : Circumstance → World → Except Failure α × World} (hJ : J w)
    (hok : ∀ c a w', f c w = (.ok a, w') → Q a w')
    (herror : ∀ c e w', f c w = (.error e, w') → J w') : Keeps J Q (attempt f) w := by
  refine safe_act hJ ?_ ?_
  · intro c a w' _ h
    cases hfault : c.fault with
    | some e => rw [hfault] at h; cases h
    | none => rw [hfault] at h; exact hok c a w' h
  · intro c e w' _ h
    cases hfault : c.fault with
    | some e => rw [hfault] at h; cases h; exact hJ
    | none => rw [hfault] at h; exact herror c e w' h

theorem keeps_inspect {f : Circumstance → World → Except Failure α} (hJ : J w)
    (hok : ∀ c a, f c w = .ok a → Q a w) : Keeps J Q (inspect f) w := by
  refine keeps_attempt hJ ?_ ?_
  · intro c a w' h
    obtain ⟨hf, rfl⟩ := Prod.mk.inj h
    exact hok c a hf
  · intro c e w' h
    obtain ⟨-, rfl⟩ := Prod.mk.inj h
    exact hJ

theorem keeps_perform {f : Circumstance → World → Except Failure World}
    {Q : Unit → World → Prop} (hJ : J w) (hok : ∀ c w', f c w = .ok w' → Q () w') :
    Keeps J Q (perform f) w := by
  refine keeps_attempt hJ ?_ ?_
  · intro c a w' h
    cases hf : f c w with
    | ok w₁ => rw [hf] at h; cases h; exact hok c w' hf
    | error e => rw [hf] at h; cases h
  · intro c e w' h
    cases hf : f c w with
    | ok w₁ => rw [hf] at h; cases h
    | error e => rw [hf] at h; cases h; exact hJ

theorem keeps_phase {Q : Unit → World → Prop} (hJ : J w) (hQ : Q () w) :
    Keeps J Q phase w :=
  keeps_inspect hJ fun _ _ _ => hQ

theorem keeps_check {ok : Bool} {e : Failure} {Q : Unit → World → Prop} (hJ : J w)
    (hQ : ok = true → Q () w) : Keeps J Q (check ok e) w := by
  cases ok with
  | true => exact hQ rfl
  | false => exact hJ

theorem keeps_bind {p : WriteProg β} {k : β → WriteProg α} (R : β → World → Prop)
    (h : Keeps J R p w) (hk : ∀ b w', R b w' → Keeps J Q (k b) w') :
    Keeps J Q (p >>= k) w :=
  safe_bind h hk

theorem keeps_skip {p : WriteProg β} {k : β → WriteProg α}
    (h : Keeps J (fun _ w' => w = w') p w) (hk : ∀ b, Keeps J Q (k b) w) :
    Keeps J Q (p >>= k) w := by
  refine keeps_bind _ h ?_
  rintro b _ rfl
  exact hk b

theorem keeps_mono {p : WriteProg α} {Q' : α → World → Prop} (h : Keeps J Q p w)
    (hQ : ∀ a w', Q a w' → Q' a w') : Keeps J Q' p w :=
  h.mono (fun _ h => h) hQ fun _ _ h => h

/-! ## Reading files -/

theorem readFileState_eq_ok {entry : Option Entry} {state : FileState}
    (h : readFileState cfg entry = .ok state) :
    entry = state.map .regular ∧ ∀ file, state = some file → Readable cfg file := by
  match entry with
  | none => cases h; exact ⟨rfl, nofun⟩
  | some (.other code) => cases h
  | some (.regular file) =>
    simp only [readFileState] at h
    split at h
    · cases h
    next hlength =>
    cases hfault : cfg.contentFault file.sha256 with
    | some code => rw [hfault] at h; cases h
    | none =>
      rw [hfault] at h
      cases h
      refine ⟨rfl, ?_⟩
      rintro _ ⟨⟩
      exact ⟨Nat.le_of_not_lt hlength, hfault⟩

theorem keeps_openParent {path : String} {Q : Unit → World → Prop} (hJ : J w)
    (hQ : Q () w) : Keeps J Q (openParent path) w :=
  keeps_inspect hJ fun _ _ _ => hQ

theorem keeps_observeTarget {path : String} {Q : FileState → World → Prop} (hJ : J w)
    (hQ : ∀ state : FileState, w.files path = state.map .regular →
      (∀ file, state = some file → Readable cfg file) → Q state w) :
    Keeps J Q (observeTarget cfg path) w :=
  keeps_inspect hJ fun _ state h =>
    hQ state (readFileState_eq_ok h).1 (readFileState_eq_ok h).2

theorem keeps_observeTemporary {key : TemporaryKey} {Q : FileState → World → Prop}
    (hJ : J w) (hQ : ∀ state : FileState, w.temporaries key = state.map .regular →
      Q state w) : Keeps J Q (observeTemporary cfg key) w :=
  keeps_inspect hJ fun _ state h => hQ state (readFileState_eq_ok h).1

theorem keeps_observe {path : String} {Q : FileState → World → Prop} (hJ : J w)
    (hQ : ∀ state : FileState, w.files path = state.map .regular →
      (∀ file, state = some file → Readable cfg file) → Q state w) :
    Keeps J Q (observe cfg path) w := by
  refine keeps_skip (keeps_openParent hJ rfl) fun _ => ?_
  refine keeps_bind (fun state w' => w = w' ∧ Q state w)
    (keeps_observeTarget hJ fun state hstate hread => ⟨rfl, hQ state hstate hread⟩) ?_
  rintro state _ ⟨rfl, hstate⟩
  exact keeps_bind (fun _ w' => w = w') (keeps_openParent hJ rfl) fun _ _ h => h ▸ hstate

/-! ## Temporaries -/

def Ignores (key : TemporaryKey) (P : World → Prop) : Prop :=
  ∀ w entry, P w → P (w.setTemporary key entry)

theorem World.setTemporary_get (w : World) (key : TemporaryKey) (entry : Option Entry) :
    (w.setTemporary key entry).temporaries key = entry :=
  if_pos rfl

theorem World.setFile_get (w : World) (path : String) (entry : Option Entry) :
    (w.setFile path entry).files path = entry :=
  if_pos rfl

variable {key : TemporaryKey} {path : String}

theorem keeps_dropTemp {Q : Unit → World → Prop} (hJ : J w) (hQ : Q () w)
    (hQ' : Q () (w.setTemporary key none)) : Keeps J Q (dropTemp key) w := by
  refine safe_act hJ ?_ ?_
  · intro c a w' _ h
    obtain ⟨-, rfl⟩ := Prod.mk.inj h
    split
    · exact hQ'
    · exact hQ
  · intro c e w' _ h
    cases h

theorem keeps_onFail (hJ : Ignores key J) {p : WriteProg α} (h : Keeps J Q p w) :
    Keeps J Q (p.onFail (dropTemp key)) w :=
  safe_onFail h fun _ _ hw =>
    keeps_dropTemp hw hw (hJ _ none hw)

theorem keeps_unlinkTemp {P : World → Prop} (hP : Ignores key P) (hPJ : ∀ w, P w → J w)
    (hw : P w) :
    Keeps J (fun _ w' => P w' ∧ w'.files = w.files ∧ w'.temporaries key = none)
      (unlinkTemp key) w := by
  refine keeps_perform (hPJ w hw) ?_
  intro c w' h
  split at h
  · cases h
  cases h
  exact ⟨hP w none hw, rfl, w.setTemporary_get key none⟩

theorem keeps_copy {P : World → Prop} (hP : Ignores key P) (hPJ : ∀ w, P w → J w)
    (hJ : Ignores key J) {proof : ArtifactProof} {mode : ℕ} (hw : P w) :
    Keeps J (fun _ w' => P w' ∧ w'.files = w.files ∧
        w'.temporaries key = some (.regular ⟨proof.sha256, proof.byteLength, mode⟩) ∧
        Readable cfg ⟨proof.sha256, proof.byteLength, mode⟩)
      (copyCandidateToTemp cfg key proof mode) w := by
  refine keeps_bind (fun _ w' => w = w' ∧ proof.byteLength ≤ cfg.maximumFileBytes)
    (keeps_check (hPJ w hw) fun h => ⟨rfl, of_decide_eq_true h⟩) ?_
  rintro _ _ ⟨rfl, hlength⟩
  refine keeps_bind (fun _ w' => P w' ∧ w'.files = w.files) ?_ ?_
  · refine keeps_perform (hPJ w hw) ?_
    intro c w' h
    split at h
    · cases h
    cases h
    exact ⟨hP w _ hw, rfl⟩
  · rintro _ w₁ ⟨hw₁, hfiles⟩
    refine keeps_onFail hJ ?_
    refine keeps_skip (keeps_inspect (hPJ w₁ hw₁) fun _ _ _ => rfl) fun _ => ?_
    refine keeps_bind (fun _ w' => P w' ∧ w'.files = w.files ∧
        w'.temporaries key = some (.regular ⟨proof.sha256, proof.byteLength, mode⟩) ∧
        Readable cfg ⟨proof.sha256, proof.byteLength, mode⟩) ?_ ?_
    · refine keeps_perform (hPJ w₁ hw₁) ?_
      intro c w' h
      split at h
      · cases h
      next hfault =>
      cases h
      exact ⟨hP w₁ _ hw₁, hfiles, w₁.setTemporary_get key _, hlength, hfault⟩
    · rintro _ w₂ h
      exact keeps_phase (hPJ w₂ h.1) h

/-! ## Apply -/

/-- The proof of the backup that `apply` hands to its first hook. -/
def backupProof (cfg : WriteConfig) (before : FileState) : Option ArtifactProof :=
  before.map fun file =>
    cfg.makeProof ("artifact://sha256/" ++ file.sha256) file.sha256 file.byteLength

theorem keeps_persistBefore {before : FileState} {Q : Option ArtifactProof → World → Prop}
    (hJ : J w) (hQ : Q (backupProof cfg before) w) :
    Keeps J Q (persistBefore cfg before) w := by
  cases before with
  | none => exact hQ
  | some file =>
    exact keeps_bind (fun _ w' => w = w') (keeps_phase hJ rfl) fun _ _ h => h ▸ hQ

section Apply

variable {request : ApplyRequest} {C D : World → Prop}

/-- The world behind the rename of `apply`. -/
def World.land (w : World) (request : ApplyRequest) (entry : Option Entry) : World :=
  ((w.setTemporary request.key entry).setFile request.path
    (some (.regular request.after))).record (.landed request.path (.regular request.after))

theorem keeps_installTemp (hD : Ignores request.key D) (hDJ : ∀ w, D w → J w) (hJ : J w)
    (hfile : w.files request.path = request.operation.before.map .regular)
    (htemp : w.temporaries request.key = some (.regular request.after))
    (hland : ∀ entry, D (w.land request entry)) :
    Keeps J (fun _ w' => D w' ∧ w'.files request.path = some (.regular request.after))
      (installTemp cfg request) w := by
  unfold installTemp
  cases hoperation : request.operation with
  | create =>
    refine keeps_perform hJ ?_
    intro c w' h
    rw [htemp, hfile, hoperation] at h
    cases h
    exact ⟨hland none, World.setFile_get _ _ _⟩
  | replace before =>
    refine keeps_bind (fun _ w' => w' = w.land request (some (.regular before))) ?_ ?_
    · refine keeps_perform hJ ?_
      intro c w' h
      rw [htemp, hfile, hoperation] at h
      cases h
      rfl
    · rintro _ _ rfl
      have hw := hland (some (.regular before))
      refine keeps_bind
        (fun state w' => w' = w.land request (some (.regular before)) ∧
          state = some before)
        (keeps_observeTemporary (hDJ _ hw) fun state hstate => ⟨rfl, ?_⟩) ?_
      · have : (w.land request (some (.regular before))).temporaries request.key =
            some (.regular before) :=
          w.setTemporary_get request.key _
        rw [this] at hstate
        cases state with
        | none => cases hstate
        | some file => cases hstate; rfl
      · rintro _ _ ⟨rfl, rfl⟩
        rw [if_pos rfl]
        refine keeps_mono (keeps_unlinkTemp hD hDJ hw) ?_
        rintro _ w' ⟨hw', hfiles, -⟩
        exact ⟨hw', by rw [hfiles]; exact World.setFile_get _ _ _⟩

/-- **`apply` keeps the target up to the rename, and returns on the candidate.** -/
theorem keeps_apply {A B : World → Prop} {rollbackReady : Option ArtifactProof → WriteProg Unit}
    {commitAuthority : WriteProg Unit} (hJ : Ignores request.key J) (hAJ : ∀ w, A w → J w)
    (hB : Ignores request.key B) (hBJ : ∀ w, B w → J w)
    (hCJ : ∀ w, C w → J w) (hD : Ignores request.key D) (hDJ : ∀ w, D w → J w)
    (hready : ∀ w, A w → w.files request.path = request.operation.before.map .regular →
      (∀ file, request.operation.before = some file → Readable cfg file) →
      Keeps J (fun _ => B) (rollbackReady (backupProof cfg request.operation.before)) w)
    (hcommit : ∀ w, B w → Keeps J (fun _ w' => C w' ∧ w'.files = w.files ∧
      w'.temporaries = w.temporaries) commitAuthority w)
    (hland : ∀ w entry, C w → Readable cfg request.after →
      w.files request.path = request.operation.before.map .regular →
      D (w.land request entry)) (hw : A w) :
    Keeps J (fun result w' => D w' ∧ w'.files request.path = some (.regular request.after) ∧
        result = ⟨request.path, request.operation, request.after, request.candidate,
          backupProof cfg request.operation.before⟩)
      (apply cfg request rollbackReady commitAuthority) w := by
  have hJw := hAJ w hw
  refine keeps_skip (keeps_check hJw fun _ => rfl) fun _ => ?_
  refine keeps_skip (keeps_openParent hJw rfl) fun _ => ?_
  refine keeps_bind (fun state w' => w = w' ∧
      w.files request.path = state.map .regular ∧
      ∀ file, state = some file → Readable cfg file)
    (keeps_observeTarget hJw fun state hstate hread => ⟨rfl, hstate, hread⟩) ?_
  rintro state _ ⟨rfl, hfile, hread⟩
  refine keeps_bind (fun _ w' => w = w' ∧ state = request.operation.before)
    (keeps_check hJw fun h => ⟨rfl, of_decide_eq_true h⟩) ?_
  rintro _ _ ⟨rfl, rfl⟩
  refine keeps_skip (keeps_phase hJw rfl) fun _ => ?_
  refine keeps_bind (fun proof w' => w = w' ∧
      proof = backupProof cfg request.operation.before)
    (keeps_persistBefore hJw ⟨rfl, rfl⟩) ?_
  rintro _ _ ⟨rfl, rfl⟩
  refine keeps_bind (fun _ => B) (hready w hw hfile hread) ?_
  intro _ w₁ hB₁
  refine keeps_skip (keeps_phase (hBJ w₁ hB₁) rfl) fun _ => ?_
  refine keeps_bind _ (keeps_copy hB hBJ hJ hB₁) ?_
  rintro _ w₂ ⟨hB₂, -, htemp, hreadable⟩
  refine keeps_bind (fun _ w' => D w' ∧
      w'.files request.path = some (.regular request.after)) (keeps_onFail hJ ?_) ?_
  · have hJ₂ := hBJ w₂ hB₂
    refine keeps_skip (keeps_openParent hJ₂ rfl) fun _ => ?_
    refine keeps_skip (keeps_observeTemporary hJ₂ fun _ _ => rfl) fun owned => ?_
    refine keeps_skip (keeps_check hJ₂ fun _ => rfl) fun _ => ?_
    refine keeps_bind (fun state w' => w₂ = w' ∧
        w₂.files request.path = state.map .regular)
      (keeps_observeTarget hJ₂ fun state hstate _ => ⟨rfl, hstate⟩) ?_
    rintro state _ ⟨rfl, hfile₂⟩
    refine keeps_bind (fun _ w' => w₂ = w' ∧ state = request.operation.before)
      (keeps_check hJ₂ fun h => ⟨rfl, of_decide_eq_true h⟩) ?_
    rintro _ _ ⟨rfl, rfl⟩
    refine keeps_skip (keeps_phase hJ₂ rfl) fun _ => ?_
    refine keeps_bind _ (hcommit w₂ hB₂) ?_
    rintro _ w₃ ⟨hC, hfiles, htemps⟩
    rw [← hfiles] at hfile₂
    rw [← htemps] at htemp
    exact keeps_installTemp hD hDJ (hCJ w₃ hC) hfile₂ htemp fun entry =>
      hland w₃ entry hC hreadable hfile₂
  · rintro _ w₃ ⟨hD₃, hfile₃⟩
    have hJ₃ := hDJ w₃ hD₃
    refine keeps_skip (keeps_phase hJ₃ rfl) fun _ => ?_
    refine keeps_skip (keeps_phase hJ₃ rfl) fun _ => ?_
    refine keeps_skip (keeps_observeTarget hJ₃ fun _ _ _ => rfl) fun applied => ?_
    refine keeps_skip (keeps_check hJ₃ fun _ => rfl) fun _ => ?_
    exact ⟨hD₃, hfile₃, rfl⟩

end Apply

/-! ## Rollback -/

section Rollback

/-- The world behind a rename that changes the target to its before-state. -/
def World.restore (w : World) (key : TemporaryKey) (path : String)
    (entry temporary : Option Entry) : World :=
  ((w.setTemporary key temporary).setFile path entry).record (.restored path entry)

variable {after before : File} {commitAuthority : WriteProg Unit}

theorem keeps_discard {refused : WriteProg Unit} (hJ : Ignores key J) (hw : J w)
    (htemp : w.temporaries key = some (.regular after)) :
    Keeps J (fun _ => J) (do
      phase
      let moved ← observeTemporary cfg key
      if moved = some after then unlinkTemp key else refused) w := by
  refine keeps_bind (fun _ w' => w = w') (keeps_phase hw rfl) ?_
  rintro _ _ rfl
  refine keeps_bind (fun state w' => state = some after ∧ w = w')
    (keeps_observeTemporary hw fun state hstate => ⟨?_, rfl⟩) ?_
  · rw [htemp] at hstate
    cases state with
    | none => cases hstate
    | some file => cases hstate; rfl
  · rintro _ _ ⟨rfl, rfl⟩
    rw [if_pos rfl]
    exact keeps_mono (keeps_unlinkTemp hJ (fun _ h => h) hw) fun _ _ h => h.1

theorem keeps_removeCreated (hJ : Ignores key J) (hw : J w)
    (hcommit : ∀ w, J w → Keeps J (fun _ w' => w = w') commitAuthority w)
    (hfile : w.files path = some (.regular after))
    (hrestore : ∀ w entry, J w → w.files path = some (.regular after) →
      J (w.restore key path none entry)) :
    Keeps J (fun _ => J) (removeCreated cfg key path after commitAuthority) w := by
  refine keeps_skip (hcommit w hw) fun _ => ?_
  have hJ₁ := hrestore w (some (.regular after)) hw hfile
  refine keeps_bind (fun _ w' => w' = w.restore key path none (some (.regular after)))
    ?_ ?_
  · refine keeps_perform hw ?_
    intro c w' h
    rw [hfile] at h
    split at h
    · next hnone hsome =>
        cases hsome
        cases h
        rfl
    · cases h
  · rintro _ _ rfl
    exact keeps_discard hJ hJ₁ (w.setTemporary_get key _)

theorem keeps_restoreBefore (hJ : Ignores key J) (hw : J w)
    (hcommit : ∀ w, J w → Keeps J (fun _ w' => w = w') commitAuthority w)
    (htemp : w.temporaries key = some (.regular before))
    (hrestore : ∀ w entry, J w → w.files path = some (.regular after) →
      J (w.restore key path (some (.regular before)) entry)) :
    Keeps J (fun _ => J) (restoreBefore cfg key path after commitAuthority) w := by
  refine keeps_skip (keeps_openParent hw rfl) fun _ => ?_
  refine keeps_bind (fun state w' => w = w' ∧ w.files path = state.map .regular)
    (keeps_observeTarget hw fun state hstate _ => ⟨rfl, hstate⟩) ?_
  rintro state _ ⟨rfl, hfile⟩
  refine keeps_bind (fun _ w' => w = w' ∧ state = some after)
    (keeps_check hw fun h => ⟨rfl, of_decide_eq_true h⟩) ?_
  rintro _ _ ⟨rfl, rfl⟩
  refine keeps_skip (hcommit w hw) fun _ => ?_
  have hJ₁ := hrestore w (some (.regular after)) hw hfile
  refine keeps_bind
    (fun _ w' => w' = w.restore key path (some (.regular before)) (some (.regular after)))
    ?_ ?_
  · refine keeps_perform hw ?_
    intro c w' h
    rw [hfile, htemp] at h
    cases h
    rfl
  · rintro _ _ rfl
    exact keeps_discard hJ hJ₁ (w.setTemporary_get key _)

/-- **`rollback` returns on the before-state.** -/
theorem keeps_rollback {receipt : WriteResult} {temporaryName : String}
    (hJ : Ignores (parentOf receipt.path, temporaryName) J) (hw : J w)
    (hcommit : ∀ w, J w → Keeps J (fun _ w' => w = w') commitAuthority w)
    (hproof : ∀ proof before, receipt.rollbackProof = some proof →
      receipt.operation = .replace before →
      proof.sha256 = before.sha256 → proof.byteLength = before.byteLength →
      ∀ w entry, J w → w.files receipt.path = some (.regular receipt.after) →
        J (w.restore (parentOf receipt.path, temporaryName) receipt.path
          (some (.regular before)) entry)) (hremove : receipt.operation = .create →
      ∀ w entry, J w → w.files receipt.path = some (.regular receipt.after) →
        J (w.restore (parentOf receipt.path, temporaryName) receipt.path none entry)) :
    Keeps J (fun result w' => J w' ∧
        w'.files receipt.path = receipt.operation.before.map .regular ∧
        result.state = receipt.operation.before)
      (rollback cfg receipt temporaryName commitAuthority) w := by
  obtain ⟨path, operation, after, candidate, proof⟩ := receipt
  dsimp only at hJ hproof hremove ⊢
  refine keeps_bind (fun _ w' => w = w' ∧
      (operation = .create ∧ proof = none ∨
        ∃ before p, operation = .replace before ∧ proof = some p ∧
          p.sha256 = before.sha256 ∧ p.byteLength = before.byteLength)) ?_ ?_
  · unfold verifyRollbackProof
    cases operation with
    | create =>
      cases proof with
      | none => exact ⟨rfl, .inl ⟨rfl, rfl⟩⟩
      | some p => exact hw
    | replace before =>
      cases proof with
      | none => exact hw
      | some p =>
        refine keeps_bind (fun _ w' => w = w' ∧
            p.sha256 = before.sha256 ∧ p.byteLength = before.byteLength)
          (keeps_check hw fun h => ⟨rfl, by simpa using h⟩) ?_
        rintro _ _ ⟨rfl, hbytes⟩
        exact keeps_inspect hw fun _ _ _ =>
          ⟨rfl, .inr ⟨before, p, rfl, rfl, hbytes⟩⟩
  · rintro _ _ ⟨rfl, hreceipt⟩
    refine keeps_skip (keeps_openParent hw rfl) fun _ => ?_
    refine keeps_bind (fun state w' => w = w' ∧ w.files path = state.map .regular)
      (keeps_observeTarget hw fun state hstate _ => ⟨rfl, hstate⟩) ?_
    rintro state _ ⟨rfl, hfile⟩
    split
    · next heq => exact ⟨hw, by rw [hfile, heq], rfl⟩
    refine keeps_bind (fun _ w' => w = w' ∧ state = some after)
      (keeps_check hw fun h => ⟨rfl, of_decide_eq_true h⟩) ?_
    rintro _ _ ⟨rfl, rfl⟩
    refine keeps_skip (keeps_openParent hw rfl) fun _ => ?_
    refine keeps_bind (fun _ => J) ?_ ?_
    · unfold compensate
      rcases hreceipt with ⟨rfl, rfl⟩ | ⟨before, p, rfl, rfl, hsha, hlength⟩
      · exact keeps_onFail hJ (keeps_removeCreated hJ hw hcommit hfile (hremove rfl))
      · refine keeps_bind _ (keeps_copy hJ (fun _ h => h) hJ hw) ?_
        rintro _ w₁ ⟨hw₁, -, htemp, -⟩
        rw [hsha, hlength] at htemp
        exact keeps_onFail hJ (keeps_restoreBefore hJ hw₁ hcommit htemp
          (hproof p before rfl rfl hsha hlength))
    · intro _ w₁ hw₁
      refine keeps_skip (keeps_phase hw₁ rfl) fun _ => ?_
      refine keeps_bind (fun state w' => w₁ = w' ∧ w₁.files path = state.map .regular)
        (keeps_observeTarget hw₁ fun state hstate _ => ⟨rfl, hstate⟩) ?_
      rintro restored _ ⟨rfl, hrestored⟩
      refine keeps_bind (fun _ w' => w₁ = w' ∧ restored = operation.before)
        (keeps_check hw₁ fun h => ⟨rfl, of_decide_eq_true h⟩) ?_
      rintro _ _ ⟨rfl, rfl⟩
      exact ⟨hw₁, hrestored, rfl⟩

end Rollback

end Ecosystem.Changes
