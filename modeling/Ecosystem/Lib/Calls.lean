/-!
# Calls that keep their state when they raise

A call returns or raises, and keeps what it has done to the state in both cases.  `Wp`
is its weakest precondition for a postcondition of each kind.
-/

namespace Ecosystem.Lib

variable {ε σ α β : Type}

/-- What holds after the call, whether it returns or raises. -/
def Wp (c : EStateM ε σ α) (Q : α → σ → Prop) (E : ε → σ → Prop) (s : σ) : Prop :=
  match c s with
  | .ok a s' => Q a s'
  | .error e s' => E e s'

/-- An `except` block that cleans up and raises again; its own failures are ignored. -/
def onError (c : EStateM ε σ α) (cleanup : EStateM ε σ Unit) : EStateM ε σ α := fun s =>
  match c s with
  | .ok a s' => .ok a s'
  | .error e s' =>
    match cleanup s' with
    | .ok _ s'' => .error e s''
    | .error _ s'' => .error e s''

def check (holds : Bool) (e : ε) : EStateM ε σ Unit :=
  if holds then pure () else throw e

variable {c : EStateM ε σ α} {Q Q' : α → σ → Prop} {E E' : ε → σ → Prop} {s : σ}

theorem wp_pure {a : α} : Wp (pure a : EStateM ε σ α) Q E s ↔ Q a s :=
  Iff.rfl

theorem wp_modify {f : σ → σ} {Q : Unit → σ → Prop} :
    Wp (modify f : EStateM ε σ Unit) Q E s ↔ Q () (f s) :=
  Iff.rfl

theorem wp_get {Q : σ → σ → Prop} : Wp (get : EStateM ε σ σ) Q E s ↔ Q s s :=
  Iff.rfl

theorem wp_set {s' : σ} {Q : PUnit → σ → Prop} :
    Wp (set s' : EStateM ε σ PUnit) Q E s ↔ Q ⟨⟩ s' :=
  Iff.rfl

theorem wp_map {f : α → β} {Q : β → σ → Prop} :
    Wp (f <$> c) Q E s ↔ Wp c (fun a => Q (f a)) E s := by
  change (match EStateM.map f c s with
    | .ok a s' => Q a s'
    | .error e s' => E e s') ↔ _
  rw [EStateM.map, Wp]
  cases c s <;> rfl

/-- The rule of sequence. -/
theorem wp_bind {k : α → EStateM ε σ β} {Q : β → σ → Prop} :
    Wp (c >>= k) Q E s ↔ Wp c (fun a s' => Wp (k a) Q E s') E s := by
  change (match EStateM.bind c k s with
    | .ok a s' => Q a s'
    | .error e s' => E e s') ↔ _
  rw [EStateM.bind, Wp]
  cases c s <;> rfl

theorem wp_check {holds : Bool} {e : ε} {Q : Unit → σ → Prop} :
    Wp (check holds e) Q E s ↔ (holds = true → Q () s) ∧ (holds = false → E e s) := by
  cases holds with
  | true => exact ⟨fun h => ⟨fun _ => h, nofun⟩, fun h => h.1 rfl⟩
  | false => exact ⟨fun h => ⟨nofun, fun _ => h⟩, fun h => h.2 rfl⟩

/-- The rule of exceptions. -/
theorem wp_onError {cleanup : EStateM ε σ Unit} :
    Wp (onError c cleanup) Q E s ↔
      Wp c Q (fun e s' => Wp cleanup (fun _ => E e) (fun _ => E e) s') s := by
  rw [Wp, onError, Wp]
  cases c s with
  | ok a s' => rfl
  | error e s' =>
    change (match (match cleanup s' with
      | .ok _ s'' => (.error e s'' : EStateM.Result ε σ α)
      | .error _ s'' => .error e s'') with
      | .ok a s' => Q a s'
      | .error e s' => E e s') ↔ Wp cleanup (fun _ => E e) (fun _ => E e) s'
    rw [Wp]
    cases cleanup s' <;> rfl

/-- The rule of consequence. -/
theorem Wp.mono (h : Wp c Q E s) (hQ : ∀ a s', Q a s' → Q' a s')
    (hE : ∀ e s', E e s' → E' e s') : Wp c Q' E' s := by
  rw [Wp] at h ⊢
  cases hc : c s with
  | ok a s' =>
    rw [hc] at h
    exact hQ a s' h
  | error e s' =>
    rw [hc] at h
    exact hE e s' h

theorem Wp.of_ok {a : α} {s' : σ} (h : Wp c Q E s) (hc : c s = .ok a s') : Q a s' := by
  rw [Wp, hc] at h
  exact h

/-- A call cannot meet two postconditions that exclude each other. -/
theorem Wp.disjoint (h : Wp c Q E s) (h' : Wp c Q' E' s) (hQ : ∀ a s', Q a s' → ¬ Q' a s')
    (hE : ∀ e s', E e s' → ¬ E' e s') : False := by
  rw [Wp] at h h'
  cases hc : c s with
  | ok a s' =>
    rw [hc] at h h'
    exact hQ a s' h h'
  | error e s' =>
    rw [hc] at h h'
    exact hE e s' h h'

end Ecosystem.Lib
