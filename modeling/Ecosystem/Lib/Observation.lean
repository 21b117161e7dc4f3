import Ecosystem.Lib.Program

/-!
# Programs among others

A program among others finds at each of its steps a state that it did not leave.
`observe` is what it answers if it only reads; `Answers` is its weakest precondition
when `P` is all that is known of these states.
-/

namespace Ecosystem.Lib.Prog

variable {ι σ ε ε' α β : Type}

/-! ## Errors -/

/-- `try … except`, where every exception is replaced. -/
def mapError (f : ε → ε') : Prog ι σ ε α → Prog ι σ ε' α
  | done a => done a
  | fail e => fail (f e)
  | step commit next => step commit fun i s => (next i s).mapError f

/-! ## Observations -/

/-- What a program answers that finds `states` at its steps. -/
def observe : Prog ι σ ε α → (Nat → ι) → (Nat → σ) → Except ε α
  | done a, _, _ => .ok a
  | fail e, _, _ => .error e
  | step _ next, inputs, states =>
    (next (inputs 0) (states 0)).observe (fun n => inputs (n + 1)) fun n => states (n + 1)

def Answers (P : σ → Prop) (Q : Except ε α → Prop) : Prog ι σ ε α → Prop
  | done a => Q (.ok a)
  | fail e => Q (.error e)
  | step _ next => ∀ i s, P s → (next i s).Answers P Q

variable {P : σ → Prop} {Q : Except ε α → Prop} {p : Prog ι σ ε α}

/-- **What a program answers among others.** -/
theorem Answers.observe (h : p.Answers P Q) {inputs : Nat → ι} {states : Nat → σ}
    (hstates : ∀ n, P (states n)) : Q (p.observe inputs states) := by
  induction p generalizing inputs states with
  | done a => exact h
  | fail e => exact h
  | step commit next ih =>
    apply ih
    · exact h (inputs 0) (states 0) (hstates 0)
    · intro n
      exact hstates (n + 1)

/-- The rule of sequence, behind a part that answers `a`. -/
theorem answers_bind {k : α → Prog ι σ ε β} {Q : Except ε β → Prop} {a : α}
    (h : p.Answers P (· = .ok a)) (hk : (k a).Answers P Q) : (p >>= k).Answers P Q := by
  induction p with
  | done b =>
    obtain rfl := Except.ok.inj h
    exact hk
  | fail e => cases h
  | step commit next ih =>
    intro i s hs
    exact ih i s (h i s hs)

theorem answers_mapError {f : ε → ε'} {a : α} (h : p.Answers P (· = .ok a)) :
    (p.mapError f).Answers P (· = .ok a) := by
  induction p with
  | done b =>
    obtain rfl := Except.ok.inj h
    rfl
  | fail e => cases h
  | step commit next ih =>
    intro i s hs
    exact ih i s (h i s hs)

theorem answers_act {f : ι → σ → Except ε α × σ} {a : α}
    (h : ∀ i s, P s → (f i s).1 = .ok a) :
    (act f : Prog ι σ ε α).Answers P (· = .ok a) := by
  intro i s hs
  show (ofExcept (f i s).1 : Prog ι σ ε α).Answers P (· = .ok a)
  rw [h i s hs]
  rfl

/-! ## Runs of parts -/

variable {script : List ι} {s s' : σ} {a : α} {b : β}

theorem run_bind_eq_returned {k : α → Prog ι σ ε β}
    (h : (p >>= k).run script s = (.returned b, s')) :
    ∃ script₁ script₂ a s₁, p.run script₁ s = (.returned a, s₁) ∧
      (k a).run script₂ s₁ = (.returned b, s') := by
  induction p generalizing script s with
  | done a => exact ⟨[], script, a, s, rfl, h⟩
  | fail e => cases h
  | step commit next ih =>
    cases script with
    | nil => cases h
    | cons i script =>
      obtain ⟨script₁, script₂, a, s₁, hfirst, hrest⟩ := ih i s h
      exact ⟨i :: script₁, script₂, a, s₁, hfirst, hrest⟩

theorem run_map_of_returned {f : α → β} (h : p.run script s = (.returned a, s')) :
    (do let a ← p; return f a : Prog ι σ ε β).run script s = (.returned (f a), s') := by
  induction p generalizing script s with
  | done a' =>
    obtain ⟨ha, rfl⟩ := Prod.mk.inj h
    obtain rfl := Ending.returned.inj ha
    rfl
  | fail e => cases h
  | step commit next ih =>
    cases script with
    | nil => cases h
    | cons i script => exact ih i s h

end Ecosystem.Lib.Prog
