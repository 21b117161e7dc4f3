import Mathlib

/-!
# Folds of fallible steps

A step `f : σ → α → Except ε σ` accepts its input or refuses it.  The rules say what
acceptance of a sequence gives: one step at its end, and an invariant.
-/

namespace Ecosystem.Lib

variable {σ α ε : Type}

theorem bind_eq_ok {β γ : Type} {x : Except ε β} {f : β → Except ε γ} {c : γ} :
    x >>= f = .ok c ↔ ∃ b, x = .ok b ∧ f b = .ok c := by
  cases x with
  | error e | ok b => simp [bind, Except.bind]

theorem rest_ok {β γ : Type} {x : Except ε β} {f : β → Except ε γ} {c : γ}
    (h : x >>= f = .ok c) : ∃ b, f b = .ok c :=
  (bind_eq_ok.mp h).imp fun _ h => h.2

theorem forM_eq_ok {f : α → Except ε Unit} {xs : List α} :
    forM xs f = .ok () ↔ ∀ x ∈ xs, f x = .ok () := by
  induction xs with
  | nil => simp [pure, Except.pure]
  | cons x xs ih =>
    rw [List.forM_cons, bind_eq_ok]
    constructor
    · rintro ⟨⟨⟩, hx, hrest⟩ y hy
      rcases List.mem_cons.mp hy with rfl | hy
      · exact hx
      · exact ih.mp hrest y hy
    · intro h
      exact ⟨(), h x (List.mem_cons_self ..),
        ih.mpr fun y hy => h y (List.mem_cons_of_mem _ hy)⟩

theorem foldlM_concat_eq_ok {f : σ → α → Except ε σ} {s t : σ} {xs : List α} {x : α} :
    (xs ++ [x]).foldlM f s = .ok t ↔ ∃ q, xs.foldlM f s = .ok q ∧ f q x = .ok t := by
  rw [List.foldlM_append, bind_eq_ok]
  simp only [List.foldlM_cons, List.foldlM_nil, bind_pure]

/-- **The history invariant rule.**  A relation between the inputs accepted so
far and the state reached that holds of the empty history and is kept by every
accepted step holds of every accepted sequence. -/
theorem foldlM_history_induction {f : σ → α → Except ε σ} {s : σ}
    (P : List α → σ → Prop) (init : P [] s)
    (step : ∀ xs q x t, xs.foldlM f s = .ok q → P xs q → f q x = .ok t → P (xs ++ [x]) t) :
    ∀ xs t, xs.foldlM f s = .ok t → P xs t := by
  intro xs
  induction xs using List.reverseRecOn with
  | nil =>
    intro t h
    obtain rfl : s = t := by simpa [pure, Except.pure] using h
    exact init
  | append_singleton xs x ih =>
    intro t h
    obtain ⟨q, hq, hx⟩ := foldlM_concat_eq_ok.mp h
    exact step xs q x t hq (ih q hq) hx

end Ecosystem.Lib
