import Mathlib

/-!
# Append-only chains

Entries carry their position and the digest of the entry before them.  `ForallSplit`
quantifies over the places of a log with what stands before each; an append adds one.
-/

namespace Ecosystem.Lib

variable {α δ : Type}

/-- `P before x` holds at every place `x` of the log. -/
def ForallSplit (P : List α → α → Prop) (xs : List α) : Prop :=
  ∀ before x after, xs = before ++ x :: after → P before x

variable {P : List α → α → Prop} {xs : List α}

theorem forallSplit_nil : ForallSplit P [] := by
  intro before x after h
  simp at h

theorem forallSplit_cons {x : α} :
    ForallSplit P (x :: xs) ↔ P [] x ∧ ForallSplit (fun before => P (x :: before)) xs := by
  constructor
  · intro h
    refine ⟨h [] x xs rfl, ?_⟩
    intro before y after hxs
    exact h (x :: before) y after (by rw [hxs]; rfl)
  · rintro ⟨hx, hxs⟩ before y after heq
    rcases before with _ | ⟨z, before⟩
    · simp only [List.nil_append, List.cons.injEq] at heq
      obtain ⟨rfl, -⟩ := heq
      exact hx
    · simp only [List.cons_append, List.cons.injEq] at heq
      obtain ⟨rfl, htail⟩ := heq
      exact hxs before y after htail

theorem exists_split_cons {Q : List α → α → List α → Prop} {x : α} :
    (∃ before y after, x :: xs = before ++ y :: after ∧ Q before y after) ↔
      Q [] x xs ∨ ∃ before y after, xs = before ++ y :: after ∧ Q (x :: before) y after := by
  constructor
  · rintro ⟨_ | ⟨z, before⟩, y, after, hsplit, h⟩
    · cases hsplit
      exact .inl h
    · cases hsplit
      exact .inr ⟨before, y, after, rfl, h⟩
  · rintro (h | ⟨before, y, after, rfl, h⟩)
    · exact ⟨[], x, xs, rfl, h⟩
    · exact ⟨x :: before, y, after, rfl, h⟩

theorem exists_first_split (h : ∃ before x after, xs = before ++ x :: after ∧ P before x) :
    ∃ before x after, xs = before ++ x :: after ∧ P before x ∧
      ForallSplit (fun earlier y => ¬ P earlier y) before := by
  induction xs generalizing P with
  | nil =>
    obtain ⟨before, x, after, hxs, -⟩ := h
    simp at hxs
  | cons z xs ih =>
    by_cases hz : P [] z
    · exact ⟨[], z, xs, rfl, hz, forallSplit_nil⟩
    obtain ⟨front, x, rest, rfl, hx, hfirst⟩ :=
      ih ((exists_split_cons.mp h).resolve_left hz)
    exact ⟨z :: front, x, rest, rfl, hx, forallSplit_cons.mpr ⟨hz, hfirst⟩⟩

theorem forallSplit_concat {x : α} :
    ForallSplit P (xs ++ [x]) ↔ ForallSplit P xs ∧ P xs x := by
  constructor
  · intro h
    refine ⟨?_, h xs x [] rfl⟩
    intro before y after hxs
    exact h before y (after ++ [x]) (by rw [hxs]; simp)
  · rintro ⟨hxs, hx⟩ before y after heq
    rcases List.eq_nil_or_concat after with rfl | ⟨front, z, rfl⟩
    · obtain ⟨rfl, hy⟩ := List.append_inj' heq rfl
      obtain rfl : x = y := by simpa using hy
      exact hx
    · rw [List.concat_eq_append, ← List.cons_append, ← List.append_assoc] at heq
      exact hxs before y front (List.append_inj' heq rfl).1

theorem exists_last_split {p : α → Prop} (h : ∃ x ∈ xs, p x) :
    ∃ before x after, xs = before ++ x :: after ∧ p x ∧ ∀ y ∈ after, ¬p y := by
  induction xs using List.reverseRecOn with
  | nil => simp at h
  | append_singleton xs x ih =>
    by_cases hx : p x
    · exact ⟨xs, x, [], rfl, hx, by simp⟩
    have hxs : ∃ y ∈ xs, p y := by
      obtain ⟨y, hy, hp⟩ := h
      rcases List.mem_append.mp hy with hy | hy
      · exact ⟨y, hy, hp⟩
      · exact absurd (List.mem_singleton.mp hy ▸ hp) hx
    obtain ⟨before, y, after, rfl, hy, hafter⟩ := ih hxs
    refine ⟨before, y, after ++ [x], by simp, hy, ?_⟩
    intro z hz
    rcases List.mem_append.mp hz with hz | hz
    · exact hafter z hz
    · rw [List.mem_singleton.mp hz]
      exact hx

/-- Every entry names its own position, counted from one, and the digest of its
predecessor; the first entry names none. -/
def Chained (digest : α → δ) (sequence : α → ℕ) (previous : α → Option δ)
    (xs : List α) : Prop :=
  ForallSplit (fun before x =>
    sequence x = before.length + 1 ∧
      previous x = before.getLast?.map digest) xs

/-- **The last digest pins a chain**, unless two of its entries have one digest. -/
theorem Chained.eq_of_getLast {digest : α → δ} {sequence : α → ℕ} {previous : α → Option δ}
    {xs ys : List α} (hinj : ∀ x ∈ xs, ∀ y ∈ ys, digest x = digest y → x = y)
    (hxs : Chained digest sequence previous xs) (hys : Chained digest sequence previous ys)
    (h : xs.getLast?.map digest = ys.getLast?.map digest) : xs = ys := by
  induction xs using List.reverseRecOn generalizing ys with
  | nil => simpa using h.symm
  | append_singleton xs x ih =>
    rcases List.eq_nil_or_concat ys with rfl | ⟨ys, y, rfl⟩
    · simp at h
    rw [List.concat_eq_append] at *
    obtain rfl : x = y := hinj x (by simp) y (by simp) (by simpa using h)
    obtain ⟨hxs, -, hx⟩ := forallSplit_concat.mp hxs
    obtain ⟨hys, -, hy⟩ := forallSplit_concat.mp hys
    rw [ih (fun a ha b hb => hinj a (by simp [ha]) b (by simp [hb])) hxs hys (hx.symm.trans hy)]

end Ecosystem.Lib
