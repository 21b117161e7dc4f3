import Mathlib

/-!
# Sorting by a key

A stable sort by a key returns the same list for every order of its input as soon as no
two elements share a key, and its head is then the least element.
-/

namespace Ecosystem.Lib

variable {α κ : Type} [LinearOrder κ]

def sortOn (key : α → κ) (xs : List α) : List α :=
  xs.insertionSort fun a b => key a ≤ key b

def leastOn (key : α → κ) (xs : List α) : Option α :=
  (sortOn key xs).head?

def KeyInjective (key : α → κ) (xs : List α) : Prop :=
  ∀ a ∈ xs, ∀ b ∈ xs, key a = key b → a = b

variable {key : α → κ} {xs ys : List α}

/-- Transitivity and totality, as the sort asks for them. -/
instance keyTrans : IsTrans α fun a b => key a ≤ key b :=
  ⟨fun _ _ _ => le_trans⟩

instance keyTotal : Std.Total fun a b : α => key a ≤ key b :=
  ⟨fun _ _ => le_total _ _⟩

theorem sortOn_perm (key : α → κ) (xs : List α) : (sortOn key xs).Perm xs :=
  List.perm_insertionSort _ xs

@[simp] theorem mem_sortOn {a : α} : a ∈ sortOn key xs ↔ a ∈ xs :=
  (sortOn_perm key xs).mem_iff

theorem pairwise_sortOn (key : α → κ) (xs : List α) :
    (sortOn key xs).Pairwise fun a b => key a ≤ key b :=
  List.pairwise_insertionSort _ xs

theorem pairwise_map_sortOn (key : α → κ) (xs : List α) :
    ((sortOn key xs).map key).Pairwise (· ≤ ·) := by
  rw [List.pairwise_map]
  exact pairwise_sortOn key xs

/-- **Order independence.**  Without two elements of one key, the sorted list does not
depend on the order of the input. -/
theorem sortOn_eq_of_perm (hkey : KeyInjective key xs) (hperm : xs.Perm ys) :
    sortOn key xs = sortOn key ys := by
  have hsorted : (sortOn key xs).Perm (sortOn key ys) :=
    (sortOn_perm key xs).trans (hperm.trans (sortOn_perm key ys).symm)
  refine hsorted.eq_of_pairwise ?_ (pairwise_sortOn key xs) (pairwise_sortOn key ys)
  intro a b ha hb hab hba
  have hb' : b ∈ xs := hperm.mem_iff.mpr (mem_sortOn.mp hb)
  exact hkey a (mem_sortOn.mp ha) b hb' (le_antisymm hab hba)

theorem leastOn_eq_none : leastOn key xs = none ↔ xs = [] := by
  rw [leastOn, List.head?_eq_none_iff, ← List.length_eq_zero_iff,
    (sortOn_perm key xs).length_eq, List.length_eq_zero_iff]

theorem leastOn_spec {a : α} (h : leastOn key xs = some a) :
    a ∈ xs ∧ ∀ b ∈ xs, key a ≤ key b := by
  obtain ⟨rest, hrest⟩ := List.head?_eq_some_iff.mp h
  have hpair := pairwise_sortOn key xs
  rw [hrest, List.pairwise_cons] at hpair
  have hmem : ∀ b, b ∈ xs ↔ b ∈ a :: rest := by
    intro b
    rw [← hrest, mem_sortOn]
  constructor
  · rw [hmem]
    exact List.mem_cons_self ..
  · intro b hb
    rcases List.mem_cons.mp ((hmem b).mp hb) with rfl | hb
    · exact le_refl _
    · exact hpair.1 b hb

end Ecosystem.Lib
