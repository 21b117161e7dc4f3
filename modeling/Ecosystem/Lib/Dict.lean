import Mathlib

/-!
# Dictionaries with one value type

A finite map whose value type does not depend on the key: two dictionaries with the same
entries are equal, whatever the order in which they were written.
-/

namespace Ecosystem.Lib

abbrev Dict (κ β : Type) := Finmap (fun _ : κ => β)

namespace Dict

variable {κ β : Type} [DecidableEq κ]

/-- Does some value of the dictionary satisfy `p`? -/
def anyValue (p : β → Bool) (d : Dict κ β) : Bool :=
  decide (∃ k ∈ d.keys, (d.lookup k).any p = true)

def valueSet [DecidableEq β] (d : Dict κ β) : Finset (Option β) :=
  d.keys.image fun k => d.lookup k

variable {d : Dict κ β}

theorem anyValue_eq_true {p : β → Bool} :
    d.anyValue p = true ↔ ∃ k v, d.lookup k = some v ∧ p v = true := by
  rw [anyValue, decide_eq_true_eq]
  constructor
  · rintro ⟨k, -, hk⟩
    cases hv : d.lookup k with
    | none => simp [hv] at hk
    | some v => exact ⟨k, v, hv, by simpa [hv] using hk⟩
  · rintro ⟨k, v, hv, hp⟩
    exact ⟨k, Finmap.mem_keys.mpr (Finmap.mem_of_lookup_eq_some hv), by simp [hv, hp]⟩

theorem anyValue_eq_false {p : β → Bool} :
    d.anyValue p = false ↔ ∀ k v, d.lookup k = some v → p v = false := by
  rw [← Bool.not_eq_true, anyValue_eq_true]
  push Not
  simp only [ne_eq, Bool.not_eq_true]

theorem lookup_insert_ite {k k' : κ} {v : β} :
    (d.insert k v).lookup k' = if k' = k then some v else d.lookup k' := by
  split
  · next h => rw [h, Finmap.lookup_insert]
  · next h => exact Finmap.lookup_insert_of_ne d h

theorem mem_keys_iff_lookup {k : κ} : k ∈ d.keys ↔ ∃ v, d.lookup k = some v := by
  rw [Finmap.mem_keys, Finmap.mem_iff]

end Dict

end Ecosystem.Lib
