import Ecosystem.Lib.Json

/-!
# Equality of loaded JSON values

Loaded JSON is compared by the equality of the language: numbers by value, the two
booleans as one and zero, lists and objects item by item.
-/

namespace Ecosystem.Lib

namespace Json

variable {Φ : Type} (value : Φ → ℚ)

def number : Json Φ → Option ℚ
  | .bool b => some (if b then 1 else 0)
  | .int n => some n
  | .float x => some (value x)
  | _ => none

mutual

def same : Json Φ → Json Φ → Bool
  | .null, .null => true
  | .str a, .str b => a = b
  | .arr vs, .arr ws => sameItems vs ws
  | .obj vs, .obj ws => sameMembers vs ws
  | v, w =>
    match v.number value, w.number value with
    | some a, some b => a = b
    | _, _ => false

def sameItems : List (Json Φ) → List (Json Φ) → Bool
  | [], [] => true
  | v :: vs, w :: ws => same v w && sameItems vs ws
  | _, _ => false

def sameMembers : List (String × Json Φ) → List (String × Json Φ) → Bool
  | [], [] => true
  | (k, v) :: vs, (l, w) :: ws => k = l && same v w && sameMembers vs ws
  | _, _ => false

end

variable {value}

variable {v : Json Φ}

@[simp] theorem same_str {s : String} : same value v (.str s) = true ↔ v = .str s := by
  cases v <;> simp [same, number]

@[simp] theorem same_null : same value v .null = true ↔ v = .null := by
  cases v <;> simp [same, number]

@[simp] theorem same_int {n : ℤ} :
    same value v (.int n) = true ↔ v.number value = some (n : ℚ) := by
  cases v <;> simp [same, number]

@[simp] theorem same_obj {ws : List (String × Json Φ)} :
    same value v (.obj ws) = true ↔ ∃ vs, v = .obj vs ∧ sameMembers value vs ws = true := by
  cases v <;> simp [same, number]

@[simp] theorem sameMembers_nil {vs : List (String × Json Φ)} :
    sameMembers value vs [] = true ↔ vs = [] := by
  cases vs <;> simp [sameMembers]

/-- Equal objects have equal members under the same keys. -/
theorem sameMembers_cons {vs ws : List (String × Json Φ)} {l : String} {w : Json Φ} :
    sameMembers value vs ((l, w) :: ws) = true ↔
      ∃ v rest, vs = (l, v) :: rest ∧ same value v w = true ∧
        sameMembers value rest ws = true := by
  cases vs with
  | nil => simp [sameMembers]
  | cons m vs =>
    obtain ⟨k, v⟩ := m
    simp only [sameMembers, Bool.and_eq_true, decide_eq_true_eq, List.cons.injEq,
      Prod.mk.injEq]
    constructor
    · rintro ⟨⟨rfl, hv⟩, hvs⟩
      exact ⟨v, vs, ⟨⟨rfl, rfl⟩, rfl⟩, hv, hvs⟩
    · rintro ⟨v', rest, ⟨⟨rfl, rfl⟩, rfl⟩, hv, hvs⟩
      exact ⟨⟨rfl, hv⟩, hvs⟩

@[simp] theorem number_int {n : ℤ} :
    number value (.int n : Json Φ) = some (n : ℚ) := rfl

def ofOption : Option String → Json Φ
  | none => .null
  | some s => .str s

@[simp] theorem same_ofOption {s : Option String} :
    same value v (ofOption s) = true ↔ v = ofOption s := by
  cases s with
  | none => exact same_null
  | some s => exact same_str

theorem ofOption_injective {s t : Option String}
    (h : (ofOption s : Json Φ) = ofOption t) : s = t := by
  cases s <;> cases t <;> simp_all [ofOption]

end Json

end Ecosystem.Lib
