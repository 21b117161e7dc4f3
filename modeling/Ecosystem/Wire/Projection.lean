import Ecosystem.Lib.JsonSchema

/-!
# The wire schema

`grammar_safe_response_schema` of `eco_runtime/adapters.py`: the projection of a response
schema to what the grammars of the providers express.  Every position of a schema is one
of its projection, with the projected subschema (`locate_walkSchema`).
-/

namespace Ecosystem.Wire

open Ecosystem.Lib (Json)
open Ecosystem.Lib.JsonSchema

variable {Φ : Type}

def grammarUnsupportedKeywords : List String :=
  ["$schema", "minLength", "maxLength", "uniqueItems"]

def schemaMapKeywords : List String :=
  ["$defs", "definitions", "dependentSchemas", "patternProperties", "properties"]

def schemaSingleKeywords : List String :=
  ["additionalItems", "additionalProperties", "contains", "contentSchema", "else", "if",
    "items", "not", "propertyNames", "then", "unevaluatedItems", "unevaluatedProperties"]

def schemaArrayKeywords : List String := ["allOf", "anyOf", "oneOf", "prefixItems"]

mutual

def walkSchema : Json Φ → Json Φ
  | .obj members => .obj (walkMembers members)
  | node => node

def walkMembers : Members Φ → Members Φ
  | [] => []
  | (key, value) :: members =>
    if key ∈ grammarUnsupportedKeywords then walkMembers members
    else (key, walkValue key value) :: walkMembers members

/-- The value of a keyword.  `_walk_schema` copies what is no object, so the source's
tests for an object or a Boolean in front of it make no difference. -/
def walkValue (key : String) : Json Φ → Json Φ
  | .obj children =>
    if key ∈ schemaMapKeywords then .obj (walkChildren children)
    else if key = "dependencies" then .obj (walkChildren children)
    else if key ∈ schemaSingleKeywords then .obj (walkMembers children)
    else .obj children
  | .arr children =>
    if key ∈ schemaArrayKeywords then .arr (walkItems children) else .arr children
  | value => value

/-- The keys are names of properties or definitions and stay. -/
def walkChildren : Members Φ → Members Φ
  | [] => []
  | (name, child) :: children => (name, walkSchema child) :: walkChildren children

def walkItems : List (Json Φ) → List (Json Φ)
  | [] => []
  | child :: children => walkSchema child :: walkItems children

end

/-- The projection has to pass `Draft202012Validator.check_schema`. -/
def grammarSafeResponseSchema (checkSchema : Json Φ → Bool)
    (schema : Members Φ) : Option (Json Φ) :=
  let projected := walkSchema (.obj schema)
  if checkSchema projected then some projected else none

/-! ## The walk, level by level -/

def isSupported (m : String × Json Φ) : Bool := m.1 ∉ grammarUnsupportedKeywords

theorem walkMembers_eq (members : Members Φ) :
    walkMembers members = (members.filter isSupported).map fun m => (m.1, walkValue m.1 m.2) := by
  induction members with
  | nil => rfl
  | cons m members ih =>
    obtain ⟨key, value⟩ := m
    rw [walkMembers, ih, List.filter_cons]
    by_cases h : key ∈ grammarUnsupportedKeywords <;> simp [isSupported, h]

@[simp] theorem walkChildren_eq (children : Members Φ) :
    walkChildren children = children.map fun m => (m.1, walkSchema m.2) := by
  induction children with
  | nil => rfl
  | cons m children ih => rw [walkChildren, ih, List.map_cons]

@[simp] theorem walkItems_eq (children : List (Json Φ)) :
    walkItems children = children.map walkSchema := by
  induction children with
  | nil => rfl
  | cons child children ih => rw [walkItems, ih, List.map_cons]

theorem lookup_map_snd {f : String → Json Φ → Json Φ} (key : String)
    (members : Members Φ) :
    (members.map fun m => (m.1, f m.1 m.2)).lookup key = (members.lookup key).map (f key) := by
  induction members with
  | nil => rfl
  | cons m members ih =>
    rw [List.map_cons, List.lookup_cons, List.lookup_cons, ih]
    by_cases h : key = m.1
    · simp [h]
    · simp [beq_false_of_ne h]

theorem lookup_walkMembers {key : String} (hkey : key ∉ grammarUnsupportedKeywords)
    (members : Members Φ) :
    (walkMembers members).lookup key = (members.lookup key).map (walkValue key) := by
  rw [walkMembers_eq, lookup_map_snd]
  congr 1
  induction members with
  | nil => rfl
  | cons m members ih =>
    obtain ⟨k, value⟩ := m
    rw [List.filter_cons]
    by_cases h : key = k
    · subst h
      have hm : isSupported (key, value) = true := by simpa [isSupported] using hkey
      rw [if_pos hm, List.lookup_cons_self, List.lookup_cons_self]
    · split_ifs <;> simp [List.lookup_cons, beq_false_of_ne h, ih]

theorem entries_walkSchema (schema : Json Φ) :
    entries (walkSchema schema) = walkMembers (entries schema) := by
  cases schema <;> simp [walkSchema, entries, walkMembers]

theorem walkValue_single {key : String} (hkey : key ∈ schemaSingleKeywords) (value : Json Φ) :
    walkValue key value = walkSchema value := by
  have hmap : key ∉ schemaMapKeywords ∧ key ≠ "dependencies" ∧ key ∉ schemaArrayKeywords := by
    revert key
    decide
  cases value <;> simp [walkValue, walkSchema, hmap, hkey]

theorem entries_walkValue {key : String}
    (hkey : key ∈ schemaMapKeywords ∨ key = "dependencies") (value : Json Φ) :
    entries (walkValue key value) = (entries value).map fun m => (m.1, walkSchema m.2) := by
  cases value with
  | obj children =>
    rcases hkey with hkey | rfl
    · simp [walkValue, entries, hkey]
    · simp [walkValue, entries, schemaMapKeywords]
  | arr children => simp only [walkValue]; split_ifs <;> rfl
  | _ => rfl

theorem elements_walkValue {key : String} (hkey : key ∈ schemaArrayKeywords) (value : Json Φ) :
    elements (walkValue key value) = (elements value).map walkSchema := by
  cases value with
  | obj children => simp only [walkValue]; split_ifs <;> rfl
  | arr children => simp [walkValue, elements, hkey]
  | _ => rfl

theorem walkValue_literal {key : String} (hmap : key ∉ schemaMapKeywords)
    (hdependencies : key ≠ "dependencies") (hsingle : key ∉ schemaSingleKeywords)
    (harray : key ∉ schemaArrayKeywords) (value : Json Φ) : walkValue key value = value := by
  cases value <;> simp [walkValue, *]

/-! ## Idempotence -/

mutual

theorem walkSchema_walkSchema : ∀ schema : Json Φ, walkSchema (walkSchema schema) = walkSchema schema
  | .obj members => by
    rw [walkSchema, walkSchema, walkMembers_walkMembers members]
  | .null | .bool _ | .int _ | .float _ | .str _ | .arr _ => rfl

theorem walkMembers_walkMembers : ∀ members : Members Φ,
    walkMembers (walkMembers members) = walkMembers members
  | [] => rfl
  | (key, value) :: members => by
    have ih := walkMembers_walkMembers members
    rw [walkMembers]
    by_cases h : key ∈ grammarUnsupportedKeywords
    · rw [if_pos h, ih]
    · rw [if_neg h, walkMembers, if_neg h, ih, walkValue_walkValue key value]

theorem walkValue_walkValue (key : String) : ∀ value : Json Φ,
    walkValue key (walkValue key value) = walkValue key value
  | .obj children => by
    have hchildren := walkChildren_walkChildren children
    have hmembers := walkMembers_walkMembers children
    simp only [walkValue]
    split_ifs <;> simp only [walkValue, ite_self, if_true, if_false, *]
  | .arr children => by
    have hitems := walkItems_walkItems children
    simp only [walkValue]
    split_ifs <;> simp only [walkValue, if_true, if_false, *]
  | .null | .bool _ | .int _ | .float _ | .str _ => rfl

theorem walkChildren_walkChildren : ∀ children : Members Φ,
    walkChildren (walkChildren children) = walkChildren children
  | [] => rfl
  | (name, child) :: children => by
    rw [walkChildren, walkChildren, walkSchema_walkSchema child,
      walkChildren_walkChildren children]

theorem walkItems_walkItems : ∀ children : List (Json Φ),
    walkItems (walkItems children) = walkItems children
  | [] => rfl
  | child :: children => by
    rw [walkItems, walkItems, walkSchema_walkSchema child, walkItems_walkItems children]

end

/-! ## The positions of the projection -/

theorem step_walkSchema (segment : Segment) (schema : Json Φ) :
    segment.step (walkSchema schema) = (segment.step schema).map walkSchema := by
  cases segment with
  | child key =>
    rw [Segment.step, Segment.step, entries_walkSchema]
    by_cases h : key ∈ singleKeywords
    · have hkey : key ∉ grammarUnsupportedKeywords := by revert key; decide
      rw [if_pos h, if_pos h, lookup_walkMembers hkey]
      exact congrArg (Option.map · _) (funext (walkValue_single h))
    · rw [if_neg h, if_neg h, Option.map_none]
  | named key name =>
    rw [Segment.step, Segment.step, entries_walkSchema]
    by_cases h : key ∈ mapKeywords ∨ key = "dependencies"
    · have hkey : key ∉ grammarUnsupportedKeywords := by
        rcases h with h | rfl
        · revert key; decide
        · decide
      rw [if_pos h, if_pos h, lookup_walkMembers hkey]
      cases (entries schema).lookup key with
      | none => rfl
      | some children =>
        show (entries (walkValue key children)).lookup name = _
        rw [entries_walkValue h, lookup_map_snd (f := fun _ => walkSchema)]
        rfl
    · rw [if_neg h, if_neg h, Option.map_none]
  | item key index =>
    rw [Segment.step, Segment.step, entries_walkSchema]
    by_cases h : key ∈ arrayKeywords
    · have hkey : key ∉ grammarUnsupportedKeywords := by revert key; decide
      rw [if_pos h, if_pos h, lookup_walkMembers hkey]
      cases (entries schema).lookup key with
      | none => rfl
      | some children =>
        show (elements (walkValue key children))[index]? = _
        rw [elements_walkValue h, List.getElem?_map]
        rfl
    · rw [if_neg h, if_neg h, Option.map_none]

/-- **The schema positions** of the projection are those of the schema, each with the
projected subschema. -/
theorem locate_walkSchema (path : List Segment) (schema : Json Φ) :
    locate (walkSchema schema) path = (locate schema path).map walkSchema := by
  induction path generalizing schema with
  | nil => rfl
  | cons segment path ih =>
    rw [locate, locate, List.foldlM_cons, List.foldlM_cons, step_walkSchema]
    cases segment.step schema with
    | none => rfl
    | some child => exact ih child

end Ecosystem.Wire
