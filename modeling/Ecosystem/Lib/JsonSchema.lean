import Ecosystem.Lib.Json

/-!
# Validation by a JSON schema

The applicators of draft 2020-12.  What an assertion says, whether a pattern matches,
where a reference points to, and what becomes of a schema whose `$schema` names another
dialect are parameters (`Reading`).

Every keyword names the outcomes that may only get better (`up`) and those that may only
get worse (`down`); a combination preserves the order in the one and reverses it in the
other (`Combination.run_mono`), so a change of subschemas is followed by its sign.
-/

namespace Ecosystem.Lib.JsonSchema

variable {Φ : Type}

abbrev Members (Φ : Type) := List (String × Json Φ)

/-! ## Outcomes -/

/-- The member names and the positions that a schema has evaluated. -/
abbrev Notes := (String → Bool) × (ℕ → Bool)

def unnoted : Notes := (fun _ => false, fun _ => false)

/-- `⊥` for a value that does not validate. -/
abbrev Outcome := WithBot Notes

def valid (r : Outcome) : Bool := Option.isSome r

def merged (n m : Notes) : Notes := (fun name => n.1 name || m.1 name, fun i => n.2 i || m.2 i)

def both : Outcome → Outcome → Outcome
  | some n, some m => some (merged n m)
  | _, _ => ⊥

def either : Outcome → Outcome → Outcome
  | some n, some m => some (merged n m)
  | some n, none => some n
  | none, s => s

def when (b : Bool) (r : Outcome) : Outcome := if b then r else ⊥

def validAt (outcomes : List Outcome) (i : ℕ) : Bool := outcomes[i]?.any valid

theorem valid_mono {r r' : Outcome} (h : r ≤ r') (hr : valid r = true) : valid r' = true := by
  cases r' with
  | none =>
    rw [le_bot_iff.mp h] at hr
    exact hr
  | some n => rfl

theorem both_mono {r r' s s' : Outcome} (hr : r ≤ r') (hs : s ≤ s') : both r s ≤ both r' s' := by
  cases r with
  | none => exact bot_le
  | some n =>
    cases s with
    | none => exact bot_le
    | some m =>
      obtain ⟨n', rfl, hn⟩ := WithBot.coe_le_iff.mp hr
      obtain ⟨m', rfl, hm⟩ := WithBot.coe_le_iff.mp hs
      exact WithBot.coe_le_coe.mpr (sup_le_sup hn hm)

theorem either_eq_sup (r s : Outcome) : either r s = r ⊔ s := by
  cases r with
  | none => exact (bot_sup_eq s).symm
  | some n =>
    cases s with
    | none => exact (sup_bot_eq _).symm
    | some m => rfl

theorem either_mono {r r' s s' : Outcome} (hr : r ≤ r') (hs : s ≤ s') :
    either r s ≤ either r' s' := by
  rw [either_eq_sup, either_eq_sup]
  exact sup_le_sup hr hs

theorem when_mono {b b' : Bool} {r r' : Outcome} (hb : b = true → b' = true) (hr : r ≤ r') :
    when b r ≤ when b' r' := by
  cases b with
  | false => exact bot_le
  | true =>
    rw [hb rfl]
    exact hr

section Lists

variable {us us' : List Outcome} (h : List.Forall₂ (· ≤ ·) us us')

include h

theorem countP_mono : us.countP valid ≤ us'.countP valid := by
  induction h with
  | nil => exact le_rfl
  | cons hr _ ih =>
    rw [List.countP_cons, List.countP_cons]
    have := valid_mono hr
    split_ifs <;> first | omega | simp_all

theorem validAt_mono {i : ℕ} (hi : validAt us i = true) : validAt us' i = true := by
  induction h generalizing i with
  | nil => exact hi
  | cons hr _ ih =>
    cases i with
    | zero => exact valid_mono hr hi
    | succ i => exact ih hi

theorem foldr_mono {op : Outcome → Outcome → Outcome} {z z' : Outcome} (hz : z ≤ z')
    (hop : ∀ {r r' s s'}, r ≤ r' → s ≤ s' → op r s ≤ op r' s') :
    us.foldr op z ≤ us'.foldr op z' := by
  induction h with
  | nil => exact hz
  | cons hr _ ih => exact hop hr ih

end Lists

/-! ## Combinations -/

/-- How a keyword combines outcomes. -/
inductive Combination
  | assertion (holds : Bool)
  | allOf
  | anyOf
  | oneOf
  | not
  | ifThenElse
  | parts (evaluated : Notes)
  | contains (least : ℕ) (most : Option ℕ)
  /-- The members with these names, or the items, that nothing has evaluated. -/
  | rest (names : Option (List String))

def evaluated (names : Option (List String)) (notes : Notes) (i : ℕ) : Bool :=
  match names with
  | none => notes.2 i
  | some names => names[i]?.any notes.1

def evaluateAll (names : Option (List String)) (notes : Notes) : Notes :=
  match names with
  | none => (notes.1, fun _ => true)
  | some _ => (fun _ => true, notes.2)

/-- The outcome so far together with that of a keyword. -/
def Combination.run (sofar : Outcome) (up down : List Outcome) : Combination → Outcome
  | .assertion holds => both sofar (when holds (some unnoted))
  | .allOf => up.foldr both sofar
  | .anyOf => both sofar (up.foldr either ⊥)
  | .oneOf => both sofar (when (down.countP valid ≤ 1) (up.foldr either ⊥))
  | .not => when (down.countP valid = 0) sofar
  | .ifThenElse =>
    match up with
    | [test, thenCase, elseCase] =>
      both sofar (either (both test thenCase) (when (down.countP valid = 0) elseCase))
    | _ => ⊥
  | .parts evaluated => both sofar (when (up.countP valid = up.length) (some evaluated))
  | .contains least most =>
    both sofar (when (least ≤ up.countP valid && most.all (down.countP valid ≤ ·))
      (some (unnoted.1, validAt up)))
  | .rest names =>
    match sofar with
    | none => ⊥
    | some notes =>
      when ((List.range up.length).all fun i => evaluated names notes i || validAt up i)
        (some (evaluateAll names notes))

theorem evaluated_mono {names : Option (List String)} {notes notes' : Notes}
    (h : notes ≤ notes') {i : ℕ} (hi : evaluated names notes i = true) :
    evaluated names notes' i = true := by
  cases names with
  | none => exact h.2 i hi
  | some names =>
    rw [evaluated, Option.any_eq_true] at hi ⊢
    exact hi.imp fun name hname => ⟨hname.1, h.1 name hname.2⟩

/-- **A combination preserves the order of the one list and reverses that of the
other.** -/
theorem Combination.run_mono (c : Combination) {sofar sofar' : Outcome}
    {up up' down down' : List Outcome} (hs : sofar ≤ sofar')
    (hu : List.Forall₂ (· ≤ ·) up up') (hd : List.Forall₂ (· ≤ ·) down' down) :
    c.run sofar up down ≤ c.run sofar' up' down' := by
  have hup := countP_mono hu
  have hdown := countP_mono hd
  have hlen := hu.length_eq
  cases c with
  | assertion holds => exact both_mono hs le_rfl
  | allOf => exact foldr_mono hu hs both_mono
  | anyOf => exact both_mono hs (foldr_mono hu le_rfl either_mono)
  | oneOf =>
    apply both_mono hs
    apply when_mono
    · simp only [decide_eq_true_eq]
      omega
    · exact foldr_mono hu le_rfl either_mono
  | not =>
    apply when_mono _ hs
    simp only [decide_eq_true_eq]
    omega
  | ifThenElse =>
    rcases hu with _ | ⟨htest, _ | ⟨hthen, _ | ⟨helse, _ | _⟩⟩⟩ <;> try exact le_rfl
    apply both_mono hs
    apply either_mono (both_mono htest hthen)
    apply when_mono _ helse
    simp only [decide_eq_true_eq]
    omega
  | parts evaluated =>
    apply both_mono hs
    apply when_mono _ le_rfl
    simp only [decide_eq_true_eq]
    have : up'.countP valid ≤ up'.length := List.countP_le_length
    omega
  | contains least most =>
    apply both_mono hs
    apply when_mono
    · simp only [Bool.and_eq_true, decide_eq_true_eq, Option.all_eq_true]
      rintro ⟨hleast, hmost⟩
      exact ⟨hleast.trans hup, fun m hm => hdown.trans (hmost m hm)⟩
    · refine WithBot.coe_le_coe.mpr ⟨le_rfl, fun i => ?_⟩
      exact validAt_mono hu
  | rest names =>
    cases sofar with
    | none => exact bot_le
    | some notes =>
      obtain ⟨notes', rfl, hn⟩ := WithBot.coe_le_iff.mp hs
      apply when_mono
      · simp only [List.all_eq_true, List.mem_range, Bool.or_eq_true, hlen]
        intro hrest i hi
        exact (hrest i hi).imp (evaluated_mono hn) (validAt_mono hu)
      · apply WithBot.coe_le_coe.mpr
        cases names with
        | none => exact ⟨hn.1, le_rfl⟩
        | some names => exact ⟨le_rfl, hn.2⟩

/-! ## Signed changes -/

/-- The second outcome is at least as good, at a negative position at most. -/
def Related (positive : Bool) (r r' : Outcome) : Prop :=
  if positive then r ≤ r' else r' ≤ r

theorem Combination.run_related (c : Combination) {positive : Bool} {sofar sofar' : Outcome}
    {up up' down down' : List Outcome} (hs : Related positive sofar sofar')
    (hu : List.Forall₂ (Related positive) up up')
    (hd : List.Forall₂ (Related !positive) down down') :
    Related positive (c.run sofar up down) (c.run sofar' up' down') := by
  cases positive with
  | true => exact c.run_mono hs hu hd.flip
  | false => exact c.run_mono hs hu.flip hd

/-! ## Evaluation -/

/-- The position of a subschema in the schema around it: under a keyword, under a
name in the object of a keyword, or in the array of a keyword. -/
inductive Segment
  | child (keyword : String)
  | named (keyword name : String)
  | item (keyword : String) (index : ℕ)

def singleKeywords : List String :=
  ["additionalItems", "additionalProperties", "contains", "contentSchema", "else", "if",
    "items", "not", "propertyNames", "then", "unevaluatedItems", "unevaluatedProperties"]

def mapKeywords : List String :=
  ["$defs", "definitions", "dependentSchemas", "patternProperties", "properties"]

def arrayKeywords : List String := ["allOf", "anyOf", "oneOf", "prefixItems"]

def entries : Json Φ → Members Φ
  | .obj members => members
  | _ => []

def elements : Json Φ → List (Json Φ)
  | .arr items => items
  | _ => []

def Segment.step (schema : Json Φ) : Segment → Option (Json Φ)
  | .child keyword =>
    if keyword ∈ singleKeywords then (entries schema).lookup keyword else none
  | .named keyword name =>
    if keyword ∈ mapKeywords ∨ keyword = "dependencies" then
      ((entries schema).lookup keyword).bind fun children => (entries children).lookup name
    else none
  | .item keyword index =>
    if keyword ∈ arrayKeywords then
      ((entries schema).lookup keyword).bind fun children => (elements children)[index]?
    else none

def locate (schema : Json Φ) (path : List Segment) : Option (Json Φ) :=
  path.foldlM Segment.step schema

/-- What a validator knows besides the applicators. -/
structure Reading (Φ : Type) where
  holds : String → Json Φ → Json Φ → Bool
  matchesPattern : String → String → Bool
  count : Json Φ → ℕ
  location : String → Option (List Segment)
  /-- Whether this value of `$schema` names a dialect that is known and not this one. -/
  otherDialect : Json Φ → Bool
  /-- What the validator of the other dialect makes of a schema and a value. -/
  elsewhere : Members Φ → Json Φ → Option Outcome

/-- The subschemas that a keyword applies, each with the value it is applied to. -/
structure Application (Φ : Type) where
  up : List (Json Φ × Json Φ)
  down : List (Json Φ × Json Φ)
  combination : Combination

section Evaluation

variable (reading : Reading Φ) (root : Json Φ)

/-- The schema a reference names; a value that is no schema when there is none. -/
def referenced : Json Φ → Json Φ
  | .str reference => ((reading.location reference).bind (locate root)).getD .null
  | _ => .null

def applied (siblings : Members Φ) (x : Json Φ) (keyword : String)
    (value : Json Φ) : Application Φ :=
  let sibling := fun k => (siblings.lookup k).getD .null
  let onValue := fun schemas : List (Json Φ) => schemas.map fun s => (s, x)
  let patterns := fun name : String => fun p : String × Json Φ =>
    reading.matchesPattern p.1 name
  match keyword with
  | "$ref" => ⟨[(referenced reading root value, x)], [], .allOf⟩
  | "allOf" => ⟨onValue (elements value), [], .allOf⟩
  | "anyOf" => ⟨onValue (elements value), [], .anyOf⟩
  | "oneOf" => ⟨onValue (elements value), onValue (elements value), .oneOf⟩
  | "not" => ⟨[], [(value, x)], .not⟩
  | "if" =>
    let branch := fun k => ((siblings.lookup k).getD (.bool true), x)
    ⟨[(value, x), branch "then", branch "else"], [(value, x)], .ifThenElse⟩
  | "dependentSchemas" =>
    let present := (entries value).filter fun m => ((entries x).lookup m.1).isSome
    ⟨onValue (present.map Prod.snd), [], .allOf⟩
  | "properties" =>
    ⟨(entries x).filterMap fun m => ((entries value).lookup m.1).map fun s => (s, m.2), [],
      .parts (fun name => ((entries value).lookup name).isSome, unnoted.2)⟩
  | "patternProperties" =>
    ⟨(entries x).flatMap fun m =>
        ((entries value).filter (patterns m.1)).map fun p => (p.2, m.2), [],
      .parts (fun name => (entries value).any (patterns name), unnoted.2)⟩
  | "additionalProperties" =>
    let named := fun name : String =>
      ((entries (sibling "properties")).lookup name).isSome ||
        (entries (sibling "patternProperties")).any (patterns name)
    ⟨((entries x).filter fun m => !named m.1).map fun m => (value, m.2), [],
      .parts (fun name => !named name, unnoted.2)⟩
  | "propertyNames" => ⟨(entries x).map fun m => (value, .str m.1), [], .parts unnoted⟩
  | "prefixItems" =>
    ⟨(elements value).zip (elements x), [],
      .parts (unnoted.1, fun i => i < (elements value).length)⟩
  | "items" =>
    ⟨((elements x).drop (elements (sibling "prefixItems")).length).map fun y => (value, y), [],
      .parts (unnoted.1, fun _ => true)⟩
  | "contains" =>
    match x with
    | .arr items =>
      let tests := items.map fun y => (value, y)
      let least := (siblings.lookup "minContains").elim 1 reading.count
      match siblings.lookup "maxContains" with
      | none => ⟨tests, [], .contains least none⟩
      | some most => ⟨tests, tests, .contains least (some (reading.count most))⟩
    | _ => ⟨[], [], .assertion true⟩
  | "unevaluatedItems" => ⟨(elements x).map fun y => (value, y), [], .rest none⟩
  | "unevaluatedProperties" =>
    ⟨(entries x).map fun m => (value, m.2), [], .rest (some ((entries x).map Prod.fst))⟩
  -- Nothing is asserted by these: definitions, annotations, and what `if` has used.
  | "$schema" | "$defs" | "definitions" | "dependencies" | "additionalItems"
  | "contentSchema" | "then" | "else" => ⟨[], [], .assertion true⟩
  | _ => ⟨[], [], .assertion (reading.holds keyword value x)⟩

def isRest (m : String × Json Φ) : Bool :=
  m.1 = "unevaluatedItems" ∨ m.1 = "unevaluatedProperties"

/-- The keywords for what is left over come last. -/
def inOrder (members : Members Φ) : Members Φ :=
  members.filter (!isRest ·) ++ members.filter isRest

/-- `validator_for` picks the dialect anew for every subschema. -/
def foreign (members : Members Φ) : Bool :=
  (members.lookup "$schema").any reading.otherDialect

/-- **Evaluation** of a value by a schema within `root`.  There is no result for
what is no schema, and where a reference leads back without an end. -/
def eval : ℕ → Json Φ → Json Φ → Option Outcome
  | n + 1, .obj members, x =>
    if foreign reading members then reading.elsewhere members x
    else (inOrder members).foldlM (fun sofar m => do
      let a := applied reading root members x m.1 m.2
      let up ← a.up.mapM fun t => eval n t.1 t.2
      let down ← a.down.mapM fun t => eval n t.1 t.2
      return a.combination.run sofar up down) (some unnoted)
  | _ + 1, .bool b, _ => some (when b (some unnoted))
  | _, _, _ => none

def Validates (x : Json Φ) : Prop :=
  ∃ n r, eval reading root n root x = some r ∧ valid r = true

end Evaluation

end Ecosystem.Lib.JsonSchema
