import Ecosystem.Wire.Projection

/-!
# What the wire schema excludes

The projection drops assertions, so it is weaker where more valid values make a schema
weaker, and stronger below `not` and where a keyword counts or excludes.  With `$schema`
it drops the choice of another dialect.
-/

namespace Ecosystem.Wire

open Ecosystem.Lib (Json)
open Ecosystem.Lib.JsonSchema

variable {Φ : Type} (reading : Reading Φ) (root : Json Φ)

def droppedAssertions : List String := ["minLength", "maxLength", "uniqueItems"]

/-- A subschema is applied by the root, positively or negatively, possibly through
references. -/
inductive Applies : Bool → Json Φ → Prop
  | root : Applies true root
  | up {positive : Bool} {members : Members Φ} {m : String × Json Φ} {x : Json Φ}
      {t : Json Φ × Json Φ} (h : Applies positive (.obj members)) (hm : m ∈ members)
      (ht : t ∈ (applied reading root members x m.1 m.2).up) : Applies positive t.1
  | down {positive : Bool} {members : Members Φ} {m : String × Json Φ}
      {x : Json Φ} {t : Json Φ × Json Φ} (h : Applies positive (.obj members))
      (hm : m ∈ members) (ht : t ∈ (applied reading root members x m.1 m.2).down) :
      Applies (!positive) t.1

/-- No subschema that is applied negatively has an assertion that the walk drops. -/
def DropsPositively : Prop :=
  ∀ members, Applies reading root false (.obj members) →
    ∀ m ∈ members, m.1 ∉ droppedAssertions

/-- No subschema that is applied names another dialect. -/
def OneDialect : Prop :=
  ∀ positive members, Applies reading root positive (.obj members) →
    foreign reading members = false

/-! ## One keyword -/

def walkTask (t : Json Φ × Json Φ) : Json Φ × Json Φ := (walkSchema t.1, t.2)

theorem referenced_walkSchema (value : Json Φ) :
    referenced reading (walkSchema root) value = walkSchema (referenced reading root value) := by
  cases value with
  | str reference =>
    rw [referenced, referenced]
    cases reading.location reference with
    | none => rfl
    | some path =>
      show (locate (walkSchema root) path).getD .null = walkSchema ((locate root path).getD .null)
      rw [locate_walkSchema]
      cases locate root path <;> rfl
  | _ => rfl

theorem entries_sibling (siblings : Members Φ) {key : String}
    (hkey : key ∈ schemaMapKeywords) :
    entries (((walkMembers siblings).lookup key).getD .null) =
      (entries ((siblings.lookup key).getD .null)).map fun m => (m.1, walkSchema m.2) := by
  have hsupported : key ∉ grammarUnsupportedKeywords := by revert key; decide
  rw [lookup_walkMembers hsupported]
  cases siblings.lookup key with
  | none => rfl
  | some value => exact entries_walkValue (.inl hkey) value

theorem elements_sibling (siblings : Members Φ) :
    (elements (((walkMembers siblings).lookup "prefixItems").getD .null)).length =
      (elements ((siblings.lookup "prefixItems").getD .null)).length := by
  rw [lookup_walkMembers (by decide)]
  cases siblings.lookup "prefixItems" with
  | none => rfl
  | some value =>
    show (elements (walkValue "prefixItems" value)).length = _
    rw [elements_walkValue (by decide), List.length_map]
    rfl

theorem branch_walk (siblings : Members Φ) {key : String}
    (hkey : key ∈ schemaSingleKeywords) :
    ((walkMembers siblings).lookup key).getD (.bool true) =
      walkSchema ((siblings.lookup key).getD (.bool true)) := by
  have hsupported : key ∉ grammarUnsupportedKeywords := by revert key; decide
  rw [lookup_walkMembers hsupported]
  cases siblings.lookup key with
  | none => rfl
  | some value => exact walkValue_single hkey value

theorem lookup_literal (siblings : Members Φ) {key : String}
    (hkey : key ∉ grammarUnsupportedKeywords ++ schemaMapKeywords ++ ["dependencies"] ++
      schemaSingleKeywords ++ schemaArrayKeywords) :
    (walkMembers siblings).lookup key = siblings.lookup key := by
  simp only [List.mem_append, not_or, List.mem_singleton] at hkey
  obtain ⟨⟨⟨⟨hsupported, hmap⟩, hdependencies⟩, hsingle⟩, harray⟩ := hkey
  rw [lookup_walkMembers hsupported]
  cases siblings.lookup key with
  | none => rfl
  | some value => exact congrArg some (walkValue_literal hmap hdependencies hsingle harray value)

theorem applied_walk (siblings : Members Φ) (x : Json Φ) {key : String}
    (hkey : key ∉ grammarUnsupportedKeywords) (value : Json Φ) :
    applied reading (walkSchema root) (walkMembers siblings) x key (walkValue key value) =
      ⟨(applied reading root siblings x key value).up.map walkTask,
        (applied reading root siblings x key value).down.map walkTask,
        (applied reading root siblings x key value).combination⟩ := by
  unfold applied
  split
  case h_1 => simp (disch := decide) [walkValue_literal, referenced_walkSchema, walkTask]
  case h_2 | h_3 | h_4 => simp (disch := decide) [elements_walkValue, walkTask]
  case h_5 => simp (disch := decide) [walkValue_single, walkTask]
  case h_6 => simp (disch := decide) [walkValue_single, branch_walk, walkTask]
  case h_7 =>
    simp (disch := decide) [entries_walkValue, walkTask, List.filter_map, Function.comp_def]
  case h_8 =>
    simp (disch := decide) [entries_walkValue, walkTask, Function.comp_def,
      lookup_map_snd (f := fun _ => walkSchema), List.map_filterMap]
  case h_9 =>
    simp (disch := decide) [entries_walkValue, walkTask, List.filter_map, List.map_flatMap,
      Function.comp_def]
  case h_10 =>
    simp (disch := decide) [walkValue_single, entries_sibling, walkTask,
      lookup_map_snd (f := fun _ => walkSchema), Function.comp_def]
  case h_11 => simp (disch := decide) [walkValue_single, walkTask]
  case h_12 =>
    simp (disch := decide) [elements_walkValue, List.zip_map_left, walkTask]
  case h_13 =>
    simp (disch := decide) [walkValue_single, elements_sibling, walkTask, Function.comp_def]
  case h_14 =>
    rw [lookup_literal _ (by decide), lookup_literal _ (by decide),
      walkValue_single (by decide)]
    cases x with
    | arr items => cases siblings.lookup "maxContains" <;> simp [walkTask, Function.comp_def]
    | _ => rfl
  case h_15 | h_16 => simp (disch := decide) [walkValue_single, walkTask]
  case h_17 | h_18 | h_19 | h_20 | h_21 | h_22 | h_23 | h_24 => rfl
  case h_25 =>
    rw [walkValue_literal] <;>
      simp_all [schemaMapKeywords, schemaSingleKeywords, schemaArrayKeywords]

theorem applied_dropped (siblings : Members Φ) (x : Json Φ) {positive : Bool}
    {m : String × Json Φ} (hdropped : m.1 ∈ grammarUnsupportedKeywords)
    (hpositive : positive = false → m.1 ∉ droppedAssertions) :
    ∃ holds, applied reading root siblings x m.1 m.2 = ⟨[], [], .assertion holds⟩ ∧
      (positive = false → holds = true) := by
  obtain ⟨key, value⟩ := m
  simp only [grammarUnsupportedKeywords, List.mem_cons, List.not_mem_nil, or_false] at hdropped
  rcases hdropped with rfl | rfl | rfl | rfl
  · exact ⟨true, rfl, fun _ => rfl⟩
  all_goals
    refine ⟨reading.holds _ value x, rfl, fun h => absurd ?_ (hpositive h)⟩
    simp [droppedAssertions]

theorem related_dropped {positive holds : Bool} {sofar sofar' : Outcome}
    (h : Related positive sofar sofar') (hholds : positive = false → holds = true) :
    Related positive ((Combination.assertion holds).run sofar [] []) sofar' := by
  cases positive with
  | true =>
    refine le_trans ?_ h
    show both sofar (when holds (some unnoted)) ≤ sofar
    cases holds <;> cases sofar with
    | none => exact bot_le
    | some notes => first | exact bot_le | exact WithBot.coe_le_coe.mpr (sup_le le_rfl bot_le)
  | false =>
    rw [hholds rfl]
    refine le_trans h ?_
    show sofar ≤ both sofar (some unnoted)
    cases sofar with
    | none => exact bot_le
    | some notes => exact WithBot.coe_le_coe.mpr le_sup_left

/-! ## Evaluation -/

theorem mapM_related {α β γ : Type} {R : β → β → Prop} {f : α → Option β} {g : γ → Option β}
    {φ : α → γ} {ts : List α} {rs : List β} (hrs : ts.mapM f = some rs)
    (h : ∀ t ∈ ts, ∀ r, f t = some r → ∃ r', g (φ t) = some r' ∧ R r r') :
    ∃ rs', (ts.map φ).mapM g = some rs' ∧ List.Forall₂ R rs rs' := by
  induction ts generalizing rs with
  | nil =>
    cases hrs
    exact ⟨[], rfl, .nil⟩
  | cons t ts ih =>
    rw [List.mapM_cons] at hrs
    obtain ⟨r, hr, hrs⟩ := Option.bind_eq_some_iff.mp hrs
    obtain ⟨rest, hrest, hrs⟩ := Option.bind_eq_some_iff.mp hrs
    cases hrs
    obtain ⟨r', hr', hR⟩ := h t (List.mem_cons_self ..) r hr
    obtain ⟨rest', hrest', hRs⟩ := ih hrest fun t ht => h t (List.mem_cons_of_mem _ ht)
    refine ⟨r' :: rest', ?_, .cons hR hRs⟩
    rw [List.map_cons, List.mapM_cons, hr', hrest']
    rfl

theorem inOrder_walkMembers (members : Members Φ) :
    inOrder (walkMembers members) = walkMembers (inOrder members) := by
  simp only [inOrder, walkMembers_eq, List.filter_append, List.map_append, List.filter_map,
    List.filter_filter]
  congr 2 <;> exact List.filter_congr fun m _ => Bool.and_comm ..

theorem foldlM_related {n : ℕ} {positive : Bool} {siblings : Members Φ} {x : Json Φ}
    (hroot : DropsPositively reading root)
    (happlies : Applies reading root positive (.obj siblings))
    (ih : ∀ {positive : Bool} {schema : Json Φ} {x : Json Φ} {r : Outcome},
      Applies reading root positive schema → eval reading root n schema x = some r →
      ∃ r', eval reading (walkSchema root) n (walkSchema schema) x = some r' ∧
        Related positive r r')
    {members : Members Φ} (hsub : ∀ m ∈ members, m ∈ siblings)
    {sofar sofar' r : Outcome} (hsofar : Related positive sofar sofar')
    (hr : members.foldlM (fun sofar m => do
      let a := applied reading root siblings x m.1 m.2
      let up ← a.up.mapM fun t => eval reading root n t.1 t.2
      let down ← a.down.mapM fun t => eval reading root n t.1 t.2
      return a.combination.run sofar up down) sofar = some r) :
    ∃ r', (walkMembers members).foldlM (fun sofar m => do
      let a := applied reading (walkSchema root) (walkMembers siblings) x m.1 m.2
      let up ← a.up.mapM fun t => eval reading (walkSchema root) n t.1 t.2
      let down ← a.down.mapM fun t => eval reading (walkSchema root) n t.1 t.2
      return a.combination.run sofar up down) sofar' = some r' ∧ Related positive r r' := by
  induction members generalizing sofar sofar' with
  | nil =>
    cases hr
    exact ⟨sofar', rfl, hsofar⟩
  | cons m members ihm =>
    have hm := hsub m (List.mem_cons_self ..)
    have hsub' := fun m' hm' => hsub m' (List.mem_cons_of_mem _ hm')
    rw [List.foldlM_cons] at hr
    obtain ⟨next, hnext, hr⟩ := Option.bind_eq_some_iff.mp hr
    by_cases hkey : m.1 ∈ grammarUnsupportedKeywords
    · -- The projection lacks this keyword.
      have hneg : positive = false → m.1 ∉ droppedAssertions := by
        rintro rfl
        exact hroot siblings happlies m hm
      obtain ⟨holds, ha, hholds⟩ := applied_dropped reading root siblings x hkey hneg
      simp only [ha] at hnext
      cases hnext
      rw [walkMembers, if_pos hkey]
      exact ihm hsub' (related_dropped hsofar hholds) hr
    · obtain ⟨up, hup, hnext⟩ := Option.bind_eq_some_iff.mp hnext
      obtain ⟨down, hdown, hnext⟩ := Option.bind_eq_some_iff.mp hnext
      cases hnext
      obtain ⟨up', hup', hups⟩ := mapM_related (φ := walkTask)
        (g := fun t => eval reading (walkSchema root) n t.1 t.2) hup
        fun t ht r hr => ih (.up happlies hm ht) hr
      obtain ⟨down', hdown', hdowns⟩ := mapM_related (φ := walkTask)
        (g := fun t => eval reading (walkSchema root) n t.1 t.2) hdown
        fun t ht r hr => ih (.down happlies hm ht) hr
      obtain ⟨r', hr', hrelated⟩ := ihm hsub' (Combination.run_related _ hsofar hups hdowns) hr
      refine ⟨r', ?_, hrelated⟩
      rw [walkMembers, if_neg hkey, List.foldlM_cons]
      simp only [applied_walk reading root siblings x hkey, hup', hdown']
      exact hr'

theorem foreign_walkMembers (members : Members Φ) :
    foreign reading (walkMembers members) = false := by
  have hnone : (walkMembers members).lookup "$schema" = none := by
    rw [List.lookup_eq_none_iff]
    intro m hm
    rw [walkMembers_eq] at hm
    obtain ⟨m', hm', rfl⟩ := List.mem_map.mp hm
    have hsupported : m'.1 ∉ grammarUnsupportedKeywords := by
      simpa [isSupported] using (List.mem_filter.mp hm').2
    simp only [grammarUnsupportedKeywords, List.mem_cons, not_or] at hsupported
    simpa using fun heq => hsupported.1 heq.symm
  rw [foreign, hnone]
  rfl

theorem eval_walkSchema (hroot : DropsPositively reading root)
    (hdialect : OneDialect reading root) (n : ℕ) {positive : Bool} {schema x : Json Φ}
    {r : Outcome} (happlies : Applies reading root positive schema)
    (hr : eval reading root n schema x = some r) :
    ∃ r', eval reading (walkSchema root) n (walkSchema schema) x = some r' ∧
      Related positive r r' := by
  induction n generalizing positive schema x r with
  | zero => cases schema <;> cases hr
  | succ n ih =>
    cases schema with
    | obj members =>
      rw [eval, hdialect positive members happlies, if_neg Bool.false_ne_true] at hr
      rw [walkSchema, eval, foreign_walkMembers, if_neg Bool.false_ne_true,
        inOrder_walkMembers]
      apply foldlM_related reading root hroot happlies ih _ _ hr
      · intro m hm
        rcases List.mem_append.mp hm with hm | hm <;> exact List.mem_of_mem_filter hm
      · cases positive <;> exact le_rfl
    | bool b =>
      cases hr
      exact ⟨_, rfl, by cases positive <;> exact le_rfl⟩
    | _ => cases hr

/-! ## The wire schema -/

def literalKeywords : List String := ["const", "enum", "default"]

/-- What the projection has to keep of a subschema, and what it must not have. -/
structure Keeps (schema projected : Members Φ) : Prop where
  dropped : ∀ m ∈ projected, m.1 ∉ grammarUnsupportedKeywords
  names : ∀ key ∈ schemaMapKeywords ++ ["dependencies"],
    (projected.lookup key).map (fun children => (entries children).map Prod.fst) =
      (schema.lookup key).map fun children => (entries children).map Prod.fst
  literals : ∀ key ∈ literalKeywords, projected.lookup key = schema.lookup key

def Projected (schema projected : Json Φ) : Prop :=
  match schema with
  | .obj members => ∃ members', projected = .obj members' ∧ Keeps members members'
  | _ => projected = schema

theorem keeps_walkMembers (members : Members Φ) :
    Keeps members (walkMembers members) where
  dropped m hm := by
    rw [walkMembers_eq] at hm
    obtain ⟨m', hm', rfl⟩ := List.mem_map.mp hm
    simpa [isSupported] using (List.mem_filter.mp hm').2
  names key hkey := by
    have hsupported : key ∉ grammarUnsupportedKeywords := by revert key; decide
    have hmap : key ∈ schemaMapKeywords ∨ key = "dependencies" := by simpa using hkey
    rw [lookup_walkMembers hsupported]
    cases members.lookup key with
    | none => rfl
    | some children =>
      show some ((entries (walkValue key children)).map Prod.fst) = _
      rw [entries_walkValue hmap, List.map_map]
      rfl
  literals key hkey := lookup_literal members (by revert key; decide)

theorem projected_walkSchema (schema : Json Φ) : Projected schema (walkSchema schema) := by
  cases schema with
  | obj members => exact ⟨_, rfl, keeps_walkMembers members⟩
  | _ => rfl

/-- **The wire schema** of a schema that drops no assertion at a negative position and
no other dialect excludes nothing that the schema accepts; and of every schema, the projection is its own
projection, has none of the unsupported keywords at any schema position, and keeps the
positions, the names and the literal data. -/
theorem wire_schema_excludes_nothing (reading : Reading Φ) (checkSchema : Json Φ → Bool)
    {schema : Members Φ} {projected : Json Φ}
    (h : grammarSafeResponseSchema checkSchema schema = some projected) :
    (DropsPositively reading (.obj schema) ∧ OneDialect reading (.obj schema) →
      ∀ x, Validates reading (.obj schema) x → Validates reading projected x) ∧
    (∃ members, projected = .obj members ∧
      grammarSafeResponseSchema checkSchema members = some projected) ∧
    ∀ path, Option.Rel Projected (locate (.obj schema) path) (locate projected path) := by
  have hprojected : projected = walkSchema (.obj schema) := by
    simp only [grammarSafeResponseSchema] at h
    split_ifs at h
    exact (Option.some.inj h).symm
  refine ⟨?_, ⟨walkMembers schema, ?_, ?_⟩, ?_⟩
  · rintro ⟨hroot, hdialect⟩ x ⟨n, r, hr, hvalid⟩
    obtain ⟨r', hr', hle⟩ := eval_walkSchema reading _ hroot hdialect n .root hr
    rw [hprojected]
    exact ⟨n, r', hr', valid_mono hle hvalid⟩
  · rw [hprojected, walkSchema]
  · rw [← h, grammarSafeResponseSchema, grammarSafeResponseSchema, walkSchema, walkSchema,
      walkMembers_walkMembers]
  · intro path
    rw [hprojected, locate_walkSchema]
    cases locate (.obj schema) path with
    | none => exact .none
    | some child => exact .some (projected_walkSchema child)

/-- A reading of `minLength` and one reference, which the samples use. -/
def sampleReading : Reading Empty where
  holds keyword value x :=
    match keyword, value, x with
    | "minLength", .int n, .str s => n ≤ s.length
    | "type", .str "null", .null => true
    | "type", .str "null", _ => false
    | _, _, _ => true
  matchesPattern _ _ := false
  count _ := 0
  location reference := if reference = "#/$defs/word" then some [.named "$defs" "word"] else none
  otherDialect value :=
    match value with
    | .str uri => uri = "http://json-schema.org/draft-07/schema#"
    | _ => false
  elsewhere _ _ := none

def wordSchema : Members Empty := [("minLength", .int 3)]

def nullSchema : Members Empty := [("type", .str "null")]

def nameSchema : Members Empty :=
  [("anyOf", .arr [.obj [("$ref", .str "#/$defs/word")], .bool false]),
    ("not", .obj nullSchema)]

/-- A record with a name that is a word. -/
def recordSchema : Members Empty :=
  [("$schema", .str "https://json-schema.org/draft/2020-12/schema"),
    ("$defs", .obj [("word", .obj wordSchema)]),
    ("properties", .obj [("name", .obj nameSchema)])]

theorem recordSchema_applies {positive : Bool} {schema : Json Empty}
    (h : Applies sampleReading (.obj recordSchema) positive schema) :
    (positive = true ∧ schema ∈ [.obj recordSchema, .obj nameSchema,
        .obj [("$ref", .str "#/$defs/word")], .bool false, .obj wordSchema]) ∨
      (positive = false ∧ schema = .obj nullSchema) := by
  induction h with
  | root => simp
  | @up positive members m x t _ hm ht ih =>
    simp only [List.mem_cons, List.not_mem_nil, or_false, Json.obj.injEq, reduceCtorEq,
      false_or] at ih
    rcases ih with ⟨rfl, rfl | rfl | rfl | rfl⟩ | ⟨rfl, rfl⟩
    · simp only [recordSchema, List.mem_cons, List.not_mem_nil, or_false] at hm
      rcases hm with rfl | rfl | rfl
      · cases ht
      · cases ht
      · obtain ⟨member, -, hchild⟩ := List.mem_filterMap.mp ht
        obtain ⟨child, hlookup, rfl⟩ := Option.map_eq_some_iff.mp hchild
        have hchild : child = .obj nameSchema := by
          simp only [entries, List.lookup_cons, List.lookup_nil] at hlookup
          split at hlookup
          · exact (Option.some.inj hlookup).symm
          · cases hlookup
        simp [hchild]
    · simp only [nameSchema, List.mem_cons, List.not_mem_nil, or_false] at hm
      rcases hm with rfl | rfl
      · rcases List.mem_cons.mp ht with rfl | ht
        · simp
        · cases List.mem_singleton.mp ht
          simp
      · cases ht
    · cases List.mem_singleton.mp hm
      cases List.mem_singleton.mp ht
      have hword : referenced sampleReading (.obj recordSchema) (.str "#/$defs/word") =
          .obj wordSchema := rfl
      simp [hword]
    · cases List.mem_singleton.mp hm
      cases ht
    · cases List.mem_singleton.mp hm
      cases ht
  | @down positive members m x t _ hm ht ih =>
    simp only [List.mem_cons, List.not_mem_nil, or_false, Json.obj.injEq, reduceCtorEq,
      false_or] at ih
    rcases ih with ⟨rfl, rfl | rfl | rfl | rfl⟩ | ⟨rfl, rfl⟩
    · simp only [recordSchema, List.mem_cons, List.not_mem_nil, or_false] at hm
      rcases hm with rfl | rfl | rfl <;> cases ht
    · simp only [nameSchema, List.mem_cons, List.not_mem_nil, or_false] at hm
      rcases hm with rfl | rfl
      · cases ht
      · cases List.mem_singleton.mp ht
        exact .inr ⟨rfl, rfl⟩
    all_goals
      cases List.mem_singleton.mp hm
      cases ht

theorem recordSchema_harmless : DropsPositively sampleReading (.obj recordSchema) ∧
    OneDialect sampleReading (.obj recordSchema) := by
  constructor
  · intro members h
    rcases recordSchema_applies h with ⟨hfalse, -⟩ | ⟨-, heq⟩
    · cases hfalse
    · cases heq
      simp [nullSchema, droppedAssertions]
  · intro positive members h
    rcases recordSchema_applies h with ⟨-, hmem⟩ | ⟨-, heq⟩
    · simp only [List.mem_cons, List.not_mem_nil, or_false, Json.obj.injEq, reduceCtorEq,
        false_or] at hmem
      rcases hmem with rfl | rfl | rfl | rfl <;> rfl
    · cases heq
      rfl

theorem wire_schema_excludes_nothing_sample :
    Validates sampleReading (walkSchema (.obj recordSchema)) (.obj [("name", .str "long")]) :=
  (wire_schema_excludes_nothing sampleReading (fun _ => true) rfl).1 recordSchema_harmless _
    ⟨6, _, rfl, rfl⟩

/-- Below `not`, the projection excludes a value that the schema accepts. -/
theorem wire_schema_excludes_under_not :
    ∃ schema projected x, grammarSafeResponseSchema (fun _ => true) schema = some projected ∧
      Validates sampleReading (.obj schema) x ∧ ¬ Validates sampleReading projected x := by
  refine ⟨[("not", .obj [("minLength", .int 3)])], _, .str "ab", rfl, ⟨3, _, rfl, rfl⟩, ?_⟩
  rintro ⟨n, r, hr, hvalid⟩
  rcases n with _ | _ | n
  · cases hr
  · cases hr
  · cases hr
    cases hvalid

end Ecosystem.Wire
