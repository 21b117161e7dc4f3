import Ecosystem.Lib.Checks
import Ecosystem.Lib.JsonSyntax
import Ecosystem.Lib.Utf8

/-!
# Bounded JSON

`strict_bounded_json` of `transport.py` and what `JsonSearchProvider.search` makes of a
response.  A document is decoded and then walked with a worklist.  What the walk does is
told by the list of its checks: the first one that fails decides how it ends.
-/

namespace Ecosystem.Research

open Ecosystem.Lib Ecosystem.Lib.Checks

abbrev Bytes := List UInt8

/-! ## Failures -/

inductive Failure
  /-- `ResearchToolError`. -/
  | tool (code message : String)
  /-- `UnicodeEncodeError`. -/
  | unicodeEncode
  /-- Any other exception that is not caught on the way. -/
  | foreign (name : String)
deriving DecidableEq

def Failure.isTool : Failure → Bool
  | .tool _ _ => true
  | _ => false

def jsonInvalid : Failure :=
  .tool "ECO_RESEARCH_JSON_INVALID" "Research JSON content is invalid"

def jsonLimit : Failure :=
  .tool "ECO_RESEARCH_JSON_LIMIT" "Research JSON content exceeds a structural limit"

def providerResponseInvalid : Failure :=
  .tool "ECO_RESEARCH_PROVIDER_RESPONSE_INVALID" "Research provider response is invalid"

/-! ## `strict_bounded_json` -/

structure JsonLimits where
  maximumDepth : ℤ
  maximumItems : ℤ
  maximumStringBytes : ℤ

/-- What Python's decoder gives up on: an integer of too many digits, and arrays and
objects nested deeper than its recursion goes. -/
def refusedByDecoder (recursionLimit : ℕ) (tree : JsonTree) : Bool :=
  tree.any JsonTree.isLongInt || decide (recursionLimit < tree.nesting)

/-- `json.loads` with hooks that reject two members of one key and the constants. -/
def loadStrict (recursionLimit : ℕ) (value : Bytes) : Except Failure JsonTree := do
  let text ← expect jsonInvalid (readUtf8 value)
  let document ← expect jsonInvalid (JsonTree.ofText text)
  require (!document.any JsonTree.duplicates && !document.any JsonTree.isConstant &&
    !refusedByDecoder recursionLimit document) jsonInvalid
  return document

section Walk

variable (limits : JsonLimits)

/-- `len(text.encode("utf-8")) > maximum_string_bytes`. -/
def checkString (text : CodePoints) : Except Failure Unit := do
  let size ← expect .unicodeEncode (utf8Size text)
  require ((size : ℤ) ≤ limits.maximumStringBytes) jsonLimit

/-- One value of the worklist: the number of items when it has been seen. -/
def visit (entry : JsonTree × ℕ) (items : ℕ) : Except Failure ℕ := do
  require ((entry.2 : ℤ) ≤ limits.maximumDepth) jsonLimit
  let items ← match entry.1 with
    | .obj members => do
      members.forM fun member => checkString limits member.1
      pure (items + members.length)
    | .arr values => pure (items + values.length)
    | .str text => do
      checkString limits text
      pure items
    | _ => pure items
  require ((items : ℤ) ≤ limits.maximumItems) jsonLimit
  return items

/-- What is pushed for a value, the last one on top. -/
def pushed (entry : JsonTree × ℕ) : List (JsonTree × ℕ) :=
  match entry.1 with
  | .obj members => (members.map fun member => (member.2, entry.2 + 1)).reverse
  | .arr values => (values.map fun value => (value, entry.2 + 1)).reverse
  | _ => []

/-- The loop over the worklist, whose top is its head. -/
def walk : ℕ → List (JsonTree × ℕ) → ℕ → Except Failure Unit
  | _, [], _ => .ok ()
  | 0, _ :: _, _ => .error jsonLimit
  | n + 1, entry :: stack, items => do
    let items ← visit limits entry items
    walk n (pushed entry ++ stack) items

end Walk

mutual

def valueCount : JsonTree → ℕ
  | .arr values => 1 + valuesCount values
  | .obj members => 1 + membersCount members
  | _ => 1

def valuesCount : List JsonTree → ℕ
  | [] => 0
  | value :: values => valueCount value + valuesCount values

def membersCount : List (CodePoints × JsonTree) → ℕ
  | [] => 0
  | (_, value) :: members => valueCount value + membersCount members

end

/-- `strict_bounded_json`.  The loop ends before it has seen more values than there are. -/
def strictBoundedJson (recursionLimit : ℕ) (limits : JsonLimits) (value : Bytes) :
    Except Failure JsonTree := do
  let document ← loadStrict recursionLimit value
  walk limits (valueCount document) [(document, 1)] 0
  return document

/-! ## The search provider -/

structure SearchHit where
  url : CodePoints
  title : CodePoints
  snippet : CodePoints

def codePoints (s : String) : CodePoints := s.toList.map Char.toNat

/-- `isinstance(value, str)`. -/
def asText : Option JsonTree → Except Failure CodePoints
  | some (.str text) => .ok text
  | _ => .error providerResponseInvalid

/-- `isinstance(value, dict)`. -/
def asObject : JsonTree → Except Failure (List (CodePoints × JsonTree))
  | .obj members => .ok members
  | _ => .error providerResponseInvalid

/-- `isinstance(value, list)`. -/
def asArray : Option JsonTree → Except Failure (List JsonTree)
  | some (.arr values) => .ok values
  | _ => .error providerResponseInvalid

def boundedText (value : Option JsonTree) (maximumBytes : ℕ) : Except Failure CodePoints := do
  let text ← asText value
  require (text ≠ [] && 0 ∉ text) providerResponseInvalid
  let size ← expect providerResponseInvalid (utf8Size text)
  require (size ≤ maximumBytes) providerResponseInvalid
  return text

/-- `value[key]`. -/
def member (members : List (CodePoints × JsonTree)) (key : CodePoints) : Option JsonTree :=
  (members.find? (·.1 = key)).map Prod.snd

/-- `isinstance(value, dict) and set(value) == keys`. -/
def objectWith (keys : List CodePoints) (value : JsonTree) :
    Except Failure (List (CodePoints × JsonTree)) := do
  let members ← asObject value
  require (members.all (fun m => decide (m.1 ∈ keys)) &&
    keys.all fun key => (member members key).isSome) providerResponseInvalid
  return members

def searchHit (value : JsonTree) : Except Failure SearchHit := do
  let members ← objectWith [codePoints "url", codePoints "title", codePoints "snippet"] value
  let url ← boundedText (member members (codePoints "url")) 8192
  let title ← boundedText (member members (codePoints "title")) 512
  let snippet ← boundedText (member members (codePoints "snippet")) 4096
  return { url, title, snippet }

/-- The limits of a response with at most `max_results` hits. -/
def searchLimits (maxResults : ℕ) : JsonLimits where
  maximumDepth := 5
  maximumItems := maxResults * 4 + 2
  maximumStringBytes := 8192

/-- `except ResearchToolError`. -/
def asProviderFailure : Except Failure JsonTree → Except Failure JsonTree
  | .error (.tool _ _) => .error providerResponseInvalid
  | result => result

/-- `JsonSearchProvider.search`, from the body of its response on. -/
def searchResponse (recursionLimit maxResults : ℕ) (body : Bytes) :
    Except Failure (List SearchHit) := do
  let document ← asProviderFailure
    (strictBoundedJson recursionLimit (searchLimits maxResults) body)
  let members ← objectWith [codePoints "results"] document
  let values ← asArray (member members (codePoints "results"))
  require (values.length ≤ maxResults) providerResponseInvalid
  values.mapM searchHit

/-! ## The checks of a document -/

section Checks

mutual

def order (depth : ℕ) : JsonTree → List (JsonTree × ℕ)
  | .arr values => (.arr values, depth) :: orderItems (depth + 1) values
  | .obj members => (.obj members, depth) :: orderMembers (depth + 1) members
  | tree => [(tree, depth)]

def orderItems (depth : ℕ) : List JsonTree → List (JsonTree × ℕ)
  | [] => []
  | value :: values => orderItems depth values ++ order depth value

def orderMembers (depth : ℕ) : List (CodePoints × JsonTree) → List (JsonTree × ℕ)
  | [] => []
  | (_, value) :: members => orderMembers depth members ++ order depth value

end

/-- What is tested of a document: the depth of a value, the length of a string and the
number of items so far. -/
inductive Check
  | depth (n : ℕ)
  | text (s : CodePoints)
  | items (n : ℕ)

/-- The members or elements that a value has itself. -/
def ownItems : JsonTree → ℕ
  | .arr values => values.length
  | .obj members => members.length
  | _ => 0

def checksFrom : ℕ → List (JsonTree × ℕ) → List Check
  | _, [] => []
  | items, entry :: entries =>
    .depth entry.2 :: (entry.1.texts.map Check.text ++
      .items (items + ownItems entry.1) :: checksFrom (items + ownItems entry.1) entries)

def checks (document : JsonTree) : List Check := checksFrom 0 (order 1 document)

variable (limits : JsonLimits)

def Check.passes : Check → Bool
  | .depth n => (n : ℤ) ≤ limits.maximumDepth
  | .text s => (utf8Size s).any fun size : ℕ => (size : ℤ) ≤ limits.maximumStringBytes
  | .items n => (n : ℤ) ≤ limits.maximumItems

def Check.failure : Check → Failure
  | .text s => if (utf8Size s).isNone then .unicodeEncode else jsonLimit
  | _ => jsonLimit

def runChecks (all : List Check) : Except Failure Unit :=
  match all.find? fun check => !check.passes limits with
  | none => .ok ()
  | some check => .error check.failure

variable {limits}

theorem runChecks_nil : runChecks limits [] = .ok () := rfl

theorem runChecks_cons (check : Check) (rest : List Check) :
    runChecks limits (check :: rest) =
      if check.passes limits then runChecks limits rest else .error check.failure := by
  unfold runChecks
  rw [List.find?_cons]
  cases check.passes limits <;> rfl

theorem runChecks_append (before after : List Check) :
    runChecks limits (before ++ after) =
      (runChecks limits before >>= fun _ => runChecks limits after) := by
  induction before with
  | nil => rfl
  | cons check before ih =>
    rw [List.cons_append, runChecks_cons, runChecks_cons, ih]
    cases check.passes limits <;> rfl

theorem checkString_eq (s : CodePoints) :
    checkString limits s = runChecks limits [.text s] := by
  rw [runChecks_cons, runChecks_nil]
  unfold checkString Check.passes Check.failure
  cases hsize : utf8Size s with
  | none =>
    simp only [hsize]
    rfl
  | some size =>
    by_cases hle : (size : ℤ) ≤ limits.maximumStringBytes
    · simp [expect, require, hle, hsize, ok_bind]
    · simp [expect, require, hle, hsize, ok_bind]

theorem forM_checkString (members : List (CodePoints × JsonTree)) :
    (members.forM fun member => checkString limits member.1) =
      runChecks limits ((members.map Prod.fst).map Check.text) := by
  induction members with
  | nil => rfl
  | cons member members ih =>
    show (checkString limits member.1 >>= fun _ =>
      members.forM fun member => checkString limits member.1) = _
    rw [ih, checkString_eq, ← runChecks_append]
    rfl

theorem visit_eq (entry : JsonTree × ℕ) (items : ℕ) :
    visit limits entry items =
      (runChecks limits (.depth entry.2 :: (entry.1.texts.map Check.text ++
        [.items (items + ownItems entry.1)])) >>= fun _ =>
          pure (items + ownItems entry.1)) := by
  obtain ⟨tree, depth⟩ := entry
  have hitems : ∀ n : ℕ, (require (decide ((n : ℤ) ≤ limits.maximumItems)) jsonLimit >>=
      fun _ => (pure n : Except Failure ℕ)) =
        (runChecks limits [.items n] >>= fun _ => pure n) := by
    intro n
    rw [runChecks_cons, runChecks_nil]
    rfl
  rw [← List.singleton_append, runChecks_append, runChecks_append]
  have hdepth : runChecks limits [.depth depth] =
      require (decide ((depth : ℤ) ≤ limits.maximumDepth)) jsonLimit := by
    rw [runChecks_cons, runChecks_nil]
    rfl
  unfold visit
  rw [hdepth]
  cases require (decide ((depth : ℤ) ≤ limits.maximumDepth)) jsonLimit with
  | error err => rfl
  | ok _ =>
    cases tree with
    | obj members =>
      simp only [ok_bind, forM_checkString, JsonTree.texts, ownItems]
      cases runChecks limits ((members.map Prod.fst).map Check.text) with
      | error err => rfl
      | ok _ => exact hitems _
    | str s =>
      simp only [ok_bind, checkString_eq, JsonTree.texts, ownItems, List.map_cons,
        List.map_nil, Nat.add_zero]
      cases runChecks limits [.text s] with
      | error err => rfl
      | ok _ => exact hitems _
    | arr values | null | bool b | int text | float text | constant name => exact hitems _

/-- The checks of all that is on the worklist. -/
def stackOrder (stack : List (JsonTree × ℕ)) : List (JsonTree × ℕ) :=
  stack.flatMap fun entry => order entry.2 entry.1

theorem stackOrder_append (above below : List (JsonTree × ℕ)) :
    stackOrder (above ++ below) = stackOrder above ++ stackOrder below :=
  List.flatMap_append ..

theorem stackOrder_items (depth : ℕ) (values : List JsonTree) :
    stackOrder (values.map fun value => (value, depth)).reverse = orderItems depth values := by
  induction values with
  | nil => rfl
  | cons value values ih =>
    rw [List.map_cons, List.reverse_cons, stackOrder_append, ih, orderItems]
    simp [stackOrder]

theorem stackOrder_members (depth : ℕ) (members : List (CodePoints × JsonTree)) :
    stackOrder (members.map fun member => (member.2, depth)).reverse =
      orderMembers depth members := by
  induction members with
  | nil => rfl
  | cons member members ih =>
    rw [List.map_cons, List.reverse_cons, stackOrder_append, ih, orderMembers]
    simp [stackOrder]

theorem order_eq (entry : JsonTree × ℕ) :
    order entry.2 entry.1 = entry :: stackOrder (pushed entry) := by
  obtain ⟨tree, depth⟩ := entry
  cases tree with
  | arr values => rw [pushed, stackOrder_items, order]
  | obj members => rw [pushed, stackOrder_members, order]
  | _ => rfl

/-- The values below a worklist. -/
def stackCount (stack : List (JsonTree × ℕ)) : ℕ :=
  (stack.map fun entry => valueCount entry.1).sum

theorem stackCount_items (depth : ℕ) (values : List JsonTree) :
    stackCount (values.map fun value => (value, depth)).reverse = valuesCount values := by
  induction values with
  | nil => rfl
  | cons value values ih =>
    rw [List.map_cons, List.reverse_cons, stackCount, List.map_append, List.sum_append,
      ← stackCount, ih, valuesCount]
    simp [Nat.add_comm]

theorem stackCount_members (depth : ℕ) (members : List (CodePoints × JsonTree)) :
    stackCount (members.map fun member => (member.2, depth)).reverse =
      membersCount members := by
  induction members with
  | nil => rfl
  | cons member members ih =>
    rw [List.map_cons, List.reverse_cons, stackCount, List.map_append, List.sum_append,
      ← stackCount, ih, membersCount]
    simp [Nat.add_comm]

theorem valueCount_eq (entry : JsonTree × ℕ) :
    valueCount entry.1 = 1 + stackCount (pushed entry) := by
  obtain ⟨tree, depth⟩ := entry
  cases tree with
  | arr values => rw [pushed, stackCount_items, valueCount]
  | obj members => rw [pushed, stackCount_members, valueCount]
  | _ => rfl

/-- **The walk runs the checks of its worklist in their order.** -/
theorem walk_eq (n : ℕ) (stack : List (JsonTree × ℕ)) (items : ℕ) (hn : stackCount stack ≤ n) :
    walk limits n stack items = runChecks limits (checksFrom items (stackOrder stack)) := by
  induction n generalizing stack items with
  | zero =>
    cases stack with
    | nil => rfl
    | cons entry stack =>
      rw [stackCount, List.map_cons, List.sum_cons, valueCount_eq] at hn
      omega
  | succ n ih =>
    cases stack with
    | nil => rfl
    | cons entry stack =>
      have hcount : stackCount (pushed entry ++ stack) ≤ n := by
        rw [stackCount, List.map_cons, List.sum_cons, valueCount_eq] at hn
        rw [stackCount, List.map_append, List.sum_append]
        rw [stackCount] at hn
        omega
      have horder : stackOrder (entry :: stack) =
          entry :: stackOrder (pushed entry ++ stack) := by
        rw [stackOrder_append, ← List.cons_append, ← order_eq]
        rfl
      have hsplit : checksFrom items (entry :: stackOrder (pushed entry ++ stack)) =
          (.depth entry.2 :: (entry.1.texts.map Check.text ++
            [.items (items + ownItems entry.1)])) ++
            checksFrom (items + ownItems entry.1) (stackOrder (pushed entry ++ stack)) := by
        rw [checksFrom]
        simp
      rw [walk, visit_eq, horder, hsplit, runChecks_append]
      cases runChecks limits (.depth entry.2 :: (entry.1.texts.map Check.text ++
          [.items (items + ownItems entry.1)])) with
      | error err => rfl
      | ok _ => exact ih _ _ hcount

theorem walk_document (document : JsonTree) :
    walk limits (valueCount document) [(document, 1)] 0 =
      runChecks limits (checks document) := by
  rw [walk_eq _ _ _ (by simp [stackCount])]
  simp [stackOrder, checks]

theorem runChecks_eq_ok {all : List Check} :
    runChecks limits all = .ok () ↔ ∀ check ∈ all, check.passes limits = true := by
  unfold runChecks
  cases hfind : all.find? fun check => !check.passes limits with
  | none =>
    simp only [true_iff]
    intro check hcheck
    simpa using List.find?_eq_none.mp hfind check hcheck
  | some check =>
    have hfails := List.find?_some hfind
    have hmem := List.mem_of_find?_eq_some hfind
    constructor
    · intro h
      cases h
    · intro hall
      rw [hall check hmem] at hfails
      cases hfails

end Checks

/-! ## Documents within their limits -/

/-- UTF-8 JSON without two members of one key in an object and without constants. -/
def IsDocument (value : Bytes) (document : JsonTree) : Prop :=
  ∃ text, readUtf8 value = some text ∧ JsonTree.ofText text = some document ∧
    document.any JsonTree.duplicates = false ∧ document.any JsonTree.isConstant = false

def fits (limits : JsonLimits) (s : CodePoints) : Bool :=
  (utf8Size s).any fun size : ℕ => (size : ℤ) ≤ limits.maximumStringBytes

structure Within (limits : JsonLimits) (document : JsonTree) : Prop where
  depth : (document.depth : ℤ) ≤ limits.maximumDepth
  items : (document.itemCount : ℤ) ≤ limits.maximumItems
  strings : document.any (fun value => value.texts.any fun s => !fits limits s) = false

section Limits

variable {limits : JsonLimits}

mutual

theorem sum_order (depth : ℕ) : ∀ tree : JsonTree,
    ((order depth tree).map fun entry => ownItems entry.1).sum = tree.itemCount
  | .arr values => by
    rw [order, List.map_cons, List.sum_cons, sum_orderItems, JsonTree.itemCount]
    rfl
  | .obj members => by
    rw [order, List.map_cons, List.sum_cons, sum_orderMembers, JsonTree.itemCount]
    rfl
  | .null | .bool _ | .int _ | .float _ | .constant _ | .str _ => rfl

theorem sum_orderItems (depth : ℕ) : ∀ values : List JsonTree,
    ((orderItems depth values).map fun entry => ownItems entry.1).sum =
      JsonTree.itemsCount values
  | [] => rfl
  | value :: values => by
    rw [orderItems, List.map_append, List.sum_append, sum_orderItems, sum_order,
      JsonTree.itemsCount, Nat.add_comm]

theorem sum_orderMembers (depth : ℕ) : ∀ members : List (CodePoints × JsonTree),
    ((orderMembers depth members).map fun entry => ownItems entry.1).sum =
      JsonTree.membersCount members
  | [] => rfl
  | (_, value) :: members => by
    rw [orderMembers, List.map_append, List.sum_append, sum_orderMembers, sum_order,
      JsonTree.membersCount, Nat.add_comm]

end

mutual

theorem any_order (p : JsonTree → Bool) (depth : ℕ) : ∀ tree : JsonTree,
    ((order depth tree).any fun entry => p entry.1) = tree.any p
  | .arr values => by
    rw [order, List.any_cons, any_orderItems, JsonTree.any]
  | .obj members => by
    rw [order, List.any_cons, any_orderMembers, JsonTree.any]
  | .null | .bool _ | .int _ | .float _ | .constant _ | .str _ => by
    simp [order, JsonTree.any]

theorem any_orderItems (p : JsonTree → Bool) (depth : ℕ) : ∀ values : List JsonTree,
    ((orderItems depth values).any fun entry => p entry.1) = JsonTree.anyItem p values
  | [] => rfl
  | value :: values => by
    rw [orderItems, List.any_append, any_orderItems, any_order, JsonTree.anyItem,
      Bool.or_comm]

theorem any_orderMembers (p : JsonTree → Bool) (depth : ℕ) :
    ∀ members : List (CodePoints × JsonTree),
      ((orderMembers depth members).any fun entry => p entry.1) =
        JsonTree.anyMember p members
  | [] => rfl
  | (_, value) :: members => by
    rw [orderMembers, List.any_append, any_orderMembers, any_order, JsonTree.anyMember,
      Bool.or_comm]

end

mutual

theorem depth_order {M : ℤ} (depth : ℕ) : ∀ tree : JsonTree,
    (∀ entry ∈ order depth tree, (entry.2 : ℤ) ≤ M) ↔ (depth : ℤ) + tree.depth ≤ M + 1
  | .arr values => by
    rw [order, List.forall_mem_cons, JsonTree.depth]
    constructor
    · rintro ⟨hfirst, hrest⟩
      have := (depth_orderItems (depth + 1) values (by push_cast; omega)).mp hrest
      push_cast at this ⊢
      omega
    · intro h
      push_cast at h
      refine ⟨by show (depth : ℤ) ≤ M; omega, ?_⟩
      refine (depth_orderItems (depth + 1) values (by push_cast; omega)).mpr ?_
      push_cast
      omega
  | .obj members => by
    rw [order, List.forall_mem_cons, JsonTree.depth]
    constructor
    · rintro ⟨hfirst, hrest⟩
      have := (depth_orderMembers (depth + 1) members (by push_cast; omega)).mp hrest
      push_cast at this ⊢
      omega
    · intro h
      push_cast at h
      refine ⟨by show (depth : ℤ) ≤ M; omega, ?_⟩
      refine (depth_orderMembers (depth + 1) members (by push_cast; omega)).mpr ?_
      push_cast
      omega
  | .null | .bool _ | .int _ | .float _ | .constant _ | .str _ => by
    simp only [order, List.forall_mem_singleton, JsonTree.depth]
    omega

theorem depth_orderItems {M : ℤ} (depth : ℕ) : ∀ values : List JsonTree,
    (depth : ℤ) ≤ M + 1 → ((∀ entry ∈ orderItems depth values, (entry.2 : ℤ) ≤ M) ↔
      (depth : ℤ) + JsonTree.itemsDepth values ≤ M + 1)
  | [], h => by
    simp [orderItems, JsonTree.itemsDepth, h]
  | value :: values, h => by
    rw [orderItems, List.forall_mem_append, depth_orderItems depth values h, depth_order,
      JsonTree.itemsDepth]
    omega

theorem depth_orderMembers {M : ℤ} (depth : ℕ) : ∀ members : List (CodePoints × JsonTree),
    (depth : ℤ) ≤ M + 1 → ((∀ entry ∈ orderMembers depth members, (entry.2 : ℤ) ≤ M) ↔
      (depth : ℤ) + JsonTree.membersDepth members ≤ M + 1)
  | [], h => by
    simp [orderMembers, JsonTree.membersDepth, h]
  | (_, value) :: members, h => by
    rw [orderMembers, List.forall_mem_append, depth_orderMembers depth members h,
      depth_order, JsonTree.membersDepth]
    omega

end

theorem passes_checksFrom (items : ℕ) (entries : List (JsonTree × ℕ)) :
    (∀ check ∈ checksFrom items entries, check.passes limits = true) ↔
      (∀ entry ∈ entries, (entry.2 : ℤ) ≤ limits.maximumDepth) ∧
      (∀ entry ∈ entries, ∀ s ∈ entry.1.texts, fits limits s = true) ∧
      (entries ≠ [] → ((items + (entries.map fun entry => ownItems entry.1).sum : ℕ) : ℤ) ≤
        limits.maximumItems) := by
  induction entries generalizing items with
  | nil => simp [checksFrom]
  | cons entry entries ih =>
    rw [checksFrom, List.forall_mem_cons, List.forall_mem_append, List.forall_mem_cons, ih,
      List.forall_mem_cons, List.forall_mem_cons, List.map_cons, List.sum_cons]
    have hdepth : Check.passes limits (.depth entry.2) = true ↔
        (entry.2 : ℤ) ≤ limits.maximumDepth := by simp [Check.passes]
    have htexts : (∀ check ∈ entry.1.texts.map Check.text, check.passes limits = true) ↔
        ∀ s ∈ entry.1.texts, fits limits s = true := by
      rw [List.forall_mem_map]
      rfl
    have hitems : Check.passes limits (.items (items + ownItems entry.1)) = true ↔
        ((items + ownItems entry.1 : ℕ) : ℤ) ≤ limits.maximumItems := by
      simp [Check.passes]
    rw [hdepth, htexts, hitems]
    have hsum : ((items + ownItems entry.1 : ℕ) : ℤ) ≤ limits.maximumItems ∧
        (entries ≠ [] → ((items + ownItems entry.1 +
          (entries.map fun entry => ownItems entry.1).sum : ℕ) : ℤ) ≤ limits.maximumItems) ↔
        ((items + (ownItems entry.1 +
          (entries.map fun entry => ownItems entry.1).sum) : ℕ) : ℤ) ≤
            limits.maximumItems := by
      cases entries with
      | nil => simp
      | cons next rest =>
        constructor
        · rintro ⟨_, h⟩
          have := h (List.cons_ne_nil _ _)
          omega
        · intro h
          exact ⟨by omega, fun _ => by omega⟩
    constructor
    · rintro ⟨h1, h2, h3, h4, h5, h6⟩
      exact ⟨⟨h1, h4⟩, ⟨h2, h5⟩, fun _ => hsum.mp ⟨h3, h6⟩⟩
    · rintro ⟨⟨h1, h4⟩, ⟨h2, h5⟩, h⟩
      obtain ⟨h3, h6⟩ := hsum.mpr (h (List.cons_ne_nil _ _))
      exact ⟨h1, h2, h3, h4, h5, h6⟩

/-- **Every check passes where the document keeps its limits, and only there.** -/
theorem runChecks_document (document : JsonTree) :
    runChecks limits (checks document) = .ok () ↔ Within limits document := by
  have hne : order 1 document ≠ [] := by
    have := order_eq (document, 1)
    simp only at this
    rw [this]
    exact List.cons_ne_nil _ _
  rw [runChecks_eq_ok, checks, passes_checksFrom, depth_order, sum_order]
  have hstrings : (∀ entry ∈ order 1 document, ∀ s ∈ entry.1.texts, fits limits s = true) ↔
      document.any (fun value => value.texts.any fun s => !fits limits s) = false := by
    rw [← any_order _ 1, List.any_eq_false]
    refine forall₂_congr fun entry _ => ?_
    simp
  rw [hstrings]
  constructor
  · rintro ⟨hdepth, htexts, hitems⟩
    refine ⟨by push_cast at hdepth; omega, ?_, htexts⟩
    simpa using hitems hne
  · rintro ⟨hdepth, hitems, htexts⟩
    refine ⟨by push_cast; omega, htexts, fun _ => ?_⟩
    simpa using hitems

end Limits

/-! ## What a call comes to -/

section Outcome

variable {recursionLimit : ℕ} {limits : JsonLimits} {value : Bytes} {document : JsonTree}

/-- The first check that fails is the one of a string that has no encoding: it stands in
front of everything that exceeds a limit. -/
def Leaks (limits : JsonLimits) (document : JsonTree) : Prop :=
  ∃ s, ((checks document).find? fun check => !check.passes limits) = some (.text s) ∧
    utf8Size s = none

theorem runChecks_eq_unicode :
    runChecks limits (checks document) = .error .unicodeEncode ↔ Leaks limits document := by
  unfold runChecks Leaks
  cases (checks document).find? fun check => !check.passes limits with
  | none => simp
  | some check =>
    cases check with
    | depth n | items n => simp [Check.failure, jsonLimit]
    | text s =>
      simp only [Check.failure, Option.isNone_iff_eq_none, Option.some.injEq,
        Check.text.injEq, Except.error.injEq]
      by_cases hsize : utf8Size s = none
      · rw [if_pos hsize]
        simp [hsize]
      · rw [if_neg hsize]
        simp [jsonLimit, hsize]

variable {failure : Failure}

theorem runChecks_raises (h : runChecks limits (checks document) = .error failure) :
    failure = jsonLimit ∨ failure = .unicodeEncode := by
  unfold runChecks at h
  split at h
  · cases h
  next check _ =>
  rw [← Except.error.inj h]
  unfold Check.failure
  split
  · split
    · exact .inr rfl
    · exact .inl rfl
  · exact .inl rfl

theorem loadStrict_eq_ok :
    loadStrict recursionLimit value = .ok document ↔
      IsDocument value document ∧ refusedByDecoder recursionLimit document = false := by
  unfold loadStrict IsDocument
  rw [expect_bind_eq_ok]
  constructor
  · rintro ⟨text, htext, h⟩
    obtain ⟨tree, htree, h⟩ := expect_bind_eq_ok.mp h
    obtain ⟨hchecks, h⟩ := require_bind_eq_ok.mp h
    obtain rfl := Except.ok.inj h
    simp only [Bool.and_eq_true, Bool.not_eq_true'] at hchecks
    exact ⟨⟨text, htext, htree, hchecks.1.1, hchecks.1.2⟩, hchecks.2⟩
  · rintro ⟨⟨text, htext, htree, hduplicates, hconstants⟩, hrefused⟩
    refine ⟨text, htext, expect_bind_eq_ok.mpr ⟨document, htree, ?_⟩⟩
    refine require_bind_eq_ok.mpr ⟨?_, rfl⟩
    rw [hduplicates, hconstants, hrefused]
    rfl

theorem loadStrict_error
    (h : loadStrict recursionLimit value = .error failure) : failure = jsonInvalid := by
  unfold loadStrict at h
  cases htext : readUtf8 value with
  | none =>
    rw [htext] at h
    exact (Except.error.inj h).symm
  | some text =>
    rw [htext] at h
    cases htree : JsonTree.ofText text with
    | none =>
      simp only [expect, ok_bind, htree] at h
      exact (Except.error.inj h).symm
    | some tree =>
      simp only [expect, ok_bind, htree, require] at h
      split at h
      · cases h
      exact (Except.error.inj h).symm

theorem IsDocument.unique {other : JsonTree} (h : IsDocument value document)
    (h' : IsDocument value other) : document = other := by
  obtain ⟨text, htext, htree, _⟩ := h
  obtain ⟨text', htext', htree', _⟩ := h'
  rw [htext] at htext'
  obtain rfl := Option.some.inj htext'
  rw [htree] at htree'
  exact Option.some.inj htree'

theorem strict_of_loaded (h : loadStrict recursionLimit value = .ok document) :
    strictBoundedJson recursionLimit limits value =
      (runChecks limits (checks document) >>= fun _ => pure document) := by
  unfold strictBoundedJson
  rw [h, ok_bind, walk_document]

theorem strict_eq_ok :
    strictBoundedJson recursionLimit limits value = .ok document ↔
      (IsDocument value document ∧ refusedByDecoder recursionLimit document = false) ∧
        Within limits document := by
  constructor
  · intro h
    have hstrict := h
    unfold strictBoundedJson at h
    obtain ⟨tree, htree, h⟩ := bind_eq_ok.mp h
    obtain ⟨_, hwalk, h⟩ := bind_eq_ok.mp h
    obtain rfl : tree = document := Except.ok.inj h
    rw [walk_document] at hwalk
    exact ⟨loadStrict_eq_ok.mp htree, (runChecks_document tree).mp hwalk⟩
  · rintro ⟨hdocument, hwithin⟩
    rw [strict_of_loaded (loadStrict_eq_ok.mpr hdocument),
      (runChecks_document document).mpr hwithin]
    rfl

/-- An exception that is no `ResearchToolError` comes from a string without an encoding. -/
theorem strict_leaks :
    strictBoundedJson recursionLimit limits value = .error .unicodeEncode ↔
      ∃ document, IsDocument value document ∧
        refusedByDecoder recursionLimit document = false ∧ Leaks limits document := by
  cases hload : loadStrict recursionLimit value with
  | error failure =>
    constructor
    · intro h
      unfold strictBoundedJson at h
      rw [hload] at h
      cases (loadStrict_error hload).symm.trans (Except.error.inj h)
    · rintro ⟨document, hdocument, hrefused, _⟩
      rw [loadStrict_eq_ok.mpr ⟨hdocument, hrefused⟩] at hload
      cases hload
  | ok document =>
    obtain ⟨hdocument, hrefused⟩ := loadStrict_eq_ok.mp hload
    rw [strict_of_loaded hload]
    constructor
    · intro h
      refine ⟨document, hdocument, hrefused, runChecks_eq_unicode.mp ?_⟩
      cases hrun : runChecks limits (checks document) with
      | error failure =>
        rw [hrun] at h
        exact congrArg Except.error (Except.error.inj h)
      | ok _ =>
        rw [hrun] at h
        cases h
    · rintro ⟨other, hother, _, hleaks⟩
      obtain rfl := hdocument.unique hother
      rw [runChecks_eq_unicode.mpr hleaks]
      rfl

/-- What is raised is a `ResearchToolError` or comes from such a string. -/
theorem strict_raises (h : strictBoundedJson recursionLimit limits value = .error failure) :
    failure.isTool = true ∨ failure = .unicodeEncode := by
  cases hload : loadStrict recursionLimit value with
  | error other =>
    unfold strictBoundedJson at h
    rw [hload] at h
    rw [← Except.error.inj h, loadStrict_error hload]
    exact .inl rfl
  | ok document =>
    rw [strict_of_loaded hload] at h
    cases hrun : runChecks limits (checks document) with
    | ok _ =>
      rw [hrun] at h
      cases h
    | error other =>
      rw [hrun] at h
      rw [← Except.error.inj h]
      rcases runChecks_raises hrun with rfl | rfl
      · exact .inl rfl
      · exact .inr rfl

/-! ### The contract -/

/-- The document is returned exactly where the bytes spell one within the limits, and
nothing but a `ResearchToolError` is raised. -/
structure ExactParser (recursionLimit : ℕ) (limits : JsonLimits) (value : Bytes) : Prop where
  returned : ∀ document, strictBoundedJson recursionLimit limits value = .ok document ↔
    IsDocument value document ∧ Within limits document
  raised : ∀ failure, strictBoundedJson recursionLimit limits value = .error failure →
    failure.isTool = true

theorem exactParser_iff : ExactParser recursionLimit limits value ↔
    ∀ document, IsDocument value document →
      (refusedByDecoder recursionLimit document = true → ¬ Within limits document) ∧
      (refusedByDecoder recursionLimit document = false → ¬ Leaks limits document) := by
  constructor
  · intro hexact document hdocument
    constructor
    · intro hrefused hwithin
      have hok := (hexact.returned document).mpr ⟨hdocument, hwithin⟩
      rw [(strict_eq_ok.mp hok).1.2] at hrefused
      cases hrefused
    · intro hrefused hleaks
      cases hexact.raised _ (strict_leaks.mpr ⟨document, hdocument, hrefused, hleaks⟩)
  · intro h
    constructor
    · intro document
      rw [strict_eq_ok]
      constructor
      · rintro ⟨hdocument, hwithin⟩
        exact ⟨hdocument.1, hwithin⟩
      · rintro ⟨hdocument, hwithin⟩
        refine ⟨⟨hdocument, ?_⟩, hwithin⟩
        by_contra hrefused
        rw [Bool.not_eq_false] at hrefused
        exact (h document hdocument).1 hrefused hwithin
    · intro failure hfailure
      rcases strict_raises hfailure with htool | rfl
      · exact htool
      · obtain ⟨document, hdocument, hrefused, hleaks⟩ := strict_leaks.mp hfailure
        exact absurd hleaks ((h document hdocument).2 hrefused)

/-! ### The provider -/

def RaisesOnly {α : Type} (failure : Failure) (x : Except Failure α) : Prop :=
  ∀ e, x = .error e → e = failure

theorem raisesOnly_ok {α : Type} (a : α) :
    RaisesOnly failure (.ok a : Except Failure α) := nofun

theorem raisesOnly_error {α : Type} :
    RaisesOnly failure (.error failure : Except Failure α) :=
  fun _ h => (Except.error.inj h).symm

theorem raisesOnly_require (c : Bool) : RaisesOnly failure (require c failure) := by
  cases c
  · exact raisesOnly_error
  · exact raisesOnly_ok ()

theorem raisesOnly_expect {α : Type} (x : Option α) :
    RaisesOnly failure (expect failure x) := by
  cases x with
  | none => exact raisesOnly_error
  | some a => exact raisesOnly_ok a

theorem raisesOnly_bind {α β : Type} {x : Except Failure α}
    {f : α → Except Failure β} (hx : RaisesOnly failure x)
    (hf : ∀ a, RaisesOnly failure (f a)) : RaisesOnly failure (x >>= f) := by
  cases x with
  | error e =>
    rw [hx e rfl]
    exact raisesOnly_error
  | ok a => exact hf a

theorem raisesOnly_mapM {α β : Type} {f : α → Except Failure β}
    (xs : List α) (hf : ∀ a, RaisesOnly failure (f a)) :
    RaisesOnly failure (xs.mapM f) := by
  rcases mapM_cases (fun a (_ : a ∈ xs) => hf a) with herror | ⟨ys, hys⟩
  · rw [herror]
    exact raisesOnly_error
  · rw [hys]
    exact raisesOnly_ok ys

theorem boundedText_raises (item : Option JsonTree) (maximumBytes : ℕ) :
    RaisesOnly providerResponseInvalid (boundedText item maximumBytes) := by
  unfold boundedText
  refine raisesOnly_bind ?_ fun text => raisesOnly_bind (raisesOnly_require _) fun _ =>
    raisesOnly_bind (raisesOnly_expect _) fun size =>
      raisesOnly_bind (raisesOnly_require _) fun _ => raisesOnly_ok text
  unfold asText
  split
  · exact raisesOnly_ok _
  · exact raisesOnly_error

theorem objectWith_raises (keys : List CodePoints) (item : JsonTree) :
    RaisesOnly providerResponseInvalid (objectWith keys item) := by
  unfold objectWith
  refine raisesOnly_bind ?_ fun members =>
    raisesOnly_bind (raisesOnly_require _) fun _ => raisesOnly_ok members
  unfold asObject
  split
  · exact raisesOnly_ok _
  · exact raisesOnly_error

theorem searchHit_raises (item : JsonTree) :
    RaisesOnly providerResponseInvalid (searchHit item) := by
  unfold searchHit
  exact raisesOnly_bind (objectWith_raises _ _) fun members =>
    raisesOnly_bind (boundedText_raises _ _) fun url =>
      raisesOnly_bind (boundedText_raises _ _) fun title =>
        raisesOnly_bind (boundedText_raises _ _) fun snippet => raisesOnly_ok _

theorem searchResponse_raises {maxResults : ℕ} {body : Bytes}
    (hstrict : strictBoundedJson recursionLimit (searchLimits maxResults) body ≠
      .error .unicodeEncode) :
    RaisesOnly providerResponseInvalid (searchResponse recursionLimit maxResults body) := by
  unfold searchResponse
  refine raisesOnly_bind ?_ fun document => raisesOnly_bind (objectWith_raises _ _)
    fun members => raisesOnly_bind ?_ fun values =>
      raisesOnly_bind (raisesOnly_require _) fun _ => raisesOnly_mapM _ searchHit_raises
  · cases hresult : strictBoundedJson recursionLimit (searchLimits maxResults) body with
    | ok document => exact raisesOnly_ok document
    | error failure =>
      rcases strict_raises hresult with htool | rfl
      · cases failure with
        | tool code message => exact raisesOnly_error
        | unicodeEncode | foreign name => cases htool
      · exact absurd hresult hstrict
  · unfold asArray
    split
    · exact raisesOnly_ok _
    · exact raisesOnly_error

/-- `search` raises nothing but `ResearchToolError` for a response body. -/
def SearchContained (recursionLimit maxResults : ℕ) (body : Bytes) : Prop :=
  ∀ failure, searchResponse recursionLimit maxResults body = .error failure →
    failure.isTool = true

theorem searchContained_iff {maxResults : ℕ} {body : Bytes} :
    SearchContained recursionLimit maxResults body ↔ ∀ document, IsDocument body document →
        refusedByDecoder recursionLimit document = false →
          ¬ Leaks (searchLimits maxResults) document := by
  constructor
  · intro hcontained document hdocument hrefused hleaks
    have hstrict := strict_leaks.mpr ⟨document, hdocument, hrefused, hleaks⟩
    have hsearch : searchResponse recursionLimit maxResults body = .error .unicodeEncode := by
      unfold searchResponse
      rw [hstrict]
      rfl
    cases hcontained _ hsearch
  · intro h failure hfailure
    have hstrict : strictBoundedJson recursionLimit (searchLimits maxResults) body ≠
        .error .unicodeEncode := by
      intro hleaks
      obtain ⟨document, hdocument, hrefused, hleaks⟩ := strict_leaks.mp hleaks
      exact h document hdocument hrefused hleaks
    rw [searchResponse_raises hstrict failure hfailure]
    rfl

end Outcome

/-! ### The content of a response -/

def contentInvalid : Failure :=
  .tool "ECO_RESEARCH_CONTENT_INVALID" "Research response content is invalid"

/-- The defaults of `strict_bounded_json`. -/
def defaultLimits : JsonLimits where
  maximumDepth := 32
  maximumItems := 10000
  maximumStringBytes := 1048576

/-- `except (UnicodeDecodeError, ValueError, json.JSONDecodeError)`. -/
def asContentFailure : Except Failure JsonTree → Except Failure Unit
  | .ok _ => .ok ()
  | .error .unicodeEncode => .error contentInvalid
  | .error failure => .error failure

/-- Whether a body is text, and JSON where it says so. -/
def checkContent (recursionLimit : ℕ) (mediaType : List Char) (body : Bytes) : Except Failure Unit := do
  require (readUtf8 body).isSome contentInvalid
  if mediaType = "application/json".toList then
    asContentFailure (strictBoundedJson recursionLimit defaultLimits body)
  else .ok ()

theorem checkContent_raises {recursionLimit : ℕ} {mediaType : List Char} {value : Bytes}
    {failure : Failure}
    (h : checkContent recursionLimit mediaType value = .error failure) :
    failure.isTool = true := by
  unfold checkContent at h
  cases hutf8 : (readUtf8 value).isSome with
  | false =>
    rw [hutf8] at h
    cases h
    rfl
  | true =>
    rw [hutf8] at h
    change (if _ then _ else _) = _ at h
    split at h
    · cases hstrict : strictBoundedJson recursionLimit defaultLimits value with
      | ok document =>
        rw [hstrict] at h
        cases h
      | error other =>
        rw [hstrict] at h
        rcases strict_raises hstrict with htool | rfl
        · cases other with
          | tool code message =>
            cases h
            rfl
          | unicodeEncode | foreign name => cases htool
        · cases h
          rfl
    · cases h

/-- **The bounded parser is exact, and a search contains its failures**, where no string
without an encoding is reached before a limit is exceeded and no document within the
limits is refused by the decoder; and only there.  The transport contains them always. -/
theorem strict_json_exact_iff (recursionLimit maxResults : ℕ) (limits : JsonLimits)
    (value : Bytes) :
    ((ExactParser recursionLimit limits value ∧
      SearchContained recursionLimit maxResults value) ↔
      ∀ document, IsDocument value document →
        (refusedByDecoder recursionLimit document = true → ¬ Within limits document) ∧
        (refusedByDecoder recursionLimit document = false →
          ¬ Leaks limits document ∧ ¬ Leaks (searchLimits maxResults) document)) ∧
    ∀ mediaType failure, checkContent recursionLimit mediaType value = .error failure →
      failure.isTool = true := by
  refine ⟨?_, fun mediaType failure => checkContent_raises⟩
  rw [exactParser_iff, searchContained_iff]
  constructor
  · rintro ⟨hexact, hsearch⟩ document hdocument
    obtain ⟨hwithin, hleaks⟩ := hexact document hdocument
    exact ⟨hwithin, fun hrefused =>
      ⟨hleaks hrefused, hsearch document hdocument hrefused⟩⟩
  · intro h
    refine ⟨fun document hdocument => ?_, fun document hdocument hrefused => ?_⟩
    · obtain ⟨hwithin, hleaks⟩ := h document hdocument
      exact ⟨hwithin, fun hrefused => (hleaks hrefused).1⟩
    · exact ((h document hdocument).2 hrefused).2

/-- The JSON string that is one half of a surrogate pair: `"\ud800"` with its quotes. -/
def loneSurrogate : Bytes := [0x22, 0x5C, 0x75, 0x64, 0x38, 0x30, 0x30, 0x22]

theorem lone_surrogate_leaks :
    strictBoundedJson 1000 defaultLimits loneSurrogate = .error .unicodeEncode ∧
      ¬ (ExactParser 1000 defaultLimits loneSurrogate ∧
        SearchContained 1000 10 loneSurrogate) := by
  have hleaks : strictBoundedJson 1000 defaultLimits loneSurrogate = .error .unicodeEncode := by
    rfl
  refine ⟨hleaks, fun h => ?_⟩
  cases h.1.raised _ hleaks

end Ecosystem.Research
