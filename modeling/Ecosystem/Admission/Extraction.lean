import Ecosystem.Lib.JsonBalance

/-!
# Structured output

`structured_admission.py`: a JSON text is looked for in the output of a model and
checked against a schema.  An output that is JSON is taken as it is; otherwise think
blocks are removed, and the first balanced text is taken, of a fenced block if one has
any.  Both patterns work on the output before its structure is known.

`\w` beyond ASCII and the schemas are parameters.
-/

namespace Ecosystem.Admission

open Ecosystem.Lib

/-! ## Patterns -/

/-- What a letter of a pattern stands for under `re.IGNORECASE`. -/
def caseless : Char → List Char
  | 'i' => ['i', 'I', 'İ', 'ı']
  | 'k' => ['k', 'K', 'K']
  | c => [c, c.toUpper]

def matchWord : Text → Text → Option Text
  | [], text => some text
  | _ :: _, [] => none
  | l :: word, c :: text => if (caseless l).contains c then matchWord word text else none

def thinkWord : Text := ['<', 't', 'h', 'i', 'n', 'k']

def closeWord : Text := ['<', '/', 't', 'h', 'i', 'n', 'k', '>']

/-- What stands behind the first closing tag. -/
def afterClose : Text → Option Text
  | [] => none
  | c :: text =>
    match matchWord closeWord (c :: text) with
    | some rest => some rest
    | none => afterClose text

section Think

variable (isWordBeyond : Char → Bool)

def isWord (c : Char) : Bool :=
  if c.toNat < 128 then c.isAlphanum || c = '_' else isWordBeyond c

/-- What is left of a text at whose start `_THINK_RE` matches. -/
def thinkAt (text : Text) : Option Text :=
  match matchWord thinkWord text with
  | none => none
  | some rest =>
    if rest.head?.any (isWord isWordBeyond) then none
    else match rest.dropWhile (· ≠ '>') with
      | [] => none
      | _ :: body => afterClose body

/-- Every match takes a character at least. -/
def removeThinking : ℕ → Text → Text
  | 0, text => text
  | _, [] => []
  | n + 1, c :: text =>
    match thinkAt isWordBeyond (c :: text) with
    | some rest => removeThinking n rest
    | none => c :: removeThinking n text

/-- `_THINK_RE.sub("", text)`. -/
def withoutThinking (text : Text) : Text := removeThinking isWordBeyond text.length text

end Think

def fence : Text := ['`', '`', '`']

def isTagChar (c : Char) : Bool := c.isAlphanum || c = '_' || c = '-'

/-- The group of `_FENCE_RE` where it matches at the start of a text, and what is left. -/
def fenceAt (text : Text) : Option (Text × Text) :=
  if fence.isPrefixOf text then
    cutFirst fence (((text.drop 3).dropWhile isTagChar).dropWhile isSpace)
  else none

def fencedBlocks : ℕ → Text → List Text
  | 0, _ => []
  | _, [] => []
  | n + 1, c :: text =>
    match fenceAt (c :: text) with
    | some (group, rest) => group :: fencedBlocks n rest
    | none => fencedBlocks n text

/-- The groups of `_FENCE_RE.finditer(text)`. -/
def fences (text : Text) : List Text := fencedBlocks text.length text

/-! ## `_first_balanced_json` -/

/-- Where the loop stands: outside of strings, in one, or behind a backslash in one. -/
inductive Place
  | outside | inString | escaped

def balance (opener closer : Char) : ℕ → Place → Text → Option Text
  | _, _, [] => none
  | depth, .escaped, c :: text => (balance opener closer depth .inString text).map (c :: ·)
  | depth, .inString, c :: text =>
    let place := if c = '\\' then .escaped else if c = '"' then .outside else .inString
    (balance opener closer depth place text).map (c :: ·)
  | depth, .outside, c :: text =>
    if c = '"' then (balance opener closer depth .inString text).map (c :: ·)
    else if c = opener then (balance opener closer (depth + 1) .outside text).map (c :: ·)
    else if c = closer then
      if depth = 1 then some [c]
      else (balance opener closer (depth - 1) .outside text).map (c :: ·)
    else (balance opener closer depth .outside text).map (c :: ·)

def isOpener (c : Char) : Bool := c = '{' || c = '['

def closerOf (c : Char) : Char := if c = '{' then '}' else ']'

def firstBalanced (text : Text) : Option Text :=
  match text.dropWhile fun c => !isOpener c with
  | [] => none
  | c :: rest => balance c (closerOf c) 0 .outside (c :: rest)

/-! ## Candidates -/

/-- `_repair_json_escapes`. -/
def repairEscapes : Text → Text
  | [] => []
  | [c] => [c]
  | c :: next :: text =>
    if c = '\\' then
      if ['"', '\\', '/', 'b', 'f', 'n', 'r', 't', 'u'].contains next then
        c :: next :: repairEscapes text
      else next :: repairEscapes text
    else c :: repairEscapes (next :: text)

inductive LoadError
  | value | recursion

section Loading

variable (recursionLimit : ℕ)

/-- The text up to the first bracket that opens one level more than `levels`, closed behind
it.  Brackets count outside of strings, and `closers` are those that are awaited. -/
def cutDeep : ℕ → List Char → Place → Text → Option Text
  | _, _, _, [] => none
  | levels, closers, .escaped, c :: text =>
    (cutDeep levels closers .inString text).map (c :: ·)
  | levels, closers, .inString, c :: text =>
    let place := if c = '\\' then .escaped else if c = '"' then .outside else .inString
    (cutDeep levels closers place text).map (c :: ·)
  | levels, closers, .outside, c :: text =>
    if c = '"' then (cutDeep levels closers .inString text).map (c :: ·)
    else if isOpener c then
      match levels with
      | 0 => some (c :: closerOf c :: closers)
      | levels + 1 => (cutDeep levels (closerOf c :: closers) .outside text).map (c :: ·)
    else if c = '}' || c = ']' then
      (cutDeep (levels + 1) closers.tail .outside text).map (c :: ·)
    else (cutDeep levels closers .outside text).map (c :: ·)

def decode (text : Text) : Except LoadError JsonTree :=
  match JsonTree.ofText text with
  | none => .error .value
  | some tree => if tree.any JsonTree.isLongInt then .error .value else .ok tree

/-- `json.loads`.  The decoder gives up at the bracket that is one too deep, unless it has
met an error in front of it. -/
def loads (text : Text) : Except LoadError JsonTree :=
  match cutDeep recursionLimit [] .outside text with
  | some front => (decode front).bind fun _ => .error .recursion
  | none => decode text

/-- `_parseable_form`, which does not catch a `RecursionError`. -/
def parseableForm (candidate : Text) : Except LoadError Text :=
  match loads recursionLimit candidate with
  | .ok _ => .ok candidate
  | .error .recursion => .error .recursion
  | .error .value =>
    let repaired := repairEscapes candidate
    if repaired = candidate then .ok candidate
    else match loads recursionLimit repaired with
      | .ok _ => .ok repaired
      | .error .recursion => .error .recursion
      | .error .value => .ok candidate

variable (isWordBeyond : Char → Bool)

/-- What is taken of an output that is no JSON by itself. -/
def innerText (text : Text) : Option Text :=
  let stripped := withoutThinking isWordBeyond text
  match (fences stripped).findSome? firstBalanced with
  | some inner => some inner
  | none => firstBalanced stripped

def extractJsonCandidate (text : Text) : Except LoadError (Option Text × Bool) :=
  let raw := strip text
  match loads recursionLimit raw with
  | .ok _ => .ok (some raw, false)
  | .error .recursion => .error .recursion
  | .error .value =>
    match innerText isWordBeyond text with
    | some inner => (parseableForm recursionLimit inner).map fun candidate =>
        (some candidate, true)
    | none => .ok (none, false)

/-! ## Admission -/

inductive Validation
  | valid | mismatch | schemaError

/-- What is used of schemas: whether the wire projection is one, and `jsonschema.validate`. -/
structure SchemaTools (Schema : Type) where
  projects : Schema → Bool
  validate : Schema → JsonTree → Validation

structure AdmissionVerdict where
  admitted : Bool
  code : String
  normalized : Bool

inductive AdmissionError
  /-- `StructuredAdmissionError`. -/
  | invalid
  /-- `jsonschema.SchemaError` of the wire projection. -/
  | schema
  | recursion

def judge {Schema : Type} (tools : SchemaTools Schema) (schema : Schema) (normalized : Bool)
    (parsed : JsonTree) : Except AdmissionError AdmissionVerdict :=
  match tools.validate schema parsed with
  | .valid => .ok ⟨true, "ECO_ADMISSION_OK", normalized⟩
  | .mismatch => .ok ⟨false, "ECO_ADMISSION_SCHEMA_MISMATCH", normalized⟩
  | .schemaError => .error .invalid

def probeStructuredOutput {Schema : Type} (tools : SchemaTools Schema) (text : Text)
    (schema : Schema) : Except AdmissionError AdmissionVerdict :=
  if tools.projects schema then
    match extractJsonCandidate recursionLimit isWordBeyond text with
    | .error _ => .error .recursion
    | .ok (none, _) => .ok ⟨false, "ECO_ADMISSION_NO_JSON", false⟩
    | .ok (some candidate, normalized) =>
      match loads recursionLimit candidate with
      | .error .recursion => .error .recursion
      | .error .value => .ok ⟨false, "ECO_ADMISSION_NOT_JSON", normalized⟩
      | .ok parsed => judge tools schema normalized parsed
  else .error .schema

end Loading

/-! ## Scanning a balanced text -/

section Scan

variable {opener closer : Char}

/-- The scan comes to the end of a text in the state it began in. -/
def Passes (opener closer : Char) (front : Text) : Prop :=
  ∀ depth rest, balance opener closer (depth + 1) .outside (front ++ rest) =
    (balance opener closer (depth + 1) .outside rest).map (front ++ ·)

theorem map_cons_append {c : Char} {front : Text} {found : Option Text} :
    (found.map (front ++ ·)).map (c :: ·) = found.map (c :: front ++ ·) := by
  cases found <;> rfl

theorem balance_quoted {body : Text} (h : Quoted body) (depth : ℕ) (rest : Text) :
    balance opener closer depth .inString (body ++ rest) =
      (balance opener closer depth .outside rest).map (body ++ ·) := by
  induction h with
  | close => rfl
  | char hquote hescape _ ih =>
    rw [List.cons_append, balance, if_neg hescape, if_neg hquote, ih]
    exact map_cons_append
  | escape _ ih =>
    rw [List.cons_append, List.cons_append, balance, if_pos rfl, balance, ih]
    rw [map_cons_append, map_cons_append]

theorem isOpener_iff {c : Char} : isOpener c = true ↔ c = '{' ∨ c = '[' := by
  simp [isOpener]

/-- Brackets of one kind: those that are counted, or two others. -/
def Kind (opener closer a b : Char) : Prop :=
  (a = opener ∧ b = closer) ∨ ∀ c ∈ [a, b], c ≠ opener ∧ c ≠ closer

theorem passes_pair {a b : Char} {body text : Text} (ha : a ≠ '"') (hb : b ≠ '"')
    (hne : closer ≠ opener) (hkind : Kind opener closer a b)
    (hbody : Passes opener closer body) (htext : Passes opener closer text) :
    Passes opener closer (a :: (body ++ b :: text)) := by
  intro depth rest
  have hassoc : a :: (body ++ b :: text) ++ rest = a :: (body ++ b :: (text ++ rest)) := by
    simp
  rw [hassoc]
  rcases hkind with ⟨rfl, rfl⟩ | hother
  · rw [balance, if_neg ha, if_pos rfl, hbody, balance, if_neg hb, if_neg hne, if_pos rfl,
      if_neg (by omega), Nat.add_sub_cancel, htext]
    cases balance a b (depth + 1) .outside rest <;> simp
  · obtain ⟨hao, hac⟩ := hother a (by simp)
    obtain ⟨hbo, hbc⟩ := hother b (by simp)
    rw [balance, if_neg ha, if_neg hao, if_neg hac, hbody, balance, if_neg hb, if_neg hbo,
      if_neg hbc, htext]
    cases balance opener closer (depth + 1) .outside rest <;> simp

theorem passes_of_balanced {front : Text} (hopener : isOpener opener = true)
    (h : Balanced front) : Passes opener (closerOf opener) front := by
  have hopeners := isOpener_iff.mp hopener
  induction h with
  | nil =>
    intro depth rest
    show _ = Option.map id _
    rw [Option.map_id]
    rfl
  | @char c text hc _ ih =>
    intro depth rest
    simp only [jsonMarks, List.mem_cons, List.not_mem_nil, or_false, not_or] at hc
    have hco : c ≠ opener := by
      rcases hopeners with rfl | rfl
      · exact hc.2.2.2.1
      · exact hc.2.1
    have hcc : c ≠ closerOf opener := by
      rcases hopeners with rfl | rfl
      · exact hc.2.2.2.2
      · exact hc.2.2.1
    rw [List.cons_append, balance, if_neg hc.1, if_neg hco, if_neg hcc, ih]
    exact map_cons_append
  | string hbody _ ih =>
    intro depth rest
    rw [List.cons_append, List.append_assoc, balance, if_pos rfl, balance_quoted hbody, ih]
    cases balance opener (closerOf opener) (depth + 1) .outside rest <;> simp
  | nested hpair _ _ hbody htext =>
    rcases hpair with ⟨rfl, rfl⟩ | ⟨rfl, rfl⟩ <;> rcases hopeners with rfl | rfl
    · exact passes_pair (by decide) (by decide) (by decide) (.inr (by simp [closerOf])) hbody htext
    · exact passes_pair (by decide) (by decide) (by decide) (.inl ⟨rfl, rfl⟩) hbody htext
    · exact passes_pair (by decide) (by decide) (by decide) (.inl ⟨rfl, rfl⟩) hbody htext
    · exact passes_pair (by decide) (by decide) (by decide) (.inr (by simp [closerOf])) hbody htext

/-- **A balanced text that begins with a bracket is the first one**, wherever no other
bracket opens in front of it. -/
theorem firstBalanced_append {before body after : Text} (hopener : isOpener opener = true)
    (hbefore : ∀ c ∈ before, isOpener c = false) (hbody : Balanced body) :
    firstBalanced (before ++ (opener :: (body ++ [closerOf opener])) ++ after) =
      some (opener :: (body ++ [closerOf opener])) := by
  have hdrop : (before ++ (opener :: (body ++ [closerOf opener])) ++ after).dropWhile
      (fun c => !isOpener c) = opener :: (body ++ closerOf opener :: after) := by
    rw [List.append_assoc, List.dropWhile_append_of_pos fun c hc => by simp [hbefore c hc]]
    rw [List.cons_append, List.dropWhile_cons_of_neg (by simp [hopener])]
    simp
  have hquote : opener ≠ '"' ∧ closerOf opener ≠ '"' ∧ closerOf opener ≠ opener := by
    rcases isOpener_iff.mp hopener with rfl | rfl <;> decide
  unfold firstBalanced
  rw [hdrop]
  show balance opener (closerOf opener) 0 .outside _ = _
  rw [balance, if_neg hquote.1, if_pos rfl, passes_of_balanced hopener hbody, balance,
    if_neg hquote.2.1, if_neg hquote.2.2, if_pos rfl, if_pos rfl]
  rfl

end Scan

end Ecosystem.Admission
