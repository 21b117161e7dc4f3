import Mathlib

/-!
# JSON values and their canonical text

An object is the list of its members in key order (`Json.Ordered`).  Integers and finite
floats are different values; what a float is and how it is spelled is a parameter.

`JsonCodec` is a writer and a reader that are inverse on ordered values.
`FloatText.codec` is one: compact, with sorted keys and minimal escapes.
-/

namespace Ecosystem.Lib

inductive Json (Φ : Type)
  | null
  | bool (b : Bool)
  | int (n : ℤ)
  | float (x : Φ)
  | str (s : String)
  | arr (items : List (Json Φ))
  | obj (members : List (String × Json Φ))

namespace Json

variable {Φ : Type}

/-- Every object lists its members in strictly increasing key order. -/
inductive Ordered : Json Φ → Prop
  | null : Ordered .null
  | bool (b : Bool) : Ordered (.bool b)
  | int (n : ℤ) : Ordered (.int n)
  | float (x : Φ) : Ordered (.float x)
  | str (s : String) : Ordered (.str s)
  | arr (items : List (Json Φ)) (h : ∀ v ∈ items, Ordered v) : Ordered (.arr items)
  | obj (members : List (String × Json Φ))
      (sorted : members.Pairwise fun a b => a.1 < b.1)
      (h : ∀ m ∈ members, Ordered m.2) : Ordered (.obj members)

theorem Ordered.of_keys {members : List (String × Json Φ)} {keys : List String}
    (sorted : keys.Pairwise (· < ·)) (hkeys : members.map Prod.fst = keys)
    (h : ∀ m ∈ members, m.2.Ordered) : (Json.obj members).Ordered :=
  .obj members (List.pairwise_map.mp (hkeys ▸ sorted)) h

end Json

/-- A writer and a reader of JSON texts. -/
structure JsonCodec (Φ : Type) where
  dumps : Json Φ → String
  loads : String → Option (Json Φ)
  loads_dumps : ∀ v, v.Ordered → loads (dumps v) = some v

theorem JsonCodec.dumps_injective {Φ : Type} (codec : JsonCodec Φ) {v w : Json Φ}
    (hv : v.Ordered) (hw : w.Ordered) (h : codec.dumps v = codec.dumps w) : v = w := by
  have := codec.loads_dumps v hv
  rw [h, codec.loads_dumps w hw] at this
  exact (Option.some.inj this).symm

/-! ## The canonical spelling -/

/-- How finite floats are spelled: over the characters of a number, and never as
an integer. -/
structure FloatText (Φ : Type) where
  text : Φ → List Char
  read : List Char → Option Φ
  read_text : ∀ x, read (text x) = some x
  chars : ∀ x, ∀ c ∈ text x, c.isDigit ∨ c ∈ ['-', '+', '.', 'e']
  head : ∀ x, ∃ c rest, text x = c :: rest ∧ (c.isDigit ∨ c = '-')
  fraction : ∀ x, ∃ c ∈ text x, c = '.' ∨ c = 'e'

namespace Json

variable {Φ : Type}

def isNumberChar (c : Char) : Bool :=
  c.isDigit || c ∈ ['-', '+', '.', 'e']

def intText (n : ℤ) : List Char :=
  match n with
  | .ofNat n => Nat.toDigits 10 n
  | .negSucc n => '-' :: Nat.toDigits 10 (n + 1)

def hexDigit (n : ℕ) : Char :=
  if n < 10 then Char.ofNat (48 + n) else Char.ofNat (87 + n)

def escape (c : Char) : List Char :=
  match c with
  | '"' => ['\\', '"']
  | '\\' => ['\\', '\\']
  | '\n' => ['\\', 'n']
  | '\r' => ['\\', 'r']
  | '\t' => ['\\', 't']
  | '\x08' => ['\\', 'b']
  | '\x0c' => ['\\', 'f']
  | c =>
    if c.toNat < 32 then
      ['\\', 'u', '0', '0', hexDigit (c.toNat / 16), hexDigit (c.toNat % 16)]
    else [c]

def strText (s : String) : List Char :=
  '"' :: (s.toList.flatMap escape ++ ['"'])

section Writer

variable (floats : FloatText Φ)

mutual

def write : Json Φ → List Char
  | .null => ['n', 'u', 'l', 'l']
  | .bool true => ['t', 'r', 'u', 'e']
  | .bool false => ['f', 'a', 'l', 's', 'e']
  | .int n => intText n
  | .float x => floats.text x
  | .str s => strText s
  | .arr [] => ['[', ']']
  | .arr (v :: vs) => '[' :: (write v ++ writeItems vs)
  | .obj [] => ['{', '}']
  | .obj ((k, v) :: ms) => '{' :: (strText k ++ ':' :: (write v ++ writeMembers ms))

def writeItems : List (Json Φ) → List Char
  | [] => [']']
  | v :: vs => ',' :: (write v ++ writeItems vs)

def writeMembers : List (String × Json Φ) → List Char
  | [] => ['}']
  | (k, v) :: ms => ',' :: (strText k ++ ':' :: (write v ++ writeMembers ms))

end

end Writer

/-! ## A reader of the canonical spelling -/

def hexValue (c : Char) : ℕ :=
  if c.isDigit then c.toNat - 48 else c.toNat - 87

/-- One character of a string, or the quote that ends it. -/
def readChar : List Char → Option (Option Char × List Char)
  | '"' :: rest => some (none, rest)
  | '\\' :: '"' :: rest => some (some '"', rest)
  | '\\' :: '\\' :: rest => some (some '\\', rest)
  | '\\' :: 'n' :: rest => some (some '\n', rest)
  | '\\' :: 'r' :: rest => some (some '\r', rest)
  | '\\' :: 't' :: rest => some (some '\t', rest)
  | '\\' :: 'b' :: rest => some (some '\x08', rest)
  | '\\' :: 'f' :: rest => some (some '\x0c', rest)
  | '\\' :: 'u' :: '0' :: '0' :: a :: b :: rest =>
    some (some (Char.ofNat (16 * hexValue a + hexValue b)), rest)
  | '\\' :: _ => none
  | c :: rest => some (some c, rest)
  | [] => none

def readStr : ℕ → List Char → Option (List Char × List Char)
  | 0, _ => none
  | n + 1, text =>
    match readChar text with
    | none => none
    | some (none, rest) => some ([], rest)
    | some (some c, rest) => (readStr n rest).map fun p => (c :: p.1, p.2)

def readNat (text : List Char) : Option ℕ :=
  if text.all Char.isDigit && text ≠ [] then some (Nat.ofDigitChars 10 text 0)
  else none

def readInt : List Char → Option ℤ
  | '-' :: digits => (readNat digits).map fun n => -(n : ℤ)
  | digits => (readNat digits).map fun n => (n : ℤ)

section Reader

variable (floats : FloatText Φ)

def readNumber (text : List Char) : Option (Json Φ × List Char) :=
  let number := text.takeWhile isNumberChar
  let rest := text.dropWhile isNumberChar
  match readInt number with
  | some n => some (.int n, rest)
  | none => (floats.read number).map fun x => (.float x, rest)

mutual

def read : ℕ → List Char → Option (Json Φ × List Char)
  | 0, _ => none
  | _, [] => none
  | n + 1, c :: text =>
    if c.isDigit || c = '-' then readNumber floats (c :: text)
    else match c, text with
      | 'n', 'u' :: 'l' :: 'l' :: rest => some (.null, rest)
      | 't', 'r' :: 'u' :: 'e' :: rest => some (.bool true, rest)
      | 'f', 'a' :: 'l' :: 's' :: 'e' :: rest => some (.bool false, rest)
      | '"', rest => (readStr n rest).map fun p => (.str (String.ofList p.1), p.2)
      | '[', ']' :: rest => some (.arr [], rest)
      | '[', rest => do
        let (v, rest) ← read n rest
        let (vs, rest) ← readItems n rest
        return (.arr (v :: vs), rest)
      | '{', '}' :: rest => some (.obj [], rest)
      | '{', rest => do
        let (m, rest) ← readMember n rest
        let (ms, rest) ← readMembers n rest
        return (.obj (m :: ms), rest)
      | _, _ => none

def readItems : ℕ → List Char → Option (List (Json Φ) × List Char)
  | n + 1, ',' :: rest => do
    let (v, rest) ← read n rest
    let (vs, rest) ← readItems n rest
    return (v :: vs, rest)
  | _ + 1, ']' :: rest => some ([], rest)
  | _, _ => none

def readMember : ℕ → List Char → Option ((String × Json Φ) × List Char)
  | n + 1, '"' :: rest =>
    match readStr n rest with
    | some (k, ':' :: rest) => do
      let (v, rest) ← read n rest
      return ((String.ofList k, v), rest)
    | _ => none
  | _, _ => none

def readMembers : ℕ → List Char → Option (List (String × Json Φ) × List Char)
  | n + 1, ',' :: rest => do
    let (m, rest) ← readMember n rest
    let (ms, rest) ← readMembers n rest
    return (m :: ms, rest)
  | _ + 1, '}' :: rest => some ([], rest)
  | _, _ => none

end

end Reader

/-! ### What was written is read back -/

/-- A text that a number ends before. -/
def Stops (rest : List Char) : Prop :=
  ∀ c, rest.head? = some c → isNumberChar c = false

theorem hexValue_hexDigit {n : ℕ} (h : n < 16) : hexValue (hexDigit n) = n := by
  have : ∀ n < 16, hexValue (hexDigit n) = n := by decide
  exact this n h

theorem readChar_escape (c : Char) (rest : List Char) :
    readChar (escape c ++ rest) = some (some c, rest) := by
  unfold escape
  split
  · rfl
  · rfl
  · rfl
  · rfl
  · rfl
  · rfl
  · rfl
  · next hquote hback _ _ _ _ _ =>
      split
      · next hlow =>
          have hchar : Char.ofNat (16 * (c.toNat / 16) + c.toNat % 16) = c := by
            rw [Nat.div_add_mod]
            exact Char.ofNat_toNat c
          rw [List.cons_append, List.cons_append, List.cons_append, List.cons_append,
            List.cons_append, List.cons_append, List.nil_append, readChar,
            hexValue_hexDigit (by omega), hexValue_hexDigit (by omega), hchar]
      · rw [List.cons_append, List.nil_append, readChar.eq_def]
        split <;> simp_all

theorem readStr_escape (s rest : List Char) {n : ℕ} (h : s.length < n) :
    readStr n (s.flatMap escape ++ '"' :: rest) = some (s, rest) := by
  induction s generalizing n with
  | nil =>
    obtain ⟨n, rfl⟩ := Nat.exists_eq_succ_of_ne_zero (Nat.ne_of_gt h)
    rfl
  | cons c s ih =>
    obtain ⟨n, rfl⟩ : ∃ m, n = m + 1 := ⟨n - 1, by omega⟩
    rw [List.length_cons] at h
    rw [List.flatMap_cons, List.append_assoc, readStr, readChar_escape]
    simp only
    rw [ih (by omega)]
    rfl

theorem length_le_escape (s : List Char) : s.length ≤ (s.flatMap escape).length := by
  induction s with
  | nil => exact Nat.le_refl _
  | cons c s ih =>
    have hpos : 1 ≤ (escape c).length := by
      unfold escape
      split <;> first | (split <;> simp) | simp
    rw [List.length_cons, List.flatMap_cons, List.length_append]
    omega

theorem strText_append (s : String) (rest : List Char) :
    strText s ++ rest = '"' :: (s.toList.flatMap escape ++ '"' :: rest) := by
  simp [strText]

theorem readStr_strText {s : String} {rest : List Char} {n : ℕ}
    (h : (strText s).length ≤ n + 1) :
    readStr n (s.toList.flatMap escape ++ '"' :: rest) = some (s.toList, rest) := by
  refine readStr_escape s.toList rest ?_
  have := length_le_escape s.toList
  simp only [strText, List.length_cons, List.length_append, List.length_nil] at h
  omega

theorem all_isDigit_toDigits (n : ℕ) : (Nat.toDigits 10 n).all Char.isDigit = true := by
  rw [List.all_eq_true]
  intro c hc
  exact Nat.isDigit_of_mem_toDigits (by decide) (by decide) hc

theorem readNat_toDigits (n : ℕ) : readNat (Nat.toDigits 10 n) = some n := by
  rw [readNat, all_isDigit_toDigits, if_pos, Nat.ofDigitChars_ten_toDigits]
  simp [Nat.toDigits_ne_nil]

theorem readInt_intText (n : ℤ) : readInt (intText n) = some n := by
  cases n with
  | negSucc n =>
    rw [intText, readInt, readNat_toDigits]
    rfl
  | ofNat n =>
    rw [intText, readInt.eq_def]
    split
    · next digits h =>
        have hmem : '-' ∈ Nat.toDigits 10 n := h ▸ List.mem_cons_self
        exact absurd (Nat.isDigit_of_mem_toDigits (by decide) (by decide) hmem)
          (by decide)
    · rw [readNat_toDigits]
      rfl

theorem isNumberChar_of_mem_intText {n : ℤ} {c : Char} (h : c ∈ intText n) :
    isNumberChar c = true := by
  have hdigit : ∀ m, c ∈ Nat.toDigits 10 m → isNumberChar c = true := by
    intro m hm
    rw [isNumberChar, Nat.isDigit_of_mem_toDigits (by decide) (by decide) hm]
    rfl
  cases n with
  | ofNat n => exact hdigit n h
  | negSucc n =>
    rcases List.mem_cons.mp h with rfl | h
    · decide
    · exact hdigit (n + 1) h

theorem span_number {number rest : List Char}
    (h : ∀ c ∈ number, isNumberChar c = true) (hstop : Stops rest) :
    (number ++ rest).takeWhile isNumberChar = number ∧
      (number ++ rest).dropWhile isNumberChar = rest := by
  have hrest : rest.takeWhile isNumberChar = [] ∧ rest.dropWhile isNumberChar = rest := by
    cases rest with
    | nil => exact ⟨rfl, rfl⟩
    | cons c rest =>
      have hc : isNumberChar c = false := hstop c rfl
      simp [hc]
  rw [List.takeWhile_append_of_pos h, List.dropWhile_append_of_pos h, hrest.1, hrest.2]
  exact ⟨List.append_nil number, rfl⟩

section RoundTrip

variable (floats : FloatText Φ)

variable {rest : List Char}

theorem readNumber_intText (n : ℤ) (hstop : Stops rest) :
    readNumber floats (intText n ++ rest) = some (.int n, rest) := by
  obtain ⟨htake, hdrop⟩ :=
    @Json.span_number (intText n) _ (fun c hc => isNumberChar_of_mem_intText hc) hstop
  simp only [readNumber, htake, hdrop, readInt_intText]

theorem readInt_floatText (x : Φ) : readInt (floats.text x) = none := by
  obtain ⟨c, hc, hpoint⟩ := floats.fraction x
  have hnot : c.isDigit = false := by
    rcases hpoint with rfl | rfl <;> decide
  have hnat : ∀ text, c ∈ text → readNat text = none := by
    intro text hmem
    have : text.all Char.isDigit = false := by
      rw [List.all_eq_false]
      exact ⟨c, hmem, by simp [hnot]⟩
    rw [readNat, this]
    rfl
  rw [readInt.eq_def]
  split
  · next digits h =>
      rw [h] at hc
      have hmem : c ∈ digits := by
        rcases List.mem_cons.mp hc with rfl | hmem
        · rcases hpoint with h | h <;> cases h
        · exact hmem
      rw [hnat digits hmem]
      rfl
  · rw [hnat _ hc]
    rfl

theorem readNumber_floatText (x : Φ) (hstop : Stops rest) :
    readNumber floats (floats.text x ++ rest) = some (.float x, rest) := by
  have hchars : ∀ c ∈ floats.text x, isNumberChar c = true := by
    intro c hc
    rcases floats.chars x c hc with h | h
    · rw [isNumberChar, h]
      rfl
    · rw [isNumberChar, decide_eq_true h, Bool.or_true]
  obtain ⟨htake, hdrop⟩ := span_number hchars hstop
  simp only [readNumber, htake, hdrop, readInt_floatText, floats.read_text]
  rfl

theorem intText_head (n : ℤ) :
    ∃ c rest, intText n = c :: rest ∧ (c.isDigit = true ∨ c = '-') := by
  cases n with
  | negSucc n => exact ⟨'-', _, rfl, .inr rfl⟩
  | ofNat n =>
    obtain ⟨c, rest, h⟩ := List.exists_cons_of_ne_nil
      (Nat.toDigits_ne_nil : Nat.toDigits 10 n ≠ [])
    refine ⟨c, rest, h, .inl ?_⟩
    exact Nat.isDigit_of_mem_toDigits (by decide) (by decide)
      (h ▸ List.mem_cons_self : c ∈ Nat.toDigits 10 n)

theorem read_number {text rest : List Char} {v : Json Φ} {n : ℕ}
    (head : ∃ c t, text = c :: t ∧ (c.isDigit = true ∨ c = '-'))
    (h : readNumber floats (text ++ rest) = some (v, rest)) :
    read floats (n + 1) (text ++ rest) = some (v, rest) := by
  obtain ⟨c, t, rfl, hc⟩ := head
  have hc : (c.isDigit || decide (c = '-')) = true := by simpa using hc
  rw [List.cons_append, read.eq_def]
  simp only [if_pos hc]
  exact h

/-- No value starts with a closing bracket. -/
theorem write_head (v : Json Φ) : ∃ c rest, write floats v = c :: rest ∧ c ≠ ']' := by
  have hnumber : ∀ c : Char, c.isDigit = true ∨ c = '-' → c ≠ ']' := by
    rintro c h rfl
    rcases h with h | h <;> exact absurd h (by decide)
  cases v with
  | null | str s => exact ⟨_, _, rfl, by decide⟩
  | bool b => cases b <;> exact ⟨_, _, rfl, by decide⟩
  | int n =>
    obtain ⟨c, rest, h, hc⟩ := intText_head n
    exact ⟨c, rest, h, hnumber c hc⟩
  | float x =>
    obtain ⟨c, rest, h, hc⟩ := floats.head x
    exact ⟨c, rest, h, hnumber c hc⟩
  | arr items => cases items <;> exact ⟨_, _, rfl, by decide⟩
  | obj members => cases members <;> exact ⟨_, _, rfl, by decide⟩

theorem stops_nil : Stops [] := fun _ h => by cases h

theorem stops_bracket {c : Char}
    (h : c ∈ [',', ']', '}', ':', '"']) : Stops (c :: rest) := by
  rintro _ ⟨⟩
  simp only [List.mem_cons, List.not_mem_nil, or_false] at h
  rcases h with rfl | rfl | rfl | rfl | rfl <;> decide

theorem stops_writeItems (vs : List (Json Φ)) (rest : List Char) :
    Stops (writeItems floats vs ++ rest) := by
  cases vs with
  | nil | cons v vs => exact stops_bracket (by decide)

theorem stops_writeMembers (ms : List (String × Json Φ)) (rest : List Char) :
    Stops (writeMembers floats ms ++ rest) := by
  cases ms with
  | nil | cons m ms => exact stops_bracket (by decide)

theorem readMember_write {k : String} {v : Json Φ} {n : ℕ}
    (hv : ∀ n, (write floats v).length ≤ n →
      read floats n (write floats v ++ rest) = some (v, rest))
    (h : (strText k).length + (write floats v).length < n) :
    readMember floats n (strText k ++ ':' :: (write floats v ++ rest)) =
      some ((k, v), rest) := by
  obtain ⟨n, rfl⟩ : ∃ m, n = m + 1 := ⟨n - 1, by omega⟩
  rw [strText_append, readMember, readStr_strText (by omega)]
  simp only [hv n (by omega), String.ofList_toList]
  rfl

/-- A bracket that is not closed at once opens a first item. -/
theorem read_bracket {c : Char} {t : List Char} {n : ℕ} (hc : c ≠ ']') :
    read floats (n + 1) ('[' :: c :: t) = do
      let (v, rest) ← read floats n (c :: t)
      let (vs, rest) ← readItems floats n rest
      return (.arr (v :: vs), rest) := by
  rw [read.eq_def]
  simp only [if_neg (by decide : ¬('['.isDigit || decide ('[' = '-')) = true)]
  split <;> simp_all

mutual

/-- **The round trip**, on every value and under any text that does not go on with
the last number. -/
theorem read_write : ∀ (v : Json Φ) (n : ℕ) (rest : List Char),
    (write floats v).length ≤ n → Stops rest →
      read floats n (write floats v ++ rest) = some (v, rest)
  | .null, n, rest, h, _ => by
    obtain ⟨n, rfl⟩ : ∃ m, n = m + 1 := ⟨n - 1, by simp [write] at h; omega⟩
    rw [write]
    simp [read]
  | .bool b, n, rest, h, _ => by
    obtain ⟨n, rfl⟩ : ∃ m, n = m + 1 := ⟨n - 1, by cases b <;> simp [write] at h <;> omega⟩
    cases b <;> rw [write] <;> simp [read]
  | .int i, n, rest, h, hstop => by
    obtain ⟨c, t, htext, hc⟩ := intText_head i
    obtain ⟨n, rfl⟩ : ∃ m, n = m + 1 := ⟨n - 1, by simp [write, htext] at h; omega⟩
    rw [write]
    exact read_number floats ⟨c, t, htext, hc⟩ (readNumber_intText floats i hstop)
  | .float x, n, rest, h, hstop => by
    obtain ⟨c, t, htext, hc⟩ := floats.head x
    obtain ⟨n, rfl⟩ : ∃ m, n = m + 1 := ⟨n - 1, by simp [write, htext] at h; omega⟩
    rw [write]
    exact read_number floats ⟨c, t, htext, hc⟩ (readNumber_floatText floats x hstop)
  | .str s, n, rest, h, _ => by
    obtain ⟨n, rfl⟩ : ∃ m, n = m + 1 := ⟨n - 1, by simp [write, strText] at h; omega⟩
    rw [write] at h ⊢
    rw [strText_append, read, if_neg (by decide), readStr_strText h]
    simp
  | .arr [], n, rest, h, _ => by
    obtain ⟨n, rfl⟩ : ∃ m, n = m + 1 := ⟨n - 1, by simp [write] at h; omega⟩
    rw [write]
    simp [read]
  | .arr (v :: vs), n, rest, h, _ => by
    rw [write, List.length_cons, List.length_append] at h
    obtain ⟨n, rfl⟩ : ∃ m, n = m + 1 := ⟨n - 1, by omega⟩
    obtain ⟨c, t, htext, hc⟩ := write_head floats v
    have hv := read_write v n (writeItems floats vs ++ rest) (by omega)
      (stops_writeItems floats vs rest)
    have hvs := readItems_write vs n rest (by omega)
    rw [write, List.cons_append, List.append_assoc]
    rw [htext] at hv ⊢
    rw [List.cons_append] at hv ⊢
    rw [read_bracket floats hc, hv]
    simp [hvs]
  | .obj [], n, rest, h, _ => by
    obtain ⟨n, rfl⟩ : ∃ m, n = m + 1 := ⟨n - 1, by simp [write] at h; omega⟩
    rw [write]
    simp [read]
  | .obj ((k, v) :: ms), n, rest, h, _ => by
    rw [write, List.length_cons, List.length_append, List.length_cons,
      List.length_append] at h
    obtain ⟨n, rfl⟩ : ∃ m, n = m + 1 := ⟨n - 1, by omega⟩
    have hm := readMember_write floats (k := k) (n := n)
      (fun n hn => read_write v n (writeMembers floats ms ++ rest) hn
        (stops_writeMembers floats ms rest)) (by omega)
    have hms := readMembers_write ms n rest (by omega)
    rw [write, List.cons_append, List.append_assoc, List.cons_append,
      List.append_assoc, read.eq_def]
    rw [strText_append] at hm ⊢
    simp [hm, hms]

theorem readItems_write : ∀ (vs : List (Json Φ)) (n : ℕ) (rest : List Char),
    (writeItems floats vs).length ≤ n →
      readItems floats n (writeItems floats vs ++ rest) = some (vs, rest)
  | [], n, rest, h => by
    obtain ⟨n, rfl⟩ : ∃ m, n = m + 1 := ⟨n - 1, by simp [writeItems] at h; omega⟩
    rw [writeItems]
    simp [readItems]
  | v :: vs, n, rest, h => by
    rw [writeItems, List.length_cons, List.length_append] at h
    obtain ⟨n, rfl⟩ : ∃ m, n = m + 1 := ⟨n - 1, by omega⟩
    have hv := read_write v n (writeItems floats vs ++ rest) (by omega)
      (stops_writeItems floats vs rest)
    have hvs := readItems_write vs n rest (by omega)
    rw [writeItems, List.cons_append, List.append_assoc, readItems, hv]
    simp [hvs]

theorem readMembers_write : ∀ (ms : List (String × Json Φ)) (n : ℕ)
    (rest : List Char), (writeMembers floats ms).length ≤ n →
      readMembers floats n (writeMembers floats ms ++ rest) = some (ms, rest)
  | [], n, rest, h => by
    obtain ⟨n, rfl⟩ : ∃ m, n = m + 1 := ⟨n - 1, by simp [writeMembers] at h; omega⟩
    rw [writeMembers]
    simp [readMembers]
  | (k, v) :: ms, n, rest, h => by
    rw [writeMembers, List.length_cons, List.length_append, List.length_cons,
      List.length_append] at h
    obtain ⟨n, rfl⟩ : ∃ m, n = m + 1 := ⟨n - 1, by omega⟩
    have hm := readMember_write floats (k := k) (n := n)
      (fun n hn => read_write v n (writeMembers floats ms ++ rest) hn
        (stops_writeMembers floats ms rest)) (by omega)
    have hms := readMembers_write ms n rest (by omega)
    rw [writeMembers, List.cons_append, List.append_assoc, List.cons_append,
      List.append_assoc, readMembers, hm]
    simp [hms]

end

end RoundTrip

end Json

/-- The canonical spelling as a codec: a text is read to its end. -/
def FloatText.codec {Φ : Type} (floats : FloatText Φ) : JsonCodec Φ where
  dumps v := String.ofList (v.write floats)
  loads text :=
    match Json.read floats text.toList.length text.toList with
    | some (v, []) => some v
    | _ => none
  loads_dumps v _ := by
    have := Json.read_write floats v (v.write floats).length [] (Nat.le_refl _) Json.stops_nil
    rw [List.append_nil] at this
    simp only [String.toList_ofList, this]

/-- The spelling of documents that hold no fractions. -/
def noFloats : FloatText Empty where
  text := Empty.elim
  read := fun _ => none
  read_text := fun x => x.elim
  chars := fun x => x.elim
  head := fun x => x.elim
  fraction := fun x => x.elim

end Ecosystem.Lib
