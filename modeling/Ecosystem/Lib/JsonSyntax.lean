import Mathlib

/-!
# The syntax of JSON documents

A reader of arbitrary JSON texts, as Python's decoder reads them.  An object is the list
of its members as written, also of those that share a key, and a number is its text.  A
string is a list of code points and need not have an encoding (`utf8Size`).
-/

namespace Ecosystem.Lib

/-! ## Documents -/

/-- Code points, with the halves of surrogate pairs among them. -/
abbrev CodePoints := List ℕ

inductive JsonConstant
  | nan | infinity | negativeInfinity

inductive JsonTree
  | null
  | bool (b : Bool)
  | int (text : List Char)
  | float (text : List Char)
  | constant (name : JsonConstant)
  | str (s : CodePoints)
  | arr (items : List JsonTree)
  | obj (members : List (CodePoints × JsonTree))

def isHighSurrogate (n : ℕ) : Bool := 0xD800 ≤ n && n ≤ 0xDBFF

def isLowSurrogate (n : ℕ) : Bool := 0xDC00 ≤ n && n ≤ 0xDFFF

def isSurrogate (n : ℕ) : Bool := isHighSurrogate n || isLowSurrogate n

def codePointSize (n : ℕ) : ℕ :=
  if n < 0x80 then 1 else if n < 0x800 then 2 else if n < 0x10000 then 3 else 4

/-- `len(s.encode("utf-8"))`; a half of a surrogate pair has no encoding. -/
def utf8Size (s : CodePoints) : Option ℕ :=
  if s.any isSurrogate then none else some (s.map codePointSize).sum

namespace JsonTree

/-! ## Strings -/

def hexDigit? (c : Char) : Option ℕ :=
  if c.isDigit then some (c.toNat - 48)
  else if 'a' ≤ c && c ≤ 'f' then some (c.toNat - 87)
  else if 'A' ≤ c && c ≤ 'F' then some (c.toNat - 55)
  else none

def hexUnit (a b c d : Char) : Option ℕ := do
  let w ← hexDigit? a
  let x ← hexDigit? b
  let y ← hexDigit? c
  let z ← hexDigit? d
  return ((w * 16 + x) * 16 + y) * 16 + z

def simpleEscape : Char → Option ℕ
  | '"' => some 0x22
  | '\\' => some 0x5C
  | '/' => some 0x2F
  | 'b' => some 0x08
  | 'f' => some 0x0C
  | 'n' => some 0x0A
  | 'r' => some 0x0D
  | 't' => some 0x09
  | _ => none

/-- One unit of a string, or the quote that ends it. -/
def readUnit : List Char → Option (Option ℕ × List Char)
  | [] => none
  | c :: rest =>
    if c = '"' then some (none, rest)
    else if c = '\\' then
      match rest with
      | 'u' :: a :: b :: c :: d :: rest => (hexUnit a b c d).map fun n => (some n, rest)
      | e :: rest => (simpleEscape e).map fun n => (some n, rest)
      | [] => none
    else if c.toNat < 32 then none
    else some (some c.toNat, rest)

/-- The units of a string, behind its first quote. -/
def readUnits : ℕ → List Char → Option (List ℕ × List Char)
  | 0, _ => none
  | n + 1, text =>
    match readUnit text with
    | none => none
    | some (none, rest) => some ([], rest)
    | some (some unit, rest) => (readUnits n rest).map fun p => (unit :: p.1, p.2)

/-- The halves of surrogate pairs that stand side by side are one code point. -/
def joinSurrogates : List ℕ → CodePoints
  | [] => []
  | [unit] => [unit]
  | high :: low :: rest =>
    if isHighSurrogate high && isLowSurrogate low then
      (0x10000 + (high - 0xD800) * 0x400 + (low - 0xDC00)) :: joinSurrogates rest
    else high :: joinSurrogates (low :: rest)

def readString (text : List Char) : Option (CodePoints × List Char) :=
  (readUnits (text.length + 1) text).map fun p => (joinSurrogates p.1, p.2)

/-! ## Numbers -/

def readDigits (text : List Char) : List Char × List Char :=
  (text.takeWhile Char.isDigit, text.dropWhile Char.isDigit)

def readInteger (text : List Char) : Option (List Char × List Char) :=
  let (sign, body) := match text with
    | '-' :: rest => (['-'], rest)
    | _ => ([], text)
  match body with
  | [] => none
  | c :: rest =>
    if c = '0' then some (sign ++ ['0'], rest)
    else if c.isDigit then
      let (digits, rest) := readDigits body
      some (sign ++ digits, rest)
    else none

/-- A fraction, unless no digit stands behind the point. -/
def readFraction : List Char → List Char × List Char
  | '.' :: text =>
    let (digits, rest) := readDigits text
    if digits = [] then ([], '.' :: text) else ('.' :: digits, rest)
  | text => ([], text)

/-- An exponent, unless it has no digit. -/
def readExponent : List Char → List Char × List Char
  | [] => ([], [])
  | e :: text =>
    if e = 'e' || e = 'E' then
      let (sign, body) := match text with
        | '+' :: rest => (['+'], rest)
        | '-' :: rest => (['-'], rest)
        | _ => ([], text)
      let (digits, rest) := readDigits body
      if digits = [] then ([], e :: text) else (e :: (sign ++ digits), rest)
    else ([], e :: text)

def readNumber (text : List Char) : Option (JsonTree × List Char) := do
  let (integer, rest) ← readInteger text
  let (fraction, rest) := readFraction rest
  let (exponent, rest) := readExponent rest
  if fraction = [] ∧ exponent = [] then return (.int integer, rest)
  else return (.float (integer ++ fraction ++ exponent), rest)

/-! ## Values -/

def isJsonBlank (c : Char) : Bool := c = ' ' || c = '\t' || c = '\n' || c = '\r'

def skipBlanks (text : List Char) : List Char := text.dropWhile isJsonBlank

def readScalar (text : List Char) : Option (JsonTree × List Char) :=
  match text with
  | 'n' :: 'u' :: 'l' :: 'l' :: rest => some (.null, rest)
  | 't' :: 'r' :: 'u' :: 'e' :: rest => some (.bool true, rest)
  | 'f' :: 'a' :: 'l' :: 's' :: 'e' :: rest => some (.bool false, rest)
  | 'N' :: 'a' :: 'N' :: rest => some (.constant .nan, rest)
  | 'I' :: 'n' :: 'f' :: 'i' :: 'n' :: 'i' :: 't' :: 'y' :: rest =>
    some (.constant .infinity, rest)
  | '-' :: 'I' :: 'n' :: 'f' :: 'i' :: 'n' :: 'i' :: 't' :: 'y' :: rest =>
    some (.constant .negativeInfinity, rest)
  | text => readNumber text

mutual

def readValue : ℕ → List Char → Option (JsonTree × List Char)
  | 0, _ => none
  | _, [] => none
  | n + 1, c :: text =>
    if c = '"' then (readString text).map fun p => (.str p.1, p.2)
    else if c = '[' then
      match skipBlanks text with
      | ']' :: rest => some (.arr [], rest)
      | rest => (readItems n rest).map fun p => (.arr p.1, p.2)
    else if c = '{' then
      match skipBlanks text with
      | '}' :: rest => some (.obj [], rest)
      | rest => (readMembers n rest).map fun p => (.obj p.1, p.2)
    else readScalar (c :: text)

def readItems : ℕ → List Char → Option (List JsonTree × List Char)
  | 0, _ => none
  | n + 1, text =>
    match readValue n text with
    | none => none
    | some (value, rest) =>
      match skipBlanks rest with
      | ',' :: rest => (readItems n (skipBlanks rest)).map fun p => (value :: p.1, p.2)
      | ']' :: rest => some ([value], rest)
      | _ => none

/-- The members of an object from the quote of a key on, and its brace. -/
def readMembers : ℕ → List Char → Option (List (CodePoints × JsonTree) × List Char)
  | 0, _ => none
  | n + 1, text =>
    match text with
    | '"' :: rest =>
      match readString rest with
      | none => none
      | some (key, rest) =>
        match skipBlanks rest with
        | ':' :: rest =>
          match readValue n (skipBlanks rest) with
          | none => none
          | some (value, rest) =>
            match skipBlanks rest with
            | ',' :: rest =>
              (readMembers n (skipBlanks rest)).map fun p =>
                ((key, value) :: p.1, p.2)
            | '}' :: rest => some ([(key, value)], rest)
            | _ => none
        | _ => none
    | _ => none

end

/-- The document that a text is, with white space around it.  Two calls of the reader
never go without a character between them. -/
def ofText (text : List Char) : Option JsonTree :=
  match readValue (2 * text.length + 2) (skipBlanks text) with
  | some (tree, rest) => if skipBlanks rest = [] then some tree else none
  | none => none

/-! ## What a document holds -/

mutual

/-- Some value in the document satisfies `p`. -/
def any (p : JsonTree → Bool) : JsonTree → Bool
  | .arr items => p (.arr items) || anyItem p items
  | .obj members => p (.obj members) || anyMember p members
  | tree => p tree

def anyItem (p : JsonTree → Bool) : List JsonTree → Bool
  | [] => false
  | item :: items => item.any p || anyItem p items

def anyMember (p : JsonTree → Bool) : List (CodePoints × JsonTree) → Bool
  | [] => false
  | (_, value) :: members => value.any p || anyMember p members

end

mutual

/-- How deep arrays and objects are nested: one for a value that is neither. -/
def depth : JsonTree → ℕ
  | .arr items => 1 + itemsDepth items
  | .obj members => 1 + membersDepth members
  | _ => 1

def itemsDepth : List JsonTree → ℕ
  | [] => 0
  | item :: items => max item.depth (itemsDepth items)

def membersDepth : List (CodePoints × JsonTree) → ℕ
  | [] => 0
  | (_, value) :: members => max value.depth (membersDepth members)

end

mutual

/-- How many arrays and objects the decoder is in at once. -/
def nesting : JsonTree → ℕ
  | .arr items => 1 + itemsNesting items
  | .obj members => 1 + membersNesting members
  | _ => 0

def itemsNesting : List JsonTree → ℕ
  | [] => 0
  | item :: items => max item.nesting (itemsNesting items)

def membersNesting : List (CodePoints × JsonTree) → ℕ
  | [] => 0
  | (_, value) :: members => max value.nesting (membersNesting members)

end

mutual

/-- The members of the objects and the elements of the arrays of a document. -/
def itemCount : JsonTree → ℕ
  | .arr items => items.length + itemsCount items
  | .obj members => members.length + membersCount members
  | _ => 0

def itemsCount : List JsonTree → ℕ
  | [] => 0
  | item :: items => item.itemCount + itemsCount items

def membersCount : List (CodePoints × JsonTree) → ℕ
  | [] => 0
  | (_, value) :: members => value.itemCount + membersCount members

end

/-- The strings that a value has itself: the keys of an object, or the string. -/
def texts : JsonTree → List CodePoints
  | .obj members => members.map Prod.fst
  | .str s => [s]
  | _ => []

/-- An object with two members of one key. -/
def duplicates : JsonTree → Bool
  | .obj members => !decide (members.map Prod.fst).Nodup
  | _ => false

def isConstant : JsonTree → Bool
  | .constant _ => true
  | _ => false

/-- An integer of more digits than Python converts. -/
def isLongInt : JsonTree → Bool
  | .int text => decide (4300 < (text.filter Char.isDigit).length)
  | _ => false

end JsonTree

end Ecosystem.Lib
