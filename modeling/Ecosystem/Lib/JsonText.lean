import Ecosystem.Lib.Json
import Ecosystem.Lib.Text

/-!
# Indented JSON

`pretty` writes a value as `json.dumps` does with an indentation of two.  `compact`
takes the space between the tokens out; of an indented text it makes the canonical one.
-/

namespace Ecosystem.Lib.Json

variable {Φ : Type}

/-! ## The indented text -/

def newline (depth : ℕ) : List Char := '\n' :: List.replicate (2 * depth) ' '

section Writer

variable (floats : FloatText Φ)

mutual

def pretty (depth : ℕ) : Json Φ → List Char
  | .null => ['n', 'u', 'l', 'l']
  | .bool true => ['t', 'r', 'u', 'e']
  | .bool false => ['f', 'a', 'l', 's', 'e']
  | .int n => intText n
  | .float x => floats.text x
  | .str s => strText s
  | .arr [] => ['[', ']']
  | .arr (v :: vs) =>
    '[' :: (newline (depth + 1) ++ pretty (depth + 1) v ++ prettyItems depth vs)
  | .obj [] => ['{', '}']
  | .obj ((k, v) :: ms) =>
    '{' :: (newline (depth + 1) ++ strText k ++ [':', ' '] ++ pretty (depth + 1) v ++
      prettyMembers depth ms)

def prettyItems (depth : ℕ) : List (Json Φ) → List Char
  | [] => newline depth ++ [']']
  | v :: vs => ',' :: (newline (depth + 1) ++ pretty (depth + 1) v ++ prettyItems depth vs)

def prettyMembers (depth : ℕ) : List (String × Json Φ) → List Char
  | [] => newline depth ++ ['\x7d']
  | (k, v) :: ms =>
    ',' :: (newline (depth + 1) ++ strText k ++ [':', ' '] ++ pretty (depth + 1) v ++
      prettyMembers depth ms)

end

end Writer

/-! ## Space between tokens -/

def isJsonSpace (c : Char) : Bool := c ∈ [' ', '\n', '\r', '\t']

/-- A text without the space that stands outside its strings. -/
def compact (inside : Bool) : List Char → List Char
  | [] => []
  | '\\' :: c :: rest =>
    if inside then '\\' :: c :: compact true rest
    else '\\' :: compact false (c :: rest)
  | c :: rest =>
    if c = '"' then '"' :: compact (!inside) rest
    else if !inside && isJsonSpace c then compact inside rest
    else c :: compact inside rest

/-- A character that stands for itself outside of a string. -/
def Plain (c : Char) : Prop := c ≠ '"' ∧ c ≠ '\\' ∧ isJsonSpace c = false

theorem compact_plain {c : Char} (h : Plain c) (rest : List Char) :
    compact false (c :: rest) = c :: compact false rest := by
  obtain ⟨hquote, hback, hspace⟩ := h
  rw [compact.eq_def]
  split
  · next heq => cases heq
  · next heq =>
      cases heq
      exact absurd rfl hback
  · next heq =>
      cases heq
      simp [hquote, hspace]

theorem compact_append_plain {text : List Char} (h : ∀ c ∈ text, Plain c)
    (rest : List Char) : compact false (text ++ rest) = text ++ compact false rest := by
  induction text with
  | nil => rfl
  | cons c text ih =>
    rw [List.forall_mem_cons] at h
    rw [List.cons_append, compact_plain h.1, ih h.2, List.cons_append]

theorem compact_space {c : Char} (h : isJsonSpace c = true) (rest : List Char) :
    compact false (c :: rest) = compact false rest := by
  have hquote : c ≠ '"' := by
    rintro rfl
    exact absurd h (by decide)
  rw [compact.eq_def]
  split
  · next heq => cases heq
  · next heq =>
      cases heq
      exact absurd h (by decide)
  · next heq =>
      cases heq
      simp [hquote, h]

theorem compact_newline (depth : ℕ) (rest : List Char) :
    compact false (newline depth ++ rest) = compact false rest := by
  have hblanks (n : ℕ) : compact false (List.replicate n ' ' ++ rest) = compact false rest := by
    induction n with
    | zero => rfl
    | succ n ih =>
      rw [List.replicate_succ, List.cons_append, compact_space (by decide)]
      exact ih
  rw [newline, List.cons_append, compact_space (by decide), hblanks]

theorem compact_escape (c : Char) (rest : List Char) :
    compact true (escape c ++ rest) = escape c ++ compact true rest := by
  have hpair (d : Char) (rest : List Char) :
      compact true ('\\' :: d :: rest) = '\\' :: d :: compact true rest := by
    rw [compact.eq_def]
    rfl
  have hsingle (d : Char) (hquote : d ≠ '"') (hback : d ≠ '\\') (rest : List Char) :
      compact true (d :: rest) = d :: compact true rest := by
    rw [compact.eq_def]
    split
    · next heq => cases heq
    · next heq =>
        cases heq
        exact absurd rfl hback
    · next heq =>
        cases heq
        simp [hquote]
  have hhex (n : ℕ) (h : n < 16) : hexDigit n ≠ '"' ∧ hexDigit n ≠ '\\' := by
    have hall : ∀ n < 16, hexDigit n ≠ '"' ∧ hexDigit n ≠ '\\' := by decide
    exact hall n h
  unfold escape
  split
  · exact hpair ..
  · exact hpair ..
  · exact hpair ..
  · exact hpair ..
  · exact hpair ..
  · exact hpair ..
  · exact hpair ..
  · next hquote hback _ _ _ _ _ =>
      split
      · next hlow =>
          have h₁ := hhex (c.toNat / 16) (by omega)
          have h₂ := hhex (c.toNat % 16) (by omega)
          simp only [List.cons_append, List.nil_append]
          rw [hpair, hsingle '0' (by decide) (by decide), hsingle '0' (by decide) (by decide),
            hsingle _ h₁.1 h₁.2, hsingle _ h₂.1 h₂.2]
      · exact hsingle c (fun h => hquote h) (fun h => hback h) rest

theorem compact_strText (s : String) (rest : List Char) :
    compact false (strText s ++ rest) = strText s ++ compact false rest := by
  have hquote (inside : Bool) (rest : List Char) :
      compact inside ('"' :: rest) = '"' :: compact (!inside) rest := by
    rw [compact.eq_def]
    rfl
  have hchars (cs : List Char) : compact true (cs.flatMap escape ++ '"' :: rest) =
      cs.flatMap escape ++ '"' :: compact false rest := by
    induction cs with
    | nil => exact hquote true rest
    | cons c cs ih =>
      rw [List.flatMap_cons, List.append_assoc, compact_escape, ih, List.append_assoc]
  rw [strText_append, strText_append, hquote, ← hchars]
  rfl

theorem plain_of_isNumberChar {c : Char} (h : isNumberChar c = true) : Plain c := by
  refine ⟨?_, ?_, ?_⟩
  · rintro rfl
    exact absurd h (by decide)
  · rintro rfl
    exact absurd h (by decide)
  · simp only [isJsonSpace, List.mem_cons, List.not_mem_nil, or_false, decide_eq_false_iff_not]
    rintro (rfl | rfl | rfl | rfl) <;> exact absurd h (by decide)

instance (c : Char) : Decidable (Plain c) :=
  inferInstanceAs (Decidable (c ≠ '"' ∧ c ≠ '\\' ∧ isJsonSpace c = false))

section

variable (floats : FloatText Φ)

mutual

/-- **The indentation is all that `compact` takes out.** -/
theorem compact_pretty : ∀ (v : Json Φ) (depth : ℕ) (rest : List Char),
    compact false (pretty floats depth v ++ rest) = write floats v ++ compact false rest
  | .null, _, rest => by
    rw [pretty, write]
    exact compact_append_plain (forall_mem_of_all (by decide)) rest
  | .bool true, _, rest => by
    rw [pretty, write]
    exact compact_append_plain (forall_mem_of_all (by decide)) rest
  | .bool false, _, rest => by
    rw [pretty, write]
    exact compact_append_plain (forall_mem_of_all (by decide)) rest
  | .int n, _, rest =>
    compact_append_plain
      (fun _ hc => plain_of_isNumberChar (isNumberChar_of_mem_intText hc)) rest
  | .float x, _, rest => by
    refine compact_append_plain (fun c hc => plain_of_isNumberChar ?_) rest
    rcases floats.chars x c hc with h | h
    · rw [isNumberChar, h]
      rfl
    · rw [isNumberChar, decide_eq_true h, Bool.or_true]
  | .str s, _, rest => compact_strText s rest
  | .arr [], _, rest => by
    rw [pretty, write]
    exact compact_append_plain (forall_mem_of_all (by decide)) rest
  | .arr (v :: vs), depth, rest => by
    rw [pretty, write, List.cons_append, compact_plain (by decide), List.append_assoc,
      List.append_assoc, compact_newline, compact_pretty v, compact_prettyItems vs]
    simp only [List.cons_append, List.append_assoc]
  | .obj [], _, rest => by
    rw [pretty, write]
    exact compact_append_plain (forall_mem_of_all (by decide)) rest
  | .obj ((k, v) :: ms), depth, rest => by
    rw [pretty, write, List.cons_append, compact_plain (by decide)]
    simp only [List.append_assoc, List.cons_append, List.nil_append]
    rw [compact_newline, compact_strText, compact_plain (by decide),
      compact_space (by decide), compact_pretty v, compact_prettyMembers ms]

theorem compact_prettyItems : ∀ (vs : List (Json Φ)) (depth : ℕ) (rest : List Char),
    compact false (prettyItems floats depth vs ++ rest) =
      writeItems floats vs ++ compact false rest
  | [], depth, rest => by
    rw [prettyItems, writeItems, List.append_assoc, compact_newline]
    exact compact_append_plain (forall_mem_of_all (by decide)) rest
  | v :: vs, depth, rest => by
    rw [prettyItems, writeItems, List.cons_append, compact_plain (by decide),
      List.append_assoc, List.append_assoc, compact_newline, compact_pretty v,
      compact_prettyItems vs]
    simp only [List.cons_append, List.append_assoc]

theorem compact_prettyMembers : ∀ (ms : List (String × Json Φ)) (depth : ℕ)
    (rest : List Char), compact false (prettyMembers floats depth ms ++ rest) =
      writeMembers floats ms ++ compact false rest
  | [], depth, rest => by
    rw [prettyMembers, writeMembers, List.append_assoc, compact_newline]
    exact compact_append_plain (forall_mem_of_all (by decide)) rest
  | (k, v) :: ms, depth, rest => by
    rw [prettyMembers, writeMembers, List.cons_append, compact_plain (by decide)]
    simp only [List.append_assoc, List.cons_append, List.nil_append]
    rw [compact_newline, compact_strText, compact_plain (by decide),
      compact_space (by decide), compact_pretty v, compact_prettyMembers ms]

end

/-! ## The reader -/

/-- A text is read once the space between its tokens is gone. -/
def readText (text : List Char) : Option (Json Φ) :=
  let text := compact false text
  match read floats text.length text with
  | some (v, []) => some v
  | _ => none

theorem readText_pretty (v : Json Φ) : readText floats (pretty floats 0 v ++ ['\n']) = some v := by
  have hend : compact false ['\n'] = [] := by decide
  have hread := read_write floats v (write floats v).length [] (Nat.le_refl _) stops_nil
  rw [List.append_nil] at hread
  simp only [readText, compact_pretty, hend, List.append_nil, hread]

end

end Ecosystem.Lib.Json
