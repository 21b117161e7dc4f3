import Ecosystem.Lib.JsonSyntax
import Ecosystem.Lib.Text

/-!
# JSON texts are balanced

What a reader of JSON takes off a text is balanced: outside of its strings every bracket
is closed by one of its kind, and every string is closed.
-/

namespace Ecosystem.Lib

/-- The characters that open or close an array, an object or a string. -/
def jsonMarks : List Char := ['"', '[', ']', '{', '}']

/-- A string behind its first quote, up to the quote that ends it. -/
inductive Quoted : Text → Prop
  | close : Quoted ['"']
  | char {c : Char} {text : Text} (hquote : c ≠ '"') (hescape : c ≠ '\\')
      (h : Quoted text) : Quoted (c :: text)
  | escape {c : Char} {text : Text} (h : Quoted text) : Quoted ('\\' :: c :: text)

/-- An opening bracket and the one that closes it. -/
def IsPair (a b : Char) : Prop := (a = '[' ∧ b = ']') ∨ (a = '{' ∧ b = '}')

inductive Balanced : Text → Prop
  | nil : Balanced []
  | char {c : Char} {text : Text} (hc : c ∉ jsonMarks) (h : Balanced text) :
      Balanced (c :: text)
  | string {body text : Text} (hbody : Quoted body) (h : Balanced text) :
      Balanced ('"' :: (body ++ text))
  | nested {a b : Char} {body text : Text} (hpair : IsPair a b) (hbody : Balanced body)
      (h : Balanced text) : Balanced (a :: (body ++ b :: text))

theorem Balanced.append {a b : Text} (ha : Balanced a) (hb : Balanced b) :
    Balanced (a ++ b) := by
  induction ha with
  | nil => exact hb
  | char hc _ ih => exact .char hc ih
  | string hbody _ ih =>
    rw [List.cons_append, List.append_assoc]
    exact .string hbody ih
  | nested hpair hbody _ _ ih =>
    rw [List.cons_append, List.append_assoc, List.cons_append]
    exact .nested hpair hbody ih

/-! ## Taking a balanced text off -/

def TakesOff (text rest : Text) : Prop := ∃ front, text = front ++ rest ∧ Balanced front

namespace TakesOff

variable {text middle rest : Text} {c a b : Char}

theorem refl (text : Text) : TakesOff text text := ⟨[], rfl, .nil⟩

theorem trans (h : TakesOff text middle) (h' : TakesOff middle rest) : TakesOff text rest := by
  obtain ⟨front, rfl, hfront⟩ := h
  obtain ⟨more, rfl, hmore⟩ := h'
  exact ⟨front ++ more, (List.append_assoc _ _ _).symm, hfront.append hmore⟩

theorem char (hc : c ∉ jsonMarks) (h : TakesOff text rest) : TakesOff (c :: text) rest := by
  obtain ⟨front, rfl, hfront⟩ := h
  exact ⟨c :: front, rfl, .char hc hfront⟩

theorem string (h : ∃ body, text = body ++ rest ∧ Quoted body) :
    TakesOff ('"' :: text) rest := by
  obtain ⟨body, rfl, hbody⟩ := h
  exact ⟨'"' :: (body ++ []), by simp, .string hbody .nil⟩

theorem nested (hpair : IsPair a b) (h : TakesOff text (b :: rest)) :
    TakesOff (a :: text) rest := by
  obtain ⟨body, rfl, hbody⟩ := h
  exact ⟨a :: (body ++ [b]), by simp, .nested hpair hbody .nil⟩

theorem dropWhile {p : Char → Bool} (hp : ∀ c, p c = true → c ∉ jsonMarks) (text : Text) :
    TakesOff text (text.dropWhile p) := by
  induction text with
  | nil => exact refl []
  | cons c text ih =>
    by_cases h : p c = true
    · rw [List.dropWhile_cons_of_pos h]
      exact char (hp c h) ih
    · rw [List.dropWhile_cons_of_neg h]
      exact refl _

end TakesOff

namespace JsonTree

variable {text rest : List Char} {tree : JsonTree}

theorem not_mark {p : Char → Bool} (h : jsonMarks.all fun c => !p c) (c : Char)
    (hp : p c = true) : c ∉ jsonMarks := by
  intro hc
  have hnot := List.all_eq_true.mp h c hc
  rw [hp] at hnot
  cases hnot

theorem takesOff_readDigits (text : List Char) : TakesOff text (readDigits text).2 :=
  .dropWhile (not_mark (by decide)) text

theorem takesOff_skipBlanks (text : List Char) : TakesOff text (skipBlanks text) :=
  .dropWhile (not_mark (by decide)) text

/-! ## Strings -/

theorem hexDigit?_plain {c : Char} {n : ℕ} (h : hexDigit? c = some n) :
    c ≠ '"' ∧ c ≠ '\\' := by
  have hnot (d : Char) (hd : hexDigit? d = none) : c ≠ d := by
    rintro rfl
    rw [hd] at h
    cases h
  exact ⟨hnot '"' (by decide), hnot '\\' (by decide)⟩

/-- What a unit is spelled with can stand in front of what is left of a string. -/
theorem quoted_of_readUnit {unit : ℕ} (h : readUnit text = some (some unit, rest)) :
    ∃ front, text = front ++ rest ∧ ∀ body, Quoted body → Quoted (front ++ body) := by
  unfold readUnit at h
  split at h
  · cases h
  next c text =>
  split_ifs at h with hquote hescape hcontrol
  · cases h
  · subst hescape
    split at h
    · next a b c d rest' =>
      obtain ⟨n, hunit, hpair⟩ := Option.map_eq_some_iff.mp h
      cases hpair
      simp only [hexUnit, Option.bind_eq_bind, Option.bind_eq_some_iff] at hunit
      obtain ⟨_, ha, _, hb, _, hc, _, hd, _⟩ := hunit
      have hex {c : Char} {n : ℕ} {body : Text} (h : hexDigit? c = some n)
          (hbody : Quoted body) : Quoted (c :: body) :=
        .char (hexDigit?_plain h).1 (hexDigit?_plain h).2 hbody
      exact ⟨['\\', 'u', a, b, c, d], rfl, fun body hbody =>
        .escape (hex ha (hex hb (hex hc (hex hd hbody))))⟩
    · next e rest' _ =>
      obtain ⟨n, -, hpair⟩ := Option.map_eq_some_iff.mp h
      cases hpair
      exact ⟨['\\', e], rfl, fun body hbody => .escape hbody⟩
    · cases h
  · cases h
    exact ⟨[c], rfl, fun body hbody => .char hquote hescape hbody⟩

theorem eq_of_readUnit_none (h : readUnit text = some (none, rest)) : text = '"' :: rest := by
  unfold readUnit at h
  split at h
  · cases h
  next c text =>
  split_ifs at h with hquote hescape hcontrol
  · cases h
    rw [hquote]
  · split at h <;> simp at h
  · cases h

theorem quoted_of_readUnits {n : ℕ} {units : List ℕ}
    (h : readUnits n text = some (units, rest)) :
    ∃ front, text = front ++ rest ∧ Quoted front := by
  induction n generalizing text units with
  | zero => cases h
  | succ n ih =>
    unfold readUnits at h
    split at h
    · cases h
    · next rest' hunit =>
      cases h
      exact ⟨['"'], eq_of_readUnit_none hunit, .close⟩
    · next unit rest' hunit =>
      obtain ⟨p, hp, hpair⟩ := Option.map_eq_some_iff.mp h
      cases hpair
      obtain ⟨front, rfl, hfront⟩ := quoted_of_readUnit hunit
      obtain ⟨more, rfl, hmore⟩ := ih hp
      exact ⟨front ++ more, (List.append_assoc _ _ _).symm, hfront more hmore⟩

theorem takesOff_readString {s : CodePoints} (h : readString text = some (s, rest)) :
    TakesOff ('"' :: text) rest := by
  obtain ⟨p, hp, hpair⟩ := Option.map_eq_some_iff.mp h
  cases hpair
  exact .string (quoted_of_readUnits hp)

/-! ## Numbers and words -/

theorem takesOff_readInteger {p : List Char × List Char} (h : readInteger text = some p) :
    TakesOff text p.2 := by
  unfold readInteger at h
  split at h
  next sign body heq =>
  have hsign : TakesOff text body := by
    split at heq <;> cases heq
    · exact .char (by decide) (.refl _)
    · exact .refl _
  refine hsign.trans ?_
  split at h
  · cases h
  next c rest =>
  split_ifs at h with hzero hdigit
  · cases h
    subst hzero
    exact .char (by decide) (.refl rest)
  · cases h
    exact takesOff_readDigits _

theorem takesOff_readFraction (text : List Char) : TakesOff text (readFraction text).2 := by
  unfold readFraction
  split
  · next text =>
    dsimp only
    split_ifs
    · exact .refl _
    · exact .char (by decide) (takesOff_readDigits text)
  · exact .refl _

theorem takesOff_readExponent (text : List Char) : TakesOff text (readExponent text).2 := by
  unfold readExponent
  split
  · exact .refl _
  next e text =>
  split_ifs with he
  · split
    next sign body heq =>
    have hsign : TakesOff text body := by
      split at heq <;> cases heq
      · exact .char (by decide) (.refl _)
      · exact .char (by decide) (.refl _)
      · exact .refl _
    dsimp only
    split_ifs
    · exact .refl _
    · refine .char ?_ (hsign.trans (takesOff_readDigits body))
      exact not_mark (p := fun c => c = 'e' || c = 'E') (by decide) e he
  · exact .refl _

theorem takesOff_readNumber (h : readNumber text = some (tree, rest)) : TakesOff text rest := by
  obtain ⟨p, hp, h⟩ := Option.bind_eq_some_iff.mp h
  have hrest : rest = (readExponent (readFraction p.2).2).2 := by
    dsimp only at h
    split_ifs at h <;> cases h <;> rfl
  rw [hrest]
  exact (takesOff_readInteger hp).trans
    ((takesOff_readFraction _).trans (takesOff_readExponent _))

theorem takesOff_readScalar (h : readScalar text = some (tree, rest)) : TakesOff text rest := by
  have word (front : List Char) (hfront : ∀ c ∈ front, c ∉ jsonMarks) :
      TakesOff (front ++ rest) rest := by
    induction front with
    | nil => exact .refl rest
    | cons c front ih =>
      exact .char (hfront c List.mem_cons_self)
        (ih fun d hd => hfront d (List.mem_cons_of_mem c hd))
  unfold readScalar at h
  split at h
  · cases h
    exact word ['n', 'u', 'l', 'l'] (by simp [jsonMarks])
  · cases h
    exact word ['t', 'r', 'u', 'e'] (by simp [jsonMarks])
  · cases h
    exact word ['f', 'a', 'l', 's', 'e'] (by simp [jsonMarks])
  · cases h
    exact word ['N', 'a', 'N'] (by simp [jsonMarks])
  · cases h
    exact word ['I', 'n', 'f', 'i', 'n', 'i', 't', 'y'] (by simp [jsonMarks])
  · cases h
    exact word ['-', 'I', 'n', 'f', 'i', 'n', 'i', 't', 'y'] (by simp [jsonMarks])
  · exact takesOff_readNumber h

/-! ## Values -/

/-- What the three readers take off a text with the fuel `n`. -/
structure Takes (n : ℕ) : Prop where
  value : ∀ {text rest tree}, readValue n text = some (tree, rest) → TakesOff text rest
  items : ∀ {text rest trees}, readItems n text = some (trees, rest) →
    TakesOff text (']' :: rest)
  members : ∀ {text rest members}, readMembers n text = some (members, rest) →
    TakesOff text ('}' :: rest)

section Values

variable {n : ℕ} (ih : Takes n) {c : Char}

/-- A character that is found behind blanks. -/
theorem takesOff_of_skipBlanks (h : skipBlanks text = c :: rest) : TakesOff text (c :: rest) := by
  rw [← h]
  exact takesOff_skipBlanks text

include ih

theorem takes_brackets (hc : c = '[' ∨ c = '{')
    (h : readValue (n + 1) (c :: text) = some (tree, rest)) :
    TakesOff text ((if c = '[' then ']' else '}') :: rest) := by
  unfold readValue at h
  rcases hc with rfl | rfl
  · rw [if_neg (by decide), if_pos rfl] at h
    split at h
    · next hblanks =>
      cases h
      exact takesOff_of_skipBlanks hblanks
    · obtain ⟨p, hp, hpair⟩ := Option.map_eq_some_iff.mp h
      cases hpair
      exact (takesOff_skipBlanks text).trans (ih.items hp)
  · rw [if_neg (by decide), if_neg (by decide), if_pos rfl] at h
    split at h
    · next hblanks =>
      cases h
      exact takesOff_of_skipBlanks hblanks
    · obtain ⟨p, hp, hpair⟩ := Option.map_eq_some_iff.mp h
      cases hpair
      exact (takesOff_skipBlanks text).trans (ih.members hp)

theorem takes_value (h : readValue (n + 1) text = some (tree, rest)) : TakesOff text rest := by
  cases text with
  | nil => cases h
  | cons c text =>
    by_cases hc : c = '[' ∨ c = '{'
    · refine .nested ?_ (takes_brackets ih hc h)
      rcases hc with rfl | rfl
      · exact .inl ⟨rfl, rfl⟩
      · exact .inr ⟨rfl, rfl⟩
    · unfold readValue at h
      rw [not_or] at hc
      rw [if_neg hc.1, if_neg hc.2] at h
      split_ifs at h with hquote
      · obtain ⟨p, hp, hpair⟩ := Option.map_eq_some_iff.mp h
        cases hpair
        rw [hquote]
        exact takesOff_readString hp
      · exact takesOff_readScalar h

theorem takes_items {trees : List JsonTree}
    (h : readItems (n + 1) text = some (trees, rest)) : TakesOff text (']' :: rest) := by
  unfold readItems at h
  split at h
  · cases h
  next value after hvalue =>
  refine (ih.value hvalue).trans ?_
  split at h
  · next more hcomma =>
    obtain ⟨p, hp, hpair⟩ := Option.map_eq_some_iff.mp h
    cases hpair
    refine (takesOff_of_skipBlanks hcomma).trans (.char (by decide) ?_)
    exact (takesOff_skipBlanks more).trans (ih.items hp)
  · next hclose =>
    cases h
    exact takesOff_of_skipBlanks hclose
  · cases h

theorem takes_members {members : List (CodePoints × JsonTree)}
    (h : readMembers (n + 1) text = some (members, rest)) : TakesOff text ('}' :: rest) := by
  unfold readMembers at h
  split at h
  · next body =>
    split at h
    · cases h
    next key afterKey hkey =>
    refine (takesOff_readString hkey).trans ?_
    split at h
    · next afterColon hcolon =>
      refine (takesOff_of_skipBlanks hcolon).trans (.char (by decide) ?_)
      split at h
      · cases h
      next value after hvalue =>
      refine (takesOff_skipBlanks afterColon).trans ((ih.value hvalue).trans ?_)
      split at h
      · next more hcomma =>
        obtain ⟨p, hp, hpair⟩ := Option.map_eq_some_iff.mp h
        cases hpair
        refine (takesOff_of_skipBlanks hcomma).trans (.char (by decide) ?_)
        exact (takesOff_skipBlanks more).trans (ih.members hp)
      · next hclose =>
        cases h
        exact takesOff_of_skipBlanks hclose
      · cases h
    · cases h
  · cases h

end Values

theorem takes (n : ℕ) : Takes n := by
  induction n with
  | zero =>
    constructor
    · intro _ _ _ h
      cases h
    · intro _ _ _ h
      cases h
    · intro _ _ _ h
      cases h
  | succ n ih => exact ⟨takes_value ih, takes_items ih, takes_members ih⟩

/-- **An array or object is a balanced text between two brackets**, with nothing but blanks
around it. -/
theorem brackets_of_ofText {c : Char} (h : ofText (c :: text) = some tree)
    (hc : c = '[' ∨ c = '{') :
    ∃ body gap, text = body ++ (if c = '[' then ']' else '}') :: gap ∧ Balanced body ∧
      ∀ d ∈ gap, isJsonBlank d = true := by
  have hblank : isJsonBlank c = false := by
    rcases hc with rfl | rfl <;> decide
  unfold ofText at h
  rw [skipBlanks, List.dropWhile_cons_of_neg (by simp [hblank])] at h
  split at h
  · next tree' rest hvalue =>
    split_ifs at h with hrest
    obtain ⟨body, htext, hbody⟩ := takes_brackets (takes _) hc hvalue
    exact ⟨body, rest, htext, hbody, List.dropWhile_eq_nil_iff.mp hrest⟩
  · cases h

end JsonTree

end Ecosystem.Lib
