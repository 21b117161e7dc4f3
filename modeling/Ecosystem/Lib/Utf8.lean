import Mathlib

/-!
# UTF-8

The bytes of a text, and a reader that accepts nothing but such bytes: it reads without
looking at the marks of the bytes behind the first and then compares what it has read,
written again, with what it was given.
-/

namespace Ecosystem.Lib

def utf8Char (c : Char) : List UInt8 :=
  let n := c.toNat
  if n < 0x80 then [.ofNat n]
  else if n < 0x800 then [.ofNat (0xC0 + n / 0x40), .ofNat (0x80 + n % 0x40)]
  else if n < 0x10000 then
    [.ofNat (0xE0 + n / 0x1000), .ofNat (0x80 + n / 0x40 % 0x40), .ofNat (0x80 + n % 0x40)]
  else
    [.ofNat (0xF0 + n / 0x40000), .ofNat (0x80 + n / 0x1000 % 0x40),
      .ofNat (0x80 + n / 0x40 % 0x40), .ofNat (0x80 + n % 0x40)]

def utf8 (text : List Char) : List UInt8 := text.flatMap utf8Char

/-- The first character, by the mark of its first byte. -/
def readUtf8Char : List UInt8 → Option (Char × List UInt8)
  | [] => none
  | a :: rest =>
    if a.toNat < 0x80 then some (.ofNat a.toNat, rest)
    else if a.toNat < 0xE0 then
      match rest with
      | b :: rest => some (.ofNat ((a.toNat - 0xC0) * 0x40 + (b.toNat - 0x80)), rest)
      | _ => none
    else if a.toNat < 0xF0 then
      match rest with
      | b :: c :: rest =>
        some (.ofNat ((a.toNat - 0xE0) * 0x1000 + (b.toNat - 0x80) * 0x40 +
          (c.toNat - 0x80)), rest)
      | _ => none
    else
      match rest with
      | b :: c :: d :: rest =>
        some (.ofNat ((a.toNat - 0xF0) * 0x40000 + (b.toNat - 0x80) * 0x1000 +
          (c.toNat - 0x80) * 0x40 + (d.toNat - 0x80)), rest)
      | _ => none

/-- All characters, with a bound on their number. -/
def readUtf8Chars : ℕ → List UInt8 → Option (List Char)
  | _, [] => some []
  | 0, _ => none
  | n + 1, bytes => do
    let (c, rest) ← readUtf8Char bytes
    let text ← readUtf8Chars n rest
    return c :: text

def readUtf8 (bytes : List UInt8) : Option (List Char) := do
  let text ← readUtf8Chars bytes.length bytes
  if utf8 text = bytes then some text else none

/-! ## The round trip -/

theorem readUtf8Char_utf8Char (c : Char) (rest : List UInt8) :
    readUtf8Char (utf8Char c ++ rest) = some (c, rest) := by
  have hbound : c.toNat < 0x110000 := by
    have hvalid := c.valid
    simp only [UInt32.isValidChar, Nat.isValidChar] at hvalid
    show c.val.toNat < _
    omega
  have hof : ∀ n, n = c.toNat → Char.ofNat n = c := by
    rintro _ rfl
    exact Char.ofNat_toNat c
  have hbyte : ∀ n, n < 256 → (UInt8.ofNat n).toNat = n := fun n hn =>
    Nat.mod_eq_of_lt hn
  unfold utf8Char
  by_cases hone : c.toNat < 0x80
  · simp only [hone, if_true, List.cons_append, List.nil_append, readUtf8Char]
    rw [hbyte _ (by omega), if_pos hone, hof _ rfl]
  · by_cases htwo : c.toNat < 0x800
    · simp only [hone, htwo, if_true, if_false, List.cons_append, List.nil_append,
        readUtf8Char]
      rw [hbyte _ (by omega), hbyte _ (by omega), if_neg (by omega), if_pos (by omega),
        hof _ (by omega)]
    · by_cases hthree : c.toNat < 0x10000
      · simp only [hone, htwo, hthree, if_true, if_false, List.cons_append, List.nil_append,
          readUtf8Char]
        rw [hbyte _ (by omega), hbyte _ (by omega), hbyte _ (by omega), if_neg (by omega),
          if_neg (by omega), if_pos (by omega), hof _ (by omega)]
      · simp only [hone, htwo, hthree, if_false, List.cons_append, List.nil_append,
          readUtf8Char]
        rw [hbyte _ (by omega), hbyte _ (by omega), hbyte _ (by omega), hbyte _ (by omega),
          if_neg (by omega), if_neg (by omega), if_neg (by omega), hof _ (by omega)]

theorem utf8Char_ne_nil (c : Char) : utf8Char c ≠ [] := by
  intro hnil
  have hread := readUtf8Char_utf8Char c []
  rw [hnil] at hread
  cases hread

theorem readUtf8Chars_utf8 (text : List Char) {n : ℕ} (hn : text.length ≤ n) :
    readUtf8Chars n (utf8 text) = some text := by
  induction text generalizing n with
  | nil => cases n <;> rfl
  | cons c text ih =>
    obtain ⟨m, rfl⟩ : ∃ m, n = m + 1 := ⟨n - 1, by simp at hn; omega⟩
    have hrest := ih (n := m) (by simpa using hn)
    have hbytes : utf8 (c :: text) = utf8Char c ++ utf8 text := rfl
    rw [hbytes]
    cases hcons : utf8Char c ++ utf8 text with
    | nil => exact absurd (List.append_eq_nil_iff.mp hcons).1 (utf8Char_ne_nil c)
    | cons a rest =>
      rw [readUtf8Chars, ← hcons, readUtf8Char_utf8Char]
      · show (readUtf8Chars m (utf8 text) >>= _) = _
        rw [hrest]
        rfl
      · simp

theorem length_le_utf8 (text : List Char) : text.length ≤ (utf8 text).length := by
  induction text with
  | nil => exact Nat.le_refl _
  | cons c text ih =>
    have hpos := List.length_pos_of_ne_nil (utf8Char_ne_nil c)
    rw [utf8, List.flatMap_cons, List.length_append, List.length_cons]
    rw [utf8] at ih
    omega

/-- **What has been encoded is decoded.** -/
theorem readUtf8_utf8 (text : List Char) : readUtf8 (utf8 text) = some text := by
  rw [readUtf8, readUtf8Chars_utf8 text (length_le_utf8 text)]
  exact if_pos rfl

end Ecosystem.Lib
