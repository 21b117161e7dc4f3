import Mathlib

/-!
# Base64

The standard alphabet with padding.  `b64decode` is strict about characters and padding,
but the unused low bits of a last group may be anything: a reader who wants one spelling
encodes again and compares.
-/

namespace Ecosystem.Lib.Base64

def alphabet : List Char :=
  "ABCDEFGHIJKLMNOPQRSTUVWXYZabcdefghijklmnopqrstuvwxyz0123456789+/".toList

def symbol (n : ℕ) : Char := alphabet.getD n 'A'

def value (c : Char) : Option ℕ := alphabet.idxOf? c

def b64encode : List UInt8 → List Char
  | a :: b :: c :: rest =>
    symbol (a.toNat / 4) :: symbol (a.toNat % 4 * 16 + b.toNat / 16) ::
      symbol (b.toNat % 16 * 4 + c.toNat / 64) :: symbol (c.toNat % 64) :: b64encode rest
  | [a, b] =>
    [symbol (a.toNat / 4), symbol (a.toNat % 4 * 16 + b.toNat / 16),
      symbol (b.toNat % 16 * 4), '=']
  | [a] => [symbol (a.toNat / 4), symbol (a.toNat % 4 * 16), '=', '=']
  | [] => []

def decodeLast : Char → Char → Char → Char → Option (List UInt8)
  | w, x, '=', '=' => do
    let w ← value w
    let x ← value x
    return [UInt8.ofNat (w * 4 + x / 16)]
  | w, x, y, '=' => do
    let w ← value w
    let x ← value x
    let y ← value y
    return [UInt8.ofNat (w * 4 + x / 16), UInt8.ofNat (x % 16 * 16 + y / 4)]
  | w, x, y, z => do
    let w ← value w
    let x ← value x
    let y ← value y
    let z ← value z
    return [UInt8.ofNat (w * 4 + x / 16), UInt8.ofNat (x % 16 * 16 + y / 4),
      UInt8.ofNat (y % 4 * 64 + z)]

def b64decode : List Char → Option (List UInt8)
  | [] => some []
  | [w, x, y, z] => decodeLast w x y z
  | w :: x :: y :: z :: rest => do
    let w ← value w
    let x ← value x
    let y ← value y
    let z ← value z
    let bytes ← b64decode rest
    return UInt8.ofNat (w * 4 + x / 16) :: UInt8.ofNat (x % 16 * 16 + y / 4) ::
      UInt8.ofNat (y % 4 * 64 + z) :: bytes
  | _ => none

theorem value_symbol {n : ℕ} (h : n < 64) : value (symbol n) = some n := by
  have : ∀ n < 64, value (symbol n) = some n := by decide +kernel
  exact this n h

theorem symbol_ne_pad {n : ℕ} (h : n < 64) : symbol n ≠ '=' := by
  have : ∀ n < 64, symbol n ≠ '=' := by decide +kernel
  exact this n h

theorem ofNat_eq {a : UInt8} {n : ℕ} (h : n = a.toNat) : UInt8.ofNat n = a := by
  rw [h, UInt8.ofNat_toNat]

theorem decode_group (a b c : UInt8) :
    UInt8.ofNat (a.toNat / 4 * 4 + (a.toNat % 4 * 16 + b.toNat / 16) / 16) = a ∧
      UInt8.ofNat ((a.toNat % 4 * 16 + b.toNat / 16) % 16 * 16 +
        (b.toNat % 16 * 4 + c.toNat / 64) / 4) = b ∧
      UInt8.ofNat ((b.toNat % 16 * 4 + c.toNat / 64) % 4 * 64 + c.toNat % 64) = c := by
  have ha := a.toNat_lt
  have hb := b.toNat_lt
  have hc := c.toNat_lt
  exact ⟨ofNat_eq (by omega), ofNat_eq (by omega), ofNat_eq (by omega)⟩

/-- **Decoding inverts encoding.** -/
theorem b64decode_b64encode (bytes : List UInt8) :
    b64decode (b64encode bytes) = some bytes := by
  induction bytes using b64encode.induct with
  | case1 a b c rest ih =>
    have ha := a.toNat_lt
    have hb := b.toNat_lt
    have hc := c.toNat_lt
    obtain ⟨h₁, h₂, h₃⟩ := decode_group a b c
    rw [b64encode]
    cases hrest : b64encode rest with
    | nil =>
      rw [hrest] at ih
      rw [b64decode, decodeLast]
      · simp only [value_symbol (by omega : a.toNat / 4 < 64),
          value_symbol (by omega : a.toNat % 4 * 16 + b.toNat / 16 < 64),
          value_symbol (by omega : b.toNat % 16 * 4 + c.toNat / 64 < 64),
          value_symbol (by omega : c.toNat % 64 < 64)]
        simp only [Option.bind_eq_bind, Option.bind_some, h₁, h₂, h₃]
        rw [← Option.some.inj ih]
        rfl
      · exact symbol_ne_pad (by omega : c.toNat % 64 < 64)
      · exact fun _ => symbol_ne_pad (by omega : c.toNat % 64 < 64)
    | cons w t =>
      rw [hrest] at ih
      rw [b64decode]
      · simp only [value_symbol (by omega : a.toNat / 4 < 64),
          value_symbol (by omega : a.toNat % 4 * 16 + b.toNat / 16 < 64),
          value_symbol (by omega : b.toNat % 16 * 4 + c.toNat / 64 < 64),
          value_symbol (by omega : c.toNat % 64 < 64), ih]
        simp only [Option.bind_eq_bind, Option.bind_some, h₁, h₂, h₃]
        rfl
      · exact fun h => nomatch h
  | case2 a b =>
    have ha := a.toNat_lt
    have hb := b.toNat_lt
    rw [b64encode, b64decode, decodeLast]
    · simp only [value_symbol (by omega : a.toNat / 4 < 64),
        value_symbol (by omega : a.toNat % 4 * 16 + b.toNat / 16 < 64),
        value_symbol (by omega : b.toNat % 16 * 4 < 64)]
      simp only [Option.bind_eq_bind, Option.bind_some]
      rw [ofNat_eq (a := a) (by omega), ofNat_eq (a := b) (by omega)]
      rfl
    · exact symbol_ne_pad (by omega)
  | case3 a =>
    have ha := a.toNat_lt
    rw [b64encode, b64decode, decodeLast]
    simp only [value_symbol (by omega : a.toNat / 4 < 64),
      value_symbol (by omega : a.toNat % 4 * 16 < 64)]
    simp only [Option.bind_eq_bind, Option.bind_some]
    rw [ofNat_eq (a := a) (by omega)]
    rfl
  | case4 => rfl

theorem b64encode_injective {bytes bytes' : List UInt8}
    (h : b64encode bytes = b64encode bytes') : bytes = bytes' := by
  have := b64decode_b64encode bytes
  rw [h, b64decode_b64encode] at this
  exact (Option.some.inj this).symm

end Ecosystem.Lib.Base64
