import Ecosystem.Lib.JsonText
import Ecosystem.Projections.Ownership

/-!
# The text of the ownership state

`render.json` is written by `stable_json`: sorted keys, an indentation of two and a line
break at the end.  With this text and its reader the laws of `Primitives` hold, whatever
digest stands in for SHA-256.
-/

namespace Ecosystem.Projections

open Ecosystem.Lib

/-! ## The document -/

def textJson (text : Text) : Json Empty := .str (String.ofList text)

def optionJson {α : Type} (json : α → Json Empty) : Option α → Json Empty
  | none => .null
  | some a => json a

def outputJson (o : Output) : Json Empty :=
  .obj [("backup", optionJson textJson o.backup),
    ("backupDigest", optionJson textJson o.backupDigest),
    ("backupSize", optionJson .int o.backupSize),
    ("client", textJson o.client),
    ("digest", textJson o.digest),
    ("mode", textJson o.mode),
    ("path", textJson o.path)]

def stateJson (outputs : List Output) : Json Empty :=
  .obj [("outputs", .arr (outputs.map outputJson)), ("version", .int 2)]

/-- `stable_json({"version": 2, "outputs": outputs})`. -/
def stateText (outputs : List Output) : Text :=
  (stateJson outputs).pretty noFloats 0 ++ lit "\n"

/-! ## Its reader -/

def readTextJson : Json Empty → Option Text
  | .str s => some s.toList
  | _ => none

def readIntJson : Json Empty → Option ℤ
  | .int n => some n
  | _ => none

def readOptionJson {α : Type} (read : Json Empty → Option α) : Json Empty → Option (Option α)
  | .null => some none
  | v => (read v).map some

def readOutputJson : Json Empty → Option Output
  | .obj [("backup", backup), ("backupDigest", backupDigest), ("backupSize", backupSize),
      ("client", client), ("digest", digest), ("mode", mode), ("path", path)] => do
      return {
        client := ← readTextJson client
        path := ← readTextJson path
        digest := ← readTextJson digest
        mode := ← readTextJson mode
        backup := ← readOptionJson readTextJson backup
        backupDigest := ← readOptionJson readTextJson backupDigest
        backupSize := ← readOptionJson readIntJson backupSize }
  | _ => none

def readStateJson : Json Empty → Option StateDocument
  | .obj [("outputs", .arr outputs), ("version", .int version)] => do
    return { version, outputs := ← outputs.mapM readOutputJson }
  | _ => none

def readState (text : Text) : Option StateDocument :=
  (Json.readText noFloats text).bind readStateJson

theorem readTextJson_textJson (text : Text) : readTextJson (textJson text) = some text := by
  rw [textJson, readTextJson, String.toList_ofList]

theorem readOptionJson_optionJson {α : Type} {json : α → Json Empty}
    {read : Json Empty → Option α} (hread : ∀ a, read (json a) = some a)
    (hnull : ∀ a, json a ≠ .null) (value : Option α) :
    readOptionJson read (optionJson json value) = some value := by
  cases value with
  | none => rfl
  | some a =>
    rw [optionJson, readOptionJson.eq_def]
    split
    · next heq => exact absurd heq (hnull a)
    · rw [hread]
      rfl

theorem readOutputJson_outputJson (o : Output) : readOutputJson (outputJson o) = some o := by
  have htext := @readOptionJson_optionJson _ textJson _ readTextJson_textJson
    (fun _ h => (nomatch h))
  have hint := @readOptionJson_optionJson _ Json.int readIntJson (fun _ => rfl)
    (fun _ h => (nomatch h))
  simp only [outputJson, readOutputJson, readTextJson_textJson, htext, hint]
  rfl

theorem readState_stateText (outputs : List Output) :
    readState (stateText outputs) = some ⟨2, outputs⟩ := by
  have houtputs : (outputs.map outputJson).mapM readOutputJson = some outputs := by
    induction outputs with
    | nil => rfl
    | cons o outputs ih =>
      rw [List.map_cons, List.mapM_cons, readOutputJson_outputJson, ih]
      rfl
  rw [readState, stateText]
  have hread := Json.readText_pretty noFloats (stateJson outputs)
  have hnewline : lit "\n" = ['\n'] := by decide
  rw [hnewline, hread]
  show readStateJson (stateJson outputs) = _
  simp only [stateJson, readStateJson, houtputs]
  rfl

/-! ## Its size -/

theorem byteSize_cons (c : Char) (t : Text) : byteSize (c :: t) = c.utf8Size + byteSize t := by
  simp [byteSize]

theorem byteSize_of_ascii {text : Text} (h : ∀ c ∈ text, c.utf8Size = 1) :
    byteSize text = text.length := by
  induction text with
  | nil => rfl
  | cons c text ih =>
    rw [List.forall_mem_cons] at h
    rw [byteSize_cons, h.1, ih h.2, List.length_cons, Nat.add_comm]

theorem byteSize_newline (depth : ℕ) : byteSize (Json.newline depth) = 2 * depth + 1 := by
  rw [byteSize_of_ascii, Json.newline, List.length_cons, List.length_replicate]
  intro c hc
  rcases List.mem_cons.mp hc with rfl | hc
  · decide
  · rw [List.eq_of_mem_replicate hc]
    decide

theorem byteSize_escape_le (c : Char) : byteSize (Json.escape c) ≤ 6 * c.utf8Size := by
  have hpos : 1 ≤ c.utf8Size := Char.utf8Size_pos c
  have hhex (n : ℕ) (h : n < 16) : (Json.hexDigit n).utf8Size = 1 := by
    have hall : ∀ n < 16, (Json.hexDigit n).utf8Size = 1 := by decide
    exact hall n h
  have hpair (d e : Char) (hd : d.utf8Size = 1) (he : e.utf8Size = 1) :
      byteSize [d, e] ≤ 6 * c.utf8Size := by
    rw [byteSize_cons, byteSize_cons, hd, he]
    simp only [byteSize, List.map_nil, List.sum_nil]
    omega
  unfold Json.escape
  split
  · decide
  · decide
  · decide
  · decide
  · decide
  · decide
  · decide
  · split
    · next hlow =>
        have h₁ := hhex (c.toNat / 16) (by omega)
        have h₂ := hhex (c.toNat % 16) (by omega)
        simp only [byteSize_cons, h₁, h₂]
        have h₃ : ('\\').utf8Size = 1 := by decide
        have h₄ : ('u').utf8Size = 1 := by decide
        have h₅ : ('0').utf8Size = 1 := by decide
        rw [h₃, h₄, h₅]
        simp only [byteSize, List.map_nil, List.sum_nil]
        omega
    · rw [byteSize_cons]
      simp only [byteSize, List.map_nil, List.sum_nil]
      omega

theorem byteSize_strText_le (text : Text) :
    byteSize (Json.strText (String.ofList text)) ≤ 6 * byteSize text + 2 := by
  have hflat : byteSize (text.flatMap Json.escape) ≤ 6 * byteSize text := by
    induction text with
    | nil => exact le_rfl
    | cons c text ih =>
      have hc := byteSize_escape_le c
      rw [List.flatMap_cons, byteSize_append, byteSize_cons]
      omega
  have hquote : ('"').utf8Size = 1 := by decide
  rw [Json.strText, String.toList_ofList, byteSize_cons, byteSize_append, hquote]
  have hend : byteSize ['"'] = 1 := by decide
  omega

theorem byteSize_intText_le (n : ℤ) : byteSize (Json.intText n) ≤ n.natAbs.log2 + 2 := by
  have hdigits (m : ℕ) : byteSize (Nat.toDigits 10 m) ≤ m.log2 + 1 := by
    rw [byteSize_of_ascii]
    · refine (Nat.length_toDigits_le_iff (by decide) (by omega)).mpr ?_
      calc m < 2 ^ (m.log2 + 1) := Nat.lt_log2_self
        _ ≤ 10 ^ (m.log2 + 1) := Nat.pow_le_pow_left (by decide) _
    · intro c hc
      have hdigit := Nat.isDigit_of_mem_toDigits (by decide) (by decide) hc
      have hle : c.val ≤ 0x7f := by
        simp only [Char.isDigit, Bool.and_eq_true, decide_eq_true_eq] at hdigit
        exact UInt32.le_trans hdigit.2 (by decide)
      exact if_pos hle
  cases n with
  | ofNat m => exact (hdigits m).trans (by simp)
  | negSucc m =>
    have hsign : ('-').utf8Size = 1 := by decide
    have hm := hdigits (m + 1)
    rw [Json.intText, byteSize_cons, hsign]
    simp only [Int.natAbs_negSucc, Nat.succ_eq_add_one]
    omega

theorem byteSize_optionJson_le {α : Type} {json : α → Json Empty} {size : α → ℕ}
    (depth : ℕ) (h : ∀ a, byteSize ((json a).pretty noFloats depth) ≤ size a + 4)
    (value : Option α) :
    byteSize ((optionJson json value).pretty noFloats depth) ≤ value.elim 0 size + 4 := by
  cases value with
  | none => exact (by decide : byteSize ['n', 'u', 'l', 'l'] ≤ 4).trans (by omega)
  | some a => exact h a

theorem byteSize_textJson_le (depth : ℕ) (text : Text) :
    byteSize ((textJson text).pretty noFloats depth) ≤ 6 * byteSize text + 4 := by
  have h := byteSize_strText_le text
  rw [textJson, Json.pretty]
  omega

theorem byteSize_outputJson_le (o : Output) {depth : ℕ} (hdepth : depth ≤ 2) :
    byteSize ((outputJson o).pretty noFloats depth) + 8 ≤ o.jsonBound := by
  have htext := byteSize_textJson_le (depth + 1)
  have hoption := byteSize_optionJson_le (depth + 1) htext
  have hint := @byteSize_optionJson_le _ Json.int (fun n => n.natAbs.log2 + 2) (depth + 1)
    (fun n => (byteSize_intText_le n).trans (by omega)) o.backupSize
  have h₁ := hoption o.backup
  have h₂ := hoption o.backupDigest
  have h₃ := htext o.client
  have h₄ := htext o.digest
  have h₅ := htext o.mode
  have h₆ := htext o.path
  have hkeys : ∀ k ∈ ["backup", "backupDigest", "backupSize", "client", "digest", "mode",
      "path"], byteSize (Json.strText k) ≤ 14 := by decide
  simp only [List.forall_mem_cons] at hkeys
  obtain ⟨k₁, k₂, k₃, k₄, k₅, k₆, k₇, _⟩ := hkeys
  have hmul (value : Option Text) :
      value.elim 0 (fun t => 6 * byteSize t) = 6 * value.elim 0 byteSize := by
    cases value <;> rfl
  rw [hmul] at h₁ h₂
  have hcolon : byteSize [':', ' '] = 2 := by decide
  have hsigns : ('{').utf8Size = 1 ∧ (',').utf8Size = 1 ∧ byteSize ['}'] = 1 := by decide
  simp only [outputJson, Json.pretty, Json.prettyMembers, byteSize_cons, byteSize_append,
    byteSize_newline, hcolon, hsigns, Output.jsonBound]
  omega

theorem byteSize_stateText_le (outputs : List Output) :
    byteSize (stateText outputs) ≤ 64 + (outputs.map Output.jsonBound).sum := by
  have hsigns : ('{').utf8Size = 1 ∧ (',').utf8Size = 1 ∧ byteSize ['}'] = 1 ∧
      ('[').utf8Size = 1 ∧ byteSize [']'] = 1 ∧ byteSize ['[', ']'] = 2 ∧
      byteSize [':', ' '] = 2 ∧ byteSize (lit "\n") = 1 := by decide
  have hkeys : byteSize (Json.strText "outputs") = 9 ∧
      byteSize (Json.strText "version") = 9 ∧ byteSize (Json.intText 2) = 1 := by
    decide
  have hitems : byteSize (Json.prettyItems noFloats 1 (outputs.map outputJson)) ≤
      (outputs.map Output.jsonBound).sum + 4 := by
    induction outputs with
    | nil =>
      rw [List.map_nil, Json.prettyItems, byteSize_append, byteSize_newline]
      simp [hsigns]
    | cons o outputs ih =>
      have ho := byteSize_outputJson_le o (le_refl (1 + 1))
      simp only [List.map_cons, Json.prettyItems, byteSize_cons, byteSize_append,
        byteSize_newline, hsigns, List.sum_cons]
      omega
  have harray : byteSize ((Json.arr (outputs.map outputJson)).pretty noFloats (0 + 1)) ≤
      (outputs.map Output.jsonBound).sum + 5 := by
    cases outputs with
    | nil => exact (by decide : byteSize ['[', ']'] ≤ 2).trans (by omega)
    | cons o outputs =>
      rw [List.map_cons, Json.prettyItems] at hitems
      rw [List.map_cons, Json.pretty]
      simp only [byteSize_cons, byteSize_append, byteSize_newline, hsigns, Nat.zero_add] at hitems ⊢
      omega
  simp only [stateText, stateJson, Json.pretty, Json.prettyMembers, byteSize_cons,
    byteSize_append, byteSize_newline, hsigns, hkeys] at harray ⊢
  omega

/-- The state as `stable_json` writes it, under any digest. -/
def primitivesOf (sha256 : RawContent → Text)
    (sha256_hex : ∀ content, isHexDigest (sha256 content) = true) : Primitives where
  sha256 := sha256
  sha256_hex := sha256_hex
  stableJson := stateText
  parseState := readState
  parseState_stableJson := readState_stateText
  stableJson_size := byteSize_stateText_le

end Ecosystem.Projections
