import Mathlib

/-!
# Searching and stripping texts

`cutFirst` cuts a text at the first occurrence of a pattern; `rstrip` and `lstrip` drop
white space as Python counts it.

An occurrence of a marker that begins with a character it has nowhere else does not
straddle a point where the right part is empty or begins with that character, and none
reaches past a last character that the marker lacks.
-/

namespace Ecosystem.Lib

abbrev Text := List Char

instance lawfulBEqText : LawfulBEq Text := List.instLawfulBEq

theorem forall_mem_of_all {α : Type} {p : α → Prop} [DecidablePred p] {xs : List α}
    (h : xs.all (fun x => decide (p x)) = true) : ∀ x ∈ xs, p x :=
  fun x hx => of_decide_eq_true (List.all_eq_true.mp h x hx)

section Search

variable {α : Type} [DecidableEq α]

/-- What stands before and behind the first occurrence of a pattern. -/
def cutFirst (pattern : List α) : List α → Option (List α × List α)
  | [] => if pattern = [] then some ([], []) else none
  | c :: cs =>
    if pattern.isPrefixOf (c :: cs) then some ([], (c :: cs).drop pattern.length)
    else (cutFirst pattern cs).map fun cut => (c :: cut.1, cut.2)

variable {pattern text before after : List α}

theorem cutFirst_eq_none : cutFirst pattern text = none ↔ ¬ pattern <:+: text := by
  induction text with
  | nil =>
    unfold cutFirst
    by_cases h : pattern = []
    · simp [h]
    · simp [h]
  | cons c cs ih =>
    unfold cutFirst
    by_cases h : pattern.isPrefixOf (c :: cs)
    · have hwithin : pattern <:+: c :: cs :=
        (List.isPrefixOf_iff_prefix.mp h).isInfix
      simp [h, hwithin]
    · have hnot : ¬ pattern <+: c :: cs := fun hp => h (List.isPrefixOf_iff_prefix.mpr hp)
      rw [if_neg h, Option.map_eq_none_iff, ih, List.infix_cons_iff]
      exact ⟨fun hn hor => hor.elim hnot hn, fun hn hcs => hn (.inr hcs)⟩

/-- The parts of a cut, and that it is the first one: the pattern occurs in what
stands before it, followed by all but the last of its own characters, nowhere. -/
theorem cutFirst_eq_some :
    cutFirst pattern text = some (before, after) → text = before ++ pattern ++ after ∧
        ∀ before' after', text = before' ++ pattern ++ after' →
          before.length ≤ before'.length := by
  induction text generalizing before with
  | nil =>
    intro h
    unfold cutFirst at h
    by_cases hp : pattern = []
    · rw [if_pos hp] at h
      obtain ⟨rfl, rfl⟩ := Prod.mk.inj (Option.some.inj h)
      exact ⟨by simp [hp], fun _ _ _ => Nat.zero_le _⟩
    · rw [if_neg hp] at h
      cases h
  | cons c cs ih =>
    intro h
    unfold cutFirst at h
    by_cases hp : pattern.isPrefixOf (c :: cs)
    · rw [if_pos hp] at h
      obtain ⟨rfl, rfl⟩ := Prod.mk.inj (Option.some.inj h)
      have heq := List.prefix_iff_eq_append.mp (List.isPrefixOf_iff_prefix.mp hp)
      exact ⟨by rw [List.nil_append]; exact heq.symm, fun _ _ _ => Nat.zero_le _⟩
    · rw [if_neg hp] at h
      obtain ⟨cut, hcut, hpair⟩ := Option.map_eq_some_iff.mp h
      obtain ⟨rfl, rfl⟩ := Prod.mk.inj hpair
      obtain ⟨heq, hfirst⟩ := ih hcut
      refine ⟨by rw [heq]; simp, fun before' after' h' => ?_⟩
      cases before' with
      | nil =>
        -- an occurrence at the start would have been found
        refine absurd (List.isPrefixOf_iff_prefix.mpr ?_) hp
        exact ⟨after', by simpa using h'.symm⟩
      | cons d before' =>
        simp only [List.cons_append, List.cons.injEq] at h'
        exact Nat.succ_le_succ (hfirst before' after' h'.2)

theorem cutFirst_of_first (h : text = before ++ pattern ++ after)
    (hfirst : ∀ before' after', text = before' ++ pattern ++ after' →
      before.length ≤ before'.length) :
    cutFirst pattern text = some (before, after) := by
  cases hcut : cutFirst pattern text with
  | none =>
    refine absurd ?_ (cutFirst_eq_none.mp hcut)
    rw [h]
    exact ⟨before, after, rfl⟩
  | some cut =>
    obtain ⟨heq, hleast⟩ := cutFirst_eq_some hcut
    have hlength : cut.1.length = before.length :=
      Nat.le_antisymm (hleast _ _ h) (hfirst _ _ heq)
    rw [heq, List.append_assoc, List.append_assoc] at h
    obtain ⟨hbefore, hrest⟩ := List.append_inj h hlength
    rw [List.append_cancel_left_eq] at hrest
    rw [← hbefore, ← hrest]

/-! ### Markers -/

/-- A pattern that begins with a character it has nowhere else. -/
structure IsMarker (pattern : List α) (first : α) : Prop where
  head : ∃ rest, pattern = first :: rest ∧ first ∉ rest

omit [DecidableEq α] in
/-- An occurrence does not reach past a last character that the pattern lacks. -/
theorem infix_append_of_getLast {last : α} (hlast : before.getLast? = some last)
    (hnot : last ∉ pattern) :
    pattern <:+: before ++ after ↔ pattern <:+: before ∨ pattern <:+: after := by
  rw [List.infix_append_iff_ne_nil]
  constructor
  · rintro (h | h | ⟨l₁, l₂, hne₁, _, heq, ⟨s, hs⟩, _⟩)
    · exact .inl h
    · exact .inr h
    · rw [← hs, List.getLast?_append_of_ne_nil _ hne₁] at hlast
      rw [heq] at hnot
      exact absurd (List.mem_append_left _ (List.mem_of_getLast? hlast)) hnot
  · rintro (h | h)
    · exact .inl h
    · exact .inr (.inl h)

omit [DecidableEq α] in
theorem infix_append_of_disjoint (hdisjoint : ∀ c ∈ after, c ∉ pattern)
    (h : pattern <:+: before ++ after) (hne : pattern ≠ []) : pattern <:+: before := by
  rcases List.infix_append_iff_ne_nil.mp h with h | h | ⟨l₁, l₂, _, hne₂, heq, _, ⟨t, ht⟩⟩
  · exact h
  · obtain ⟨c, hc⟩ := List.exists_mem_of_ne_nil _ hne
    exact absurd hc (hdisjoint c (h.subset hc))
  · obtain ⟨c, hc⟩ := List.exists_mem_of_ne_nil _ hne₂
    refine absurd (heq ▸ List.mem_append_right _ hc) (hdisjoint c ?_)
    rw [← ht]
    exact List.mem_append_left _ hc

omit [DecidableEq α] in
theorem not_infix_of_not_mem {c : α} (hc : c ∈ pattern) (h : c ∉ text) :
    ¬ pattern <:+: text :=
  fun hwithin => h (hwithin.subset hc)

omit [DecidableEq α] in
theorem infix_append_cons {c : α} (hc : c ∉ pattern) (hne : pattern ≠ []) :
    pattern <:+: before ++ c :: after ↔ pattern <:+: before ∨ pattern <:+: after := by
  have hlast : (before ++ [c]).getLast? = some c := List.getLast?_concat ..
  rw [← List.singleton_append, ← List.append_assoc, infix_append_of_getLast hlast hc]
  refine or_congr ⟨fun h => ?_, fun h => h.trans (List.infix_append' [] before [c])⟩ Iff.rfl
  refine infix_append_of_disjoint (fun d hd => ?_) h hne
  rw [List.mem_singleton.mp hd]
  exact hc

omit [DecidableEq α] in
theorem infix_of_infix_append_left {first : α} {rest : List α} (hpattern : pattern = first :: rest)
    (hbefore : first ∉ before) (h : pattern <:+: before ++ after) : pattern <:+: after := by
  rcases List.infix_append_iff_ne_nil.mp h with h | h | ⟨l₁, l₂, hne₁, _, heq, hsuf, _⟩
  · exact absurd h (not_infix_of_not_mem (hpattern ▸ List.mem_cons_self ..) hbefore)
  · exact h
  · rcases l₁ with _ | ⟨x, l₁⟩
    · exact absurd rfl hne₁
    · rw [hpattern, List.cons_append, List.cons.injEq] at heq
      rw [← heq.1] at hsuf
      exact absurd (hsuf.subset (List.mem_cons_self ..)) hbefore

omit [DecidableEq α] in
theorem infix_of_infix_append_right {last : α} (hlast : pattern.getLast? = some last)
    (hafter : last ∉ after) (h : pattern <:+: before ++ after) : pattern <:+: before := by
  have hmem := List.mem_of_getLast? hlast
  rcases List.infix_append_iff_ne_nil.mp h with h | h | ⟨l₁, l₂, _, hne₂, heq, _, hpre⟩
  · exact h
  · exact absurd h (not_infix_of_not_mem hmem hafter)
  · rw [heq, List.getLast?_append_of_ne_nil _ hne₂] at hlast
    exact absurd (hpre.subset (List.mem_of_getLast? hlast)) hafter

omit [DecidableEq α] in
/-- Joining texts by a character that the pattern lacks makes no occurrence. -/
theorem infix_of_infix_intercalate {c : α} {texts : List (List α)} (hc : c ∉ pattern)
    (hne : pattern ≠ []) (h : pattern <:+: [c].intercalate texts) :
    ∃ text ∈ texts, pattern <:+: text := by
  induction texts with
  | nil => exact absurd (List.infix_nil.mp h) hne
  | cons text texts ih =>
    by_cases hnil : texts = []
    · subst hnil
      exact ⟨text, List.mem_cons_self .., by simpa using h⟩
    · rw [List.intercalate_cons_of_ne_nil hnil, List.append_assoc, List.singleton_append,
        infix_append_cons hc hne] at h
      rcases h with h | h
      · exact ⟨text, List.mem_cons_self .., h⟩
      · obtain ⟨text', hmem, h⟩ := ih h
        exact ⟨text', List.mem_cons_of_mem _ hmem, h⟩

theorem IsMarker.cutFirst_append {first : α} (hm : IsMarker pattern first)
    (hbefore : ¬ pattern <:+: before) :
    cutFirst pattern (before ++ pattern ++ after) = some (before, after) := by
  obtain ⟨rest, hpattern, hnot⟩ := hm.head
  refine cutFirst_of_first rfl fun before' after' heq => ?_
  by_contra hlt
  rw [List.append_assoc, List.append_assoc] at heq
  -- the earlier occurrence begins `mid` before the marker
  obtain ⟨mid, hmid, hrest⟩ | ⟨mid, hmid, _⟩ := List.append_eq_append_iff.mp heq
  · have hlength := congrArg List.length hmid
    rw [List.length_append] at hlength
    omega
  · rename_i hrest
    have hne : mid ≠ [] := by
      rintro rfl
      rw [List.append_nil] at hmid
      rw [hmid] at hlt
      exact hlt le_rfl
    rcases List.append_eq_append_iff.mp hrest with ⟨m, hm, _⟩ | ⟨m, hm, hover⟩
    · exact hbefore ⟨before', m, by rw [hmid, hm, List.append_assoc]⟩
    · -- it straddles the start of the marker
      rcases m with _ | ⟨y, m⟩
      · rw [List.append_nil] at hm
        exact hbefore ⟨before', [], by rw [hmid, hm, List.append_nil]⟩
      · rcases mid with _ | ⟨x, mid⟩
        · exact hne rfl
        · rw [hpattern, List.cons_append, List.cons_append, List.cons.injEq] at hover
          rw [hpattern, List.cons_append, List.cons.injEq] at hm
          rw [hm.2, hover.1] at hnot
          exact hnot (List.mem_append_right _ (List.mem_cons_self ..))

end Search

/-! ## White space -/

/-- `str.isspace` of one character. -/
def isSpace (c : Char) : Bool :=
  let n := c.toNat
  (9 ≤ n && n ≤ 13) || (28 ≤ n && n ≤ 32) || n = 0x85 || n = 0xA0 || n = 0x1680 ||
    (0x2000 ≤ n && n ≤ 0x200A) || n = 0x2028 || n = 0x2029 || n = 0x202F || n = 0x205F ||
    n = 0x3000

def rstrip (text : Text) : Text := text.rdropWhile isSpace

def lstrip (text : Text) : Text := text.dropWhile isSpace

def strip (text : Text) : Text := lstrip (rstrip text)

theorem rstrip_of_getLast {text : Text} {last : Char} (h : text.getLast? = some last)
    (hspace : isSpace last = false) : rstrip text = text := by
  rw [rstrip, List.rdropWhile_eq_self_iff]
  intro hne
  rw [List.getLast?_eq_some_getLast hne] at h
  rw [Option.some.inj h, hspace]
  decide

theorem rstrip_concat_space {text : Text} {c : Char} (hspace : isSpace c = true) :
    rstrip (text ++ [c]) = rstrip text :=
  List.rdropWhile_concat_pos _ _ _ hspace

theorem strip_isInfix (text : Text) : strip text <:+: text :=
  (List.dropWhile_suffix _).isInfix.trans (List.rdropWhile_prefix _ _).isInfix

theorem rstrip_isPrefix (text : Text) : rstrip text <+: text :=
  List.rdropWhile_prefix _ _

theorem rstrip_append_of_getLast {before after : Text} {last : Char}
    (h : before.getLast? = some last) (hspace : isSpace last = false) :
    rstrip (before ++ after) = before ++ rstrip after := by
  induction after using List.reverseRecOn with
  | nil =>
    rw [List.append_nil, rstrip_of_getLast h hspace]
    exact (List.append_nil _).symm
  | append_singleton after c ih =>
    rw [← List.append_assoc]
    by_cases hc : isSpace c = true
    · rw [rstrip_concat_space hc, rstrip_concat_space hc, ih]
    · rw [rstrip, rstrip, List.rdropWhile_concat_neg _ _ _ hc,
        List.rdropWhile_concat_neg _ _ _ hc, List.append_assoc]

/-! ## ASCII texts -/

/-- The characters of a text, read off its bytes where these are ASCII. -/
def asciiText (s : String) : Text :=
  let bytes := s.toByteArray.data.toList
  if bytes.all (fun b => decide (b.toNat < 128)) then bytes.map fun b => Char.ofNat b.toNat
  else s.toList

theorem utf8EncodeChar_of_ascii {c : Char}
    (h : ∀ b ∈ String.utf8EncodeChar c, b.toNat < 128) :
    String.utf8EncodeChar c = [UInt8.ofNat c.toNat] ∧ c.toNat < 128 := by
  have hval : c.val.toNat = c.toNat := rfl
  simp only [String.utf8EncodeChar, hval] at h ⊢
  by_cases hsmall : c.toNat ≤ 127
  · rw [if_pos hsmall]
    exact ⟨rfl, by omega⟩
  · -- the first byte of a longer code is no ASCII byte
    rw [if_neg hsmall] at h
    exfalso
    split at h
    · have hfirst := h _ List.mem_cons_self
      rw [UInt8.toNat_ofNat'] at hfirst
      omega
    · split at h
      · have hfirst := h _ List.mem_cons_self
        rw [UInt8.toNat_ofNat'] at hfirst
        omega
      · have hfirst := h _ List.mem_cons_self
        rw [UInt8.toNat_ofNat'] at hfirst
        omega

/-- The characters as the kernel computes them quickly. -/
theorem toList_eq_asciiText (s : String) : s.toList = asciiText s := by
  obtain ⟨text, rfl⟩ : ∃ text, s = String.ofList text :=
    ⟨s.toList, String.ofList_toList.symm⟩
  have hbytes : (String.ofList text).toByteArray.data.toList =
      text.flatMap String.utf8EncodeChar := by
    rw [String.toByteArray_ofList, List.utf8Encode]
    simp
  rw [asciiText, hbytes]
  split
  · next hascii =>
      rw [String.toList_ofList]
      rw [List.all_eq_true] at hascii
      clear hbytes
      induction text with
      | nil => rfl
      | cons c text ih =>
        have hc := @utf8EncodeChar_of_ascii c fun b hb => of_decide_eq_true
          (hascii b (List.mem_flatMap.mpr ⟨c, List.mem_cons_self, hb⟩))
        have hcode : (UInt8.ofNat c.toNat).toNat = c.toNat := by
          rw [UInt8.toNat_ofNat']
          omega
        rw [List.flatMap_cons, hc.1, List.map_append, ← ih fun b hb => hascii b (by
          rw [List.flatMap_cons]
          exact List.mem_append_right _ hb)]
        rw [List.map_cons, List.map_nil, hcode, Char.ofNat_toNat]
        rfl
  · rfl

end Ecosystem.Lib
