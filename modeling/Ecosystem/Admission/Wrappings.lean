import Ecosystem.Admission.Extraction

/-!
# What is found of a wrapped document

A document that stands alone is taken as it is.  In a fence, in prose or behind a think
block it is found where the output is no JSON by itself and neither pattern works on
the document (`Untouched`).
-/

namespace Ecosystem.Admission

open Ecosystem.Lib

/-! ## Wrappings -/

def Blank (text : Text) : Prop := ∀ c ∈ text, isSpace c = true

def Prose (text : Text) : Prop := ∀ c ∈ text, c ∉ ['{', '}', '[', ']', '`']

/-- The text of an array or object, without white space around it. -/
structure IsContainer (v : Text) (tree : JsonTree) : Prop where
  opens : v.head?.any isOpener = true
  stripped : strip v = v
  document : JsonTree.ofText v = some tree

/-- A text that `_THINK_RE` takes whole: the thought ends with the first closing tag, and
the tags may be in any case. -/
inductive IsThinkBlock (isWordBeyond : Char → Bool) : Text → Prop
  | tagged {opening attributes thought closing : Text}
      (hopening : matchWord thinkWord opening = some [])
      (hboundary : attributes.head?.any (isWord isWordBeyond) = false)
      (hattributes : '>' ∉ attributes)
      (hclosing : matchWord closeWord closing = some [])
      (hthought : ∀ back, back <:+ thought ++ closing → closing.length < back.length →
        matchWord closeWord back = none) :
      IsThinkBlock isWordBeyond (opening ++ attributes ++ '>' :: (thought ++ closing))

theorem IsThinkBlock.ne_nil {isWordBeyond : Char → Bool} {block : Text}
    (h : IsThinkBlock isWordBeyond block) : block ≠ [] := by
  cases h
  simp

/-- What stands before and behind a document, and whether it is white space alone. -/
inductive Wrapping : Bool → Text → Text → Prop
  | alone {before after : Text} (hbefore : Blank before) (hafter : Blank after) :
      Wrapping true before after
  | fenced {before tag gap after behind : Text} (hbefore : Blank before)
      (htag : ∀ c ∈ tag, isTagChar c = true) (hgap : Blank gap) (hafter : Blank after)
      (hbehind : Blank behind) :
      Wrapping false (before ++ (fence ++ tag ++ gap)) (after ++ fence ++ behind)
  | prose {before after : Text} (hbefore : Prose before) (hafter : Prose after)
      (hsome : ¬ (Blank before ∧ Blank after)) : Wrapping false before after

/-- The outputs that the extraction promises to accept: a wrapped document, with a think
block in front of the wrapping or with nothing. -/
inductive Output (isWordBeyond : Char → Bool) : Bool → Text → Text → Text → Prop
  | plain {alone : Bool} {before after : Text} (h : Wrapping alone before after) :
      Output isWordBeyond alone [] before after
  | thought {alone : Bool} {lead block before after : Text} (hlead : Blank lead)
      (hblock : IsThinkBlock isWordBeyond block) (h : Wrapping alone before after) :
      Output isWordBeyond false (lead ++ block) before after

/-- The matches of `_THINK_RE` in front of a text end in front of it. -/
inductive Cleared (isWordBeyond : Char → Bool) (rest : Text) : Text → Prop
  | nil : Cleared isWordBeyond rest []
  | char {c : Char} {before : Text} (hc : thinkAt isWordBeyond (c :: (before ++ rest)) = none)
      (h : Cleared isWordBeyond rest before) : Cleared isWordBeyond rest (c :: before)
  | block {c : Char} {block before : Text}
      (hc : thinkAt isWordBeyond (c :: (block ++ before ++ rest)) = some (before ++ rest))
      (h : Cleared isWordBeyond rest before) :
      Cleared isWordBeyond rest (c :: (block ++ before))

/-- Neither pattern works on a wrapped document. -/
structure Untouched (isWordBeyond : Char → Bool) (before v after : Text) : Prop where
  cleared : Cleared isWordBeyond (v ++ after) before
  whole : ∀ back, back <:+ v ++ after → after.length < back.length →
    thinkAt isWordBeyond back = none
  fences : ∀ a b c, before ++ v ++ after = a ++ fence ++ b ++ fence ++ c → v <:+: b

/-- What the extraction owes to a document in an output. -/
def Found {Schema : Type} (recursionLimit : ℕ) (isWordBeyond : Char → Bool)
    (tools : SchemaTools Schema) (tree : JsonTree) (alone : Bool) (text : Text) : Prop :=
  (∃ candidate, extractJsonCandidate recursionLimit isWordBeyond text =
      .ok (some candidate, !alone) ∧ loads recursionLimit candidate = .ok tree) ∧
    ∀ schema, tools.projects schema = true →
      probeStructuredOutput recursionLimit isWordBeyond tools text schema =
        judge tools schema (!alone) tree

/-- What is left by the think pattern has the document, and no other one in a fence. -/
structure Survives (isWordBeyond : Char → Bool) (v text : Text) : Prop where
  thinking : ∃ before after, withoutThinking isWordBeyond text = before ++ v ++ after ∧
    ∀ c ∈ before, isOpener c = false
  fenced : ∀ inner, (fences (withoutThinking isWordBeyond text)).findSome? firstBalanced =
    some inner → inner = v

/-! ## Containers -/

theorem isSpace_of_isJsonBlank {c : Char} (h : JsonTree.isJsonBlank c = true) :
    isSpace c = true := by
  simp only [JsonTree.isJsonBlank, Bool.or_eq_true, decide_eq_true_eq] at h
  rcases h with ((rfl | rfl) | rfl) | rfl <;> decide

theorem rstrip_append_blank {text after : Text} (hafter : Blank after) :
    rstrip (text ++ after) = rstrip text := by
  induction after using List.reverseRecOn with
  | nil => rw [List.append_nil]
  | append_singleton after c ih =>
    rw [← List.append_assoc, rstrip_concat_space (hafter c (by simp))]
    exact ih fun d hd => hafter d (List.mem_append_left _ hd)

theorem IsContainer.eq_brackets {v : Text} {tree : JsonTree} (h : IsContainer v tree) :
    ∃ opener body, isOpener opener = true ∧ Balanced body ∧
      v = opener :: (body ++ [closerOf opener]) := by
  obtain ⟨hopens, hstrip, hdocument⟩ := h
  cases v with
  | nil => cases hopens
  | cons c text =>
    have hopener : isOpener c = true := by simpa using hopens
    have hc : c = '[' ∨ c = '{' := (isOpener_iff.mp hopener).symm
    obtain ⟨body, gap, htext, hbody, hgap⟩ := JsonTree.brackets_of_ofText hdocument hc
    have hcloser : (if c = '[' then ']' else '}') = closerOf c := by
      rcases hc with rfl | rfl <;> rfl
    have hspace : isSpace (closerOf c) = false := by
      rcases hc with rfl | rfl <;> decide
    rw [hcloser] at htext
    have hfull : c :: text = (c :: (body ++ [closerOf c])) ++ gap := by
      rw [htext]
      simp
    have hrstrip : rstrip (c :: text) = c :: (body ++ [closerOf c]) := by
      rw [hfull, rstrip_append_blank fun d hd => isSpace_of_isJsonBlank (hgap d hd)]
      refine @rstrip_of_getLast _ (closerOf c) ?_ hspace
      rw [← List.cons_append, List.getLast?_append_of_ne_nil _ (by simp)]
      rfl
    -- stripping takes nothing away, so nothing stands behind the closer
    have hlength : (rstrip (c :: text)).length = (c :: text).length := by
      apply Nat.le_antisymm
      · exact (List.rdropWhile_prefix _ _).length_le
      · have hsuffix : strip (c :: text) <:+ rstrip (c :: text) := List.dropWhile_suffix _
        rw [hstrip] at hsuffix
        exact hsuffix.length_le
    have hsame : rstrip (c :: text) = c :: text :=
      (List.rdropWhile_prefix _ _).eq_of_length hlength
    exact ⟨c, body, hopener, hbody, hsame.symm.trans hrstrip⟩

theorem strip_append_blank {before v after : Text} {tree : JsonTree} (h : IsContainer v tree)
    (hbefore : Blank before) (hafter : Blank after) : strip (before ++ v ++ after) = v := by
  obtain ⟨opener, body, hopener, hbody, rfl⟩ := h.eq_brackets
  have hspaces : isSpace opener = false ∧ isSpace (closerOf opener) = false := by
    rcases isOpener_iff.mp hopener with rfl | rfl <;> decide
  have hlast : (before ++ opener :: (body ++ [closerOf opener])).getLast? =
      some (closerOf opener) := by
    rw [← List.cons_append, ← List.append_assoc, List.getLast?_concat]
  rw [strip, rstrip_append_blank hafter, rstrip_of_getLast hlast hspaces.2, lstrip,
    List.dropWhile_append_of_pos hbefore, List.dropWhile_cons_of_neg (by simp [hspaces.1])]

/-! ## What is found -/

section Found

variable {Schema : Type} {recursionLimit : ℕ} {isWordBeyond : Char → Bool}
  {tools : SchemaTools Schema} {v text : Text} {tree : JsonTree}

theorem found_of_extract {candidate : Text} {alone : Bool}
    (h : extractJsonCandidate recursionLimit isWordBeyond text = .ok (some candidate, !alone))
    (hloads : loads recursionLimit candidate = .ok tree) :
    Found recursionLimit isWordBeyond tools tree alone text := by
  refine ⟨⟨candidate, h, hloads⟩, fun schema hprojects => ?_⟩
  unfold probeStructuredOutput
  rw [if_pos hprojects, h]
  dsimp only
  rw [hloads]

theorem found_alone (hloads : loads recursionLimit v = .ok tree) (hstrip : strip text = v) :
    Found recursionLimit isWordBeyond tools tree true text := by
  refine found_of_extract ?_ hloads
  unfold extractJsonCandidate
  simp only [hstrip, hloads]
  rfl

theorem innerText_of_survives (hv : IsContainer v tree)
    (h : Survives isWordBeyond v text) : innerText isWordBeyond text = some v := by
  unfold innerText
  dsimp only
  cases hfences : (fences (withoutThinking isWordBeyond text)).findSome? firstBalanced with
  | some inner => exact congrArg some (h.fenced inner hfences)
  | none =>
    obtain ⟨before, after, htext, hbefore⟩ := h.thinking
    obtain ⟨opener, body, hopener, hbody, rfl⟩ := hv.eq_brackets
    rw [htext]
    exact firstBalanced_append hopener hbefore hbody

theorem extract_of_survives (hv : IsContainer v tree)
    (hloads : loads recursionLimit v = .ok tree)
    (hraw : loads recursionLimit (strip text) = .error .value)
    (h : Survives isWordBeyond v text) :
    extractJsonCandidate recursionLimit isWordBeyond text = .ok (some v, true) := by
  unfold extractJsonCandidate
  simp only [hraw, innerText_of_survives hv h, parseableForm, hloads]
  rfl

theorem found_iff_of_survives (hv : IsContainer v tree)
    (hloads : loads recursionLimit v = .ok tree) (h : Survives isWordBeyond v text) :
    Found recursionLimit isWordBeyond tools tree false text ↔
      loads recursionLimit (strip text) = .error .value := by
  constructor
  · rintro ⟨⟨candidate, hextract, -⟩, -⟩
    unfold extractJsonCandidate at hextract
    dsimp only at hextract
    split at hextract
    · cases hextract
    · cases hextract
    · assumption
  · intro hraw
    exact found_of_extract (extract_of_survives hv hloads hraw h) hloads

end Found

/-! ## Think blocks -/

section Think

variable {isWordBeyond : Char → Bool} {text rest : Text}

theorem matchWord_append {word back : Text} (rest : Text) (h : word.length ≤ back.length) :
    matchWord word (back ++ rest) = (matchWord word back).map (· ++ rest) := by
  induction word generalizing back with
  | nil => rfl
  | cons l word ih =>
    cases back with
    | nil => simp at h
    | cons c back =>
      rw [List.cons_append, matchWord, matchWord]
      split
      · exact ih (by simpa using h)
      · rfl

theorem length_of_matchWord {word spelled : Text} (h : matchWord word spelled = some []) :
    word.length = spelled.length := by
  induction word generalizing spelled with
  | nil =>
    obtain rfl : spelled = [] := Option.some.inj h
    rfl
  | cons l word ih =>
    cases spelled with
    | nil => cases h
    | cons c spelled =>
      rw [matchWord] at h
      split at h
      · exact congrArg (· + 1) (ih h)
      · cases h

theorem afterClose_cons (c : Char) (text : Text) :
    afterClose (c :: text) = (matchWord closeWord (c :: text)).or (afterClose text) := by
  rw [afterClose]
  cases matchWord closeWord (c :: text) <;> rfl

theorem afterClose_thought {thought closing : Text} (rest : Text)
    (hclosing : matchWord closeWord closing = some [])
    (h : ∀ back, back <:+ thought ++ closing → closing.length < back.length →
      matchWord closeWord back = none) :
    afterClose (thought ++ closing ++ rest) = some rest := by
  have hlength : closeWord.length = closing.length := length_of_matchWord hclosing
  induction thought with
  | nil =>
    have hmatch := matchWord_append rest (Nat.le_of_eq hlength)
    rw [hclosing] at hmatch
    cases closing with
    | nil => cases hlength
    | cons c closing =>
      rw [List.nil_append, List.cons_append, afterClose_cons, ← List.cons_append, hmatch]
      rfl
  | cons c thought ih =>
    have hlonger : closing.length < (c :: (thought ++ closing)).length := by
      rw [List.length_cons, List.length_append]
      omega
    have hnone : matchWord closeWord (c :: (thought ++ closing)) = none :=
      h _ (List.suffix_refl _) hlonger
    have hback := matchWord_append rest (by omega : closeWord.length ≤ (c :: (thought ++
      closing)).length)
    rw [hnone] at hback
    rw [List.cons_append, List.cons_append, afterClose_cons, ← List.cons_append,
      ← List.cons_append, List.cons_append, hback, Option.map_none, Option.none_or]
    exact ih fun back hsuffix hlong => h back (hsuffix.trans (List.suffix_cons c _)) hlong

theorem thinkAt_block {block : Text} (h : IsThinkBlock isWordBeyond block) (rest : Text) :
    thinkAt isWordBeyond (block ++ rest) = some rest := by
  obtain ⟨hopening, hboundary, hattributes, hclosing, hthought⟩ := h
  rename_i opening attributes thought closing
  have heq : opening ++ attributes ++ '>' :: (thought ++ closing) ++ rest =
      opening ++ (attributes ++ '>' :: (thought ++ closing ++ rest)) := by
    simp
  have hhead : (attributes ++ '>' :: (thought ++ closing ++ rest)).head?.any
      (isWord isWordBeyond) = false := by
    cases attributes with
    | nil => rfl
    | cons c attributes => exact hboundary
  have hdrop : (attributes ++ '>' :: (thought ++ closing ++ rest)).dropWhile (· ≠ '>') =
      '>' :: (thought ++ closing ++ rest) := by
    rw [List.dropWhile_append_of_pos, List.dropWhile_cons_of_neg (by simp)]
    intro c hc
    have hne : c ≠ '>' := fun heq => hattributes (heq ▸ hc)
    simpa using hne
  have hword := matchWord_append (attributes ++ '>' :: (thought ++ closing ++ rest))
    (Nat.le_of_eq (length_of_matchWord hopening))
  rw [hopening] at hword
  unfold thinkAt
  rw [heq, hword]
  simp only [Option.map_some, List.nil_append]
  rw [hhead, hdrop]
  exact afterClose_thought rest hclosing hthought

theorem thinkAt_of_ne {c : Char} (hc : c ≠ '<') : thinkAt isWordBeyond (c :: text) = none := by
  have hword : matchWord thinkWord (c :: text) = none := by
    show (if (caseless '<').contains c then _ else none) = none
    rw [if_neg]
    simpa [caseless] using hc
  unfold thinkAt
  rw [hword]

theorem removeThinking_append {front : Text} (hfront : '<' ∉ front) (n : ℕ) (rest : Text) :
    removeThinking isWordBeyond (front.length + n) (front ++ rest) =
      front ++ removeThinking isWordBeyond n rest := by
  induction front with
  | nil => rw [List.length_nil, Nat.zero_add, List.nil_append, List.nil_append]
  | cons c front ih =>
    have hc : c ≠ '<' := fun h => hfront (h ▸ List.mem_cons_self)
    have hn : (c :: front).length + n = (front.length + n) + 1 := by
      simp only [List.length_cons]
      omega
    rw [hn, List.cons_append, removeThinking, thinkAt_of_ne hc]
    exact congrArg (c :: ·) (ih fun h => hfront (List.mem_cons_of_mem c h))

theorem removeThinking_of_not_mem {n : ℕ} (h : '<' ∉ text) :
    removeThinking isWordBeyond n text = text := by
  induction text generalizing n with
  | nil => cases n <;> rfl
  | cons c text ih =>
    cases n with
    | zero => rfl
    | succ n =>
      have hc : c ≠ '<' := fun heq => h (heq ▸ List.mem_cons_self)
      rw [removeThinking, thinkAt_of_ne hc]
      exact congrArg (c :: ·) (ih fun htext => h (List.mem_cons_of_mem c htext))

theorem matchWord_isSuffix {word : Text} (h : matchWord word text = some rest) :
    rest <:+ text := by
  induction word generalizing text with
  | nil => exact Option.some.inj h ▸ List.suffix_refl _
  | cons l word ih =>
    cases text with
    | nil => cases h
    | cons c text =>
      rw [matchWord] at h
      split at h
      · exact (ih h).trans (List.suffix_cons c text)
      · cases h

theorem afterClose_isSuffix (h : afterClose text = some rest) : rest <:+ text := by
  induction text with
  | nil => cases h
  | cons c text ih =>
    rw [afterClose_cons, Option.or_eq_some_iff] at h
    rcases h with h | ⟨-, h⟩
    · exact matchWord_isSuffix h
    · exact (ih h).trans (List.suffix_cons c text)

theorem thinkAt_isSuffix (h : thinkAt isWordBeyond text = some rest) : rest <:+ text := by
  unfold thinkAt at h
  split at h
  · cases h
  next inner hword =>
  split_ifs at h
  split at h
  · cases h
  next body hdrop =>
  have hbody : body <:+ inner :=
    (List.suffix_cons _ _).trans (hdrop ▸ List.dropWhile_suffix _)
  exact ((afterClose_isSuffix h).trans hbody).trans (matchWord_isSuffix hword)

theorem mem_of_mem_removeThinking {n : ℕ} {c : Char}
    (h : c ∈ removeThinking isWordBeyond n text) : c ∈ text := by
  induction n generalizing text with
  | zero => exact h
  | succ n ih =>
    cases text with
    | nil => cases h
    | cons d text =>
      rw [removeThinking] at h
      split at h
      · next rest hat => exact (thinkAt_isSuffix hat).subset (ih h)
      · rcases List.mem_cons.mp h with rfl | h
        · exact List.mem_cons_self
        · exact List.mem_cons_of_mem d (ih h)

/-- What is in front of a text is removed, or kept, without a look at the text. -/
theorem removeThinking_cleared {before : Text} (h : Cleared isWordBeyond rest before) {n : ℕ}
    (hn : (before ++ rest).length ≤ n) :
    ∃ kept m, removeThinking isWordBeyond n (before ++ rest) =
        kept ++ removeThinking isWordBeyond m rest ∧
      rest.length ≤ m ∧ ∀ c ∈ kept, c ∈ before := by
  induction h generalizing n with
  | nil => exact ⟨[], n, rfl, hn, fun _ hc => absurd hc (List.not_mem_nil)⟩
  | @char c before hc _ ih =>
    obtain ⟨n, rfl⟩ : ∃ k, n = k + 1 := ⟨n - 1, by simp at hn; omega⟩
    obtain ⟨kept, m, hkept, hm, hsub⟩ := @ih n (by simpa using hn)
    refine ⟨c :: kept, m, ?_, hm, ?_⟩
    · rw [List.cons_append, removeThinking, hc, hkept]
      rfl
    · exact List.cons_subset_cons c hsub
  | @block c block before hc _ ih =>
    have hlength : (c :: (block ++ before) ++ rest).length =
        block.length + (before ++ rest).length + 1 := by
      simp only [List.cons_append, List.length_cons, List.length_append]
      omega
    obtain ⟨n, rfl⟩ : ∃ k, n = k + 1 := ⟨n - 1, by omega⟩
    obtain ⟨kept, m, hkept, hm, hsub⟩ := @ih n (by omega)
    refine ⟨kept, m, ?_, hm, fun d hd => ?_⟩
    · rw [List.cons_append, removeThinking, hc]
      exact hkept
    · exact List.mem_cons_of_mem c (List.mem_append_right block (hsub d hd))

theorem removeThinking_whole {v after : Text} {n : ℕ} (hn : (v ++ after).length ≤ n)
    (h : ∀ back, back <:+ v ++ after → after.length < back.length →
      thinkAt isWordBeyond back = none) :
    ∃ m, removeThinking isWordBeyond n (v ++ after) =
      v ++ removeThinking isWordBeyond m after := by
  induction v generalizing n with
  | nil => exact ⟨n, rfl⟩
  | cons c v ih =>
    obtain ⟨n, rfl⟩ : ∃ k, n = k + 1 := ⟨n - 1, by simp at hn; omega⟩
    obtain ⟨m, hm⟩ := @ih n (by simpa using hn) fun back hsuffix hlong =>
      h back (hsuffix.trans (List.suffix_cons c _)) hlong
    have hnone : thinkAt isWordBeyond (c :: (v ++ after)) = none :=
      h _ (List.suffix_refl _) (by simp)
    refine ⟨m, ?_⟩
    rw [List.cons_append, removeThinking, hnone, hm]
    rfl

/-- In front of the wrapping, white space is left. -/
theorem withoutThinking_output {alone : Bool} {front before after : Text}
    (hout : Output isWordBeyond alone front before after) (text : Text) :
    ∃ lead m, withoutThinking isWordBeyond (front ++ text) =
        lead ++ removeThinking isWordBeyond m text ∧
      Blank lead ∧ text.length ≤ m := by
  cases hout with
  | plain _ => exact ⟨[], text.length, rfl, fun _ hc => absurd hc List.not_mem_nil, le_rfl⟩
  | @thought alone lead block _ _ hlead hblock _ =>
    have hnot : '<' ∉ lead := fun hmem => absurd (hlead '<' hmem) (by decide)
    have hat := thinkAt_block hblock text
    obtain ⟨c, block, rfl⟩ : ∃ c rest, block = c :: rest := by
      cases block with
      | nil => cases hblock.ne_nil rfl
      | cons c block => exact ⟨c, block, rfl⟩
    have hlength : (lead ++ (c :: block) ++ text).length =
        lead.length + ((block ++ text).length + 1) := by
      simp only [List.length_append, List.length_cons]
      omega
    refine ⟨lead, (block ++ text).length, ?_, hlead, by simp⟩
    unfold withoutThinking
    rw [hlength, List.append_assoc, removeThinking_append hnot, List.cons_append,
      removeThinking, ← List.cons_append, hat]

end Think

/-! ## Fences -/

section Fences

variable {v text group behind : Text} {tree : JsonTree}

theorem fenceAt_eq_some (h : fenceAt text = some (group, behind)) :
    ∃ b, text = fence ++ b ++ fence ++ behind := by
  unfold fenceAt at h
  split_ifs at h with hprefix
  obtain ⟨hcut, -⟩ := cutFirst_eq_some h
  obtain ⟨tag, htag⟩ := List.dropWhile_suffix (l := text.drop 3) isTagChar
  obtain ⟨gap, hgap⟩ := List.dropWhile_suffix (l := (text.drop 3).dropWhile isTagChar) isSpace
  have hdrop : text.drop 3 = tag ++ (gap ++ (group ++ fence ++ behind)) := by
    rw [← hcut, hgap, htag]
  have htext := List.prefix_iff_eq_append.mp (List.isPrefixOf_iff_prefix.mp hprefix)
  refine ⟨tag ++ gap ++ group, ?_⟩
  rw [← htext, show fence.length = 3 from rfl, hdrop]
  simp

theorem two_fences_of_mem {n : ℕ} (h : group ∈ fencedBlocks n text) :
    ∃ a b c, text = a ++ fence ++ b ++ fence ++ c := by
  induction n generalizing text with
  | zero => cases h
  | succ n ih =>
    cases text with
    | nil => cases h
    | cons d text =>
      rw [fencedBlocks] at h
      split at h
      · next g behind hat =>
        obtain ⟨b, hb⟩ := fenceAt_eq_some hat
        exact ⟨[], b, behind, by simpa using hb⟩
      · obtain ⟨a, b, c, htext⟩ := ih h
        exact ⟨d :: a, b, c, by rw [htext]; simp⟩

/-- Fences of a text whose ends have no back-tick stand within what is between the ends. -/
theorem two_fences_within {front back a b c : Text} (hfront : '`' ∉ front) (hback : '`' ∉ back)
    (h : front ++ v ++ back = a ++ fence ++ b ++ fence ++ c) :
    ∃ a' b' c', v = a' ++ fence ++ b' ++ fence ++ c' := by
  have hshape : front ++ (v ++ back) = a ++ (fence ++ b ++ fence ++ c) := by
    simpa using h
  obtain ⟨m, hm⟩ : ∃ m, v ++ back = (m ++ fence ++ b ++ fence) ++ c := by
    rcases List.append_eq_append_iff.mp hshape with ⟨m, -, hm⟩ | ⟨m, hm, hrest⟩
    · exact ⟨m, by rw [hm]; simp⟩
    · cases m with
      | nil => exact ⟨[], by simpa using hrest.symm⟩
      | cons x m =>
        -- the first fence would begin in front
        have hx : x = '`' := (List.cons.inj hrest).1.symm
        exact absurd (by rw [hm, hx]; simp) hfront
  rcases List.append_eq_append_iff.mp hm with ⟨t, ht, hc⟩ | ⟨t, ht, -⟩
  · rcases List.eq_nil_or_concat t with rfl | ⟨t, x, rfl⟩
    · exact ⟨m, b, [], by simpa using ht.symm⟩
    · have hlast := congrArg List.getLast? ht
      have hx : some '`' = some x := by simpa [fence, ← List.append_assoc] using hlast
      exact absurd (by rw [hc, ← Option.some.inj hx]; simp) hback
  · exact ⟨m, b, t, ht⟩

theorem fencedBlocks_append {front rest group behind : Text} {n : ℕ} (hfront : '`' ∉ front)
    (hat : fenceAt rest = some (group, behind)) :
    ∃ more, fencedBlocks (front.length + (n + 1)) (front ++ rest) = group :: more := by
  induction front with
  | nil =>
    cases rest with
    | nil => cases hat
    | cons c rest =>
      rw [List.length_nil, Nat.zero_add, List.nil_append, fencedBlocks, hat]
      exact ⟨_, rfl⟩
  | cons c front ih =>
    have hc : c ≠ '`' := fun heq => hfront (heq ▸ List.mem_cons_self)
    have hnone : fenceAt (c :: (front ++ rest)) = none :=
      if_neg (by simp [fence, Ne.symm hc])
    have hn : (c :: front).length + (n + 1) = (front.length + (n + 1)) + 1 := by
      simp only [List.length_cons]
      omega
    rw [hn, List.cons_append, fencedBlocks, hnone]
    exact ih fun h => hfront (List.mem_cons_of_mem c h)

theorem fenceAt_fenced {tag gap after behind : Text} (hv : IsContainer v tree)
    (htag : ∀ c ∈ tag, isTagChar c = true) (hgap : Blank gap) (hafter : Blank after)
    (hfence : ¬ fence <:+: v) :
    fenceAt (fence ++ tag ++ gap ++ v ++ (after ++ fence ++ behind)) =
      some (v ++ after, behind) := by
  obtain ⟨opener, body, hopener, -, heq⟩ := hv.eq_brackets
  have hopeners : isTagChar opener = false ∧ isSpace opener = false := by
    rcases isOpener_iff.mp hopener with rfl | rfl <;> decide
  have hspaceTag : ∀ c, isSpace c = true → isTagChar c = false := by
    intro c hspace
    by_contra htrue
    have htagged : isTagChar c = true := by simpa using htrue
    simp only [isTagChar, Char.isAlphanum, Char.isAlpha, Char.isUpper, Char.isLower,
      Char.isDigit, Bool.or_eq_true, Bool.and_eq_true, decide_eq_true_eq] at htagged
    simp only [isSpace, Bool.or_eq_true, Bool.and_eq_true, decide_eq_true_eq] at hspace
    have hn : c.val.toNat = c.toNat := rfl
    simp only [UInt32.le_iff_toNat_le, hn] at htagged
    rcases htagged with (h | rfl) | rfl
    · simp at h
      omega
    · simp at hspace
    · simp at hspace
  have hdropTag : (tag ++ (gap ++ (v ++ (after ++ fence ++ behind)))).dropWhile isTagChar =
      gap ++ (v ++ (after ++ fence ++ behind)) := by
    rw [List.dropWhile_append_of_pos htag]
    cases gap with
    | nil =>
      rw [heq]
      exact List.dropWhile_cons_of_neg (by simp [hopeners.1])
    | cons c gap =>
      exact List.dropWhile_cons_of_neg (by simp [hspaceTag c (hgap c (by simp))])
  have hdropGap : (gap ++ (v ++ (after ++ fence ++ behind))).dropWhile isSpace =
      v ++ (after ++ fence ++ behind) := by
    rw [List.dropWhile_append_of_pos hgap, heq]
    exact List.dropWhile_cons_of_neg (by simp [hopeners.2])
  have hshape : fence ++ tag ++ gap ++ v ++ (after ++ fence ++ behind) =
      '`' :: '`' :: '`' :: (tag ++ (gap ++ (v ++ (after ++ fence ++ behind)))) := by
    simp [fence]
  unfold fenceAt
  rw [hshape, if_pos (by simp [fence])]
  show cutFirst fence (((tag ++ _).dropWhile isTagChar).dropWhile isSpace) = _
  rw [hdropTag, hdropGap]
  apply cutFirst_of_first (by simp)
  intro before' after' hcut
  by_contra hlt
  have hlt' : before'.length < (v ++ after).length := Nat.lt_of_not_le hlt
  have hlast : (v ++ after).getLast? ≠ some '`' := by
    rcases List.eq_nil_or_concat after with rfl | ⟨after, c, rfl⟩
    · rw [List.append_nil, heq, ← List.cons_append, List.getLast?_concat]
      rcases isOpener_iff.mp hopener with rfl | rfl <;> decide
    · rw [List.concat_eq_append, ← List.append_assoc, List.getLast?_concat]
      intro hc
      exact absurd (hafter '`' (by simp [Option.some.inj hc])) (by decide)
  -- an earlier fence would stand in the document, or begin with its last back-ticks
  have hwithin : fence <:+: v ++ after := by
    have hshape : (v ++ after) ++ (fence ++ behind) = before' ++ (fence ++ after') := by
      simpa using hcut
    rcases List.append_eq_append_iff.mp hshape with ⟨m, hm, -⟩ | ⟨m, hm, hrest⟩
    · rw [hm, List.length_append] at hlt'
      omega
    · have hm' : m.getLast? ≠ some '`' := by
        intro hm''
        rw [hm, List.getLast?_append, hm''] at hlast
        exact hlast rfl
      rcases m with _ | ⟨x, _ | ⟨y, _ | ⟨z, m⟩⟩⟩
      · rw [hm, List.append_nil] at hlt'
        omega
      · simp only [fence, List.cons_append, List.nil_append, List.cons.injEq] at hrest
        exact absurd (by simp [← hrest.1]) hm'
      · simp only [fence, List.cons_append, List.nil_append, List.cons.injEq] at hrest
        exact absurd (by simp [← hrest.2.1]) hm'
      · simp only [fence, List.cons_append, List.nil_append, List.cons.injEq] at hrest
        obtain ⟨rfl, rfl, rfl, -⟩ := hrest
        exact ⟨before', m, by rw [hm]; simp [fence]⟩
  have hnone : '`' ∉ after := fun hmem => absurd (hafter '`' hmem) (by decide)
  exact hfence (infix_of_infix_append_right rfl hnone hwithin)

theorem not_mem_of_blank {front : Text} (h : Blank front) : '`' ∉ front ∧ '<' ∉ front :=
  ⟨fun hmem => absurd (h _ hmem) (by decide), fun hmem => absurd (h _ hmem) (by decide)⟩

theorem not_opener_of_blank {front : Text} (h : Blank front) :
    ∀ c ∈ front, isOpener c = false := by
  intro c hc
  by_contra htrue
  have hspace := h c hc
  rcases isOpener_iff.mp (eq_true_of_ne_false htrue) with rfl | rfl <;> cases hspace

/-- Prose and white space have neither a back-tick nor a bracket that opens. -/
theorem not_opener_of_prose {front : Text} (h : Prose front) :
    ∀ c ∈ front, isOpener c = false := by
  intro c hc
  by_contra htrue
  rcases isOpener_iff.mp (eq_true_of_ne_false htrue) with rfl | rfl
  · exact h _ hc (by decide)
  · exact h _ hc (by decide)

/-- A document in prose has at most one fence in it, so there is no block. -/
theorem fences_of_prose {front back : Text} (hfront : '`' ∉ front) (hback : '`' ∉ back)
    (h : ∀ a b c, v = a ++ fence ++ b ++ fence ++ c → v <:+: b) :
    fences (front ++ v ++ back) = [] := by
  by_contra hne
  obtain ⟨group, hgroup⟩ := List.exists_mem_of_ne_nil _ hne
  obtain ⟨a, b, c, heq⟩ := two_fences_of_mem hgroup
  obtain ⟨a', b', c', hv⟩ := two_fences_within hfront hback heq
  have hlong := (h a' b' c' hv).length_le
  have hlength := congrArg List.length hv
  simp only [List.length_append] at hlength
  have hfence : fence.length = 3 := rfl
  omega

/-- A fenced document has no fence in it. -/
theorem not_fence_of_fenced {lead tag gap behind : Text} (hv : IsContainer v tree)
    (htag : ∀ c ∈ tag, isTagChar c = true) (hgap : Blank gap)
    (h : ∀ a b c, lead ++ (fence ++ tag ++ gap) ++ v ++ behind =
      a ++ fence ++ b ++ fence ++ c → v <:+: b) : ¬ fence <:+: v := by
  rintro ⟨a, c, heq⟩
  obtain ⟨front, back, hwithin⟩ := h lead (tag ++ gap ++ a) (c ++ behind) (by
    rw [← heq]
    simp)
  obtain ⟨opener, body, hopener, -, hbrackets⟩ := hv.eq_brackets
  have hnot : opener ∉ tag ++ gap := by
    intro hmem
    rcases List.mem_append.mp hmem with hmem | hmem
    · have htagged := htag _ hmem
      rcases isOpener_iff.mp hopener with rfl | rfl <;> exact absurd htagged (by decide)
    · exact absurd hopener (by rw [not_opener_of_blank hgap _ hmem]; decide)
  have hlength := congrArg List.length heq
  have hfence : fence.length = 3 := rfl
  -- the copy of the document begins behind the tag, where less than all of it is left
  have hshape : front ++ (v ++ back) = (tag ++ gap) ++ a := by simpa using hwithin
  rcases List.append_eq_append_iff.mp hshape with ⟨m, hm, hrest⟩ | ⟨m, -, hrest⟩
  · cases m with
    | nil =>
      have hshort := congrArg List.length hrest
      simp only [List.length_append, List.length_nil] at hshort hlength
      omega
    | cons x m =>
      have hx : opener = x := by
        rw [hbrackets] at hrest
        exact (List.cons.inj hrest).1
      exact hnot (by rw [hm, hx]; simp)
  · have hshort := congrArg List.length hrest
    simp only [List.length_append] at hshort hlength
    omega

/-- **A document that neither pattern works on survives.** -/
theorem survives_of_untouched {isWordBeyond : Char → Bool} {alone : Bool}
    {front before after : Text} (hv : IsContainer v tree)
    (hout : Output isWordBeyond alone front before after)
    (h : Untouched isWordBeyond before v after) :
    Survives isWordBeyond v (front ++ (before ++ v ++ after)) := by
  obtain ⟨lead, n, hleft, hlead, hn⟩ := withoutThinking_output hout (before ++ v ++ after)
  obtain ⟨alone, hw⟩ : ∃ alone, Wrapping alone before after := by
    cases hout with
    | plain h => exact ⟨_, h⟩
    | thought _ _ h => exact ⟨_, h⟩
  have hprose (hbefore : ∀ c ∈ before, isOpener c = false) (hticks : '`' ∉ before)
      (hafter : '`' ∉ after) : Survives isWordBeyond v (front ++ (before ++ v ++ after)) := by
    obtain ⟨kept, m, hkept, hm, hsub⟩ := removeThinking_cleared h.cleared
      (n := n) (by simpa using hn)
    obtain ⟨k, hwhole⟩ := removeThinking_whole hm h.whole
    have htext : withoutThinking isWordBeyond (front ++ (before ++ v ++ after)) =
        (lead ++ kept) ++ v ++ removeThinking isWordBeyond k after := by
      rw [hleft, List.append_assoc before, hkept, hwhole]
      simp
    refine ⟨⟨_, _, htext, fun c hc => ?_⟩, ?_⟩
    · rcases List.mem_append.mp hc with hc | hc
      · exact not_opener_of_blank hlead c hc
      · exact hbefore c (hsub c hc)
    · rw [htext, fences_of_prose]
      · intro inner hinner
        cases hinner
      · intro hmem
        rcases List.mem_append.mp hmem with hmem | hmem
        · exact (not_mem_of_blank hlead).1 hmem
        · exact hticks (hsub _ hmem)
      · exact fun hmem => hafter (mem_of_mem_removeThinking hmem)
      · intro a b c heq
        exact h.fences (before ++ a) b (c ++ after) (by rw [heq]; simp)
  cases hw with
  | alone hbefore hafter =>
    exact hprose (not_opener_of_blank hbefore) (not_mem_of_blank hbefore).1
      (not_mem_of_blank hafter).1
  | prose hbefore hafter _ =>
    exact hprose (not_opener_of_prose hbefore) (fun hc => hbefore _ hc (by decide))
      (fun hc => hafter _ hc (by decide))
  | @fenced before tag gap after behind hbefore htag hgap hafter hbehind =>
    have htags : '<' ∉ before ++ (fence ++ tag ++ gap) ∧ '<' ∉ after ++ fence ++ behind := by
      have htagged : '<' ∉ tag := fun hmem => absurd (htag _ hmem) (by decide)
      simp [(not_mem_of_blank hbefore).2, (not_mem_of_blank hgap).2,
        (not_mem_of_blank hafter).2, (not_mem_of_blank hbehind).2, fence, htagged]
    have hfence := not_fence_of_fenced hv htag hgap h.fences
    obtain ⟨m, rfl⟩ : ∃ m, n = (before ++ (fence ++ tag ++ gap)).length + m := by
      rw [List.append_assoc, List.length_append] at hn
      exact ⟨_, (Nat.add_sub_of_le (by omega)).symm⟩
    obtain ⟨k, hwhole⟩ := removeThinking_whole (n := m)
      (by simp only [List.length_append] at hn ⊢; omega) h.whole
    have htext : withoutThinking isWordBeyond
        (front ++ (before ++ (fence ++ tag ++ gap) ++ v ++ (after ++ fence ++ behind))) =
        (lead ++ before) ++ (fence ++ tag ++ gap ++ v ++ (after ++ fence ++ behind)) := by
      rw [hleft, List.append_assoc (before ++ _), removeThinking_append htags.1, hwhole,
        removeThinking_of_not_mem htags.2]
      simp
    have hopeners : ∀ c ∈ lead ++ before ++ (fence ++ tag ++ gap), isOpener c = false := by
      intro c hc
      simp only [List.mem_append] at hc
      rcases hc with (hc | hc) | (hc | hc) | hc
      · exact not_opener_of_blank hlead c hc
      · exact not_opener_of_blank hbefore c hc
      · have hfence : ∀ d ∈ fence, isOpener d = false := by simp [fence, isOpener]
        exact hfence c hc
      · by_contra htrue
        have htagged := htag c hc
        rcases isOpener_iff.mp (eq_true_of_ne_false htrue) with rfl | rfl
        · exact absurd htagged (by decide)
        · exact absurd htagged (by decide)
      · exact not_opener_of_blank hgap c hc
    refine ⟨⟨_, after ++ fence ++ behind, by rw [htext]; simp, hopeners⟩, ?_⟩
    have hat : fenceAt (fence ++ tag ++ gap ++ v ++ (after ++ fence ++ behind)) =
        some (v ++ after, behind) := fenceAt_fenced hv htag hgap hafter hfence
    have hticks : '`' ∉ lead ++ before := by
      simp [(not_mem_of_blank hlead).1, (not_mem_of_blank hbefore).1]
    obtain ⟨more, hmore⟩ := @fencedBlocks_append _ _ _ _
      ((fence ++ tag ++ gap ++ v ++ (after ++ fence ++ behind)).length - 1) hticks hat
    have hall : fences ((lead ++ before) ++ (fence ++ tag ++ gap ++ v ++
        (after ++ fence ++ behind))) = (v ++ after) :: more := by
      rw [← hmore, fences]
      congr 1
      simp [fence]
      omega
    obtain ⟨opener, inner, hopener, hinner, heq⟩ := hv.eq_brackets
    have hfirst : firstBalanced (v ++ after) = some v := by
      have hfound := @firstBalanced_append _ [] inner after hopener (by simp) hinner
      rwa [← heq] at hfound
    rw [htext, hall, List.findSome?_cons, hfirst]
    intro found hfound
    exact (Option.some.inj hfound).symm

theorem eq_of_append_cons {front front' back back' : Text} {c : Char} (h : c ∉ front)
    (h' : c ∉ front') (heq : front ++ c :: back = front' ++ c :: back') :
    front = front' ∧ back = back' := by
  have htake {l r : Text} (hl : c ∉ l) : (l ++ c :: r).takeWhile (· ≠ c) = l := by
    rw [List.takeWhile_append_of_pos, List.takeWhile_cons_of_neg (by simp), List.append_nil]
    intro d hd
    have hne : d ≠ c := fun hdc => hl (hdc ▸ hd)
    simpa using hne
  have hfront := (htake h).symm.trans ((congrArg _ heq).trans (htake h'))
  subst hfront
  exact ⟨rfl, (List.cons.inj (List.append_cancel_left heq)).2⟩

/-- Two fences in a text of six back-ticks are the two that it has. -/
theorem between_fences {front middle back a b c : Text} (hfront : '`' ∉ front)
    (hmiddle : '`' ∉ middle) (hback : '`' ∉ back)
    (h : front ++ fence ++ middle ++ fence ++ back = a ++ fence ++ b ++ fence ++ c) :
    middle = b := by
  have hcount := congrArg (List.count '`') h
  simp only [List.count_append, List.count_eq_zero.mpr hfront, List.count_eq_zero.mpr hmiddle,
    List.count_eq_zero.mpr hback, show List.count '`' fence = 3 from rfl] at hcount
  have ha : '`' ∉ a := List.count_eq_zero.mp (by omega)
  have hb : '`' ∉ b := List.count_eq_zero.mp (by omega)
  have hshape : front ++ '`' :: '`' :: '`' :: (middle ++ fence ++ back) =
      a ++ '`' :: '`' :: '`' :: (b ++ fence ++ c) := by
    simpa [fence] using h
  obtain ⟨-, hrest⟩ := eq_of_append_cons hfront ha hshape
  simp only [List.cons.injEq, true_and, List.append_assoc] at hrest
  exact (eq_of_append_cons hmiddle hb hrest).1

/-- A document without `<` and back-ticks is touched by neither pattern, in any wrapping
that opens no tag in front of it. -/
theorem untouched_of_plain {isWordBeyond : Char → Bool} {alone : Bool} {before after : Text}
    (hw : Wrapping alone before after) (htags : '<' ∉ before) (htagged : '<' ∉ v)
    (hticks : '`' ∉ v) : Untouched isWordBeyond before v after := by
  have hnone {text : Text} (h : '`' ∉ before) (h' : '`' ∉ after) (a b c : Text)
      (heq : before ++ v ++ after = a ++ fence ++ b ++ fence ++ c) : text <:+: b := by
    have hmem : '`' ∈ before ++ v ++ after := by
      rw [heq]
      simp [fence]
    simp [h, h', hticks] at hmem
  refine ⟨?_, fun back hback hlong => ?_, ?_⟩
  · clear hw hnone
    induction before with
    | nil => exact .nil
    | cons c before ih =>
      have hc : c ≠ '<' := fun h => htags (h ▸ List.mem_cons_self)
      exact .char (thinkAt_of_ne hc) (ih fun h => htags (List.mem_cons_of_mem c h))
  · obtain ⟨m, rfl⟩ := List.suffix_of_suffix_length_le (List.suffix_append v after) hback
      hlong.le
    obtain ⟨front, hfront⟩ := hback
    rw [← List.append_assoc, List.append_cancel_right_eq] at hfront
    cases m with
    | nil => exact absurd hlong (lt_irrefl _)
    | cons c m =>
      have hc : c ≠ '<' := fun h => htagged (by rw [← hfront, h]; simp)
      exact thinkAt_of_ne hc
  · cases hw with
    | alone hbefore hafter =>
      exact hnone (not_mem_of_blank hbefore).1 (not_mem_of_blank hafter).1
    | prose hbefore hafter _ =>
      exact hnone (fun hc => hbefore _ hc (by decide)) (fun hc => hafter _ hc (by decide))
    | @fenced before tag gap after behind hbefore htag hgap hafter hbehind =>
      intro a b c heq
      have htagTicks : '`' ∉ tag := fun hmem => absurd (htag _ hmem) (by decide)
      refine ⟨tag ++ gap, after, ?_⟩
      refine between_fences (not_mem_of_blank hbefore).1 ?_ (not_mem_of_blank hbehind).1
        (by simpa using heq)
      simp [htagTicks, (not_mem_of_blank hgap).1, hticks, (not_mem_of_blank hafter).1]

end Fences

/-! ## What the extraction owes -/

/-- **A document that neither pattern works on is found exactly in the outputs that are no
JSON by themselves.**  One that stands alone is found in any case. -/
theorem found_iff {Schema : Type} {v front before after : Text} {tree : JsonTree} {alone : Bool}
    (recursionLimit : ℕ) (isWordBeyond : Char → Bool) (tools : SchemaTools Schema)
    (hv : IsContainer v tree) (hloads : loads recursionLimit v = .ok tree)
    (hout : Output isWordBeyond alone front before after)
    (h : alone = true ∨ Untouched isWordBeyond before v after) :
    Found recursionLimit isWordBeyond tools tree alone (front ++ (before ++ v ++ after)) ↔
      alone = true ∨
        loads recursionLimit (strip (front ++ (before ++ v ++ after))) = .error .value := by
  cases alone with
  | true =>
    have hstrip : strip (front ++ (before ++ v ++ after)) = v := by
      cases hout with
      | plain h =>
        cases h with
        | alone hbefore hafter => exact strip_append_blank hv hbefore hafter
    exact iff_of_true (found_alone hloads hstrip) (.inl rfl)
  | false =>
    have huntouched : Untouched isWordBeyond before v after := h.resolve_left Bool.false_ne_true
    rw [found_iff_of_survives hv hloads (survives_of_untouched hv hout huntouched)]
    simp

/-! ## A fenced list behind a thought, and one with a tag in a string -/

def asciiOnly : Char → Bool := fun _ => false

def sampleTools : SchemaTools Unit where
  projects := fun _ => true
  validate := fun _ _ => .valid

def listText : Text := ['[', '1', ']']

def listTree : JsonTree := .arr [.int ['1']]

theorem listText_isContainer : IsContainer listText listTree where
  opens := rfl
  stripped := rfl
  document := rfl

/-- A `js` fence. -/
def openFence : Text := [] ++ (fence ++ ['j', 's'] ++ ['\n'])

def closeFence : Text := ['\n'] ++ fence ++ []

theorem fence_wrapping : Wrapping false openFence closeFence :=
  .fenced (by simp [Blank]) (by simp; decide) (by simp [Blank]; decide) (by simp [Blank]; decide)
    (by simp [Blank])

/-- `<think>x</think>`. -/
def sampleThought : Text :=
  thinkWord ++ [] ++ '>' :: (['x'] ++ closeWord)

theorem sampleThought_isThinkBlock : IsThinkBlock asciiOnly sampleThought := by
  refine .tagged rfl rfl (List.not_mem_nil) rfl fun back hback hlong => ?_
  have hwhole : back = ['x'] ++ closeWord :=
    hback.eq_of_length (Nat.le_antisymm hback.length_le (by simpa using hlong))
  rw [hwhole]
  rfl

theorem found_iff_fenced :
    Found 100 asciiOnly sampleTools listTree false
      (([] ++ sampleThought) ++ (openFence ++ listText ++ closeFence)) :=
  (found_iff 100 asciiOnly sampleTools listText_isContainer rfl
    (.thought (by simp [Blank]) sampleThought_isThinkBlock fence_wrapping)
    (.inr (untouched_of_plain fence_wrapping (by decide) (by decide) (by decide)))).mpr
      (.inr rfl)

/-- `["<think>x</think>"]`. -/
def taggedText : Text := ['[', '"'] ++ sampleThought ++ ['"', ']']

def taggedTree : JsonTree := .arr [.str (sampleThought.map Char.toNat)]

/-- **A think block in a string is cut out of a fenced document**: `[""]` is found. -/
theorem think_block_in_string_is_cut :
    IsContainer taggedText taggedTree ∧ loads 100 taggedText = .ok taggedTree ∧
      Output asciiOnly false [] openFence closeFence ∧
      ¬ Found 100 asciiOnly sampleTools taggedTree false
        ([] ++ (openFence ++ taggedText ++ closeFence)) := by
  refine ⟨⟨rfl, rfl, rfl⟩, rfl, .plain fence_wrapping, ?_⟩
  rintro ⟨⟨candidate, hextract, hloads⟩, -⟩
  have hcut : extractJsonCandidate 100 asciiOnly ([] ++ (openFence ++ taggedText ++ closeFence)) =
      .ok (some ['[', '"', '"', ']'], true) := rfl
  rw [hcut] at hextract
  cases hextract
  have hempty : loads 100 ['[', '"', '"', ']'] = .ok (.arr [.str []]) := rfl
  rw [hempty] at hloads
  simp [taggedTree, sampleThought, thinkWord] at hloads

end Ecosystem.Admission
