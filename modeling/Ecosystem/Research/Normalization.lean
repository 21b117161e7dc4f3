import Ecosystem.Research.Url

/-!
# Normalisation of URLs

A normalised URL splits into the parts it was made of, its host is canonical, and its
characters are those of the given URL: normalising it again changes nothing as long as
it keeps the bound on its length.  Only the slash of an empty path can make a URL longer,
and only where nothing else is left out (`Tight`).
-/

namespace Ecosystem.Research

open Ecosystem.Lib Ecosystem.Lib.Checks
open Ecosystem.Projections (lit byteSize)

/-! ## Cutting -/

theorem before_behind (c : Char) (text : Text) :
    text = before c text ++ (if c ∈ text then c :: behind c text else []) := by
  induction text with
  | nil => rfl
  | cons d text ih =>
    unfold before behind at ih ⊢
    by_cases hd : d = c
    · subst hd
      simp
    · rw [List.takeWhile_cons_of_pos (by simp [hd]), List.dropWhile_cons_of_pos (by simp [hd]),
        List.cons_append]
      refine congrArg (d :: ·) ?_
      have hmem : c ∈ d :: text ↔ c ∈ text := by
        rw [List.mem_cons]
        exact or_iff_right (Ne.symm hd)
      simpa only [hmem] using ih

theorem not_mem_before (c : Char) (text : Text) : c ∉ before c text := by
  intro h
  simpa using List.mem_takeWhile_imp h

variable {c : Char} {a : Text} {text : Text}

theorem before_append (ha : c ∉ a) (b : Text) : before c (a ++ c :: b) = a := by
  unfold before
  rw [List.takeWhile_append_of_pos (by rintro d hd; simp; rintro rfl; exact ha hd)]
  simp

theorem behind_append (ha : c ∉ a) (b : Text) : behind c (a ++ c :: b) = b := by
  unfold behind
  rw [List.dropWhile_append_of_pos (by rintro d hd; simp; rintro rfl; exact ha hd)]
  simp

theorem before_of_not_mem (ha : c ∉ a) : before c a = a := by
  unfold before
  rw [List.takeWhile_eq_self_iff]
  rintro d hd
  simp only [decide_eq_true_eq]
  rintro rfl
  exact ha hd

theorem behind_of_not_mem (ha : c ∉ a) : behind c a = [] := by
  unfold behind
  have : a.dropWhile (fun x => decide (x ≠ c)) = [] := by
    rw [List.dropWhile_eq_nil_iff]
    rintro d hd
    simp only [decide_eq_true_eq]
    rintro rfl
    exact ha hd
  rw [this]
  rfl

theorem behindLast_of_not_mem (ha : c ∉ a) : behindLast c a = a := by
  unfold behindLast
  rw [List.takeWhile_eq_self_iff.mpr, List.reverse_reverse]
  rintro d hd
  simp only [decide_eq_true_eq]
  rintro rfl
  exact ha (List.mem_reverse.mp hd)

/-! ## Lower case -/

theorem length_asciiLower (text : Text) : (asciiLower text).length = text.length :=
  List.length_map _

theorem isUpper_iff : c.isUpper = true ↔ 65 ≤ c.toNat ∧ c.toNat ≤ 90 := by
  unfold Char.isUpper
  rw [decide_eq_true_eq, ge_iff_le, UInt32.le_iff_toNat_le, UInt32.le_iff_toNat_le]
  rfl

theorem toLower_of_not_upper (h : ¬ c.isUpper = true) : c.toLower = c := by
  unfold Char.toLower
  split
  · next hc =>
      refine absurd ?_ h
      unfold Char.isUpper
      exact decide_eq_true hc
  · rfl

theorem toNat_toLower (h : c.isUpper = true) : c.toLower.toNat = c.toNat + 32 := by
  have hrange := isUpper_iff.mp h
  have hval : c.val.toNat = c.toNat := rfl
  unfold Char.isUpper at h
  unfold Char.toLower
  rw [dif_pos (of_decide_eq_true h)]
  show (c.val + 32).toNat = c.toNat + 32
  rw [UInt32.toNat_add, hval]
  show (c.toNat + 32) % 2 ^ 32 = c.toNat + 32
  omega

theorem toLower_not_upper (c : Char) : ¬ c.toLower.isUpper = true := by
  intro h
  by_cases hc : c.isUpper = true
  · have hrange := isUpper_iff.mp hc
    have hlower := isUpper_iff.mp h
    rw [toNat_toLower hc] at hlower
    omega
  · rw [toLower_of_not_upper hc] at h
    exact hc h

def isNameChar (c : Char) : Bool := isHostChar c || c = '.'

theorem isNameChar_toNat (h : isNameChar c = true) :
    (97 ≤ c.toNat ∧ c.toNat ≤ 122) ∨ (48 ≤ c.toNat ∧ c.toNat ≤ 57) ∨ c = '-' ∨ c = '.' := by
  have hrange : ∀ low high : Char, decide (c.val ≥ low.val ∧ c.val ≤ high.val) = true →
      low.toNat ≤ c.toNat ∧ c.toNat ≤ high.toNat := by
    intro low high hle
    rw [decide_eq_true_eq, ge_iff_le, UInt32.le_iff_toNat_le, UInt32.le_iff_toNat_le] at hle
    exact hle
  simp only [isNameChar, isHostChar, Bool.or_eq_true, decide_eq_true_eq] at h
  rcases h with ((h | h) | h) | h
  · exact .inl (hrange 'a' 'z' (by simpa [Char.isLower] using h))
  · exact .inr (.inl (hrange '0' '9' (by simpa [Char.isDigit] using h)))
  · exact .inr (.inr (.inl h))
  · exact .inr (.inr (.inr h))

theorem toLower_isNameChar (h : isNameChar c = true) : c.toLower = c := by
  apply toLower_of_not_upper
  intro hupper
  rw [isUpper_iff] at hupper
  rcases isNameChar_toNat h with h | h | rfl | rfl
  · omega
  · omega
  · exact absurd hupper (by decide)
  · exact absurd hupper (by decide)

theorem asciiLower_names (h : ∀ c ∈ text, isNameChar c = true) :
    asciiLower text = text := by
  calc asciiLower text = text.map id :=
        List.map_congr_left fun c hc => toLower_isNameChar (h c hc)
    _ = text := List.map_id text

/-! ## Hosts -/

theorem mem_of_mem_splitOn (hc : c ∈ text) :
    c = '.' ∨ ∃ label ∈ text.splitOn '.', c ∈ label := by
  have hjoin : ['.'].intercalate (text.splitOn '.') = text := List.intercalate_splitOn '.'
  rw [← hjoin] at hc
  generalize text.splitOn '.' = labels at hc
  induction labels with
  | nil => cases hc
  | cons label labels ih =>
    cases labels with
    | nil =>
      rw [List.intercalate_singleton] at hc
      exact .inr ⟨label, List.mem_singleton.mpr rfl, hc⟩
    | cons next labels =>
      rw [List.intercalate_cons_cons, List.mem_append, List.mem_append,
        List.mem_singleton] at hc
      rcases hc with (hc | rfl) | hc
      · exact .inr ⟨label, List.mem_cons_self .., hc⟩
      · exact .inl rfl
      · rcases ih hc with rfl | ⟨other, hother, hc⟩
        · exact .inl rfl
        · exact .inr ⟨other, List.mem_cons_of_mem _ hother, hc⟩

/-- A host that `canonical_host` returns. -/
structure CanonicalHost (tools : UrlTools) (host : Text) : Prop where
  nonempty : host ≠ []
  names : ∀ c ∈ host, isNameChar c = true
  accepted : canonicalHost tools host = .ok host

theorem toLower_eq_dot : c.toLower = '.' ↔ c = '.' := by
  constructor
  · intro h
    by_cases hc : c.isUpper = true
    · -- a capital letter becomes a letter
      have hrange := isUpper_iff.mp hc
      have hvalue := toNat_toLower hc
      rw [h] at hvalue
      have hdot : ('.' : Char).toNat = 46 := rfl
      omega
    · rw [toLower_of_not_upper hc] at h
      exact h
  · rintro rfl
    rfl

theorem rdropWhile_asciiLower (text : Text) :
    (asciiLower text).rdropWhile (· = '.') = asciiLower (text.rdropWhile (· = '.')) := by
  unfold asciiLower List.rdropWhile
  rw [← List.map_reverse, List.dropWhile_map, ← List.map_reverse]
  congr 3
  funext c
  exact decide_eq_decide.mpr toLower_eq_dot

theorem asciiLower_asciiLower (text : Text) : asciiLower (asciiLower text) = asciiLower text := by
  unfold asciiLower
  rw [List.map_map]
  exact List.map_congr_left fun c _ => toLower_of_not_upper (toLower_not_upper c)

theorem isAscii_toLower (h : isAscii c = true) : isAscii c.toLower = true := by
  unfold isAscii at h ⊢
  rw [decide_eq_true_eq] at h ⊢
  by_cases hc : c.isUpper = true
  · have hrange := isUpper_iff.mp hc
    rw [toNat_toLower hc]
    omega
  · rw [toLower_of_not_upper hc]
    exact h

theorem canonicalHost_eq_ok {tools : UrlTools} {value host : Text}
    (hascii : value.all isAscii = true) (h : canonicalHost tools value = .ok host) :
    host = asciiLower (value.rdropWhile (· = '.')) ∧ CanonicalHost tools host := by
  unfold canonicalHost at h
  obtain ⟨hvalue, h⟩ := require_bind_eq_ok.mp h
  dsimp only at h
  obtain ⟨hstripped, h⟩ := require_bind_eq_ok.mp h
  obtain ⟨canonical, hidna, h⟩ := expect_bind_eq_ok.mp h
  obtain ⟨hlabels, h⟩ := require_bind_eq_ok.mp h
  obtain rfl := Except.ok.inj h
  have hascii' : (asciiLower (value.rdropWhile (· = '.'))).all isAscii = true := by
    rw [List.all_eq_true] at hascii ⊢
    intro c hc
    obtain ⟨d, hd, rfl⟩ := List.mem_map.mp hc
    exact isAscii_toLower (hascii d ((List.rdropWhile_prefix _ _).subset hd))
  have hsame := hidna
  unfold encodeIdna at hsame
  rw [if_pos hascii'] at hsame
  dsimp only at hsame
  split at hsame
  · have heq := Option.some.inj hsame
    have hnonempty : asciiLower (value.rdropWhile (· = '.')) ≠ [] := by
      simp only [Bool.and_eq_true, decide_eq_true_eq] at hstripped
      exact hstripped.1.1.1
    have hlength : (asciiLower (value.rdropWhile (· = '.'))).length ≤ 253 := by
      simp only [Bool.and_eq_true, decide_eq_true_eq] at hvalue
      rw [length_asciiLower]
      exact (List.rdropWhile_prefix _ _).length_le.trans hvalue.2
    have hagain : asciiLower ((asciiLower (value.rdropWhile (· = '.'))).rdropWhile (· = '.')) =
        asciiLower (value.rdropWhile (· = '.')) := by
      rw [rdropWhile_asciiLower, asciiLower_asciiLower, List.rdropWhile_idempotent]
    rw [← heq] at hlabels ⊢
    refine ⟨rfl, hnonempty, ?_, ?_⟩
    · intro c hc
      rcases mem_of_mem_splitOn hc with rfl | ⟨label, hlabel, hc⟩
      · rfl
      · have hvalid := List.all_eq_true.mp hlabels label hlabel
        unfold labelValid at hvalid
        simp only [Bool.and_eq_true] at hvalid
        simp [isNameChar, List.all_eq_true.mp hvalid.2 c hc]
    · unfold canonicalHost
      refine require_bind_eq_ok.mpr ⟨?_, ?_⟩
      · simp only [Bool.and_eq_true, decide_eq_true_eq]
        exact ⟨hnonempty, hlength⟩
      · dsimp only
        rw [hagain]
        refine require_bind_eq_ok.mpr ⟨hstripped, ?_⟩
        refine expect_bind_eq_ok.mpr ⟨_, hidna.trans (congrArg some heq.symm), ?_⟩
        exact require_bind_eq_ok.mpr ⟨hlabels, rfl⟩
  · cases hsame

/-! ## The parts of a URL -/

theorem isAlpha_of_toLower (h : c.toLower.isLower = true) : c.isAlpha = true := by
  by_cases hc : c.isUpper = true
  · simp [Char.isAlpha, hc]
  · rw [toLower_of_not_upper hc] at h
    simp [Char.isAlpha, h]

def isWebScheme (scheme : Text) : Prop := scheme = httpsScheme ∨ scheme = httpScheme

theorem isAlpha_of_scheme {scheme : Text} (h : isWebScheme (asciiLower scheme)) :
    ∀ c ∈ scheme, c.isAlpha = true := by
  intro c hc
  have hmem : c.toLower ∈ asciiLower scheme := List.mem_map_of_mem hc
  apply isAlpha_of_toLower
  rcases h with h | h
  · rw [h] at hmem
    revert hmem
    generalize c.toLower = d
    revert d
    exact forall_mem_of_all (by decide)
  · rw [h] at hmem
    revert hmem
    generalize c.toLower = d
    revert d
    exact forall_mem_of_all (by decide)

theorem splitScheme_append {scheme : Text} (h : isWebScheme (asciiLower scheme)) (rest : Text) :
    splitScheme (scheme ++ ':' :: rest) = (asciiLower scheme, rest) := by
  have halpha := isAlpha_of_scheme h
  have hcolon : ':' ∉ scheme := fun hc => absurd (halpha ':' hc) (by decide)
  have hchars : scheme.all isSchemeChar = true := by
    rw [List.all_eq_true]
    intro c hc
    simp [isSchemeChar, Char.isAlphanum, halpha c hc]
  have hhead : scheme.head?.any Char.isAlpha = true := by
    cases scheme with
    | nil =>
      rcases h with h | h
      · cases h
      · cases h
    | cons c scheme => simpa using halpha c (List.mem_cons_self ..)
  unfold splitScheme
  dsimp only
  rw [before_append hcolon, behind_append hcolon, hhead, hchars, if_pos (by simp)]

theorem splitScheme_eq {url scheme rest : Text} (h : splitScheme url = (scheme, rest))
    (hscheme : scheme ≠ []) :
    ∃ written, url = written ++ ':' :: rest ∧ asciiLower written = scheme := by
  unfold splitScheme at h
  dsimp only at h
  split at h
  · next hcond =>
      simp only [Bool.and_eq_true, decide_eq_true_eq] at hcond
      obtain ⟨rfl, rfl⟩ := Prod.mk.inj h
      refine ⟨before ':' url, ?_, rfl⟩
      have := before_behind ':' url
      rwa [if_pos hcond.1.1] at this
  · exact absurd (Prod.mk.inj h).1.symm hscheme

def EndsAuthority (rest : Text) : Prop := ∀ c ∈ rest.head?, isDelimiter c = true

theorem splitNetloc_append {netloc rest : Text} (hnetloc : ∀ c ∈ netloc, isDelimiter c = false)
    (hrest : EndsAuthority rest) :
    splitNetloc ('/' :: '/' :: (netloc ++ rest)) = (netloc, rest) := by
  have hpos : ∀ c ∈ netloc, (!isDelimiter c) = true := by
    intro c hc
    rw [hnetloc c hc]
    rfl
  show ((netloc ++ rest).takeWhile (fun c => !isDelimiter c),
    (netloc ++ rest).dropWhile fun c => !isDelimiter c) = (netloc, rest)
  rw [List.takeWhile_append_of_pos hpos, List.dropWhile_append_of_pos hpos]
  cases rest with
  | nil => simp
  | cons c rest =>
    have hc : (!isDelimiter c) = false := by
      rw [hrest c rfl]
      rfl
    rw [List.takeWhile_cons_of_neg (by rw [hc]; decide),
      List.dropWhile_cons_of_neg (by rw [hc]; decide), List.append_nil]

theorem splitNetloc_eq {text netloc rest : Text} (h : splitNetloc text = (netloc, rest))
    (hne : netloc ≠ []) :
    text = '/' :: '/' :: (netloc ++ rest) ∧ (∀ c ∈ netloc, isDelimiter c = false) ∧
      EndsAuthority rest := by
  unfold splitNetloc at h
  split at h
  · next rest' =>
      obtain ⟨rfl, rfl⟩ := Prod.mk.inj h
      refine ⟨by rw [List.takeWhile_append_dropWhile], fun c hc => ?_, fun c hc => ?_⟩
      · simpa using List.mem_takeWhile_imp hc
      · have := List.head?_dropWhile_not (fun c => !isDelimiter c) rest'
        rw [Option.mem_def.mp hc] at this
        simpa using this
  · exact absurd (Prod.mk.inj h).1.symm hne

def queryPart (query : Text) : Text := if query = [] then [] else '?' :: query

/-- What stands behind an authority: no path or one with a slash at its start, and a query
or none. -/
structure TailParts (path query : Text) : Prop where
  slash : path = [] ∨ ∃ rest, path = '/' :: rest
  noQuery : '?' ∉ path
  noFragment : '#' ∉ path
  noQueryFragment : '#' ∉ query

theorem TailParts.endsAuthority {path query : Text} (h : TailParts path query) :
    EndsAuthority (path ++ queryPart query) := by
  intro c hc
  rcases h.slash with rfl | ⟨rest, rfl⟩
  · unfold queryPart at hc
    by_cases hquery : query = []
    · rw [if_pos hquery] at hc
      cases hc
    · rw [if_neg hquery] at hc
      obtain rfl := Option.some.inj hc
      rfl
  · obtain rfl := Option.some.inj hc
    rfl

/-- **A URL splits into the parts it was made of.** -/
theorem urlsplit_of_parts {tools : UrlTools} {scheme netloc path query : Text}
    (hscheme : isWebScheme (asciiLower scheme))
    (hnetloc : ∀ c ∈ netloc, isDelimiter c = false)
    (hopen : '[' ∉ netloc) (hclose : ']' ∉ netloc) (htail : TailParts path query) :
    urlsplit tools (scheme ++ lit "://" ++ netloc ++ path ++ queryPart query) =
      some { scheme := asciiLower scheme, netloc, path, query, fragment := [] } := by
  have htext : scheme ++ lit "://" ++ netloc ++ path ++ queryPart query =
      scheme ++ ':' :: ('/' :: '/' :: (netloc ++ (path ++ queryPart query))) := by
    simp only [List.append_assoc]
    rfl
  have hfragment : '#' ∉ path ++ queryPart query := by
    rw [List.mem_append]
    rintro (h | h)
    · exact htail.noFragment h
    · unfold queryPart at h
      by_cases hquery : query = []
      · rw [if_pos hquery] at h
        cases h
      · rw [if_neg hquery, List.mem_cons] at h
        rcases h with h | h
        · cases h
        · exact htail.noQueryFragment h
  have hpath : before '?' (path ++ queryPart query) = path ∧
      behind '?' (path ++ queryPart query) = query := by
    unfold queryPart
    by_cases hquery : query = []
    · rw [if_pos hquery, List.append_nil, before_of_not_mem htail.noQuery,
        behind_of_not_mem htail.noQuery, hquery]
      exact ⟨rfl, rfl⟩
    · rw [if_neg hquery]
      exact ⟨before_append htail.noQuery _, behind_append htail.noQuery _⟩
  unfold urlsplit
  rw [htext, splitScheme_append hscheme]
  dsimp only
  rw [splitNetloc_append hnetloc htail.endsAuthority]
  rw [if_neg (by simp [hopen, hclose]), if_neg (by simp [hopen]), before_of_not_mem hfragment,
    behind_of_not_mem hfragment, hpath.1, hpath.2]

/-- What a URL is that splits into these parts: an empty query or fragment may have left
its mark. -/
structure SplitsInto (url : Text) (split : SplitResult) (written query fragment : Text) :
    Prop where
  text : url = written ++ lit "://" ++ split.netloc ++ split.path ++ query ++ fragment
  scheme : asciiLower written = split.scheme
  netloc : ∀ c ∈ split.netloc, isDelimiter c = false
  brackets : '[' ∈ split.netloc ↔ ']' ∈ split.netloc
  tail : TailParts split.path split.query
  query : query = queryPart split.query ∨ (query = ['?'] ∧ split.query = [])
  fragment : fragment = [] ∨ fragment = ['#']

theorem urlsplit_eq_some {tools : UrlTools} {url : Text} {split : SplitResult}
    (h : urlsplit tools url = some split) (hscheme : split.scheme ≠ [])
    (hnetloc : split.netloc ≠ []) (hfragment : split.fragment = []) :
    ∃ written query fragment, SplitsInto url split written query fragment := by
  unfold urlsplit at h
  obtain ⟨⟨scheme, rest⟩, hsplit⟩ : ∃ parts, splitScheme url = parts := ⟨_, rfl⟩
  rw [hsplit] at h
  obtain ⟨⟨netloc, tail⟩, htail⟩ : ∃ parts, splitNetloc rest = parts := ⟨_, rfl⟩
  dsimp only at h
  rw [htail] at h
  dsimp only at h
  split at h
  · cases h
  next hbrackets =>
  split at h
  · cases h
  obtain rfl := Option.some.inj h
  dsimp only at hscheme hnetloc hfragment
  obtain ⟨written, hurl, hwritten⟩ := splitScheme_eq hsplit hscheme
  obtain ⟨hrest, hdelimiters, hends⟩ := splitNetloc_eq htail hnetloc
  have htail' := before_behind '#' tail
  have hbefore := before_behind '?' (before '#' tail)
  rw [hfragment] at htail'
  have hpath : before '?' (before '#' tail) = [] ∨
      ∃ rest, before '?' (before '#' tail) = '/' :: rest := by
    cases tail with
    | nil => exact .inl rfl
    | cons c tail =>
      have hc := hends c rfl
      unfold isDelimiter at hc
      simp only [List.mem_cons, List.not_mem_nil, or_false, decide_eq_true_eq] at hc
      rcases hc with rfl | rfl | rfl
      · exact .inr ⟨_, rfl⟩
      · exact .inl rfl
      · exact .inl rfl
  have hnot : '#' ∉ before '#' tail := not_mem_before '#' tail
  refine ⟨written, if '?' ∈ before '#' tail then '?' :: behind '?' (before '#' tail) else [],
    if '#' ∈ tail then ['#'] else [], ?_, hwritten, hdelimiters, ?_, ?_, ?_, ?_⟩
  · rw [hurl, hrest]
    simp only [List.append_assoc, ← hbefore]
    rw [← htail']
    rfl
  · simpa using hbrackets
  · refine ⟨hpath, not_mem_before '?' _, ?_, ?_⟩
    · intro hmem
      exact hnot (List.takeWhile_subset _ hmem)
    · intro hmem
      exact hnot ((List.dropWhile_suffix _).subset (List.mem_of_mem_tail hmem))
  · dsimp only
    by_cases hmem : '?' ∈ before '#' tail
    · rw [if_pos hmem]
      by_cases hquery : behind '?' (before '#' tail) = []
      · exact .inr ⟨by rw [hquery], hquery⟩
      · exact .inl (by rw [queryPart, if_neg hquery])
    · rw [if_neg hmem, behind_of_not_mem hmem]
      exact .inl rfl
  · by_cases hmem : '#' ∈ tail
    · exact .inr (if_pos hmem)
    · exact .inl (if_neg hmem)

/-! ## Characters -/

theorem percentsValid_plain (ha : '%' ∉ a) (b : Text) :
    percentsValid (a ++ b) = percentsValid b := by
  induction a with
  | nil => rfl
  | cons c a ih =>
    rw [List.mem_cons, not_or] at ha
    rw [List.cons_append, percentsValid, ih ha.2]
    simp [Ne.symm ha.1]

theorem percentsValid_suffix {a b : Text} (h : percentsValid (a ++ b) = true) :
    percentsValid b = true := by
  induction a with
  | nil => exact h
  | cons c a ih =>
    rw [List.cons_append, percentsValid, Bool.and_eq_true] at h
    exact ih h.2

theorem percentsValid_cut (hc : isUpperHex c = false) (hpercent : c ≠ '%') (a b : Text) :
    percentsValid (a ++ c :: b) = (percentsValid a && percentsValid b) := by
  induction a with
  | nil =>
    rw [List.nil_append, percentsValid]
    simp [hpercent, percentsValid]
  | cons d a ih =>
    rw [List.cons_append, percentsValid, percentsValid, ih, Bool.and_assoc]
    congr 2
    match a with
    | [] => simp [hc]
    | [x] => simp [hc]
    | x :: y :: a => simp

theorem byteSize_ascii (h : text.all isAscii = true) : byteSize text = text.length := by
  induction text with
  | nil => rfl
  | cons c text ih =>
    rw [List.all_cons, Bool.and_eq_true] at h
    have hc : c.utf8Size = 1 := by
      have hascii := h.1
      unfold isAscii at hascii
      rw [decide_eq_true_eq] at hascii
      unfold Char.utf8Size
      have hle : c.val ≤ 0x7F := by
        rw [UInt32.le_iff_toNat_le]
        show c.toNat ≤ 127
        omega
      simp [hle]
    have ih := ih h.2
    unfold byteSize at ih ⊢
    rw [List.map_cons, List.sum_cons, hc, ih, List.length_cons, Nat.add_comm]

def isUrlChar (c : Char) : Bool := isAscii c && !isControlOrBlank c && c ≠ '\\'

theorem urlChars_iff : (∀ c ∈ text, isUrlChar c = true) ↔
      text.all isAscii = true ∧ text.any isControlOrBlank = false ∧ '\\' ∉ text := by
  constructor
  · intro h
    refine ⟨List.all_eq_true.mpr fun c hc => ?_, List.any_eq_false.mpr fun c hc => ?_,
      fun hc => ?_⟩
    · have := h c hc
      simp only [isUrlChar, Bool.and_eq_true] at this
      exact this.1.1
    · have := h c hc
      simp only [isUrlChar, Bool.and_eq_true, Bool.not_eq_true'] at this
      simp [this.1.2]
    · exact absurd (h _ hc) (by decide)
  · rintro ⟨hascii, hcontrol, hslash⟩ c hc
    simp only [isUrlChar, Bool.and_eq_true, Bool.not_eq_true', decide_eq_true_eq]
    refine ⟨⟨List.all_eq_true.mp hascii c hc, ?_⟩, ?_⟩
    · simpa using List.any_eq_false.mp hcontrol c hc
    · rintro rfl
      exact hslash hc

theorem isUrlChar_isNameChar (h : isNameChar c = true) : isUrlChar c = true := by
  simp only [isUrlChar, isAscii, isControlOrBlank, Bool.and_eq_true, Bool.not_eq_true',
    Bool.or_eq_false_iff, decide_eq_true_eq, decide_eq_false_iff_not]
  rcases isNameChar_toNat h with h | h | rfl | rfl
  · refine ⟨⟨by omega, by omega, by omega⟩, ?_⟩
    rintro rfl
    exact absurd h (by decide)
  · refine ⟨⟨by omega, by omega, by omega⟩, ?_⟩
    rintro rfl
    exact absurd h (by decide)
  · decide
  · decide

theorem isNameChar_isDigit (h : c.isDigit = true) : isNameChar c = true := by
  simp [isNameChar, isHostChar, h]

/-! ## Authorities -/

theorem hostinfo_host {host : Text} (hopen : '[' ∉ host) (hcolon : ':' ∉ host)
    (hat : '@' ∉ host) : hostinfo host = (host, []) := by
  unfold hostinfo
  dsimp only
  rw [behindLast_of_not_mem hat, if_neg hopen, before_of_not_mem hcolon,
    behind_of_not_mem hcolon]

theorem hostinfo_port {host port : Text} (hopen : '[' ∉ host ++ ':' :: port)
    (hcolon : ':' ∉ host) (hat : '@' ∉ host ++ ':' :: port) :
    hostinfo (host ++ ':' :: port) = (host, port) := by
  unfold hostinfo
  dsimp only
  rw [behindLast_of_not_mem hat, if_neg hopen, before_append hcolon, behind_append hcolon]

theorem effectivePort_ne_zero (scheme : Text) (raw : Option ℕ) :
    effectivePort scheme raw ≠ 0 := by
  have hdefault : defaultPort scheme ≠ 0 := by
    unfold defaultPort
    split
    · decide
    · decide
  match raw with
  | none => exact hdefault
  | some 0 => exact hdefault
  | some (n + 1) => exact Nat.succ_ne_zero n

theorem effectivePort_some {scheme : Text} {port : ℕ} (h : port ≠ 0) :
    effectivePort scheme (some port) = port := by
  cases port with
  | zero => exact absurd rfl h
  | succ n => rfl

section Authority

variable {tools : UrlTools} {scheme host : Text} {port : ℕ}

theorem canonicalNetloc_mem (hhost : ∀ c ∈ host, isNameChar c = true) {c : Char}
    (hc : c ∈ canonicalNetloc scheme host port) : isNameChar c = true ∨ c = ':' := by
  unfold canonicalNetloc at hc
  split at hc
  · exact .inl (hhost c hc)
  · rw [List.mem_append, List.mem_cons] at hc
    rcases hc with hc | rfl | hc
    · exact .inl (hhost c hc)
    · exact .inr rfl
    · exact .inl (isNameChar_isDigit (Nat.isDigit_of_mem_toDigits (by decide) (by decide) hc))

theorem canonicalNetloc_not_mem (hhost : ∀ c ∈ host, isNameChar c = true) {c : Char}
    (hname : isNameChar c = false) (hcolon : c ≠ ':') : c ∉ canonicalNetloc scheme host port := by
  intro hc
  rcases canonicalNetloc_mem hhost hc with h | h
  · rw [hname] at h
    cases h
  · exact hcolon h

theorem hostinfo_canonicalNetloc (hhost : ∀ c ∈ host, isNameChar c = true) :
    hostinfo (canonicalNetloc scheme host port) =
      (host, if port = defaultPort scheme then [] else Nat.toDigits 10 port) := by
  have hcolon : ':' ∉ host := fun hc => absurd (hhost _ hc) (by decide)
  have hopen := @canonicalNetloc_not_mem scheme host port hhost '[' (by decide) (by decide)
  have hat := @canonicalNetloc_not_mem scheme host port hhost '@' (by decide) (by decide)
  unfold canonicalNetloc at hopen hat ⊢
  by_cases hport : port = defaultPort scheme
  · rw [if_pos hport] at hopen hat ⊢
    rw [if_pos hport]
    exact hostinfo_host hopen hcolon hat
  · rw [if_neg hport] at hopen hat ⊢
    rw [if_neg hport]
    exact hostinfo_port hopen hcolon hat

theorem hostname_canonicalNetloc (hhost : CanonicalHost tools host) :
    hostname (canonicalNetloc scheme host port) = some host := by
  have hpercent : '%' ∉ host := fun hc => absurd (hhost.names _ hc) (by decide)
  have hrest : host.dropWhile (fun c => decide (c ≠ '%')) = [] := by
    rw [List.dropWhile_eq_nil_iff]
    rintro c hc
    simp only [decide_eq_true_eq]
    rintro rfl
    exact hpercent hc
  unfold hostname
  dsimp only
  rw [hostinfo_canonicalNetloc hhost.names, if_neg hhost.nonempty, before_of_not_mem hpercent,
    asciiLower_names hhost.names, hrest, List.append_nil]

theorem portOf_canonicalNetloc (hhost : ∀ c ∈ host, isNameChar c = true) (hport : port ≤ 65535) :
    portOf (canonicalNetloc scheme host port) =
      some (if port = defaultPort scheme then none else some port) := by
  unfold portOf
  dsimp only
  rw [hostinfo_canonicalNetloc hhost]
  by_cases hdefault : port = defaultPort scheme
  · rw [if_pos hdefault, if_pos hdefault]
    rfl
  · rw [if_neg hdefault, if_neg hdefault, if_neg Nat.toDigits_ne_nil]
    have hdigits : (Nat.toDigits 10 port).all Char.isDigit = true :=
      List.all_eq_true.mpr fun c hc => Nat.isDigit_of_mem_toDigits (by decide) (by decide) hc
    have hlength : (Nat.toDigits 10 port).length ≤ 5 :=
      (Nat.length_toDigits_le_iff (by decide) (by decide)).mpr (by omega)
    rw [if_pos]
    · rw [Nat.ofDigitChars_ten_toDigits]
    · simp only [Bool.and_eq_true, decide_eq_true_eq, Nat.ofDigitChars_ten_toDigits]
      exact ⟨⟨hdigits, by omega⟩, hport⟩

end Authority

/-! ## Accepted URLs -/

section Normalize

variable {tools : UrlTools} {allowHttp : Bool} {url : Text} {normalized : NormalizedUrl}

/-- What `normalize_url` has seen of a URL that it accepts. -/
structure Accepts (tools : UrlTools) (allowHttp : Bool) (url : Text) (normalized : NormalizedUrl)
    (split : SplitResult) (rawPort : Option ℕ) (rawHost : Text) : Prop where
  length : url.length ≤ 8192
  characters : ∀ c ∈ url, isUrlChar c = true
  percents : percentsValid url = true
  splits : urlsplit tools url = some split
  scheme : split.scheme = httpsScheme ∨ (allowHttp = true ∧ split.scheme = httpScheme)
  netloc : split.netloc ≠ []
  noUserinfo : '@' ∉ split.netloc
  noFragment : split.fragment = []
  port : portOf split.netloc = some rawPort
  host : hostname split.netloc = some rawHost
  noColon : ':' ∉ rawHost
  canonical : canonicalHost tools rawHost = .ok normalized.host
  scheme_eq : normalized.scheme = split.scheme
  port_eq : normalized.port = effectivePort split.scheme rawPort
  httpsPort : split.scheme = httpsScheme → normalized.port = 443
  value_eq : normalized.value = urlunsplit split.scheme
    (canonicalNetloc split.scheme normalized.host normalized.port)
    (if split.path = [] then ['/'] else split.path) split.query

theorem normalizeUrl_eq_ok :
    normalizeUrl tools allowHttp url = .ok normalized ↔ url ≠ [] ∧ ∃ split rawPort rawHost,
        Accepts tools allowHttp url normalized split rawPort rawHost := by
  unfold normalizeUrl
  constructor
  · intro h
    obtain ⟨hvalue, h⟩ := require_bind_eq_ok.mp h
    obtain ⟨hascii, h⟩ := require_bind_eq_ok.mp h
    obtain ⟨split, hsplit, h⟩ := expect_bind_eq_ok.mp h
    obtain ⟨hscheme, h⟩ := require_bind_eq_ok.mp h
    obtain ⟨huser, h⟩ := require_bind_eq_ok.mp h
    obtain ⟨rawPort, hport, h⟩ := expect_bind_eq_ok.mp h
    obtain ⟨rawHost, hhost, h⟩ := expect_bind_eq_ok.mp h
    obtain ⟨hcolon, h⟩ := require_bind_eq_ok.mp h
    obtain ⟨host, hcanonical, h⟩ := bind_eq_ok.mp h
    dsimp only at h
    obtain ⟨hhttps, h⟩ := require_bind_eq_ok.mp h
    obtain rfl := Except.ok.inj h
    simp only [charactersValid, Bool.and_eq_true, Bool.not_eq_true', decide_eq_true_eq]
      at hvalue
    simp only [Bool.and_eq_true, Bool.or_eq_true, decide_eq_true_eq] at hscheme
    simp only [hasUserinfo, Bool.and_eq_true, Bool.not_eq_true', decide_eq_true_eq,
      decide_eq_false_iff_not] at huser
    simp only [Bool.not_eq_true', Bool.and_eq_false_iff, decide_eq_false_iff_not,
      not_not] at hhttps
    refine ⟨hvalue.1.1, split, rawPort, rawHost, ?_, ?_, hvalue.2.2, hsplit, hscheme.1, hscheme.2,
      huser.1, huser.2, hport, hhost, by simpa using hcolon, hcanonical, rfl, rfl, ?_, rfl⟩
    · rw [← byteSize_ascii hascii]
      exact hvalue.1.2
    · exact urlChars_iff.mpr ⟨hascii, hvalue.2.1.1, hvalue.2.1.2⟩
    · intro hs
      exact hhttps.resolve_left (fun hne => hne hs)
  · rintro ⟨hne, split, rawPort, rawHost, h⟩
    obtain ⟨hascii, hcontrol, hslash⟩ := urlChars_iff.mp h.characters
    refine require_bind_eq_ok.mpr ⟨?_, require_bind_eq_ok.mpr ⟨hascii, ?_⟩⟩
    · simp only [charactersValid, Bool.and_eq_true, Bool.not_eq_true', decide_eq_true_eq]
      exact ⟨⟨hne, (byteSize_ascii hascii).symm ▸ h.length⟩, ⟨hcontrol, hslash⟩, h.percents⟩
    refine expect_bind_eq_ok.mpr ⟨split, h.splits, require_bind_eq_ok.mpr ⟨?_, ?_⟩⟩
    · simp only [Bool.and_eq_true, Bool.or_eq_true, decide_eq_true_eq]
      exact ⟨h.scheme, h.netloc⟩
    refine require_bind_eq_ok.mpr ⟨?_, expect_bind_eq_ok.mpr ⟨rawPort, h.port, ?_⟩⟩
    · simp [hasUserinfo, h.noUserinfo, h.noFragment]
    refine expect_bind_eq_ok.mpr ⟨rawHost, h.host, require_bind_eq_ok.mpr ⟨?_, ?_⟩⟩
    · simp [h.noColon]
    refine bind_eq_ok.mpr ⟨normalized.host, h.canonical, ?_⟩
    dsimp only
    rw [← h.port_eq]
    refine require_bind_eq_ok.mpr ⟨?_, ?_⟩
    · by_cases hs : split.scheme = httpsScheme
      · simp [h.httpsPort hs]
      · simp [hs]
    · rw [← h.value_eq, ← h.scheme_eq]
      rfl

theorem Accepts.parts {split : SplitResult} {rawPort : Option ℕ} {rawHost : Text}
    (h : Accepts tools allowHttp url normalized split rawPort rawHost) :
    ∃ written query fragment, SplitsInto url split written query fragment := by
  refine urlsplit_eq_some h.splits ?_ h.netloc h.noFragment
  rcases h.scheme with hs | ⟨_, hs⟩
  · rw [hs]
    decide
  · rw [hs]
    decide

theorem Accepts.isWebScheme {split : SplitResult} {rawPort : Option ℕ} {rawHost : Text}
    (h : Accepts tools allowHttp url normalized split rawPort rawHost) :
    isWebScheme split.scheme :=
  h.scheme.imp id And.right

theorem mem_hostinfo {netloc : Text} {c : Char} (h : c ∈ (hostinfo netloc).1) : c ∈ netloc := by
  have hlast : ∀ {d : Char}, d ∈ behindLast '@' netloc → d ∈ netloc := fun hd =>
    List.mem_reverse.mp (List.takeWhile_subset _ (List.mem_reverse.mp hd))
  unfold hostinfo at h
  dsimp only at h
  split at h
  · exact hlast ((List.dropWhile_suffix _).subset
      (List.mem_of_mem_tail (List.takeWhile_subset _ h)))
  · exact hlast (List.takeWhile_subset _ h)

theorem hostname_ascii {netloc raw : Text} (h : hostname netloc = some raw)
    (hascii : ∀ c ∈ netloc, isAscii c = true) : raw.all isAscii = true := by
  unfold hostname at h
  dsimp only at h
  split at h
  · cases h
  rw [← Option.some.inj h, List.all_eq_true]
  intro c hc
  rw [List.mem_append] at hc
  rcases hc with hc | hc
  · obtain ⟨d, hd, rfl⟩ := List.mem_map.mp hc
    exact isAscii_toLower (hascii d (mem_hostinfo (List.takeWhile_subset _ hd)))
  · exact hascii c (mem_hostinfo ((List.dropWhile_suffix _).subset hc))

theorem portOf_le {netloc scheme : Text} {raw : Option ℕ} (h : portOf netloc = some raw) :
    effectivePort scheme raw ≤ 65535 := by
  have hdefault : defaultPort scheme ≤ 65535 := by
    unfold defaultPort
    split
    · decide
    · decide
  unfold portOf at h
  dsimp only at h
  split at h
  · rw [← Option.some.inj h]
    exact hdefault
  · split at h
    · next hcond =>
        simp only [Bool.and_eq_true, decide_eq_true_eq] at hcond
        rw [← Option.some.inj h]
        by_cases hzero : Nat.ofDigitChars 10 (hostinfo netloc).2 0 = 0
        · rw [hzero]
          exact hdefault
        · rw [effectivePort_some hzero]
          exact hcond.2
    · cases h

theorem Accepts.host_eq {split : SplitResult} {rawPort : Option ℕ} {rawHost : Text}
    (h : Accepts tools allowHttp url normalized split rawPort rawHost) :
    normalized.host = asciiLower (rawHost.rdropWhile (· = '.')) ∧
      CanonicalHost tools normalized.host := by
  obtain ⟨written, query, fragment, hparts⟩ := h.parts
  refine canonicalHost_eq_ok (hostname_ascii h.host fun c hc => ?_) h.canonical
  have hmem : c ∈ url := by
    rw [hparts.text]
    simp [hc]
  have := h.characters c hmem
  simp only [isUrlChar, Bool.and_eq_true] at this
  exact this.1.1

def pathOrSlash (path : Text) : Text := if path = [] then ['/'] else path

theorem tailParts_pathOrSlash {path query : Text} (h : TailParts path query) :
    TailParts (pathOrSlash path) query := by
  unfold pathOrSlash
  by_cases hpath : path = []
  · rw [if_pos hpath]
    exact ⟨.inr ⟨[], rfl⟩, by decide, by decide, h.noQueryFragment⟩
  · rw [if_neg hpath]
    exact h

theorem SplitsInto.percents {split : SplitResult} {written query fragment : Text}
    (h : SplitsInto url split written query fragment) (hpercents : percentsValid url = true) :
    percentsValid (pathOrSlash split.path ++ queryPart split.query) = true := by
  have htail : percentsValid (split.path ++ (query ++ fragment)) = true := by
    refine @percentsValid_suffix (written ++ lit "://" ++ split.netloc) _ ?_
    rw [h.text] at hpercents
    simpa only [List.append_assoc] using hpercents
  have hfragment : ∀ a, percentsValid (a ++ fragment) = percentsValid a := by
    intro a
    rcases h.fragment with hf | hf
    · rw [hf, List.append_nil]
    · rw [hf, percentsValid_cut (by decide) (by decide)]
      simp [percentsValid]
  rw [← List.append_assoc, hfragment] at htail
  have hslash : ∀ q, percentsValid (split.path ++ q) = true →
      percentsValid (pathOrSlash split.path ++ q) = true := by
    intro q hq
    unfold pathOrSlash
    by_cases hpath : split.path = []
    · rw [if_pos hpath]
      rw [hpath] at hq
      simpa [percentsValid] using hq
    · rw [if_neg hpath]
      exact hq
  apply hslash
  rcases h.query with hq | ⟨hq, hnil⟩
  · rw [← hq]
    exact htail
  · rw [hq, percentsValid_cut (by decide) (by decide), Bool.and_eq_true] at htail
    rw [hnil]
    simpa [queryPart] using htail.1

/-- **Normalising again**: a normalised URL is accepted, and stays as it is, as long as it
is not too long. -/
theorem normalize_again (h : normalizeUrl tools allowHttp url = .ok normalized) :
    normalizeUrl tools allowHttp normalized.value = .ok normalized ↔
      normalized.value.length ≤ 8192 := by
  obtain ⟨hne, split, rawPort, rawHost, haccepts⟩ := normalizeUrl_eq_ok.mp h
  obtain ⟨written, query, fragment, hparts⟩ := haccepts.parts
  obtain ⟨_, hhost⟩ := haccepts.host_eq
  have htail := tailParts_pathOrSlash hparts.tail
  have hlower : asciiLower split.scheme = split.scheme := by
    rw [← hparts.scheme, asciiLower_asciiLower]
  have hnot : ∀ c, isNameChar c = false → c ≠ ':' →
      c ∉ canonicalNetloc split.scheme normalized.host normalized.port :=
    fun c hname hcolon => canonicalNetloc_not_mem hhost.names hname hcolon
  have hsplit : urlsplit tools normalized.value =
      some { scheme := split.scheme
             netloc := canonicalNetloc split.scheme normalized.host normalized.port
             path := pathOrSlash split.path, query := split.query, fragment := [] } := by
    have hweb : isWebScheme (asciiLower split.scheme) := hlower.symm ▸ haccepts.isWebScheme
    have := @urlsplit_of_parts tools split.scheme
      (canonicalNetloc split.scheme normalized.host normalized.port) _ _ hweb
      (fun c hc => by
        rcases canonicalNetloc_mem hhost.names hc with hname | rfl
        · rw [Bool.eq_false_iff]
          intro hdelimiter
          unfold isDelimiter at hdelimiter
          simp only [List.mem_cons, List.not_mem_nil, or_false, decide_eq_true_eq] at hdelimiter
          rcases hdelimiter with rfl | rfl | rfl
          · exact absurd hname (by decide)
          · exact absurd hname (by decide)
          · exact absurd hname (by decide)
        · rfl)
      (hnot '[' (by decide) (by decide)) (hnot ']' (by decide) (by decide)) htail
    rw [hlower] at this
    rw [haccepts.value_eq]
    exact this
  rw [normalizeUrl_eq_ok]
  constructor
  · rintro ⟨_, _, _, _, hagain⟩
    exact hagain.length
  · intro hlength
    have hport : normalized.port ≤ 65535 := by
      rw [haccepts.port_eq]
      exact portOf_le haccepts.port
    have hurl : ∀ c, c ∈ split.path ∨ c ∈ query → isUrlChar c = true := by
      intro c hc
      apply haccepts.characters
      rw [hparts.text]
      rcases hc with hc | hc <;> simp [hc]
    refine ⟨?_, _, if normalized.port = defaultPort split.scheme then none
      else some normalized.port, normalized.host, hlength, ?_, ?_, hsplit, haccepts.scheme, ?_,
      hnot '@' (by decide) (by decide), rfl, portOf_canonicalNetloc hhost.names hport,
      hostname_canonicalNetloc hhost, fun hc => absurd (hhost.names _ hc) (by decide),
      hhost.accepted, haccepts.scheme_eq, ?_, haccepts.httpsPort, ?_⟩
    · rw [haccepts.value_eq]
      simp [urlunsplit]
    · intro c hc
      rw [haccepts.value_eq] at hc
      unfold urlunsplit at hc
      simp only [List.mem_append, or_assoc] at hc
      rcases hc with hc | hc | hc | hc | hc
      · revert hc
        rcases haccepts.isWebScheme with hs | hs
        · rw [hs]
          revert c
          exact forall_mem_of_all (by decide)
        · rw [hs]
          revert c
          exact forall_mem_of_all (by decide)
      · revert hc
        revert c
        exact forall_mem_of_all (by decide)
      · rcases canonicalNetloc_mem hhost.names hc with hname | rfl
        · exact isUrlChar_isNameChar hname
        · decide
      · by_cases hpath : split.path = []
        · rw [if_pos hpath, List.mem_singleton] at hc
          rw [hc]
          decide
        · rw [if_neg hpath] at hc
          exact hurl c (.inl hc)
      · rcases hparts.query with hq | ⟨_, hnil⟩
        · exact hurl c (.inr (hq.symm ▸ hc))
        · rw [if_pos hnil] at hc
          cases hc
    · have hplain : '%' ∉ split.scheme ++ lit "://" ++
          canonicalNetloc split.scheme normalized.host normalized.port := by
        rw [List.mem_append, List.mem_append]
        rintro ((hc | hc) | hc)
        · rcases haccepts.isWebScheme with hs | hs
          · rw [hs] at hc
            exact absurd hc (by decide)
          · rw [hs] at hc
            exact absurd hc (by decide)
        · exact absurd hc (by decide)
        · exact hnot '%' (by decide) (by decide) hc
      rw [haccepts.value_eq, urlunsplit, List.append_assoc, percentsValid_plain hplain]
      exact hparts.percents haccepts.percents
    · show canonicalNetloc split.scheme normalized.host normalized.port ≠ []
      unfold canonicalNetloc
      split
      · exact hhost.nonempty
      · simp
    · show normalized.port = effectivePort split.scheme _
      by_cases hdefault : normalized.port = defaultPort split.scheme
      · rw [if_pos hdefault]
        exact hdefault
      · rw [if_neg hdefault, effectivePort_some]
        rw [haccepts.port_eq]
        exact effectivePort_ne_zero _ _
    · have hslash : pathOrSlash split.path ≠ [] := by
        unfold pathOrSlash
        by_cases hpath : split.path = []
        · rw [if_pos hpath]
          exact List.cons_ne_nil _ _
        · rw [if_neg hpath]
          exact hpath
      rw [haccepts.value_eq, if_neg hslash]
      rfl

end Normalize

/-! ## Where the slash does not fit -/

/-- A host that `canonical_host` makes no shorter. -/
def HostWritten (host : Text) : Prop :=
  (∀ c ∈ host, c.isAlphanum = true ∨ c = '-' ∨ c = '.') ∧ host.getLast? ≠ some '.'

/-- An authority that is a host alone, or for `http` a host and a port without a leading
zero that is not the default one. -/
def AuthorityWritten (scheme netloc : Text) : Prop :=
  HostWritten netloc ∨
    (scheme = httpScheme ∧ ∃ host port, netloc = host ++ ':' :: port ∧ HostWritten host ∧
      port ≠ [] ∧ (∀ c ∈ port, c.isDigit = true) ∧
      (Nat.toDigits 10 (Nat.ofDigitChars 10 port 0)).length = port.length ∧
      Nat.ofDigitChars 10 port 0 ≠ 0 ∧ Nat.ofDigitChars 10 port 0 ≠ 80)

/-- A URL of 8192 characters that consists of a scheme, such an authority and a query or
none: there is no room for the slash. -/
def Tight (url : Text) : Prop :=
  url.length = 8192 ∧ ∃ scheme netloc query,
    url = scheme ++ lit "://" ++ netloc ++ queryPart query ∧
      isWebScheme (asciiLower scheme) ∧ '#' ∉ query ∧
      AuthorityWritten (asciiLower scheme) netloc

theorem ofDigitChars_lt {digits : Text} (h : ∀ c ∈ digits, c.isDigit = true) :
    Nat.ofDigitChars 10 digits 0 < 10 ^ digits.length := by
  induction digits with
  | nil => simp
  | cons c digits ih =>
    rw [List.forall_mem_cons] at h
    have hc : c.toNat - '0'.toNat ≤ 9 := by
      have hdigit := h.1
      have hrange : c.toNat ≤ 57 := by
        simp only [Char.isDigit, Bool.and_eq_true, decide_eq_true_eq] at hdigit
        exact UInt32.le_iff_toNat_le.mp hdigit.2
      have hzero : '0'.toNat = 48 := rfl
      omega
    have ih := ih h.2
    rw [Nat.ofDigitChars_cons, Nat.ofDigitChars_eq_ofDigitChars_zero, List.length_cons,
      Nat.pow_succ, Nat.mul_zero, Nat.zero_add]
    calc 10 ^ digits.length * (c.toNat - '0'.toNat) + Nat.ofDigitChars 10 digits 0
        < 10 ^ digits.length * 9 + 10 ^ digits.length :=
          Nat.add_lt_add_of_le_of_lt (Nat.mul_le_mul_left _ hc) ih
      _ = 10 ^ digits.length * 10 := by omega

theorem length_toDigits_le {digits : Text} (hne : digits ≠ [])
    (h : ∀ c ∈ digits, c.isDigit = true) :
    (Nat.toDigits 10 (Nat.ofDigitChars 10 digits 0)).length ≤ digits.length :=
  (Nat.length_toDigits_le_iff (by decide) (List.length_pos_iff.mpr hne)).mpr (ofDigitChars_lt h)

section Length

variable {tools : UrlTools} {allowHttp : Bool} {url : Text} {normalized : NormalizedUrl}
  {split : SplitResult} {rawPort : Option ℕ} {rawHost : Text}

theorem length_before_behind (c : Char) (text : Text) :
    text.length = (before c text).length +
      (if c ∈ text then 1 + (behind c text).length else 0) := by
  have := congrArg List.length (before_behind c text)
  rw [List.length_append] at this
  by_cases hc : c ∈ text
  · rw [if_pos hc, List.length_cons] at this
    rw [if_pos hc]
    omega
  · rw [if_neg hc] at this
    rw [if_neg hc]
    exact this

theorem behind_length_lt {c : Char} {text : Text} (h : behind c text ≠ []) :
    (before c text).length + 1 + (behind c text).length = text.length := by
  have := length_before_behind c text
  by_cases hc : c ∈ text
  · rw [if_pos hc] at this
    omega
  · exact absurd (behind_of_not_mem hc) h

theorem hostinfo_brackets {netloc : Text} (hat : '@' ∉ netloc) (hopen : '[' ∈ netloc) :
    (hostinfo netloc).1.length +
      (if (hostinfo netloc).2 = [] then 0 else 1 + (hostinfo netloc).2.length) <
        netloc.length := by
  unfold hostinfo
  dsimp only
  rw [behindLast_of_not_mem hat, if_pos hopen]
  dsimp only
  have houter := length_before_behind '[' netloc
  rw [if_pos hopen] at houter
  have hhost := length_before_behind ']' (behind '[' netloc)
  by_cases hport : behind ':' (behind ']' (behind '[' netloc)) = []
  · rw [if_pos hport]
    split at hhost
    · omega
    omega
  · rw [if_neg hport]
    have hcolon := behind_length_lt hport
    have hclose : ']' ∈ behind '[' netloc := by
      by_contra hnot
      rw [behind_of_not_mem hnot] at hport
      exact hport rfl
    rw [if_pos hclose] at hhost
    omega

theorem hostname_length {netloc raw : Text} (h : hostname netloc = some raw) :
    raw.length = (hostinfo netloc).1.length := by
  unfold hostname at h
  dsimp only at h
  split at h
  · cases h
  rw [← Option.some.inj h, List.length_append, length_asciiLower]
  have := congrArg List.length
    (List.takeWhile_append_dropWhile (p := fun c => decide (c ≠ '%')) (l := (hostinfo netloc).1))
  rw [List.length_append] at this
  exact this

theorem Accepts.rawHost_length
    (h : Accepts tools allowHttp url normalized split rawPort rawHost) :
    normalized.host.length ≤ (hostinfo split.netloc).1.length := by
  rw [h.host_eq.1, length_asciiLower, ← hostname_length h.host]
  exact (List.rdropWhile_prefix _ _).length_le

theorem Accepts.hostWritten
    (h : Accepts tools allowHttp url normalized split rawPort rawHost)
    (hlength : normalized.host.length = (hostinfo split.netloc).1.length) :
    HostWritten (hostinfo split.netloc).1 := by
  obtain ⟨heq, hhost⟩ := h.host_eq
  have hkeep : rawHost.rdropWhile (· = '.') = rawHost := by
    refine (List.rdropWhile_prefix _ rawHost).eq_of_length ?_
    rw [← length_asciiLower, ← heq, hlength, hostname_length h.host]
  rw [hkeep] at heq
  have hname := h.host
  unfold hostname at hname
  dsimp only at hname
  split at hname
  · cases hname
  have hraw := Option.some.inj hname
  have hpercent : '%' ∉ (hostinfo split.netloc).1 := by
    intro hmem
    have hcut := before_behind '%' (hostinfo split.netloc).1
    rw [if_pos hmem] at hcut
    have hin : '%' ∈ rawHost := by
      rw [← hraw, List.mem_append]
      right
      have hdrop := List.takeWhile_append_dropWhile
        (p := fun c => decide (c ≠ '%')) (l := (hostinfo split.netloc).1)
      have hrest := List.append_cancel_left (hdrop.trans hcut)
      rw [hrest]
      exact List.mem_cons_self ..
    have hlower : '%' ∈ normalized.host := by
      rw [heq]
      exact List.mem_map.mpr ⟨'%', hin, rfl⟩
    exact absurd (hhost.names _ hlower) (by decide)
  have hdrop : (hostinfo split.netloc).1.dropWhile (fun c => decide (c ≠ '%')) = [] := by
    rw [List.dropWhile_eq_nil_iff]
    rintro c hc
    simp only [decide_eq_true_eq]
    rintro rfl
    exact hpercent hc
  rw [before_of_not_mem hpercent, hdrop, List.append_nil] at hraw
  constructor
  · intro c hc
    have hmem : c.toLower ∈ normalized.host := by
      rw [heq, ← hraw, asciiLower_asciiLower]
      exact List.mem_map_of_mem hc
    have hchar := hhost.names _ hmem
    by_cases hupper : c.isUpper = true
    · exact .inl (by simp [Char.isAlphanum, Char.isAlpha, hupper])
    rw [toLower_of_not_upper hupper] at hchar
    simp only [isNameChar, isHostChar, Bool.or_eq_true, decide_eq_true_eq] at hchar
    rcases hchar with ((hc | hc) | hc) | hc
    · exact .inl (by simp [Char.isAlphanum, Char.isAlpha, hc])
    · exact .inl (by simp [Char.isAlphanum, hc])
    · exact .inr (.inl hc)
    · exact .inr (.inr hc)
  · intro hlast
    have hdot : rawHost.getLast? = some '.' := by
      rw [← hraw, asciiLower, List.getLast?_map, hlast]
      rfl
    obtain ⟨init, hinit⟩ := List.getLast?_eq_some_iff.mp hdot
    rw [hinit, List.rdropWhile_concat_pos _ _ _ (by simp)] at hkeep
    have := congrArg List.length hkeep
    have hle := (List.rdropWhile_prefix (fun c => decide (c = '.')) init).length_le
    rw [List.length_append, List.length_singleton] at this
    omega

theorem Accepts.netloc_length
    (h : Accepts tools allowHttp url normalized split rawPort rawHost) :
    (canonicalNetloc split.scheme normalized.host normalized.port).length ≤
        split.netloc.length ∧
      ((canonicalNetloc split.scheme normalized.host normalized.port).length =
        split.netloc.length → AuthorityWritten split.scheme split.netloc) := by
  have hhost := h.rawHost_length
  -- the port that is written, where it is not the default one
  have hdigits : normalized.port ≠ defaultPort split.scheme →
      (hostinfo split.netloc).2 ≠ [] ∧
      normalized.port = Nat.ofDigitChars 10 (hostinfo split.netloc).2 0 ∧
      (∀ c ∈ (hostinfo split.netloc).2, c.isDigit = true) := by
    intro hdefault
    have hport := h.port
    unfold portOf at hport
    dsimp only at hport
    split at hport
    · rw [h.port_eq, ← Option.some.inj hport] at hdefault
      exact absurd rfl hdefault
    · next hne =>
        split at hport
        · next hcond =>
            simp only [Bool.and_eq_true, decide_eq_true_eq] at hcond
            refine ⟨hne, ?_, List.all_eq_true.mp hcond.1.1⟩
            rw [h.port_eq, ← Option.some.inj hport] at hdefault ⊢
            by_cases hzero : Nat.ofDigitChars 10 (hostinfo split.netloc).2 0 = 0
            · rw [hzero] at hdefault
              exact absurd rfl hdefault
            · exact effectivePort_some hzero
        · cases hport
  have hcanonical : (canonicalNetloc split.scheme normalized.host normalized.port).length ≤
      (hostinfo split.netloc).1.length + (if (hostinfo split.netloc).2 = [] then 0
        else 1 + (hostinfo split.netloc).2.length) := by
    unfold canonicalNetloc
    by_cases hdefault : normalized.port = defaultPort split.scheme
    · rw [if_pos hdefault]
      omega
    · obtain ⟨hne, hport, hall⟩ := hdigits hdefault
      rw [if_neg hdefault, if_neg hne, List.length_append, List.length_cons, hport]
      have := length_toDigits_le hne hall
      omega
  by_cases hopen : '[' ∈ split.netloc
  · have := hostinfo_brackets h.noUserinfo hopen
    exact ⟨by omega, fun heq => by omega⟩
  · have hinfo : hostinfo split.netloc = (before ':' split.netloc, behind ':' split.netloc) := by
      unfold hostinfo
      dsimp only
      rw [behindLast_of_not_mem h.noUserinfo, if_neg hopen]
    have hlength := length_before_behind ':' split.netloc
    have hcut := before_behind ':' split.netloc
    rw [hinfo] at hcanonical hhost hdigits
    dsimp only at hcanonical hhost hdigits
    constructor
    · by_cases hport : behind ':' split.netloc = []
      · rw [if_pos hport] at hcanonical
        split at hlength
        · omega
        omega
      · have := behind_length_lt hport
        rw [if_neg hport] at hcanonical
        omega
    · intro heq
      unfold canonicalNetloc at heq
      by_cases hdefault : normalized.port = defaultPort split.scheme
      · -- nothing but the host is left
        left
        rw [if_pos hdefault] at heq
        have hcolon : ':' ∉ split.netloc := by
          intro hmem
          rw [if_pos hmem] at hlength
          omega
        have hself := before_of_not_mem hcolon
        have hwritten := h.hostWritten (by rw [hinfo, hself]; exact heq)
        rw [hinfo, hself] at hwritten
        exact hwritten
      · right
        obtain ⟨hne, hport, hall⟩ := hdigits hdefault
        have hle := length_toDigits_le hne hall
        have hsum := behind_length_lt hne
        rw [if_neg hdefault, List.length_append, List.length_cons, hport] at heq
        have hhttp : split.scheme = httpScheme := by
          rcases h.scheme with hs | ⟨_, hs⟩
          · refine absurd ?_ hdefault
            rw [h.httpsPort hs, hs]
            rfl
          · exact hs
        have hcolon : ':' ∈ split.netloc := by
          by_contra hnot
          exact hne (behind_of_not_mem hnot)
        rw [if_pos hcolon] at hcut
        have hwritten := h.hostWritten (by rw [hinfo]; show _ = (before ':' _).length; omega)
        rw [hinfo] at hwritten
        refine ⟨hhttp, _, _, hcut, hwritten, hne, hall, by omega, ?_, ?_⟩
        · rw [← hport, h.port_eq]
          exact effectivePort_ne_zero _ _
        · rw [← hport]
          rw [hhttp] at hdefault
          exact hdefault

theorem Accepts.value_length
    (h : Accepts tools allowHttp url normalized split rawPort rawHost) :
    normalized.value.length = split.scheme.length + 3 +
      (canonicalNetloc split.scheme normalized.host normalized.port).length +
      (pathOrSlash split.path).length + (queryPart split.query).length := by
  rw [h.value_eq]
  unfold urlunsplit
  simp only [List.length_append]
  rfl

theorem HostWritten.not_mem {host : Text} (h : HostWritten host) {c : Char}
    (halpha : c.isAlphanum = false) (hdash : c ≠ '-') (hdot : c ≠ '.') : c ∉ host := by
  intro hc
  rcases h.1 c hc with h | h | h
  · rw [halpha] at h
    cases h
  · exact hdash h
  · exact hdot h

theorem HostWritten.length {host raw canonical : Text} (h : HostWritten host)
    (hraw : raw = asciiLower (before '%' host) ++ host.dropWhile (· ≠ '%'))
    (hcanonical : canonical = asciiLower (raw.rdropWhile (· = '.'))) :
    canonical.length = host.length := by
  have hpercent : '%' ∉ host := h.not_mem (by decide) (by decide) (by decide)
  have hdrop : host.dropWhile (fun c => decide (c ≠ '%')) = [] := by
    rw [List.dropWhile_eq_nil_iff]
    rintro c hc
    simp only [decide_eq_true_eq]
    rintro rfl
    exact hpercent hc
  rw [before_of_not_mem hpercent, hdrop, List.append_nil] at hraw
  rw [hcanonical, length_asciiLower, hraw, rdropWhile_asciiLower, length_asciiLower]
  have hkeep : host.rdropWhile (· = '.') = host := by
    rw [List.rdropWhile_eq_self_iff]
    intro hne hdot
    rw [decide_eq_true_eq] at hdot
    exact h.2 (by rw [List.getLast?_eq_some_getLast hne, hdot])
  rw [hkeep]

theorem Accepts.length_of_written
    (h : Accepts tools allowHttp url normalized split rawPort rawHost)
    (hwritten : AuthorityWritten split.scheme split.netloc) :
    (canonicalNetloc split.scheme normalized.host normalized.port).length =
      split.netloc.length := by
  have hname := h.host
  have hport := h.port
  unfold hostname at hname
  unfold portOf at hport
  dsimp only at hname hport
  rcases hwritten with hwritten | ⟨hhttp, host, port, hnetloc, hwritten, hne, hall, hdigits, hzero, h80⟩
  · have hinfo : hostinfo split.netloc = (split.netloc, []) :=
      hostinfo_host (hwritten.not_mem (by decide) (by decide) (by decide))
        (hwritten.not_mem (by decide) (by decide) (by decide))
        (hwritten.not_mem (by decide) (by decide) (by decide))
    rw [hinfo] at hname hport
    dsimp only at hname hport
    rw [if_pos rfl] at hport
    rw [if_neg h.netloc] at hname
    have hdefault : normalized.port = defaultPort split.scheme := by
      rw [h.port_eq, ← Option.some.inj hport]
      rfl
    unfold canonicalNetloc
    rw [if_pos hdefault]
    exact hwritten.length (Option.some.inj hname).symm h.host_eq.1
  · have hcolon : ':' ∉ host := hwritten.not_mem (by decide) (by decide) (by decide)
    have hopen : '[' ∉ host ++ ':' :: port := by
      rw [List.mem_append, List.mem_cons]
      rintro (hc | hc | hc)
      · exact hwritten.not_mem (by decide) (by decide) (by decide) hc
      · cases hc
      · exact absurd (hall _ hc) (by decide)
    have hinfo : hostinfo split.netloc = (host, port) := by
      rw [hnetloc]
      exact hostinfo_port hopen hcolon (hnetloc ▸ h.noUserinfo)
    rw [hinfo] at hname hport
    dsimp only at hname hport
    rw [if_neg hne] at hport
    split at hport
    · have hraw := Option.some.inj hport
      have hvalue : normalized.port = Nat.ofDigitChars 10 port 0 := by
        rw [h.port_eq, ← hraw, effectivePort_some hzero]
      have hdefault : normalized.port ≠ defaultPort split.scheme := by
        rw [hvalue, hhttp]
        exact h80
      have hhost : host ≠ [] := by
        rintro rfl
        cases hname
      rw [if_neg hhost] at hname
      unfold canonicalNetloc
      rw [if_neg hdefault, List.length_append, List.length_cons, hvalue, hdigits, hnetloc,
        List.length_append, List.length_cons,
        hwritten.length (Option.some.inj hname).symm h.host_eq.1]
    · cases hport

theorem AuthorityWritten.not_mem {scheme netloc : Text} (h : AuthorityWritten scheme netloc)
    {c : Char} (halpha : c.isAlphanum = false) (hdash : c ≠ '-') (hdot : c ≠ '.')
    (hcolon : c ≠ ':') : c ∉ netloc := by
  rcases h with h | ⟨_, host, port, rfl, hhost, _, hall, _⟩
  · exact h.not_mem halpha hdash hdot
  · rw [List.mem_append, List.mem_cons]
    rintro (hc | hc | hc)
    · exact hhost.not_mem halpha hdash hdot hc
    · exact hcolon hc
    · have := hall c hc
      simp [Char.isAlphanum, this] at halpha

/-- **The slash does not fit into a tight URL**, and into every other one it does. -/
theorem Accepts.fits_iff
    (h : Accepts tools allowHttp url normalized split rawPort rawHost) :
    normalized.value.length ≤ 8192 ↔ ¬ Tight url := by
  obtain ⟨written, query, fragment, hparts⟩ := h.parts
  have hscheme : written.length = split.scheme.length := by
    rw [← hparts.scheme, length_asciiLower]
  have hurl : url.length = split.scheme.length + 3 + split.netloc.length + split.path.length +
      query.length + fragment.length := by
    rw [hparts.text]
    simp only [List.length_append, hscheme]
    rfl
  have hvalue := h.value_length
  obtain ⟨hle, hequal⟩ := h.netloc_length
  constructor
  · rintro hfits ⟨hlength, scheme, netloc, query', htext, hweb, hfragment, hauthority⟩
    have hdelimiter : ∀ c ∈ netloc, isDelimiter c = false := by
      intro c hc
      rw [Bool.eq_false_iff]
      intro hdelimiter
      unfold isDelimiter at hdelimiter
      simp only [List.mem_cons, List.not_mem_nil, or_false, decide_eq_true_eq] at hdelimiter
      revert hc
      rcases hdelimiter with rfl | rfl | rfl
      · exact hauthority.not_mem (by decide) (by decide) (by decide) (by decide)
      · exact hauthority.not_mem (by decide) (by decide) (by decide) (by decide)
      · exact hauthority.not_mem (by decide) (by decide) (by decide) (by decide)
    have hsplit := @urlsplit_of_parts tools scheme netloc [] query' hweb hdelimiter
      (hauthority.not_mem (by decide) (by decide) (by decide) (by decide))
      (hauthority.not_mem (by decide) (by decide) (by decide) (by decide))
      ⟨.inl rfl, List.not_mem_nil, List.not_mem_nil, hfragment⟩
    rw [List.append_nil, ← htext, h.splits] at hsplit
    obtain rfl := Option.some.inj hsplit
    have hsame := h.length_of_written hauthority
    have htotal : url.length = scheme.length + 3 + netloc.length + (queryPart query').length := by
      rw [htext]
      simp only [List.length_append]
      rfl
    have hlower := length_asciiLower scheme
    have hone : (pathOrSlash []).length = 1 := rfl
    dsimp only at hvalue hsame
    omega
  · intro htight
    by_contra hlong
    apply htight
    have hquery : (queryPart split.query).length ≤ query.length ∧
        ((queryPart split.query).length = query.length → query = queryPart split.query) := by
      rcases hparts.query with hq | ⟨hq, hnil⟩
      · rw [← hq]
        exact ⟨le_rfl, fun _ => rfl⟩
      · rw [hq, hnil]
        exact ⟨Nat.zero_le _, fun hcontra => by cases hcontra⟩
    have hbound := h.length
    have hpath : split.path = [] := by
      by_contra hpath
      rw [pathOrSlash, if_neg hpath] at hvalue
      have := hquery.1
      omega
    have hone : (pathOrSlash split.path).length = 1 := by
      rw [hpath]
      rfl
    have hnil : split.path.length = 0 := by
      rw [hpath]
      rfl
    have hquery' := hquery.1
    have hfragment : fragment = [] := List.length_eq_zero_iff.mp (by omega)
    refine ⟨by omega, written, split.netloc, split.query, ?_, ?_, hparts.tail.noQueryFragment, ?_⟩
    · rw [hparts.text, hpath, hfragment, hquery.2 (by omega)]
      simp
    · rw [hparts.scheme]
      exact h.isWebScheme
    · rw [hparts.scheme]
      exact hequal (by omega)

end Length

/-- **Normalisation is idempotent** except for URLs without room for the slash. -/
theorem normalize_idempotent_iff {tools : UrlTools} {allowHttp : Bool} {url : Text}
    {normalized : NormalizedUrl} (h : normalizeUrl tools allowHttp url = .ok normalized) :
    normalizeUrl tools allowHttp normalized.value = .ok normalized ↔ ¬ Tight url := by
  obtain ⟨_, split, rawPort, rawHost, haccepts⟩ := normalizeUrl_eq_ok.mp h
  rw [normalize_again h, haccepts.fits_iff]

end Ecosystem.Research
