import Ecosystem.Skills.Registry

/-!
# The instructions of the projections

The native renderer looks for the end of a front matter in a text that starts with one;
the aggregate renderer cuts every text behind the first line of dashes from its fifth
character on.  The projections carry all `instructions` if and only if no text has such a
line where the front matter does not end.
-/

namespace Ecosystem.Skills

open Ecosystem.Lib Ecosystem.Lib.Checks
open Ecosystem.Projections (lit RawContent Failure)

/-! ## Stripped texts -/

theorem rstrip_append (a b : Text) :
    rstrip (a ++ b) = if rstrip b = [] then rstrip a else a ++ rstrip b := by
  induction b using List.reverseRecOn with
  | nil => simp [rstrip]
  | append_singleton b c ih =>
    rw [← List.append_assoc]
    by_cases hc : isSpace c = true
    · rw [rstrip_concat_space hc, rstrip_concat_space hc, ih]
    · have hkeep : ∀ x : Text, rstrip (x ++ [c]) = x ++ [c] := fun x =>
        List.rdropWhile_concat_neg _ _ _ hc
      rw [hkeep, hkeep, if_neg (by simp), List.append_assoc]

variable {a : Text} {skill : Skill} {skills : List Skill}
  {resourceReader : Text → Option RawContent}

theorem lstrip_append (b : Text) (ha : ∃ c ∈ a, isSpace c = false) :
    lstrip (a ++ b) = lstrip a ++ b := by
  induction a with
  | nil =>
    obtain ⟨c, hc, _⟩ := ha
    cases hc
  | cons c a ih =>
    by_cases hc : isSpace c = true
    · have hrest : ∃ c ∈ a, isSpace c = false := by
        obtain ⟨d, hd, hspace⟩ := ha
        rcases List.mem_cons.mp hd with rfl | hd
        · rw [hc] at hspace
          cases hspace
        · exact ⟨d, hd, hspace⟩
      show (c :: (a ++ b)).dropWhile isSpace = (c :: a).dropWhile isSpace ++ b
      rw [List.dropWhile_cons_of_pos hc, List.dropWhile_cons_of_pos hc]
      exact ih hrest
    · show (c :: (a ++ b)).dropWhile isSpace = (c :: a).dropWhile isSpace ++ b
      rw [List.dropWhile_cons_of_neg hc, List.dropWhile_cons_of_neg hc]
      rfl

theorem lstrip_ne_nil (ha : ∃ c ∈ a, isSpace c = false) : lstrip a ≠ [] := by
  intro hnil
  obtain ⟨c, hc, hspace⟩ := ha
  rw [lstrip, List.dropWhile_eq_nil_iff] at hnil
  rw [hnil c hc] at hspace
  cases hspace

theorem rstrip_visible (ha : ∃ c ∈ a, isSpace c = false) :
    ∃ c ∈ rstrip a, isSpace c = false := by
  induction a using List.reverseRecOn with
  | nil =>
    obtain ⟨c, hc, _⟩ := ha
    cases hc
  | append_singleton a d ih =>
    by_cases hd : isSpace d = true
    · rw [rstrip_concat_space hd]
      obtain ⟨c, hc, hspace⟩ := ha
      rw [List.mem_append, List.mem_singleton] at hc
      rcases hc with hc | rfl
      · exact ih ⟨c, hc, hspace⟩
      · rw [hd] at hspace
        cases hspace
    · rw [rstrip, List.rdropWhile_concat_neg _ _ _ hd]
      exact ⟨d, by simp, Bool.eq_false_iff.mpr hd⟩

theorem strip_length_lt (b : Text) (ha : ∃ c ∈ a, isSpace c = false) :
    (strip b).length < (strip (a ++ b)).length := by
  have hpos : 0 < (lstrip a).length := List.length_pos_iff.mpr (lstrip_ne_nil ha)
  rw [strip, strip, rstrip_append]
  by_cases hb : rstrip b = []
  · rw [if_pos hb, hb]
    exact List.length_pos_iff.mpr (lstrip_ne_nil (rstrip_visible ha))
  · rw [if_neg hb, lstrip_append _ ha, List.length_append]
    have hle : (lstrip (rstrip b)).length ≤ (rstrip b).length :=
      (List.dropWhile_suffix _).length_le
    omega

/-! ## Front matters -/

/-- **The text of a skill behind its front matter**, which is closed by the first line of
dashes below the one that opens it. -/
def instructions (text : Text) : Text :=
  if startsFrontMatter text then
    match cutFirst frontMatterEnd (text.drop 3) with
    | some (_, rest) => rest
    | none => text
  else text

/-- No line of dashes where the front matter does not end: the front matter is not an
empty one, and without a front matter there is none from the fifth character on. -/
def Delimited (text : Text) : Prop :=
  if startsFrontMatter text then ¬ lit "---\n---\n" <+: text
  else ¬ frontMatterEnd <:+: text.drop 4

instance (text : Text) : Decidable (Delimited text) := by
  unfold Delimited
  infer_instance

theorem frontMatterEnd_visible (before : Text) :
    ∃ c ∈ before ++ frontMatterEnd, isSpace c = false :=
  ⟨'-', List.mem_append_right _ (by decide), by decide⟩

theorem findEnd_eq_some {text front rest : Text} (h : findEnd text = some (front, rest)) :
    text = front ++ frontMatterEnd ++ rest ∧ ∃ before, front = text.take 4 ++ before ∧
        cutFirst frontMatterEnd (text.drop 4) = some (before, rest) := by
  unfold findEnd at h
  obtain ⟨⟨before, rest'⟩, hcut, hpair⟩ := Option.map_eq_some_iff.mp h
  obtain ⟨rfl, rfl⟩ := Prod.mk.inj hpair
  refine ⟨?_, before, rfl, hcut⟩
  have hdrop := (cutFirst_eq_some hcut).1
  calc text = text.take 4 ++ text.drop 4 := (List.take_append_drop 4 text).symm
    _ = text.take 4 ++ before ++ frontMatterEnd ++ rest' := by
      rw [hdrop]
      simp only [List.append_assoc]

theorem drop_three {text : Text} (h : startsFrontMatter text = true) :
    text.drop 3 = '\n' :: text.drop 4 := by
  obtain ⟨rest, rfl⟩ := List.isPrefixOf_iff_prefix.mp h
  rfl

theorem frontMatterEnd_leads {text : Text} (h : startsFrontMatter text = true) :
    frontMatterEnd.isPrefixOf ('\n' :: text.drop 4) = true ↔ lit "---\n---\n" <+: text := by
  obtain ⟨rest, rfl⟩ := List.isPrefixOf_iff_prefix.mp h
  rw [List.isPrefixOf_iff_prefix]
  show '\n' :: lit "---\n" <+: '\n' :: rest ↔ lit "---\n" ++ lit "---\n" <+: lit "---\n" ++ rest
  rw [List.cons_prefix_cons, List.prefix_append_right_inj]
  simp

theorem aggregateBody_eq (skill : Skill) : aggregateBody skill =
    match cutFirst frontMatterEnd (skill.text.drop 4) with
    | some (_, rest) => rest
    | none => skill.text := by
  unfold aggregateBody findEnd
  cases cutFirst frontMatterEnd (skill.text.drop 4) <;> rfl

theorem aggregateBody_of_delimited (h : Delimited skill.text) :
    aggregateBody skill = instructions skill.text := by
  rw [aggregateBody_eq]
  unfold Delimited at h
  unfold instructions
  by_cases hstart : startsFrontMatter skill.text = true
  · rw [if_pos hstart] at h ⊢
    rw [drop_three hstart]
    have hnot : ¬ frontMatterEnd.isPrefixOf ('\n' :: skill.text.drop 4) = true :=
      fun hp => h ((frontMatterEnd_leads hstart).mp hp)
    conv_rhs => rw [cutFirst, if_neg hnot]
    cases cutFirst frontMatterEnd (skill.text.drop 4) <;> rfl
  · rw [if_neg hstart] at h ⊢
    rw [cutFirst_eq_none.mpr h]

theorem aggregateBody_of_not_delimited (h : ¬ Delimited skill.text)
    (hnative : startsFrontMatter skill.text = true → (findEnd skill.text).isSome) :
    (strip (aggregateBody skill)).length < (strip (instructions skill.text)).length := by
  unfold Delimited at h
  unfold aggregateBody instructions
  by_cases hstart : startsFrontMatter skill.text = true
  · rw [if_pos hstart] at h ⊢
    rw [not_not] at h
    obtain ⟨⟨front, rest⟩, hfind⟩ := Option.isSome_iff_exists.mp (hnative hstart)
    obtain ⟨htext, before, hfront, hcut⟩ := findEnd_eq_some hfind
    rw [hfind, drop_three hstart, cutFirst, if_pos ((frontMatterEnd_leads hstart).mpr h)]
    show (strip rest).length < (strip (('\n' :: skill.text.drop 4).drop 5)).length
    obtain ⟨tail, htail⟩ := h
    -- the closing line that was found stands below the first one
    have hdrop : skill.text.drop 4 = lit "---\n" ++ tail := by
      rw [← htail]
      rfl
    have hbehind : ('\n' :: skill.text.drop 4).drop 5 = tail := by
      rw [hdrop]
      rfl
    have hcut' := (cutFirst_eq_some hcut).1
    rw [hdrop] at hcut'
    rw [hbehind]
    have hlate : 3 ≤ before.length := by
      by_contra hlt
      have hat : (lit "---\n" ++ tail)[before.length]? = some '\n' := by
        rw [hcut', List.append_assoc, List.getElem?_append_right le_rfl, Nat.sub_self]
        rfl
      have hcases : before.length = 0 ∨ before.length = 1 ∨ before.length = 2 := by omega
      rcases hcases with hn | hn | hn
      · rw [hn] at hat
        cases hat
      · rw [hn] at hat
        cases hat
      · rw [hn] at hat
        cases hat
    have hbreak : before ++ frontMatterEnd ++ rest =
        before ++ ['\n'] ++ (lit "---\n" ++ rest) := by
      rw [List.append_assoc, List.append_assoc]
      rfl
    obtain ⟨between, hbetween⟩ : ∃ between, lit "---\n" ++ between = before ++ ['\n'] := by
      refine @List.prefix_of_prefix_length_le _ _ _ (lit "---\n" ++ tail) ⟨tail, rfl⟩ ?_ ?_
      · rw [hcut']
        exact ⟨lit "---\n" ++ rest, hbreak.symm⟩
      · rw [List.length_append]
        show 4 ≤ before.length + 1
        omega
    have htail : tail = between ++ lit "---\n" ++ rest := by
      apply @List.append_cancel_left _ (lit "---\n")
      calc lit "---\n" ++ tail = before ++ frontMatterEnd ++ rest := hcut'
        _ = before ++ ['\n'] ++ (lit "---\n" ++ rest) := hbreak
        _ = lit "---\n" ++ (between ++ lit "---\n" ++ rest) := by
          rw [← hbetween]
          simp only [List.append_assoc]
    rw [htail]
    exact strip_length_lt rest ⟨'-', List.mem_append_right _ (by decide), by decide⟩
  · rw [if_neg hstart] at h ⊢
    rw [not_not] at h
    obtain ⟨⟨front, rest⟩, hfind⟩ : ∃ cut, findEnd skill.text = some cut := by
      cases hcut : cutFirst frontMatterEnd (skill.text.drop 4) with
      | none => exact absurd h (cutFirst_eq_none.mp hcut)
      | some cut => exact ⟨_, by rw [findEnd, hcut]; rfl⟩
    rw [hfind]
    show (strip rest).length < (strip skill.text).length
    rw [(findEnd_eq_some hfind).1]
    exact strip_length_lt rest (frontMatterEnd_visible front)

/-! ## Aggregate projections -/

theorem intercalate_length (line : Text) (lines : List Text) :
    ((lit "\n").intercalate (line :: lines)).length =
      line.length + (lines.map (·.length + 1)).sum := by
  induction lines generalizing line with
  | nil => simp
  | cons next lines ih =>
    rw [List.intercalate_cons_cons, List.length_append, List.length_append, ih]
    show line.length + 1 + _ = _
    rw [List.map_cons, List.sum_cons]
    omega

theorem intercalate_concat (lines : List Text) (line rest : Text) :
    (lit "\n").intercalate (lines ++ [line, [], rest, []]) =
      (lit "\n").intercalate (lines ++ [line]) ++
        (lit "\n" ++ (lit "\n" ++ (rest ++ lit "\n"))) := by
  induction lines with
  | nil => simp
  | cons first lines ih =>
    cases lines with
    | nil => simp
    | cons second lines =>
      simp only [List.cons_append, List.intercalate_cons_cons] at ih ⊢
      rw [ih]
      simp only [List.append_assoc]

def sections (body : Skill → Text) (skills : List Skill) : List Text :=
  skills.flatMap fun skill => sectionLines skill (body skill)

theorem sections_length_le {body body' : Skill → Text}
    (h : ∀ skill ∈ skills, (strip (body skill)).length ≤ (strip (body' skill)).length) :
    ((sections body skills).map (·.length + 1)).sum ≤
      ((sections body' skills).map (·.length + 1)).sum := by
  induction skills with
  | nil => exact le_rfl
  | cons skill skills ih =>
    rw [List.forall_mem_cons] at h
    have hrest := ih h.2
    have hfirst := h.1
    simp only [sections, sectionLines, List.flatMap_cons, List.map_append, List.map_cons,
      List.map_nil, List.sum_append, List.sum_cons, List.sum_nil] at hrest ⊢
    omega

theorem intercalate_getLast {line : Text} {c : Char} (h : line.getLast? = some c)
    (lines : List Text) :
    ((lit "\n").intercalate (lines ++ [line])).getLast? = some c := by
  induction lines with
  | nil => simpa using h
  | cons first lines ih =>
    obtain ⟨second, rest, hcons⟩ : ∃ second rest, lines ++ [line] = second :: rest :=
      List.exists_cons_of_ne_nil (by simp)
    rw [hcons] at ih
    rw [List.cons_append, hcons, List.intercalate_cons_cons, List.getLast?_append, ih]
    rfl

theorem heading_getLast (skill : Skill) : (heading skill).getLast? = some ')' := by
  rw [heading, List.getLast?_append]
  rfl

theorem rstrip_strip (text : Text) : rstrip (strip text) = strip text := by
  rw [strip, rstrip, List.rdropWhile_eq_self_iff]
  intro hne
  have hsuffix : lstrip (rstrip text) <:+ rstrip text := List.dropWhile_suffix _
  have hne' : rstrip text ≠ [] := by
    rintro hnil
    rw [hnil] at hne
    exact hne rfl
  have hlast : (lstrip (rstrip text)).getLast hne = (rstrip text).getLast hne' :=
    hsuffix.getLast hne
  rw [hlast]
  exact List.rdropWhile_last_not _ _ hne'

/-- What stripping leaves below the heading of the last skill. -/
def lastBody (body : Text) : Text :=
  if strip body = [] then [] else lit "\n\n" ++ strip body

theorem rstrip_below (body : Text) :
    rstrip (lit "\n" ++ (lit "\n" ++ (strip body ++ lit "\n"))) = lastBody body := by
  have hbreak : rstrip (strip body ++ lit "\n") = strip body := by
    show rstrip (strip body ++ ['\n']) = strip body
    rw [rstrip_concat_space (by decide), rstrip_strip]
  rw [rstrip_append, rstrip_append, hbreak, lastBody]
  by_cases hnil : strip body = []
  · rw [if_pos hnil, if_pos hnil]
    rfl
  · rw [if_neg hnil, if_neg hnil, if_neg (by simp)]
    rfl

theorem aggregateWith_concat (body : Skill → Text) {registry : Registry} (surface : Surface)
    {last : Skill} (hskills : registry.skills.filter (!·.revoked) = skills ++ [last]) :
    aggregateWith body registry surface =
      (lit "\n").intercalate (aggregateHeader surface registry.digest ++
        sections body skills ++ [heading last]) ++ lastBody (body last) ++ lit "\n" := by
  have hlines : aggregateHeader surface registry.digest ++ sections body (skills ++ [last]) =
      (aggregateHeader surface registry.digest ++ sections body skills) ++
        [heading last, [], strip (body last), []] := by
    rw [sections, sections, List.flatMap_append, List.append_assoc]
    rfl
  have hspace : isSpace ')' = false := by decide
  rw [aggregateWith, hskills]
  show rstrip (List.intercalate _ (_ ++ sections body _)) ++ _ = _
  rw [hlines, intercalate_concat,
    rstrip_append_of_getLast (intercalate_getLast (heading_getLast last) _) hspace,
    rstrip_below]

theorem lastBody_length_le {body body' : Text}
    (h : (strip body).length ≤ (strip body').length) :
    (lastBody body).length ≤ (lastBody body').length := by
  unfold lastBody
  by_cases hnil : strip body = []
  · rw [if_pos hnil]
    exact Nat.zero_le _
  · have hnil' : strip body' ≠ [] := by
      rintro hnil'
      rw [hnil', List.length_nil, Nat.le_zero, List.length_eq_zero_iff] at h
      exact hnil h
    rw [if_neg hnil, if_neg hnil', List.length_append, List.length_append]
    omega

theorem lastBody_length_lt {body body' : Text}
    (h : (strip body).length < (strip body').length) :
    (lastBody body).length < (lastBody body').length := by
  have hnil' : strip body' ≠ [] := List.length_pos_iff.mp (by omega)
  unfold lastBody
  rw [if_neg hnil', List.length_append]
  by_cases hnil : strip body = []
  · rw [if_pos hnil, List.length_nil]
    show 0 < 2 + _
    omega
  · rw [if_neg hnil, List.length_append]
    omega

theorem sections_length_lt {body body' : Skill → Text}
    (h : ∀ skill ∈ skills, (strip (body skill)).length ≤ (strip (body' skill)).length)
    (hmem : skill ∈ skills)
    (hlt : (strip (body skill)).length < (strip (body' skill)).length) :
    ((sections body skills).map (·.length + 1)).sum <
      ((sections body' skills).map (·.length + 1)).sum := by
  obtain ⟨before, after, rfl⟩ := List.append_of_mem hmem
  rw [List.forall_mem_append, List.forall_mem_cons] at h
  have hbefore := sections_length_le h.1
  have hafter := sections_length_le h.2.2
  simp only [sections, sectionLines, List.flatMap_append, List.flatMap_cons, List.map_append,
    List.map_cons, List.map_nil, List.sum_append, List.sum_cons, List.sum_nil]
    at hbefore hafter ⊢
  omega

/-- **Aggregate projections tell bodies apart**: where one renderer drops a visible part
of a body and never adds to one, the two files are not the same. -/
theorem aggregateWith_ne {body body' : Skill → Text} {registry : Registry} (surface : Surface)
    (hle : ∀ skill ∈ registry.skills, skill.revoked = false →
      (strip (body skill)).length ≤ (strip (body' skill)).length)
    (hmem : skill ∈ registry.skills) (hrevoked : skill.revoked = false)
    (hlt : (strip (body skill)).length < (strip (body' skill)).length) :
    aggregateWith body registry surface ≠ aggregateWith body' registry surface := by
  have hin : skill ∈ registry.skills.filter (!·.revoked) :=
    List.mem_filter.mpr ⟨hmem, by rw [hrevoked]; rfl⟩
  have hle' : ∀ skill ∈ registry.skills.filter (!·.revoked),
      (strip (body skill)).length ≤ (strip (body' skill)).length := by
    intro skill hskill
    obtain ⟨hskill, hnot⟩ := List.mem_filter.mp hskill
    exact hle skill hskill (by simpa using hnot)
  rcases List.eq_nil_or_concat (registry.skills.filter (!·.revoked)) with hnil | ⟨skills, last, hskills⟩
  · rw [hnil] at hin
    cases hin
  · rw [List.concat_eq_append] at hskills
    rw [hskills] at hin hle'
    rw [List.forall_mem_append, List.forall_mem_singleton] at hle'
    have hall := sections_length_le hle'.1
    have hlast := lastBody_length_le hle'.2
    obtain ⟨line, lines, hheader⟩ : ∃ line lines,
        aggregateHeader surface registry.digest = line :: lines :=
      List.exists_cons_of_ne_nil (by simp [aggregateHeader])
    rw [aggregateWith_concat body surface hskills, aggregateWith_concat body' surface hskills]
    intro heq
    have hlength := congrArg List.length heq
    simp only [List.length_append, hheader, List.cons_append, intercalate_length,
      List.map_append, List.sum_append] at hlength
    rcases List.mem_append.mp hin with hin | hin
    · have hstrict := sections_length_lt hle'.1 hin hlt
      omega
    · obtain rfl := List.mem_singleton.mp hin
      have hstrict := lastBody_length_lt hlt
      omega

/-! ## The projections of a registry -/

variable {prims : Primitives} {registry : Registry} {items : List Projection}

abbrev Registry.Projects (registry : Registry) (skill : Skill) : Prop :=
  skill ∈ registry.skills ∧ skill.revoked = false

theorem mem_unrevoked :
    skill ∈ registry.skills.filter (!·.revoked) ↔ registry.Projects skill := by
  rw [List.mem_filter]
  simp

/-- The files of `_projections`: one for each native surface and skill that is not
revoked, and one for each of the two other surfaces. -/
theorem mem_projections (h : projections prims registry = .ok items) (item : Projection) :
    item ∈ items ↔ (∃ native ∈ nativeRoots, ∃ skill, registry.Projects skill ∧
        nativeProjection registry.digest native.1 native.2 skill = .ok item) ∨
      ∃ aggregate ∈ aggregateFiles, item = aggregateProjection registry aggregate := by
  unfold projections at h
  obtain ⟨natives, hnatives, h⟩ := bind_eq_ok.mp h
  obtain ⟨_, h⟩ := require_bind_eq_ok.mp h
  obtain rfl := Except.ok.inj h
  rw [mem_sortOn, List.mem_append, List.mem_flatten]
  refine or_congr ?_ ?_
  · constructor
    · rintro ⟨some, hsome, hitem⟩
      obtain ⟨native, hnative, hf⟩ := (mem_of_mapM hnatives).mp hsome
      obtain ⟨skill, hskill, hprojection⟩ := (mem_of_mapM hf).mp hitem
      exact ⟨native, hnative, skill, mem_unrevoked.mp hskill, hprojection⟩
    · rintro ⟨native, hnative, skill, hskill, hprojection⟩
      have hmem : native ∈ nativeRoots := hnative
      obtain ⟨some, hf⟩ := exists_mapM_eq_ok.mp ⟨natives, hnatives⟩ native hmem
      refine ⟨some, (mem_of_mapM hnatives).mpr ⟨native, hmem, hf⟩, ?_⟩
      exact (mem_of_mapM hf).mpr ⟨skill, mem_unrevoked.mpr hskill, hprojection⟩
  · rw [List.mem_map]
    exact exists_congr fun aggregate => and_congr_right fun _ => eq_comm

theorem exists_native (h : projections prims registry = .ok items)
    {native : Surface × Text} (hnative : native ∈ nativeRoots)
    (hskill : registry.Projects skill) :
    ∃ content, nativeContent skill native.1 registry.digest = .ok content ∧
      { path := nativePath native.2 skill.identifier, surface := native.1,
        skillId := some skill.identifier, content } ∈ items := by
  have hresult := h
  unfold projections at hresult
  obtain ⟨natives, hnatives, _⟩ := bind_eq_ok.mp hresult
  obtain ⟨some, hf⟩ := exists_mapM_eq_ok.mp ⟨natives, hnatives⟩ native hnative
  obtain ⟨item, hitem⟩ := exists_mapM_eq_ok.mp ⟨some, hf⟩ skill (mem_unrevoked.mpr hskill)
  have hprojection := hitem
  unfold nativeProjection at hitem
  obtain ⟨content, hcontent, hitem⟩ := bind_eq_ok.mp hitem
  refine ⟨content, hcontent, ?_⟩
  rw [Except.ok.inj hitem]
  exact (mem_projections h item).mpr (.inl ⟨native, hnative, skill, hskill, hprojection⟩)

/-! ## What is carried -/

/-- The instructions of every skill stand complete in its four native files, behind the
front matter and the marker, and in both common files, under the heading of the skill
and in the order of the registry. -/
structure Carries (registry : Registry) (items : List Projection) : Prop where
  native : ∀ native ∈ nativeRoots, ∀ skill, registry.Projects skill →
    ∃ item ∈ items, item.surface = native.1 ∧ item.skillId = some skill.identifier ∧
      ∃ front body, item.content = front ++
          marker native.1 registry.digest (some skill.identifier) ++ lit "\n\n" ++ body ∧
        strip body = strip (instructions skill.text)
  aggregate : ∀ aggregate ∈ aggregateFiles, ∃ item ∈ items,
    item.surface = aggregate.1 ∧ item.skillId = none ∧
      item.content =
        aggregateWith (fun skill => instructions skill.text) registry aggregate.1

/-- No file is the file of a revoked skill, and the files are the same whatever the
revoked skills are. -/
structure RevokedAbsent (prims : Primitives) (registry : Registry)
    (items : List Projection) : Prop where
  unnamed : ∀ item ∈ items, ∀ skill ∈ registry.skills, skill.revoked = true →
    item.skillId ≠ some skill.identifier
  independent : ∀ skills : List Skill,
    skills.filter (!·.revoked) = registry.skills.filter (!·.revoked) →
      projections prims { registry with skills } = .ok items

theorem nativeContent_of_delimited {surface : Surface}
    {registryDigest content : Text} (hdelimited : Delimited skill.text)
    (h : nativeContent skill surface registryDigest = .ok content) :
    ∃ front, content = front ++ marker surface registryDigest (some skill.identifier) ++
      lit "\n\n" ++ instructions skill.text := by
  have hbody := aggregateBody_of_delimited hdelimited
  unfold nativeContent at h
  by_cases hstart : startsFrontMatter skill.text = true
  · rw [if_pos hstart] at h
    unfold aggregateBody at hbody
    cases hfind : findEnd skill.text with
    | none =>
      rw [hfind] at h
      cases h
    | some cut =>
      rw [hfind] at h hbody
      refine ⟨cut.1 ++ frontMatterEnd, ?_⟩
      rw [← hbody]
      exact (Except.ok.inj h).symm
  · rw [if_neg hstart] at h
    refine ⟨[], ?_⟩
    rw [instructions, if_neg hstart, ← Except.ok.inj h]
    rfl

theorem findEnd_isSome {surface : Surface} {registryDigest content : Text}
    (h : nativeContent skill surface registryDigest = .ok content)
    (hstart : startsFrontMatter skill.text = true) : (findEnd skill.text).isSome := by
  unfold nativeContent at h
  rw [if_pos hstart] at h
  cases hfind : findEnd skill.text with
  | none =>
    rw [hfind] at h
    cases h
  | some cut => rfl

theorem native_ne_aggregate : ∀ native ∈ nativeRoots, ∀ aggregate ∈ aggregateFiles,
    native.1 ≠ aggregate.1 := by
  decide

theorem content_of_aggregate (h : projections prims registry = .ok items)
    {aggregate : Surface × Text} (haggregate : aggregate ∈ aggregateFiles)
    {item : Projection} (hitem : item ∈ items) (hsurface : item.surface = aggregate.1) :
    item.content = aggregateContent registry aggregate.1 := by
  rcases (mem_projections h item).mp hitem with ⟨native, hnative, skill, _, hf⟩ | ⟨other, _, rfl⟩
  · unfold nativeProjection at hf
    obtain ⟨content, _, hf⟩ := bind_eq_ok.mp hf
    have hsame : native.1 = aggregate.1 := by
      rw [← hsurface, ← Except.ok.inj hf]
    exact absurd hsame (native_ne_aggregate native hnative aggregate haggregate)
  · show aggregateContent registry other.1 = _
    rw [← hsurface]
    rfl

theorem carries_iff (h : projections prims registry = .ok items) :
    Carries registry items ↔ ∀ skill, registry.Projects skill → Delimited skill.text := by
  have hcodex : (Surface.codex, lit ".agents/skills") ∈ nativeRoots := List.mem_cons_self ..
  have hfound : ∀ skill, registry.Projects skill →
      startsFrontMatter skill.text = true → (findEnd skill.text).isSome := by
    intro skill hskill
    obtain ⟨content, hcontent, _⟩ := exists_native h hcodex hskill
    exact findEnd_isSome hcontent
  constructor
  · intro hcarries skill hskill
    by_contra hnot
    obtain ⟨item, hitem, hsurface, _, hcontent⟩ :=
      hcarries.aggregate (.copilot, _) (List.mem_cons_self ..)
    rw [content_of_aggregate h (List.mem_cons_self ..) hitem hsurface] at hcontent
    refine aggregateWith_ne .copilot ?_ hskill.1 hskill.2
      (aggregateBody_of_not_delimited hnot (hfound skill hskill)) hcontent
    intro other hmem hrevoked
    by_cases hother : Delimited other.text
    · rw [aggregateBody_of_delimited hother]
    · exact (aggregateBody_of_not_delimited hother (hfound other ⟨hmem, hrevoked⟩)).le
  · intro hdelimited
    constructor
    · intro native hnative skill hskill
      obtain ⟨content, hcontent, hmem⟩ := exists_native h hnative hskill
      obtain ⟨front, hfront⟩ := nativeContent_of_delimited (hdelimited skill hskill) hcontent
      exact ⟨_, hmem, rfl, rfl, front, _, hfront, rfl⟩
    · intro aggregate haggregate
      refine ⟨aggregateProjection registry aggregate,
        (mem_projections h _).mpr (.inr ⟨aggregate, haggregate, rfl⟩), rfl, rfl, ?_⟩
      show aggregateWith aggregateBody registry aggregate.1 = _
      unfold aggregateWith
      congr 4
      refine List.flatMap_congr fun skill hskill => ?_
      rw [aggregateBody_of_delimited (hdelimited skill (mem_unrevoked.mp hskill))]

/-! ## Revoked skills -/

theorem loadSkill_record {known : List Text} {record : SkillRecord}
    (h : loadSkill prims resourceReader known record = .ok skill) : skill.record = record := by
  unfold loadSkill at h
  obtain ⟨_, h⟩ := require_bind_eq_ok.mp h
  obtain ⟨_, h⟩ := require_bind_eq_ok.mp h
  obtain ⟨content, _, h⟩ := expect_bind_eq_ok.mp h
  obtain ⟨_, h⟩ := require_bind_eq_ok.mp h
  obtain ⟨decoded, _, h⟩ := bind_eq_ok.mp h
  obtain ⟨_, h⟩ := require_bind_eq_ok.mp h
  obtain ⟨_, h⟩ := require_bind_eq_ok.mp h
  obtain ⟨_, h⟩ := require_bind_eq_ok.mp h
  obtain ⟨_, h⟩ := require_bind_eq_ok.mp h
  rw [← Except.ok.inj h]

theorem validateRegistry_nodup {document : RegistryDocument}
    (h : validateRegistry prims resourceReader document = .ok registry) :
    (registry.skills.map Skill.identifier).Nodup := by
  unfold validateRegistry at h
  obtain ⟨_, h⟩ := require_bind_eq_ok.mp h
  obtain ⟨hidentifiers, h⟩ := require_bind_eq_ok.mp h
  obtain ⟨loaded, hloaded, h⟩ := bind_eq_ok.mp h
  obtain ⟨_, _, h⟩ := bind_eq_ok.mp h
  rw [← Except.ok.inj h]
  have hnodup : (document.skills.map (·.id)).Nodup := by
    simp only [Bool.and_eq_true, decide_eq_true_eq] at hidentifiers
    exact hidentifiers.1.2
  have hrecords : loaded.map Skill.identifier = document.skills.map (·.id) := by
    have hall := mapM_eq_ok.mp hloaded
    rw [← List.forall₂_eq_eq_eq, List.forall₂_map_left_iff, List.forall₂_map_right_iff]
    refine hall.flip.imp fun skill record hload => ?_
    rw [Skill.identifier, loadSkill_record hload]
  show (loaded.map Skill.identifier).Nodup
  rw [hrecords]
  exact hnodup

theorem revokedAbsent {document : RegistryDocument}
    (hvalid : validateRegistry prims resourceReader document = .ok registry)
    (h : projections prims registry = .ok items) : RevokedAbsent prims registry items := by
  constructor
  · intro item hitem skill hskill hrevoked heq
    rcases (mem_projections h item).mp hitem with ⟨_, _, other, hother, hf⟩ | ⟨_, _, rfl⟩
    · unfold nativeProjection at hf
      obtain ⟨content, _, hf⟩ := bind_eq_ok.mp hf
      rw [← Except.ok.inj hf] at heq
      have hsame : other = skill :=
        List.inj_on_of_nodup_map (validateRegistry_nodup hvalid) hother.1 hskill
          (Option.some.inj heq)
      rw [← hsame, hother.2] at hrevoked
      cases hrevoked
    · cases heq
  · intro skills hskills
    rw [← h]
    unfold projections nativeProjections aggregateProjection aggregateContent aggregateWith
    simp only [hskills]

/-- **Native and common files carry the same instructions** where every text that is not
revoked is delimited, and only there; of revoked skills they carry nothing. -/
theorem instructions_carried_iff {resourceReader : Text → Option RawContent}
    {document : RegistryDocument}
    (hvalid : validateRegistry prims resourceReader document = .ok registry)
    (h : projections prims registry = .ok items) :
    (Carries registry items ∧ RevokedAbsent prims registry items) ↔
      ∀ skill ∈ registry.skills, skill.revoked = false → Delimited skill.text := by
  rw [carries_iff h]
  constructor
  · rintro ⟨hdelimited, _⟩ skill hskill hrevoked
    exact hdelimited skill ⟨hskill, hrevoked⟩
  · intro hdelimited
    exact ⟨fun skill hskill => hdelimited skill hskill.1 hskill.2, revokedAbsent hvalid h⟩

/-! ## A line of dashes with and without a front matter -/

def notesText : Bool → Text
  | true => lit "---\nname: notes\n---\nRead the intro.\n"
  | false => lit "Read the intro.\n---\nThen act.\n"

def notesDigest : Bool → Text
  | true => lit "2de45b507a9712d010b1b61d82066b78f507b78f765ad312fac9e092585c5074"
  | false => lit "3029c47234838d9f0926d06f49c5fdcdf8b9fb59760388a336eb84371397eb91"

def notesRecord (front : Bool) : SkillRecord where
  id := lit "notes"
  version := lit "1.0.0"
  source := { uri := lit "package://eco_skills/catalog/notes", commit := lit "main" }
  contentDigest := notesDigest front
  license := lit "MIT"
  owner := lit "eco"
  capabilities := []
  dependencies := []
  tests := []
  evidence := []
  revocation := { revoked := false, reason := none }
  compatibility
    | .codex | .claude | .gemini => ⟨.native, []⟩
    | .portable => ⟨.portable, []⟩
    | .copilot | .cursor => ⟨.instructionOnly, [lit "instructions"]⟩
  resource := lit "notes/SKILL.md"

def notesDocument (front : Bool) : RegistryDocument where
  version := lit "1.0.0"
  skills := [notesRecord front]

/-- The digests of the document and of its one resource. -/
def notesPrims (front : Bool) : Primitives where
  sha256 _ := notesDigest front
  semanticDigest _ := match front with
    | true => lit "be203ea768946204f4eb4d53ff24410b25ea6bfa5adc42a5fed5f39d9dc8d071"
    | false => lit "68a48c2f026dc4f003d92ce6c4851bc3b63555d9ca060138965a921f1bcdda20"
  nfc := id
  casefold := id

def notesReader (front : Bool) (_ : Text) : Option RawContent := some (.utf8 (notesText front))

def notesRegistry (front : Bool) : Registry where
  document := notesDocument front
  digest := (notesPrims front).semanticDigest (notesDocument front)
  skills := [⟨notesRecord front, notesText front⟩]

theorem validateRegistry_notes (front : Bool) :
    validateRegistry (notesPrims front) (notesReader front) (notesDocument front) =
      .ok (notesRegistry front) := by
  cases front <;> rfl

theorem projections_notes (front : Bool) :
    ∃ items, projections (notesPrims front) (notesRegistry front) = .ok items := by
  have hsome : (projections (notesPrims front) (notesRegistry front)).toOption.isSome =
      true := by
    revert front
    decide
  cases hresult : projections (notesPrims front) (notesRegistry front) with
  | error err =>
    rw [hresult] at hsome
    cases hsome
  | ok items => exact ⟨items, rfl⟩

theorem common_files_drop_introduction : ∃ items,
    validateRegistry (notesPrims false) (notesReader false) (notesDocument false) =
        .ok (notesRegistry false) ∧
      projections (notesPrims false) (notesRegistry false) = .ok items ∧
        ¬ (Carries (notesRegistry false) items ∧
          RevokedAbsent (notesPrims false) (notesRegistry false) items) := by
  obtain ⟨items, hitems⟩ := projections_notes false
  refine ⟨items, validateRegistry_notes false, hitems, fun hboth => ?_⟩
  have hdelimited := (carries_iff hitems).mp hboth.1 ⟨notesRecord false, notesText false⟩
    ⟨List.mem_singleton.mpr rfl, rfl⟩
  revert hdelimited
  decide

theorem instructions_carried_iff_notes : ∃ items,
    projections (notesPrims true) (notesRegistry true) = .ok items ∧
      Carries (notesRegistry true) items ∧
        RevokedAbsent (notesPrims true) (notesRegistry true) items := by
  obtain ⟨items, hitems⟩ := projections_notes true
  refine ⟨items, hitems,
    (instructions_carried_iff (validateRegistry_notes true) hitems).mpr fun skill hskill _ => ?_⟩
  rw [List.mem_singleton.mp hskill]
  decide

end Ecosystem.Skills
