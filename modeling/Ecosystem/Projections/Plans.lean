import Ecosystem.Projections.Compiler

/-!
# What a plan says

A target's text is managed when it has exactly one start marker with an end marker
behind it; what is desired of a target follows from that, from its being empty, and
from the flags of the request.
-/

namespace Ecosystem.Projections

open Ecosystem.Lib Ecosystem.Lib.Checks

/-! ## Markers -/

theorem managedStart_isMarker : IsMarker managedStart '<' :=
  ⟨⟨managedStart.tail, by decide, by decide⟩⟩

theorem managedStart_ne_nil : managedStart ≠ [] := by decide

theorem managedSpan_eq_none {content : Text} :
    managedSpan content = .ok none ↔ ¬ managedStart <:+: content := by
  rw [← cutFirst_eq_none]
  unfold managedSpan
  cases cutFirst managedStart content with
  | none => simp
  | some cut =>
    rcases cut with ⟨before, rest⟩
    simp only [reduceCtorEq, iff_false]
    cases cutFirst managedEnd (managedStart ++ rest) with
    | none => simp
    | some cut' =>
      rcases cut' with ⟨_, after⟩
      by_cases hsecond : (cutFirst managedStart rest).isSome = true
      · simp [hsecond]
      · simp [hsecond]

theorem managedSpan_eq_some {content before after : Text} :
    managedSpan content = .ok (some (before, after)) ↔
      ∃ rest middle, cutFirst managedStart content = some (before, rest) ∧
        cutFirst managedEnd (managedStart ++ rest) = some (middle, after) ∧
        ¬ managedStart <:+: rest := by
  unfold managedSpan
  cases cutFirst managedStart content with
  | none => simp
  | some cut =>
    rcases cut with ⟨before', rest⟩
    cases hend : cutFirst managedEnd (managedStart ++ rest) with
    | none =>
      simp only [hend, reduceCtorEq, false_iff]
      rintro ⟨rest', middle, hcut, hend', _⟩
      cases hcut
      rw [hend] at hend'
      cases hend'
    | some cut' =>
      rcases cut' with ⟨middle, after'⟩
      by_cases hsecond : (cutFirst managedStart rest).isSome = true
      · simp only [hend, hsecond, if_true, reduceCtorEq, false_iff]
        rintro ⟨rest', _, hcut, _, hnot⟩
        cases hcut
        rw [cutFirst_eq_none.mpr hnot] at hsecond
        cases hsecond
      · have hnone : ¬ managedStart <:+: rest := by
          rw [← cutFirst_eq_none]
          simpa using hsecond
        simp only [hend, hsecond, Bool.false_eq_true, if_false, Except.ok.injEq,
          Option.some.injEq, Prod.mk.injEq]
        constructor
        · rintro ⟨rfl, rfl⟩
          exact ⟨rest, middle, ⟨rfl, rfl⟩, hend, hnone⟩
        · rintro ⟨rest', middle', ⟨rfl, rfl⟩, hend', _⟩
          rw [hend] at hend'
          obtain ⟨_, hafter⟩ := Prod.mk.inj (Option.some.inj hend')
          exact ⟨rfl, hafter⟩

/-! ## Blocks -/

theorem intercalate_concat {sep last : Text} (items : List Text) :
    ∃ front, sep.intercalate (items ++ [last]) = front ++ last := by
  induction items with
  | nil => exact ⟨[], by simp⟩
  | cons item items ih =>
    obtain ⟨front, hfront⟩ := ih
    refine ⟨item ++ sep ++ front, ?_⟩
    rw [List.cons_append, List.intercalate_cons_of_ne_nil (by simp), hfront]
    simp

theorem renderBody_eq (client : Client) (request : RenderRequest) :
    ∃ middle, renderBody client request =
      managedStart ++ middle ++ managedEnd ++ lit "\n" := by
  obtain ⟨line, lines, hlines⟩ : ∃ line lines, bodyLines client request ++ [managedEnd] =
        (managedStart ++ line) :: (lines ++ [managedEnd]) := by
    refine ⟨(startLine client request).drop managedStart.length,
      (bodyLines client request).tail, ?_⟩
    rfl
  obtain ⟨front, hfront⟩ := @intercalate_concat (lit "\n") managedEnd lines
  have hjoined : (lit "\n").intercalate (bodyLines client request ++ [managedEnd]) =
      managedStart ++ (line ++ lit "\n" ++ front) ++ managedEnd := by
    rw [hlines, List.intercalate_cons_of_ne_nil (by simp), hfront]
    simp
  refine ⟨line ++ lit "\n" ++ front, ?_⟩
  have hlast : (managedStart ++ (line ++ lit "\n" ++ front) ++ managedEnd).getLast? =
      some '>' := by
    rw [List.getLast?_append_of_ne_nil _ (by decide)]
    decide
  rw [renderBody, hjoined, rstrip_of_getLast hlast (by decide)]

theorem managedStart_infix_renderBody (client : Client) (request : RenderRequest) :
    managedStart <:+: renderBody client request := by
  obtain ⟨middle, hbody⟩ := renderBody_eq client request
  rw [hbody, List.append_assoc, List.append_assoc]
  exact ⟨[], _, rfl⟩

/-! ## What is desired -/

/-- The outcomes of `desire`. -/
inductive Desired (request : RenderRequest) (current block : Text) : Text → Mode → Prop
  | updated {before after : Text} (h : managedSpan current = .ok (some (before, after))) :
      Desired request current block
        (rstrip (before ++ rstrip block ++ after) ++ lit "\n") .updated
  | created (h : current = []) : Desired request current block block .created
  | adopted (h : ¬ managedStart <:+: current) (hne : current ≠ [])
      (hadopt : request.adopt = true) :
      Desired request current block (adoptText current block) .adopted
  | replaced (h : ¬ managedStart <:+: current) (hne : current ≠ [])
      (hadopt : request.adopt = false) (hforce : request.force = true) :
      Desired request current block block .replaced
  | conflict (h : ¬ managedStart <:+: current) (hne : current ≠ [])
      (hadopt : request.adopt = false) (hforce : request.force = false) :
      Desired request current block block .conflict

variable {request : RenderRequest} {path : Path} {tree : Tree}

theorem desire_eq_ok {current block desired : Text} {mode : Mode}
    (h : desire request current block = .ok (desired, mode)) :
    Desired request current block desired mode := by
  unfold desire at h
  obtain ⟨span, hspan, h⟩ := bind_eq_ok.mp h
  cases span with
  | some cut =>
    rcases cut with ⟨before, after⟩
    obtain ⟨text, htext, h⟩ := bind_eq_ok.mp h
    obtain ⟨rfl, rfl⟩ := Prod.mk.inj (Except.ok.inj h)
    unfold replaceManaged at htext
    rw [hspan] at htext
    have htext := Except.ok.inj htext
    rw [← htext]
    exact .updated hspan
  | none =>
    have hnot := managedSpan_eq_none.mp hspan
    have h := Except.ok.inj h
    by_cases hempty : current = []
    · rw [if_pos hempty] at h
      obtain ⟨rfl, rfl⟩ := Prod.mk.inj h
      exact .created hempty
    · rw [if_neg hempty] at h
      by_cases hadopt : request.adopt = true
      · rw [if_pos hadopt] at h
        obtain ⟨rfl, rfl⟩ := Prod.mk.inj h
        exact .adopted hnot hempty hadopt
      · have hadopt' : request.adopt = false := by simpa using hadopt
        rw [if_neg hadopt] at h
        by_cases hforce : request.force = true
        · rw [if_pos hforce] at h
          obtain ⟨rfl, rfl⟩ := Prod.mk.inj h
          exact .replaced hnot hempty hadopt' hforce
        · rw [if_neg hforce] at h
          obtain ⟨rfl, rfl⟩ := Prod.mk.inj h
          exact .conflict hnot hempty hadopt' (by simpa using hforce)

theorem Desired.mode_cases {current block desired : Text}
    {mode : Mode} (h : Desired request current block desired mode) :
    mode = .updated ∨ mode = .conflict ∨ (mode = .created ∧ current = []) ∨
      ((mode = .adopted ∨ mode = .replaced) ∧ current ≠ [] ∧
        ¬ managedStart <:+: current) := by
  cases h with
  | updated => exact .inl rfl
  | conflict => exact .inr (.inl rfl)
  | created h => exact .inr (.inr (.inl ⟨rfl, h⟩))
  | adopted h hne => exact .inr (.inr (.inr ⟨.inl rfl, hne, h⟩))
  | replaced h hne => exact .inr (.inr (.inr ⟨.inr rfl, hne, h⟩))

/-! ## Paths -/

structure Nameable (path : Path) : Prop where
  parts : ∀ part ∈ path, IsComponent part
  upward : lit ".." ∉ path
  backslash : ∀ part ∈ path, '\\' ∉ part

theorem mem_intercalate {sep : Text} {items : List Text} {c : Char}
    (h : c ∈ sep.intercalate items) : c ∈ sep ∨ ∃ item ∈ items, c ∈ item := by
  induction items with
  | nil => cases h
  | cons item items ih =>
    cases items with
    | nil =>
      refine .inr ⟨item, List.mem_singleton_self _, ?_⟩
      simpa using h
    | cons item' items =>
      rw [List.intercalate_cons_of_ne_nil (by simp)] at h
      simp only [List.mem_append] at h
      rcases h with (h | h) | h
      · exact .inr ⟨item, List.mem_cons_self .., h⟩
      · exact .inl h
      · rcases ih h with h | ⟨i, hi, hc⟩
        · exact .inl h
        · exact .inr ⟨i, List.mem_cons_of_mem _ hi, hc⟩

theorem mem_of_mem_splitOn {text part : Text} {c : Char} (hpart : part ∈ text.splitOn '/')
    (hc : c ∈ part) : c ∈ text := by
  induction text generalizing part with
  | nil =>
    rw [List.splitOn_nil, List.mem_singleton] at hpart
    rw [hpart] at hc
    exact hc
  | cons d text ih =>
    rw [List.splitOn_cons_eq_if_modifyHead] at hpart
    by_cases hd : d = '/'
    · rw [if_pos (by simp [hd])] at hpart
      rcases List.mem_cons.mp hpart with rfl | hpart
      · cases hc
      · exact List.mem_cons_of_mem _ (ih hpart hc)
    · rw [if_neg (by simp [hd])] at hpart
      cases hsplit : text.splitOn '/' with
      | nil => exact absurd hsplit (List.splitOn_ne_nil _ _)
      | cons first rest =>
        rw [hsplit, List.modifyHead_cons, List.mem_cons] at hpart
        rcases hpart with rfl | hpart
        · rcases List.mem_cons.mp hc with rfl | hc
          · exact List.mem_cons_self ..
          · exact List.mem_cons_of_mem _ (ih (hsplit ▸ List.mem_cons_self ..) hc)
        · exact List.mem_cons_of_mem _ (ih (hsplit ▸ List.mem_cons_of_mem _ hpart) hc)

theorem Nameable.components_asPosix (h : Nameable path) :
    components (asPosix path) = path :=
  Projections.components_asPosix h.parts

theorem Nameable.not_absolute (h : Nameable path) (hne : path ≠ []) :
    isAbsolute (asPosix path) = false := by
  cases path with
  | nil => exact absurd rfl hne
  | cons part rest =>
    have hpart := h.parts part (List.mem_cons_self ..)
    cases part with
    | nil => exact absurd rfl hpart.1
    | cons c cs =>
      have hslash : c ≠ '/' := fun hc => hpart.2.2 (hc ▸ List.mem_cons_self ..)
      have hhead : (asPosix ((c :: cs) :: rest)).head? = some c := by
        cases rest with
        | nil => simp [asPosix]
        | cons part' rest =>
          rw [asPosix, List.intercalate_cons_of_ne_nil (by simp)]
          rfl
      rw [isAbsolute, hhead]
      simpa using hslash

theorem Nameable.not_backslash (h : Nameable path) : '\\' ∉ asPosix path := by
  intro hmem
  rcases mem_intercalate hmem with hsep | ⟨part, hpart, hc⟩
  · exact absurd hsep (by decide)
  · exact h.backslash part hpart hc

theorem Nameable.asPosix_inj {p q : Path} (hp : Nameable p) (hq : Nameable q)
    (h : asPosix p = asPosix q) : p = q := by
  rw [← hp.components_asPosix, ← hq.components_asPosix, h]

theorem projectionPath_eq_ok {relative : Text}
    (h : projectionPath tree relative = .ok path) :
    path = components relative ∧ Nameable path ∧ checkTopology tree [] path = .ok () := by
  simp only [projectionPath, bind_eq_ok, require_eq_ok, Bool.and_eq_true, decide_eq_true_eq,
    Bool.not_eq_true'] at h
  obtain ⟨⟨⟩, ⟨⟨_, hback⟩, _⟩, ⟨⟩, ⟨_, hup⟩, ⟨⟩, htopology, h⟩ := h
  obtain rfl : components relative = path := Except.ok.inj h
  refine ⟨rfl, ⟨fun part => components_isComponent, hup, fun part hpart hc => hback ?_⟩, htopology⟩
  exact mem_of_mem_splitOn (List.mem_filter.mp hpart).1 hc

theorem projectionPath_plain {relative : Text}
    (h : projectionPath tree relative = .ok path) : (asPosix path).any isControl = false := by
  obtain ⟨rfl, _⟩ := projectionPath_eq_ok h
  simp only [projectionPath, bind_eq_ok, require_eq_ok, Bool.and_eq_true,
    Bool.not_eq_true'] at h
  obtain ⟨⟨⟩, ⟨_, hplain⟩, _⟩ := h
  rw [List.any_eq_false] at hplain ⊢
  intro c hc
  rcases mem_intercalate hc with hsep | ⟨part, hpart, hc⟩
  · rw [List.mem_singleton.mp hsep]
    decide
  · exact hplain c (mem_of_mem_splitOn (List.mem_filter.mp hpart).1 hc)

/-! ## Plans -/

/-- What a plan for a target says. -/
structure ProjectionPlan.For (plan : ProjectionPlan) (tree : Tree) (request : RenderRequest)
    (entry : Client × Text) : Prop where
  client : plan.client = entry.1
  path : plan.path = components entry.2
  nameable : Nameable plan.path
  plain : (asPosix plan.path).any isControl = false
  topology : checkTopology tree [] plan.path = .ok ()
  current : readProjection tree plan.path = .ok plan.current
  desired : Desired request plan.current (renderBody plan.client request) plan.desired plan.mode
  status : plan.status = if plan.current = plan.desired then .clean
    else if plan.mode = .conflict then .conflict else .drift

theorem planProjection_eq_ok {tree : Tree} {request : RenderRequest} {entry : Client × Text}
    {plan : ProjectionPlan} (h : planProjection tree request entry.1 entry.2 = .ok plan) :
    plan.For tree request entry := by
  simp only [planProjection, bind_eq_ok] at h
  obtain ⟨path, hpath, current, hcurrent, ⟨desired, mode⟩, hdesire, h⟩ := h
  have hplain := projectionPath_plain hpath
  obtain ⟨rfl, hnameable, htopology⟩ := projectionPath_eq_ok hpath
  have h := Except.ok.inj h
  subst h
  exact ⟨rfl, rfl, hnameable, hplain, htopology, hcurrent, desire_eq_ok hdesire, rfl⟩

theorem planProjections_eq_ok
    {plans : List ProjectionPlan} (h : planProjections tree request = .ok plans) :
    List.Forall₂ (fun entry plan => plan.For tree request entry)
      request.bundle.sortedProjections plans := by
  simp only [planProjections, require_bind_eq_ok, mapM_eq_ok] at h
  exact h.2.imp fun entry plan hplan => planProjection_eq_ok hplan

theorem ProjectionPlan.For.path_ne_nil {plan : ProjectionPlan}
    {entry : Client × Text} (h : plan.For tree request entry) :
    plan.path ≠ [] := by
  intro hnil
  have hread := h.current
  rw [hnil, readProjection, Tree.lookup_nil] at hread
  split at hread <;> cases hread

theorem readProjection_not_tooLong {text : Text}
    (h : readProjection tree path = .ok text) : tooLong path = false := by
  unfold readProjection at h
  split at h
  · cases h
  · next hlong => simpa using hlong

theorem ProjectionPlan.For.not_conflict {plan : ProjectionPlan}
    {entry : Client × Text} (h : plan.For tree request entry)
    (hresolved : ¬ (plan.mode = .conflict ∧ plan.status ≠ .clean)) : plan.mode ≠ .conflict := by
  intro hmode
  refine hresolved ⟨hmode, fun hclean => ?_⟩
  have hdesired := h.desired
  rw [hmode] at hdesired
  have hblock := managedStart_infix_renderBody plan.client request
  have hstatus := h.status
  rw [hclean] at hstatus
  by_cases heq : plan.current = plan.desired
  · generalize hd : plan.desired = desired at hdesired
    cases hdesired with
    | conflict hnot =>
      rw [heq, hd] at hnot
      exact hnot hblock
  · rw [if_neg heq, if_pos hmode] at hstatus
    cases hstatus

end Ecosystem.Projections
