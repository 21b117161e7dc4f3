import Ecosystem.Projections.Undoing

/-!
# Planning what has been written

What is desired of a written target is again a text with one block, replaced by itself,
exactly as long as no string of the request brings a marker into the block.
-/

namespace Ecosystem.Projections

open Ecosystem.Lib Ecosystem.Lib.Checks

/-! ## Lines of a block -/

section Lines

variable {pattern : Text} {client : Client} {request : RenderRequest}

theorem infix_strip {text : Text} {first last : Char} (hfirst : pattern.head? = some first)
    (hlast : pattern.getLast? = some last) (hspace : isSpace first = false)
    (hspace' : isSpace last = false) (h : pattern <:+: text) : pattern <:+: strip text := by
  obtain ⟨before, after, rfl⟩ := h
  have hne : pattern ≠ [] := by
    rintro rfl
    cases hfirst
  have hend : (before ++ pattern).getLast? = some last := by
    rw [List.getLast?_append_of_ne_nil _ hne, hlast]
  rw [strip, rstrip_append_of_getLast hend hspace', lstrip, List.append_assoc]
  obtain ⟨c, rest, rfl⟩ := List.exists_cons_of_ne_nil hne
  obtain rfl : c = first := by simpa using hfirst
  induction before with
  | nil =>
    rw [List.nil_append, List.cons_append, List.dropWhile_cons_of_neg (by simp [hspace])]
    exact ⟨[], rstrip after, by simp⟩
  | cons d before ih =>
    rw [List.cons_append, List.dropWhile_cons]
    split
    · refine ih ?_
      rw [List.getLast?_append_of_ne_nil _ hne, hlast]
    · exact ⟨d :: before, rstrip after, by simp⟩

theorem infix_intercalate {sep line : Text} {lines : List Text} (hline : line ∈ lines) :
    line <:+: sep.intercalate lines := by
  induction lines with
  | nil => cases hline
  | cons first lines ih =>
    rcases List.mem_cons.mp hline with rfl | hline
    · cases lines with
      | nil =>
        rw [List.intercalate_singleton]
      | cons next lines =>
        rw [List.intercalate_cons_of_ne_nil (List.cons_ne_nil _ _)]
        rw [List.append_assoc]
        exact (List.prefix_append _ _).isInfix
    · rw [List.intercalate_cons_of_ne_nil (List.ne_nil_of_mem hline)]
      exact (ih hline).trans (List.suffix_append _ _).isInfix

theorem source_infix_startRest : request.instructionSource <:+: startRest client request := by
  refine ⟨lit " client=" ++ '"' :: (lit client.name ++ '"' :: (lit " source=" ++ ['"'])),
    '"' :: (lit " digest=" ++ '"' :: (request.sourceDigest ++ '"' :: lit " -->")), ?_⟩
  unfold startRest
  simp only [-String.reduceToList, List.append_assoc, List.cons_append, List.nil_append]

theorem digest_infix_startRest : request.sourceDigest <:+: startRest client request := by
  refine ⟨lit " client=" ++ '"' :: (lit client.name ++ '"' :: (lit " source=" ++ '"' ::
    (request.instructionSource ++ '"' :: (lit " digest=" ++ ['"'])))), '"' :: lit " -->", ?_⟩
  unfold startRest
  simp only [-String.reduceToList, List.append_assoc, List.cons_append, List.nil_append]

theorem tail_bodyLines_eq : ∃ front middle back : List Text,
    (bodyLines client request).tail = front ++ principleLines request.bundle.principles ++
      middle ++ request.bundle.rules.map ruleLine ++ commandLines request.bundle.commands ++
      back ∧ lit "# " ++ request.bundle.name ++ lit " — AI instructions" ∈ front ∧
    strip request.bundle.purpose ∈ front ∧
    lit "- Response language: " ++ request.bundle.responseLanguage ++ lit "." ∈ back ∧
    lit "- Commit style: `" ++ request.bundle.commitStyle ++ lit "`." ∈ back := by
  refine ⟨_, _, _, rfl, .head _, ?_, ?_, ?_⟩
  · exact .tail _ (.tail _ (.tail _ (.tail _ (.tail _ (.tail _ (.head _))))))
  · exact .tail _ (.tail _ (.tail _ (.head _)))
  · exact .tail _ (.tail _ (.tail _ (.tail _ (.head _))))

theorem infix_ruleLine {rule : Rule} {text : Text} (hne : pattern ≠ [])
    (htext : text ∈ [rule.id, rule.priority, rule.text] ++ rule.scope.toList)
    (h : pattern <:+: text) : pattern <:+: ruleLine rule := by
  have hline (scope : Text) : ∀ part ∈ [rule.id, rule.priority, scope, rule.text],
      part <:+: lit "- **" ++ rule.id ++ lit " (" ++ rule.priority ++ scope ++
        lit "):** " ++ rule.text := by
    intro part hpart
    have happend {t u v : Text} (h : t <:+: u) : t <:+: u ++ v :=
      h.trans (List.prefix_append u v).isInfix
    simp only [List.mem_cons, List.not_mem_nil, or_false] at hpart
    rcases hpart with rfl | rfl | rfl | rfl
    · exact happend (happend (happend (happend (happend (List.suffix_append _ _).isInfix))))
    · exact happend (happend (happend (List.suffix_append _ _).isInfix))
    · exact happend (happend (List.suffix_append _ _).isInfix)
    · exact (List.suffix_append _ _).isInfix
  unfold ruleLine
  simp only [List.cons_append, List.nil_append, List.mem_cons, Option.mem_toList] at htext
  rcases htext with rfl | rfl | rfl | hscope
  · exact h.trans (hline _ _ (by simp))
  · exact h.trans (hline _ _ (by simp))
  · exact h.trans (hline _ _ (by simp))
  · cases text with
    | nil => exact absurd (List.infix_nil.mp h) hne
    | cons c cs =>
      rw [hscope]
      have hin : c :: cs <:+: lit "; scope: `" ++ c :: cs ++ lit "`" := ⟨_, _, rfl⟩
      exact (h.trans hin).trans (hline _ _ (by simp only [List.mem_cons, true_or, or_true]))

/-- **Every string of a request stands in a line of its block.** -/
theorem mem_lines_of_mem_texts {text : Text} (hp : LineMarker pattern)
    (hfirst : ∀ c, pattern.head? = some c → isSpace c = false)
    (hlast : ∀ c, pattern.getLast? = some c → isSpace c = false)
    (htext : text ∈ request.texts) (h : pattern <:+: text) :
    ∃ line ∈ startRest client request :: (bodyLines client request).tail,
      pattern <:+: line := by
  obtain ⟨front, middle, back, htail, hname, hpurpose, hlanguage, hcommit⟩ :=
    @tail_bodyLines_eq client request
  rw [htail]
  have hbody (line : Text) (hline : line ∈ front ++ principleLines request.bundle.principles ++
      middle ++ request.bundle.rules.map ruleLine ++ commandLines request.bundle.commands ++
      back) (hin : pattern <:+: line) := Exists.intro (p := fun line => line ∈ _ ∧ _) line
    ⟨List.mem_cons_of_mem (startRest client request) hline, hin⟩
  have hmiddle (label after : Text) : text <:+: label ++ text ++ after := ⟨label, after, rfl⟩
  simp only [List.mem_append] at hbody
  simp only [RenderRequest.texts, List.mem_append, List.mem_cons, List.not_mem_nil, or_false,
    List.mem_flatMap] at htext
  rcases htext with ((((rfl | rfl | rfl | rfl | rfl | rfl) | hprinciple) |
    ⟨rule, hrule, htext⟩) | ⟨command, hcommand, htext⟩)
  · exact ⟨_, List.mem_cons_self .., h.trans source_infix_startRest⟩
  · exact ⟨_, List.mem_cons_self .., h.trans digest_infix_startRest⟩
  · exact hbody _ (.inl (.inl (.inl (.inl (.inl hname))))) (h.trans (hmiddle _ _))
  · obtain ⟨c, hc⟩ : ∃ c, pattern.head? = some c := by
      obtain ⟨rest, rfl⟩ := hp.head
      exact ⟨_, rfl⟩
    obtain ⟨d, _, hd⟩ := hp.last
    refine hbody _ (.inl (.inl (.inl (.inl (.inl hpurpose))))) ?_
    exact infix_strip hc hd (hfirst c hc) (hlast d hd) h
  · exact hbody _ (.inr hlanguage) (h.trans (hmiddle _ _))
  · exact hbody _ (.inr hcommit) (h.trans (hmiddle _ _))
  · obtain ⟨index, hget⟩ := List.mem_iff_getElem?.mp hprinciple
    have hindex : (text, 1 + index) ∈ request.bundle.principles.zipIdx 1 :=
      List.mk_add_mem_zipIdx_iff_getElem?.mpr hget
    refine hbody _ (.inl (.inl (.inl (.inl (.inr (List.mem_map_of_mem hindex)))))) ?_
    exact h.trans (List.suffix_append _ _).isInfix
  · refine hbody _ (.inl (.inl (.inr (List.mem_map_of_mem hrule)))) ?_
    exact infix_ruleLine hp.ne_nil (by simpa [or_assoc] using htext) h
  · have hne : request.bundle.commands ≠ [] := List.ne_nil_of_mem hcommand
    refine hbody (lit "- `" ++ command.1 ++ lit "`: `" ++ command.2 ++ lit "`")
      (.inl (.inr ?_)) (h.trans ?_)
    · unfold commandLines
      rw [if_neg hne]
      exact List.mem_append_right _ (List.mem_map_of_mem hcommand)
    · rcases htext with rfl | rfl
      · rw [List.append_assoc, List.append_assoc]
        exact hmiddle _ _
      · exact hmiddle _ _

theorem blockRest_eq_lines : blockRest client request =
    (lit "\n").intercalate (startRest client request :: (bodyLines client request).tail) ++
      lit "\n" ++ managedEnd :=
  intercalate_append_singleton (List.cons_ne_nil _ _)

theorem infix_lines_of_not_free (hp : LineMarker pattern)
    (hfirst : ∀ c, pattern.head? = some c → isSpace c = false)
    (hlast : ∀ c, pattern.getLast? = some c → isSpace c = false)
    (h : ¬ request.Free pattern) : pattern <:+:
      (lit "\n").intercalate (startRest client request :: (bodyLines client request).tail) := by
  rw [RenderRequest.Free, not_forall] at h
  obtain ⟨text, h⟩ := h
  rw [Classical.not_imp, not_not] at h
  obtain ⟨line, hline, hin⟩ :=
    @mem_lines_of_mem_texts _ client _ _ hp hfirst hlast h.1 h.2
  exact hin.trans (infix_intercalate hline)

theorem not_space_of_eq_some {o : Option Char} {d : Char} (ho : o = some d)
    (hd : isSpace d = false) : ∀ c, o = some c → isSpace c = false := by
  intro c hc
  rw [ho] at hc
  cases hc
  exact hd

theorem start_infix_blockRest (h : ¬ request.Free managedStart) :
    managedStart <:+: blockRest client request := by
  have hlines := @infix_lines_of_not_free _ client _ managedStart_lineMarker
    (@not_space_of_eq_some _ '<' (by decide) rfl)
    (@not_space_of_eq_some _ 't' (by decide) rfl) h
  rw [blockRest_eq_lines, List.append_assoc]
  exact hlines.trans (List.prefix_append _ _).isInfix

end Lines

/-! ## Texts with one block -/

section Texts

variable {client : Client} {request : RenderRequest} {current desired : Text} {mode : Mode}

theorem rstrip_rstrip (text : Text) : rstrip (rstrip text) = rstrip text :=
  List.rdropWhile_idempotent _ _

theorem rstrip_newline (text : Text) : rstrip (text ++ lit "\n") = rstrip text := by
  have hnewline : lit "\n" = ['\n'] := by decide
  rw [hnewline, rstrip_concat_space (by decide)]

def around (client : Client) (request : RenderRequest) (front after : Text) : Text :=
  front ++ (managedStart ++ blockRest client request) ++ (rstrip after ++ lit "\n")

theorem updated_eq_around (front after : Text) :
    rstrip (front ++ rstrip (renderBody client request) ++ after) ++ lit "\n" =
      around client request front after := by
  rw [rstrip_renderBody, rstrip_append_of_getLast (getLast_block front) (by decide), around,
    List.append_assoc (front ++ _)]

theorem renderBody_eq_around : renderBody client request = around client request [] [] := by
  have hnil : rstrip [] = [] := by decide
  rw [around, renderBody_eq_rest, hnil, List.nil_append, List.nil_append]

theorem around_rstrip (front after : Text) :
    around client request front (rstrip after ++ lit "\n") = around client request front after := by
  rw [around, rstrip_newline, rstrip_rstrip, around]

/-- **What is desired has one block**, and no other start marker around it. -/
theorem Desired.around (h : Desired request current (renderBody client request) desired mode) :
    ∃ front after, desired = Projections.around client request front after ∧
      ¬ managedStart <:+: front ∧ ¬ managedStart <:+: rstrip after ++ lit "\n" := by
  have hnil : ¬ managedStart <:+: ([] : Text) :=
    managedStart_lineMarker.free_of_not_mem List.not_mem_nil
  have hstripped {text : Text} (htext : ¬ managedStart <:+: text) :
      ¬ managedStart <:+: rstrip text :=
    fun h => htext (h.trans (rstrip_isPrefix _).isInfix)
  have hline {text : Text} (htext : ¬ managedStart <:+: text) :
      ¬ managedStart <:+: rstrip text ++ lit "\n" :=
    managedStart_lineMarker.free_append_right (hstripped htext) (by decide) (by decide)
  have hblock : ∃ front after,
      renderBody client request = Projections.around client request front after ∧
        ¬ managedStart <:+: front ∧ ¬ managedStart <:+: rstrip after ++ lit "\n" :=
    ⟨[], [], renderBody_eq_around, hnil, hline hnil⟩
  cases h with
  | @updated before after hspan =>
    obtain ⟨hbefore, hafter⟩ := free_of_managedSpan hspan
    exact ⟨before, after, updated_eq_around before after, hbefore, hline hafter⟩
  | created | replaced | conflict => exact hblock
  | adopted hnot =>
    unfold adoptText
    split
    · exact hblock
    · refine ⟨rstrip current ++ lit "\n\n---\n\n", [], ?_, ?_, hline hnil⟩
      · have hempty : rstrip [] = [] := by decide
        rw [Projections.around, renderBody_eq_rest, hempty, List.nil_append,
          List.append_assoc (rstrip current ++ _)]
      · exact managedStart_lineMarker.free_append_right (hstripped hnot) (by decide)
          (by decide)

/-! ### The next plan -/

variable {front after : Text}

theorem around_eq : around client request front after = front ++ managedStart ++
    (blockRest client request ++ (rstrip after ++ lit "\n")) := by
  rw [around]
  simp only [List.append_assoc]

theorem cutFirst_around (hfront : ¬ managedStart <:+: front) :
    cutFirst managedStart (around client request front after) =
      some (front, blockRest client request ++ (rstrip after ++ lit "\n")) := by
  rw [around_eq]
  exact managedStart_isMarker.cutFirst_append hfront

/-- **Without a marker in the strings the text stays as it is.** -/
theorem desire_around (hstart : request.Free managedStart) (hend : request.Free managedEnd)
    (hfront : ¬ managedStart <:+: front) (hafter : ¬ managedStart <:+: rstrip after ++ lit "\n") :
    desire request (around client request front after) (renderBody client request) =
      .ok (around client request front after, .updated) := by
  have hspan : managedSpan (around client request front after) =
      .ok (some (front, rstrip after ++ lit "\n")) := by
    obtain ⟨middle, hcut⟩ := @cutFirst_end_block client request hend (rstrip after ++ lit "\n")
    refine managedSpan_eq_some.mpr ⟨_, middle, cutFirst_around hfront, hcut, ?_⟩
    rw [infix_append_of_getLast getLast_blockRest (by decide)]
    exact fun h => h.elim (free_blockRest hstart) hafter
  have hreplace : replaceManaged (around client request front after)
      (renderBody client request) = .ok (around client request front after) := by
    unfold replaceManaged
    rw [hspan]
    show Except.ok (rstrip (front ++ rstrip (renderBody client request) ++
      (rstrip after ++ lit "\n")) ++ lit "\n") = _
    rw [updated_eq_around, around_rstrip]
  unfold desire
  rw [hspan]
  show (do return (← replaceManaged _ _, Mode.updated)) = _
  rw [hreplace]
  rfl

theorem Desired.free_start {text : Text} {mode : Mode} (hfront : ¬ managedStart <:+: front)
    (h : Desired request (Projections.around client request front after)
      (renderBody client request) text mode) : request.Free managedStart := by
  by_contra hstart
  have hin : managedStart <:+: Projections.around client request front after := by
    rw [around_eq]
    exact ⟨front, _, rfl⟩
  cases h with
  | created hnil =>
    rw [hnil] at hin
    exact managedStart_ne_nil (List.infix_nil.mp hin)
  | adopted hnot | replaced hnot | conflict hnot => exact hnot hin
  | updated hspan =>
    obtain ⟨rest, _, hcut, _, hfree⟩ := managedSpan_eq_some.mp hspan
    rw [cutFirst_around hfront] at hcut
    cases hcut
    exact hfree ((start_infix_blockRest hstart).trans (List.prefix_append _ _).isInfix)

/-- A second end marker: what stands behind it in the block is kept, and the file
grows. -/
theorem Desired.longer {text : Text} {mode : Mode} (hfront : ¬ managedStart <:+: front)
    (hend : ¬ request.Free managedEnd)
    (hdesired : Desired request (Projections.around client request front after)
      (renderBody client request) text mode) :
    (Projections.around client request front after).length < text.length := by
  have hin : managedStart <:+: Projections.around client request front after := by
    rw [around_eq]
    exact ⟨front, _, rfl⟩
  cases hdesired with
  | created hnil =>
    rw [hnil] at hin
    exact absurd (List.infix_nil.mp hin) managedStart_ne_nil
  | adopted hnot | replaced hnot | conflict hnot => exact absurd hin hnot
  | @updated before after' hspan =>
    obtain ⟨rest, middle, hcut, hcutEnd, _⟩ := managedSpan_eq_some.mp hspan
    rw [cutFirst_around hfront] at hcut
    cases hcut
    obtain ⟨u, v, hlines⟩ := @infix_lines_of_not_free _ client _ managedEnd_lineMarker
      (@not_space_of_eq_some _ '<' (by decide) rfl)
      (@not_space_of_eq_some _ '>' (by decide) rfl) hend
    -- the first end marker stands no later than the one in the lines
    obtain ⟨hparts, hfirst⟩ := cutFirst_eq_some hcutEnd
    have hearly := hfirst (managedStart ++ u) (v ++ lit "\n" ++ managedEnd ++
      (rstrip after ++ lit "\n")) (by
        rw [blockRest_eq_lines, ← hlines]
        simp only [List.append_assoc])
    have hsuffix : v ++ lit "\n" ++ managedEnd ++ (rstrip after ++ lit "\n") <:+ after' := by
      have hwhole : managedStart ++ (blockRest client request ++ (rstrip after ++ lit "\n")) =
          (managedStart ++ u ++ managedEnd) ++
            (v ++ lit "\n" ++ managedEnd ++ (rstrip after ++ lit "\n")) := by
        rw [blockRest_eq_lines, ← hlines]
        simp only [List.append_assoc]
      have hlater : after' <:+ managedStart ++
          (blockRest client request ++ (rstrip after ++ lit "\n")) :=
        hparts ▸ List.suffix_append _ _
      refine List.suffix_of_suffix_length_le (hwhole ▸ List.suffix_append _ _) hlater ?_
      have hlength := congrArg List.length (hparts.symm.trans hwhole)
      simp only [List.length_append] at hlength hearly ⊢
      omega
    obtain ⟨w, rfl⟩ := hsuffix
    have hlast : (w ++ (v ++ lit "\n" ++ managedEnd)).getLast? = some '>' := by
      have hne := managedEnd_lineMarker.ne_nil
      rw [List.getLast?_append_of_ne_nil _ (List.append_ne_nil_of_right_ne_nil _ hne),
        List.getLast?_append_of_ne_nil _ hne]
      decide
    have hstrip : rstrip (w ++ (v ++ lit "\n" ++ managedEnd ++ (rstrip after ++ lit "\n"))) =
        w ++ (v ++ lit "\n" ++ managedEnd) ++ rstrip after := by
      have hassoc : w ++ (v ++ lit "\n" ++ managedEnd ++ (rstrip after ++ lit "\n")) =
          w ++ (v ++ lit "\n" ++ managedEnd) ++ (rstrip after ++ lit "\n") :=
        (List.append_assoc _ _ _).symm
      rw [hassoc, rstrip_append_of_getLast hlast (by decide), rstrip_newline, rstrip_rstrip]
    have hpositive : 0 < managedEnd.length := by decide
    rw [updated_eq_around, Projections.around, Projections.around, hstrip]
    simp only [List.length_append]
    omega

/-! ### Two clients -/

theorem Client.eq_of_quoted {client client' : Client} {rest rest' : Text}
    (h : lit client.name ++ '"' :: rest = lit client'.name ++ '"' :: rest') :
    client = client' := by
  have hname (c : Client) (rest : Text) :
      (lit c.name ++ '"' :: rest).takeWhile (· ≠ '"') = lit c.name := by
    have hquote : ∀ d ∈ lit c.name, decide (d ≠ '"') = true := by
      cases c <;> exact forall_mem_of_all (by decide)
    rw [List.takeWhile_append_of_pos hquote, List.takeWhile_cons_of_neg (by simp),
      List.append_nil]
  have hnames : lit client.name = lit client'.name := by rw [← hname, h, hname]
  revert hnames
  cases client <;> cases client' <;> decide

theorem blockRest_client {client client' : Client}
    (h : blockRest client request = blockRest client' request) : client = client' := by
  have hstart (c : Client) : ∃ rest, blockRest c request =
      (lit " client=" ++ ['"']) ++ (lit c.name ++ '"' :: rest) := by
    obtain ⟨more, hmore⟩ : ∃ more, blockRest c request = startRest c request ++ more := by
      have hne : (bodyLines c request).tail ++ [managedEnd] ≠ [] :=
        List.append_ne_nil_of_right_ne_nil _ (List.cons_ne_nil _ _)
      rw [blockRest, List.cons_append, List.intercalate_cons_of_ne_nil hne, List.append_assoc]
      exact ⟨_, rfl⟩
    have hsplit (label name rest : Text) : (label ++ '"' :: (name ++ '"' :: rest)) ++ more =
        (label ++ ['"']) ++ (name ++ '"' :: (rest ++ more)) := by
      simp only [List.append_assoc, List.cons_append, List.nil_append]
    rw [hmore]
    exact ⟨_, hsplit _ _ _⟩
  obtain ⟨rest, hrest⟩ := hstart client
  obtain ⟨rest', hrest'⟩ := hstart client'
  rw [hrest, hrest', List.append_cancel_left_eq] at h
  exact Client.eq_of_quoted h

theorem Desired.self (h : Desired request current (renderBody client request) desired mode)
    (heq : desired = current) : ∃ front after,
      managedSpan current = .ok (some (front, after)) ∧
        current = Projections.around client request front after := by
  have hblock := managedStart_infix_renderBody client request
  cases h with
  | @updated before after hspan =>
    refine ⟨before, after, hspan, ?_⟩
    rw [← heq, updated_eq_around]
  | created hnil =>
    rw [heq, hnil] at hblock
    exact absurd (List.infix_nil.mp hblock) managedStart_ne_nil
  | adopted hnot =>
    obtain ⟨front, after, htext, _⟩ := (Desired.adopted hnot ‹_› ‹_›).around
    rw [heq, around_eq] at htext
    exact absurd ⟨front, _, htext.symm⟩ hnot
  | replaced hnot | conflict hnot => exact absurd (heq ▸ hblock) hnot

theorem Desired.client_unique {client' : Client} {mode' : Mode}
    (h : Desired request current (renderBody client request) current mode)
    (h' : Desired request current (renderBody client' request) current mode') :
    client = client' := by
  obtain ⟨front, after, hspan, htext⟩ := h.self rfl
  obtain ⟨front', after', hspan', htext'⟩ := h'.self rfl
  rw [hspan] at hspan'
  cases hspan'
  rw [htext', around_eq, around_eq, List.append_cancel_left_eq,
    List.append_cancel_right_eq] at htext
  exact (blockRest_client htext).symm

end Texts

/-! ## Files -/

/-- The text that is desired is written to each target, as `atomic_write` does. -/
def writeDesired (tree : Tree) (plans : List ProjectionPlan) : Except Failure Tree :=
  plans.foldlM
    (fun tree plan => do
      let content ← encode plan.desired
      tree.atomicWrite plan.path content)
    tree

/-- The next plan finds every target as it desires it. -/
def CleanAgain (request : RenderRequest) (tree : Tree) : Prop :=
  ∃ plans, planProjections tree request = .ok plans ∧
    ∀ plan ∈ plans, plan.status = .clean ∧ plan.desired = plan.current

/-- An update keeps what stands in front of the block and, up to white space at the end
of the file, what stands behind it; an adoption keeps the whole text in front. -/
structure KeepsSurroundings (request : RenderRequest) (plan : ProjectionPlan) : Prop where
  updated : ∀ before after, managedSpan plan.current = .ok (some (before, after)) →
    plan.desired = before ++ rstrip (renderBody plan.client request) ++ rstrip after ++ lit "\n"
  adopted : plan.mode = .adopted → rstrip plan.current <+: plan.desired

section Files

variable {tree tree' : Tree} {request : RenderRequest} {plans : List ProjectionPlan}

theorem rstrip_eq_nil_of_strip {text : Text} (h : strip text = []) : rstrip text = [] := by
  rw [strip, lstrip, List.dropWhile_eq_nil_iff] at h
  by_contra hne
  have hlast := List.rdropWhile_last_not isSpace text hne
  exact hlast (h _ (List.getLast_mem hne))

theorem ProjectionPlan.For.keepsSurroundings {plan : ProjectionPlan} {entry : Client × Text}
    (h : plan.For tree request entry) : KeepsSurroundings request plan := by
  have hdesired := h.desired
  have hunmanaged : ¬ managedStart <:+: plan.current → ∀ before after,
      managedSpan plan.current ≠ .ok (some (before, after)) := by
    intro hnot before after hspan
    rw [managedSpan_eq_none.mpr hnot] at hspan
    cases hspan
  constructor
  · intro before after hspan
    generalize plan.desired = desired at hdesired ⊢
    generalize plan.mode = mode at hdesired
    cases hdesired with
    | updated hspan' =>
      rw [hspan] at hspan'
      cases hspan'
      rw [updated_eq_around, around, rstrip_renderBody]
      simp only [List.append_assoc]
    | created hnil => exact absurd hspan (hunmanaged (by rw [hnil]; decide) _ _)
    | adopted hnot | replaced hnot | conflict hnot =>
      exact absurd hspan (hunmanaged hnot _ _)
  · intro hmode
    rw [hmode] at hdesired
    generalize plan.desired = desired at hdesired ⊢
    cases hdesired with
    | adopted =>
      unfold adoptText
      split
      · next hspace =>
          rw [rstrip_eq_nil_of_strip hspace]
          exact List.nil_prefix
      · rw [List.append_assoc]
        exact List.prefix_append _ _

theorem writeDesired_cons {plan : ProjectionPlan} (h : writeDesired tree (plan :: plans) = .ok tree') :
    tooLong plan.path = false ∧ ∃ middle, HasText middle plan.path plan.desired ∧
      Grew (· = plan.path) tree middle ∧ writeDesired middle plans = .ok tree' := by
  rw [writeDesired, List.foldlM_cons, bind_eq_ok] at h
  obtain ⟨middle, hwrite, h⟩ := h
  obtain ⟨content, hcontent, hwrite⟩ := bind_eq_ok.mp hwrite
  obtain ⟨hshort, hwrote⟩ := Tree.atomicWrite_eq_ok hwrite
  exact ⟨hshort, middle, ⟨content, hwrote.written, encode_eq_ok hcontent⟩, hwrote.grew, h⟩

theorem writeDesired_grew (h : writeDesired tree plans = .ok tree') :
    Grew (· ∈ plans.map ProjectionPlan.path) tree tree' := by
  induction plans generalizing tree with
  | nil =>
    obtain rfl : tree = tree' := Except.ok.inj h
    exact Grew.refl
  | cons plan plans ih =>
    obtain ⟨_, middle, _, hgrew, h⟩ := writeDesired_cons h
    refine (hgrew.mono ?_).trans ((ih h).mono ?_)
    · rintro q rfl
      exact List.mem_cons_self ..
    · intro q hq
      exact List.mem_cons_of_mem _ hq

theorem writeDesired_hasText (h : writeDesired tree plans = .ok tree')
    (hnodup : (plans.map ProjectionPlan.path).Nodup) :
    ∀ plan ∈ plans, HasText tree' plan.path plan.desired ∧ tooLong plan.path = false := by
  induction plans generalizing tree with
  | nil => exact fun _ h => absurd h List.not_mem_nil
  | cons plan plans ih =>
    obtain ⟨hshort, middle, htext, _, hrest⟩ := writeDesired_cons h
    rw [List.map_cons, List.nodup_cons] at hnodup
    intro plan' hplan'
    rcases List.mem_cons.mp hplan' with rfl | hplan'
    · exact ⟨(writeDesired_grew hrest).hasText hnodup.1 htext, hshort⟩
    · exact ih hrest hnodup.2 plan' hplan'

theorem projectionPath_of_topology {relative : Text} {path : Path}
    (h : projectionPath tree relative = .ok path)
    (htopology : checkTopology tree' [] path = .ok ()) :
    projectionPath tree' relative = .ok path := by
  simp only [projectionPath, bind_eq_ok] at h ⊢
  obtain ⟨u, hfirst, v, hsecond, w, _, hpath⟩ := h
  obtain rfl : components relative = path := Except.ok.inj hpath
  exact ⟨u, hfirst, v, hsecond, (), htopology, rfl⟩

theorem planProjection_again {client : Client} {relative : Text} {plan : ProjectionPlan}
    (h : planProjection tree request client relative = .ok plan)
    (htext : HasText tree' plan.path plan.desired) (hshort : tooLong plan.path = false)
    (hstart : request.Free managedStart) (hend : request.Free managedEnd) :
    planProjection tree' request client relative =
      .ok { plan with current := plan.desired, status := .clean, mode := .updated } := by
  have hfor := @planProjection_eq_ok tree request (client, relative) plan h
  obtain ⟨front, after, haround, hfront, hafter⟩ := hfor.desired.around
  have hdesire : desire request plan.desired (renderBody client request) =
      .ok (plan.desired, .updated) := by
    have hclient : plan.client = client := hfor.client
    rw [haround, hclient]
    exact desire_around hstart hend hfront hafter
  obtain ⟨path, hpath, hrest⟩ := bind_eq_ok.mp h
  have hsame : plan.path = path := by
    rw [hfor.path]
    exact (projectionPath_eq_ok hpath).1.symm
  have htext' : HasText tree' ([] ++ path) plan.desired := hsame ▸ htext
  have hpath' : projectionPath tree' relative = .ok path :=
    projectionPath_of_topology hpath (checkTopology_of_text htext')
  have hread : readProjection tree' path = .ok plan.desired := by
    rw [← hsame]
    exact htext.read hshort
  have hclient : plan.client = client := hfor.client
  unfold planProjection
  rw [hpath', ok_bind, hread, ok_bind, hdesire, ok_bind]
  simp only [if_true, ← hsame, ← hclient]
  rfl

theorem sortedProjections_unique {entry entry' : Client × Text}
    (h : entry ∈ request.bundle.sortedProjections)
    (h' : entry' ∈ request.bundle.sortedProjections) (heq : entry.1 = entry'.1) :
    entry = entry' := by
  have hpath : ∀ e ∈ request.bundle.sortedProjections,
      request.bundle.projections e.1 = some e.2 := by
    intro e he
    rw [Bundle.sortedProjections, List.mem_filterMap] at he
    obtain ⟨client, _, he⟩ := he
    obtain ⟨path, hpath, rfl⟩ := Option.map_eq_some_iff.mp he
    exact hpath
  have hsecond := (hpath entry h).symm.trans (heq ▸ hpath entry' h')
  exact Prod.ext heq (Option.some.inj hsecond)

theorem sortedProjections_nodup : request.bundle.sortedProjections.Nodup := by
  have hclients : clients.Nodup := by decide
  refine hclients.filterMap ?_
  intro client client' entry h h'
  obtain ⟨_, _, rfl⟩ := Option.map_eq_some_iff.mp h
  obtain ⟨_, _, heq⟩ := Option.map_eq_some_iff.mp h'
  exact (congrArg Prod.fst heq).symm

theorem planned_for (h : planProjections tree request = .ok plans) {entry : Client × Text}
    (hentry : entry ∈ request.bundle.sortedProjections) :
    ∃ plan ∈ plans, plan.For tree request entry := by
  have hforall := planProjections_eq_ok h
  clear h
  generalize request.bundle.sortedProjections = entries at hforall hentry
  induction hforall with
  | nil => cases hentry
  | cons hfor _ ih =>
    rcases List.mem_cons.mp hentry with rfl | hentry
    · exact ⟨_, List.mem_cons_self .., hfor⟩
    · obtain ⟨plan, hplan, hfor⟩ := ih hentry
      exact ⟨plan, List.mem_cons_of_mem _ hplan, hfor⟩

theorem forall₂_of_mem {α β : Type} {R S : α → β → Prop} {xs : List α} {ys : List β}
    (h : List.Forall₂ R xs ys) (himp : ∀ x, ∀ y ∈ ys, R x y → S x y) :
    List.Forall₂ S xs ys := by
  induction h with
  | nil => exact .nil
  | cons hxy _ ih =>
    refine .cons (himp _ _ (List.mem_cons_self ..) hxy) (ih fun x y hy => ?_)
    exact himp x y (List.mem_cons_of_mem _ hy)

theorem CleanAgain.plan (h : CleanAgain request tree) {entry : Client × Text}
    (hentry : entry ∈ request.bundle.sortedProjections) :
    ∃ plan : ProjectionPlan, plan.For tree request entry ∧ plan.desired = plan.current := by
  obtain ⟨plans, hplans, hclean⟩ := h
  obtain ⟨plan, hplan, hfor⟩ := planned_for hplans hentry
  exact ⟨plan, hfor, (hclean plan hplan).2⟩

/-- **Two clients cannot share a target for good.** -/
theorem CleanAgain.distinct (h : CleanAgain request tree) : request.targets.Nodup := by
  refine List.Nodup.map_on ?_ sortedProjections_nodup
  intro entry hentry entry' hentry' hpath
  obtain ⟨plan, hfor, hclean⟩ := h.plan hentry
  obtain ⟨plan', hfor', hclean'⟩ := h.plan hentry'
  have hcurrent : plan.current = plan'.current := by
    have hread := hfor.current
    rw [hfor.path, hpath, ← hfor'.path, hfor'.current] at hread
    exact (Except.ok.inj hread).symm
  have hdesired := hfor.desired
  have hdesired' := hfor'.desired
  rw [hclean] at hdesired
  rw [hclean', ← hcurrent] at hdesired'
  refine sortedProjections_unique hentry hentry' ?_
  rw [← hfor.client, ← hfor'.client]
  exact hdesired.client_unique hdesired'

theorem CleanAgain.plain (haccepted : request.bundle.accepted = true)
    (hplans : planProjections tree request = .ok plans)
    (hwrite : writeDesired tree plans = .ok tree') (hclean : CleanAgain request tree') :
    request.Free managedStart ∧ request.Free managedEnd ∧ request.targets.Nodup := by
  have hnodup := hclean.distinct
  have hpaths : (plans.map ProjectionPlan.path).Nodup := by
    rw [planned_targets hplans]
    exact hnodup
  -- an accepted bundle has a projection
  have hne : request.bundle.sortedProjections ≠ [] := by
    simp only [Bundle.accepted, Bool.and_eq_true, decide_eq_true_eq] at haccepted
    exact haccepted.1.2
  obtain ⟨entry, hentry⟩ := List.exists_mem_of_ne_nil _ hne
  obtain ⟨plan, hplan, hfor⟩ := planned_for hplans hentry
  obtain ⟨plan', hfor', hclean'⟩ := hclean.plan hentry
  -- the second plan is for the text that the first one desired
  obtain ⟨htext, hshort⟩ := writeDesired_hasText hwrite hpaths plan hplan
  have hcurrent : plan'.current = plan.desired := by
    have hread := hfor'.current
    rw [hfor'.path, ← hfor.path, htext.read hshort] at hread
    exact (Except.ok.inj hread).symm
  obtain ⟨front, after, haround, hfront, _⟩ := hfor.desired.around
  have hdesired := hfor'.desired
  rw [hfor'.client, ← hfor.client, hclean', hcurrent, haround] at hdesired
  refine ⟨hdesired.free_start hfront, ?_, hnodup⟩
  by_contra hend
  exact lt_irrefl _ (hdesired.longer hfront hend)

theorem cleanAgain_of_plain (hplans : planProjections tree request = .ok plans)
    (hwrite : writeDesired tree plans = .ok tree') (hstart : request.Free managedStart)
    (hend : request.Free managedEnd) (hnodup : request.targets.Nodup) :
    CleanAgain request tree' := by
  have hpaths : (plans.map ProjectionPlan.path).Nodup := by
    rw [planned_targets hplans]
    exact hnodup
  have htexts := writeDesired_hasText hwrite hpaths
  simp only [planProjections, require_bind_eq_ok, mapM_eq_ok] at hplans
  refine ⟨plans.map fun plan =>
    { plan with current := plan.desired, status := .clean, mode := .updated }, ?_, ?_⟩
  · simp only [planProjections, require_bind_eq_ok, mapM_eq_ok]
    refine ⟨hplans.1, ?_⟩
    rw [List.forall₂_map_right_iff]
    refine forall₂_of_mem hplans.2 fun entry plan hplan hfirst => ?_
    obtain ⟨htext, hshort⟩ := htexts plan hplan
    exact planProjection_again hfirst htext hshort hstart hend
  · intro plan hplan
    obtain ⟨plan, _, rfl⟩ := List.mem_map.mp hplan
    exact ⟨rfl, rfl⟩

/-- **Rendering is stable exactly without markers and shared targets.**  Once what was
desired has been written, planning again finds every target clean and as desired if and
only if no string of the request has a marker and no two clients have one target.  What
stands around a block is kept in any case. -/
theorem rendering_stable_iff (request : RenderRequest)
    (haccepted : request.bundle.accepted = true) (tree tree' : Tree)
    (plans : List ProjectionPlan) (hplans : planProjections tree request = .ok plans)
    (hwrite : writeDesired tree plans = .ok tree') :
    (∀ plan ∈ plans, KeepsSurroundings request plan) ∧ (CleanAgain request tree' ↔
        request.Free managedStart ∧ request.Free managedEnd ∧ request.targets.Nodup) := by
  refine ⟨fun plan hplan => ?_, fun hclean => hclean.plain haccepted hplans hwrite, ?_⟩
  · obtain ⟨entry, _, hfor⟩ := planned_live hplans hplan
    exact hfor.keepsSurroundings
  · rintro ⟨hstart, hend, hnodup⟩
    exact cleanAgain_of_plain hplans hwrite hstart hend hnodup

end Files

/-! ### A marker in the purpose -/

/-- The purpose of the bundle speaks of the end marker. -/
def markedRequest : RenderRequest :=
  { soloRequest with
    bundle := { soloRequest.bundle with
      purpose := lit "Text up to <!-- eco:managed:end --> is generated." } }

theorem exists_of_toBool {ε α : Type} {x : Except ε α} (h : x.toBool = true) :
    ∃ a, x = .ok a := by
  cases x with
  | ok a => exact ⟨a, rfl⟩
  | error e => cases h

theorem written_solo : ∀ request ∈ [soloRequest, markedRequest], ∃ plans tree',
    planProjections sampleTree request = .ok plans ∧
      writeDesired sampleTree plans = .ok tree' := by
  have hruns : ∀ request ∈ [soloRequest, markedRequest],
      (planProjections sampleTree request >>= writeDesired sampleTree).toBool = true := by
    generalize hprogram : planProjections sampleTree = program
    delta planProjections planProjection desire adoptText replaceManaged managedSpan
      renderBody bodyLines startLine commandLines ruleLine principleLines managedStart
      managedEnd projectionPath at hprogram
    unfold markedRequest soloRequest sampleBundle
    rw [lit_ascii] at hprogram ⊢
    subst hprogram
    decide +kernel
  intro request hrequest
  obtain ⟨tree', hrun⟩ := exists_of_toBool (hruns request hrequest)
  obtain ⟨plans, hplans, hwrite⟩ := bind_eq_ok.mp hrun
  exact ⟨plans, tree', hplans, hwrite⟩

theorem rendering_stable_solo : ∃ plans tree',
    planProjections sampleTree soloRequest = .ok plans ∧
      (∀ plan ∈ plans, KeepsSurroundings soloRequest plan) ∧
      CleanAgain soloRequest tree' := by
  obtain ⟨plans, tree', hplans, hwrite⟩ := written_solo soloRequest (by simp)
  have hfree : ∀ pattern ∈ [managedStart, managedEnd], soloRequest.Free pattern := by
    unfold RenderRequest.Free
    decide
  obtain ⟨hkeeps, hclean⟩ :=
    rendering_stable_iff soloRequest (by rfl) sampleTree tree' plans hplans hwrite
  refine ⟨plans, tree', hplans, hkeeps, hclean.mpr ⟨hfree _ (by simp), hfree _ (by simp), ?_⟩⟩
  exact List.nodup_singleton _

theorem marked_request_unstable : markedRequest.bundle.accepted = true ∧ ∃ plans tree',
    planProjections sampleTree markedRequest = .ok plans ∧
      writeDesired sampleTree plans = .ok tree' ∧ ¬ CleanAgain markedRequest tree' := by
  have haccepted : markedRequest.bundle.accepted = true := by rfl
  obtain ⟨plans, tree', hplans, hwrite⟩ := written_solo markedRequest (by simp)
  refine ⟨haccepted, plans, tree', hplans, hwrite, fun hclean => ?_⟩
  obtain ⟨_, hend, _⟩ := hclean.plain haccepted hplans hwrite
  have hpurpose : managedEnd <:+: markedRequest.bundle.purpose := by decide
  exact hend _ (by simp [RenderRequest.texts]) hpurpose

end Ecosystem.Projections
