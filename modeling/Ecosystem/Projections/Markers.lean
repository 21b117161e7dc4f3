import Ecosystem.Projections.Plans

/-!
# The markers of a rendered file

Every literal around a string of the request has a character that no marker has, so no
marker comes about across a seam.  A block without a second start marker is a managed
text, and stays one under every update and adoption.
-/

namespace Ecosystem.Projections

open Ecosystem.Lib

/-! ## Literals -/

variable {s : String} {chars : List Char}

theorem lit_eq (h : s = String.ofList chars) : lit s = chars := by
  rw [h]
  exact String.toList_ofList

theorem not_mem_lit {c : Char} (h : s = String.ofList chars)
    (hc : c ∉ chars) : c ∉ lit s := by
  rw [lit_eq h]
  exact hc

theorem lit_append {s front : String} {chars before after : List Char}
    (hfront : front = String.ofList chars) (h : s = String.ofList (before ++ chars ++ after)) :
    lit s = before ++ lit front ++ after := by
  rw [lit_eq hfront, lit_eq h]

/-- Characters that stand around the strings of a request, and in no marker. -/
def seams : List Char := ['\n', '"', '*', '(', ')', '.', '`', '—']

/-- What the markers have in common. -/
structure LineMarker (pattern : Text) : Prop where
  head : ∃ rest, pattern = '<' :: rest
  last : ∃ last ∈ ['t', '>'], pattern.getLast? = some last
  lacks : ∀ c ∈ seams, c ∉ pattern

theorem managedStart_lineMarker : LineMarker managedStart :=
  ⟨⟨managedStart.tail, by decide⟩, ⟨'t', by decide, by decide⟩,
    forall_mem_of_all (by decide)⟩

theorem managedEnd_lineMarker : LineMarker managedEnd :=
  ⟨⟨managedEnd.tail, by decide⟩, ⟨'>', by decide, by decide⟩, forall_mem_of_all (by decide)⟩

theorem managedEnd_isMarker : IsMarker managedEnd '<' :=
  ⟨⟨managedEnd.tail, by decide, by decide⟩⟩

variable {pattern : Text} (hp : LineMarker pattern)

include hp

theorem LineMarker.ne_nil : pattern ≠ [] := by
  obtain ⟨rest, rfl⟩ := hp.head
  exact List.cons_ne_nil _ _

theorem LineMarker.free_of_not_mem {text : Text} (h : '<' ∉ text) : ¬ pattern <:+: text := by
  obtain ⟨rest, rfl⟩ := hp.head
  exact not_infix_of_not_mem (List.mem_cons_self ..) h

theorem LineMarker.free_lit (h : s = String.ofList chars)
    (hc : '<' ∉ chars) : ¬ pattern <:+: lit s :=
  hp.free_of_not_mem (not_mem_lit h hc)

theorem LineMarker.free_append {before after : Text} (hbefore : '<' ∉ before)
    (hafter : ¬ pattern <:+: after) : ¬ pattern <:+: before ++ after := by
  obtain ⟨rest, hrest⟩ := hp.head
  exact fun h => hafter (infix_of_infix_append_left hrest hbefore h)

theorem LineMarker.free_append_right {before after : Text} (hbefore : ¬ pattern <:+: before)
    (ht : 't' ∉ after) (hgt : '>' ∉ after) : ¬ pattern <:+: before ++ after := by
  obtain ⟨last, hmem, hlast⟩ := hp.last
  refine fun h => hbefore (infix_of_infix_append_right hlast ?_ h)
  simp only [List.mem_cons, List.not_mem_nil, or_false] at hmem
  rcases hmem with rfl | rfl
  · exact ht
  · exact hgt

theorem LineMarker.free_cons {c : Char} {before after : Text} (hc : c ∈ seams)
    (hbefore : ¬ pattern <:+: before) (hafter : ¬ pattern <:+: after) :
    ¬ pattern <:+: before ++ c :: after := by
  rw [infix_append_cons (hp.lacks c hc) hp.ne_nil]
  exact fun h => h.elim hbefore hafter

omit hp

/-! ## The strings of a request -/

/-- The strings that a request brings into its blocks. -/
def RenderRequest.texts (request : RenderRequest) : List Text :=
  let bundle := request.bundle
  [request.instructionSource, request.sourceDigest, bundle.name, bundle.purpose,
    bundle.responseLanguage, bundle.commitStyle] ++ bundle.principles ++
  bundle.rules.flatMap (fun rule => [rule.id, rule.priority, rule.text] ++ rule.scope.toList) ++
  bundle.commands.flatMap fun command => [command.1, command.2]

/-- A request that brings no marker of a kind into its blocks. -/
def RenderRequest.Free (request : RenderRequest) (pattern : Text) : Prop :=
  ∀ text ∈ request.texts, ¬ pattern <:+: text

section Lines

variable {client : Client} {request : RenderRequest} (hfree : request.Free pattern)

include hfree

theorem RenderRequest.Free.source : ¬ pattern <:+: request.instructionSource :=
  hfree _ (by simp [RenderRequest.texts])

theorem RenderRequest.Free.digest : ¬ pattern <:+: request.sourceDigest :=
  hfree _ (by simp [RenderRequest.texts])

theorem RenderRequest.Free.principle {text : Text} (h : text ∈ request.bundle.principles) :
    ¬ pattern <:+: text :=
  hfree _ (by simp [RenderRequest.texts, h])

theorem RenderRequest.Free.rule {rule : Rule} (h : rule ∈ request.bundle.rules) :
    ¬ pattern <:+: rule.id ∧ ¬ pattern <:+: rule.priority ∧ ¬ pattern <:+: rule.text ∧
      ∀ scope, rule.scope = some scope → ¬ pattern <:+: scope := by
  have hmem : ∀ text ∈ [rule.id, rule.priority, rule.text] ++ rule.scope.toList,
      ¬ pattern <:+: text := by
    intro text htext
    refine hfree text ?_
    rw [RenderRequest.texts, List.mem_append, List.mem_append, List.mem_flatMap]
    exact .inl (.inr ⟨rule, h, htext⟩)
  refine ⟨hmem _ (by simp), hmem _ (by simp), hmem _ (by simp), fun scope hscope => ?_⟩
  exact hmem scope (by simp [hscope])

theorem RenderRequest.Free.command {command : Text × Text}
    (h : command ∈ request.bundle.commands) :
    ¬ pattern <:+: command.1 ∧ ¬ pattern <:+: command.2 := by
  have hmem : ∀ text ∈ [command.1, command.2], ¬ pattern <:+: text := by
    intro text htext
    refine hfree text ?_
    rw [RenderRequest.texts, List.mem_append, List.mem_flatMap (b := text)]
    exact .inr ⟨command, h, htext⟩
  exact ⟨hmem _ (by simp), hmem _ (by simp)⟩

include hp

/-! ### Lines -/

def startRest (client : Client) (request : RenderRequest) : Text :=
  lit " client=" ++ '"' :: (lit client.name ++ '"' :: (lit " source=" ++ '"' ::
    (request.instructionSource ++ '"' :: (lit " digest=" ++ '"' ::
      (request.sourceDigest ++ '"' :: lit " -->")))))

omit hp hfree in
theorem startLine_eq : startLine client request = managedStart ++ startRest client request := by
  have h₁ : lit " client=\"" = [] ++ lit " client=" ++ ['"'] := lit_append rfl rfl
  have h₂ : lit "\" source=\"" = ['"'] ++ lit " source=" ++ ['"'] := lit_append rfl rfl
  have h₃ : lit "\" digest=\"" = ['"'] ++ lit " digest=" ++ ['"'] := lit_append rfl rfl
  have h₄ : lit "\" -->" = ['"'] ++ lit " -->" ++ [] := lit_append rfl rfl
  unfold startLine startRest
  simp only [-String.reduceToList, h₁, h₂, h₃, h₄, List.append_assoc, List.cons_append,
    List.nil_append, List.append_nil]

theorem free_startLine {front : Text} (hfront : ¬ pattern <:+: front ++ lit " client=") :
    ¬ pattern <:+: front ++ startRest client request := by
  have hq : '"' ∈ seams := by decide
  have hname : ¬ pattern <:+: lit client.name := by
    refine hp.free_of_not_mem ?_
    cases client <;> decide
  have h₁ : ¬ pattern <:+: lit " source=" := hp.free_lit rfl (by decide)
  have h₂ : ¬ pattern <:+: lit " digest=" := hp.free_lit rfl (by decide)
  have h₃ : ¬ pattern <:+: lit " -->" := hp.free_lit rfl (by decide)
  unfold startRest
  rw [← List.append_assoc]
  refine hp.free_cons hq hfront (hp.free_cons hq hname ?_)
  refine hp.free_cons hq h₁ (hp.free_cons hq hfree.source ?_)
  exact hp.free_cons hq h₂ (hp.free_cons hq hfree.digest h₃)

theorem free_title : ¬ pattern <:+: lit "# " ++ request.bundle.name ++ lit " — AI instructions" := by
  have hsplit : lit " — AI instructions" = ' ' :: '—' :: lit " AI instructions" := by decide
  have hname : ¬ pattern <:+: request.bundle.name := hfree _ (by simp [RenderRequest.texts])
  have hblank : ¬ pattern <:+: lit "# " ++ request.bundle.name ++ [' '] := by
    refine hp.free_append_right ?_ (by decide) (by decide)
    exact hp.free_append (not_mem_lit rfl (by decide)) hname
  rw [hsplit, ← List.singleton_append, ← List.append_assoc]
  exact hp.free_cons (by decide) hblank (hp.free_lit rfl (by decide))

omit hp in
theorem free_purpose : ¬ pattern <:+: strip request.bundle.purpose := by
  have hpurpose : ¬ pattern <:+: request.bundle.purpose :=
    hfree _ (by simp [RenderRequest.texts])
  exact fun h => hpurpose (h.trans (strip_isInfix _))

theorem free_principleLines : ∀ line ∈ principleLines request.bundle.principles,
    ¬ pattern <:+: line := by
  intro line hline
  obtain ⟨⟨text, index⟩, hmem, rfl⟩ := List.mem_map.mp hline
  have htext := hfree.principle (List.fst_mem_of_mem_zipIdx hmem)
  have hdot : lit ". " = ['.', ' '] := by decide
  have hindex : '<' ∉ lit (toString index) := by
    rw [Nat.toString_eq_repr, lit, Nat.toList_repr]
    intro h
    exact absurd (Nat.isDigit_of_mem_toDigits (by decide) (by decide) h) (by decide)
  simp only [hdot, List.append_assoc, List.cons_append, List.nil_append]
  refine hp.free_cons (by decide) (hp.free_of_not_mem hindex) ?_
  exact @LineMarker.free_append _ hp [' '] _ (by decide) htext

theorem free_ruleLine {rule : Rule} (h : rule ∈ request.bundle.rules) :
    ¬ pattern <:+: ruleLine rule := by
  obtain ⟨hid, hpriority, htext, hscope⟩ := hfree.rule h
  have hopen : lit " (" = [' ', '('] := by decide
  have hclose : lit "):** " = ')' :: lit ":** " := by decide
  have hrest : ¬ pattern <:+: lit ":** " ++ rule.text :=
    hp.free_append (not_mem_lit rfl (by decide)) htext
  have hfront : ¬ pattern <:+: lit "- **" ++ rule.id ++ [' '] := by
    refine hp.free_append_right ?_ (by decide) (by decide)
    exact hp.free_append (not_mem_lit rfl (by decide)) hid
  have hline (scope : Text) (hmiddle : ¬ pattern <:+: rule.priority ++ scope) :
      ¬ pattern <:+: lit "- **" ++ rule.id ++ lit " (" ++ rule.priority ++ scope ++
        lit "):** " ++ rule.text := by
    have hsplit : lit "- **" ++ rule.id ++ lit " (" ++ rule.priority ++ scope ++
        lit "):** " ++ rule.text = (lit "- **" ++ rule.id ++ [' ']) ++
          '(' :: ((rule.priority ++ scope) ++ ')' :: (lit ":** " ++ rule.text)) := by
      simp only [hopen, hclose, List.append_assoc, List.cons_append, List.nil_append]
    rw [hsplit]
    exact hp.free_cons (by decide) hfront (hp.free_cons (by decide) hmiddle hrest)
  unfold ruleLine
  split
  · next c cs hsome =>
      refine hline _ ?_
      have hopen : lit "; scope: `" = [] ++ lit "; scope: " ++ ['`'] := lit_append rfl rfl
      have hclose : lit "`" = ['`'] := by decide
      have hsplit : rule.priority ++ (lit "; scope: `" ++ c :: cs ++ lit "`") =
          (rule.priority ++ lit "; scope: ") ++ '`' :: ((c :: cs) ++ '`' :: []) := by
        simp only [-String.reduceToList, hopen, hclose, List.append_assoc, List.cons_append,
          List.nil_append]
      rw [hsplit]
      refine hp.free_cons (by decide) ?_ ?_
      · exact hp.free_append_right hpriority (not_mem_lit rfl (by decide))
          (not_mem_lit rfl (by decide))
      · exact hp.free_cons (by decide) (hscope _ hsome) (hp.free_of_not_mem List.not_mem_nil)
  · refine hline _ ?_
    rw [List.append_nil]
    exact hpriority

theorem free_commandLines : ∀ line ∈ commandLines request.bundle.commands,
    ¬ pattern <:+: line := by
  intro line hline
  unfold commandLines at hline
  split at hline
  · cases hline
  rw [List.mem_append] at hline
  rcases hline with hline | hline
  · simp only [List.mem_cons, List.not_mem_nil, or_false] at hline
    rcases hline with rfl | rfl | rfl
    · exact hp.free_lit rfl (by decide)
    · exact hp.free_lit rfl (by decide)
    · exact hp.free_lit rfl (by decide)
  · obtain ⟨command, hmem, rfl⟩ := List.mem_map.mp hline
    obtain ⟨hname, hcommand⟩ := hfree.command hmem
    have hopen : lit "- `" = [] ++ lit "- " ++ ['`'] := lit_append rfl rfl
    have hmiddle : lit "`: `" = ['`'] ++ lit ": " ++ ['`'] := lit_append rfl rfl
    have hclose : lit "`" = ['`'] := by decide
    have hsplit : lit "- `" ++ command.1 ++ lit "`: `" ++ command.2 ++ lit "`" =
        lit "- " ++ '`' :: (command.1 ++ '`' :: (lit ": " ++ '`' ::
          (command.2 ++ '`' :: []))) := by
      simp only [-String.reduceToList, hopen, hmiddle, hclose, List.append_assoc,
        List.cons_append, List.nil_append]
    show ¬ pattern <:+: lit "- `" ++ command.1 ++ lit "`: `" ++ command.2 ++ lit "`"
    rw [hsplit]
    have hq : '`' ∈ seams := by decide
    have h₁ : ¬ pattern <:+: lit "- " := hp.free_lit rfl (by decide)
    have h₂ : ¬ pattern <:+: lit ": " := hp.free_lit rfl (by decide)
    refine hp.free_cons hq h₁ (hp.free_cons hq hname (hp.free_cons hq h₂ ?_))
    exact hp.free_cons hq hcommand (hp.free_of_not_mem List.not_mem_nil)

omit hfree in
theorem free_convention {label after text : Text} {c : Char} (hlabel : '<' ∉ label)
    (hc : c ∈ seams) (hafter : '<' ∉ after) (htext : ¬ pattern <:+: text) :
    ¬ pattern <:+: label ++ text ++ c :: after :=
  hp.free_cons hc (hp.free_append hlabel htext) (hp.free_of_not_mem hafter)

/-- **No line but the first one has a marker** that the request does not bring. -/
theorem free_bodyLines : ∀ line ∈ (bodyLines client request).tail, ¬ pattern <:+: line := by
  have hlabel : '<' ∉ lit client.label := by
    cases client <;> exact not_mem_lit rfl (by decide)
  have hprojection : ¬ pattern <:+: lit "> Projection for " ++ lit client.label ++
      lit ". Generated from `.ai/instructions.yaml`; authorization is enforced outside prompts." := by
    refine hp.free_of_not_mem ?_
    rw [List.mem_append, List.mem_append]
    rintro ((h | h) | h)
    · exact not_mem_lit rfl (by decide) h
    · exact hlabel h
    · exact not_mem_lit rfl (by decide) h
  have hlanguage : ¬ pattern <:+: lit "- Response language: " ++
      request.bundle.responseLanguage ++ lit "." := by
    have hdot : lit "." = ['.'] := by decide
    rw [hdot]
    exact free_convention hp (not_mem_lit rfl (by decide)) (by decide) (by decide)
      (hfree _ (by simp [RenderRequest.texts]))
  have hcommit : ¬ pattern <:+: lit "- Commit style: `" ++ request.bundle.commitStyle ++
      lit "`." := by
    have htick : lit "`." = ['`', '.'] := by decide
    rw [htick]
    exact free_convention hp (not_mem_lit rfl (by decide)) (by decide) (by decide)
      (hfree _ (by simp [RenderRequest.texts]))
  have hrules : ∀ line ∈ request.bundle.rules.map ruleLine, ¬ pattern <:+: line := by
    intro line hline
    obtain ⟨rule, hrule, rfl⟩ := List.mem_map.mp hline
    exact free_ruleLine hp hfree hrule
  have hempty : ¬ pattern <:+: lit "" := hp.free_lit rfl (by decide)
  have hnone : ∀ line ∈ ([] : List Text), ¬ pattern <:+: line := fun _ h => (nomatch h)
  unfold bodyLines
  simp only [List.cons_append, List.tail_cons, List.nil_append, List.forall_mem_cons,
    List.forall_mem_append]
  exact ⟨free_title hp hfree, hempty, hprojection, hempty, hp.free_lit rfl (by decide), hempty,
    free_purpose hfree, hempty, hp.free_lit rfl (by decide), hempty,
    ⟨⟨⟨free_principleLines hp hfree, hempty, hp.free_lit rfl (by decide), hempty, hnone⟩,
      hrules⟩, free_commandLines hp hfree⟩,
    hempty, hp.free_lit rfl (by decide), hempty, hlanguage, hcommit,
    hp.free_lit rfl (by decide), hp.free_lit rfl (by decide), hp.free_lit rfl (by decide),
    hempty, hp.free_lit rfl (by decide), hempty, hp.free_lit rfl (by decide),
    hp.free_lit rfl (by decide), hp.free_lit rfl (by decide), hp.free_lit rfl (by decide),
    hp.free_lit rfl (by decide), hempty, hnone⟩

end Lines

/-! ## Blocks -/

variable {client : Client} {request : RenderRequest}

/-- The lines of a block that stand behind its start marker. -/
def blockRest (client : Client) (request : RenderRequest) : Text :=
  (lit "\n").intercalate
    (startRest client request :: (bodyLines client request).tail ++ [managedEnd])

theorem intercalate_append_cons {sep front first : Text} {rest : List Text} :
    sep.intercalate ((front ++ first) :: rest) = front ++ sep.intercalate (first :: rest) := by
  cases rest with
  | nil => simp
  | cons next rest =>
    rw [List.intercalate_cons_cons, List.intercalate_cons_cons]
    simp only [List.append_assoc]

theorem intercalate_append_singleton {sep last : Text} {texts : List Text} (h : texts ≠ []) :
    sep.intercalate (texts ++ [last]) = sep.intercalate texts ++ sep ++ last := by
  induction texts with
  | nil => exact absurd rfl h
  | cons text texts ih =>
    cases texts with
    | nil => simp [List.intercalate_cons_cons]
    | cons next texts =>
      have ih := ih (List.cons_ne_nil _ _)
      rw [List.cons_append, List.intercalate_cons_of_ne_nil (by simp), ih,
        List.intercalate_cons_cons]
      simp only [List.append_assoc]

theorem blockLines_eq : (lit "\n").intercalate (bodyLines client request ++ [managedEnd]) =
    managedStart ++ blockRest client request := by
  have hlines : bodyLines client request ++ [managedEnd] =
      (managedStart ++ startRest client request) ::
        ((bodyLines client request).tail ++ [managedEnd]) := by
    rw [← startLine_eq]
    rfl
  rw [hlines, intercalate_append_cons]
  rfl

theorem blockRest_eq : ∃ middle, managedStart ++ blockRest client request =
    (lit "\n").intercalate (bodyLines client request) ++ lit "\n" ++ managedEnd ∧
      blockRest client request = middle ++ managedEnd := by
  refine ⟨(lit "\n").intercalate (startRest client request :: (bodyLines client request).tail) ++
    lit "\n", ?_, ?_⟩
  · rw [← blockLines_eq]
    refine intercalate_append_singleton ?_
    exact List.cons_ne_nil _ _
  · exact intercalate_append_singleton (List.cons_ne_nil _ _)

theorem getLast_blockRest : (blockRest client request).getLast? = some '>' := by
  obtain ⟨middle, _, h⟩ := @blockRest_eq client request
  rw [h, List.getLast?_append_of_ne_nil _ (by decide)]
  decide

theorem getLast_block (front : Text) :
    (front ++ (managedStart ++ blockRest client request)).getLast? = some '>' := by
  have hne : blockRest client request ≠ [] := by
    intro hnil
    have hlast := @getLast_blockRest client request
    rw [hnil] at hlast
    cases hlast
  rw [← List.append_assoc, List.getLast?_append_of_ne_nil _ hne, getLast_blockRest]

theorem renderBody_eq_rest :
    renderBody client request = managedStart ++ blockRest client request ++ lit "\n" := by
  rw [renderBody, blockLines_eq, @rstrip_of_getLast _ '>']
  · exact getLast_block []
  · decide

theorem rstrip_renderBody :
    rstrip (renderBody client request) = managedStart ++ blockRest client request := by
  have hnewline : lit "\n" = ['\n'] := by decide
  rw [renderBody_eq_rest, hnewline, rstrip_concat_space (by decide), @rstrip_of_getLast _ '>']
  · exact getLast_block []
  · decide

theorem free_blockRest (hfree : request.Free managedStart) :
    ¬ managedStart <:+: blockRest client request := by
  have hp := managedStart_lineMarker
  have hnewline : lit "\n" = ['\n'] := by decide
  intro h
  rw [blockRest, hnewline] at h
  obtain ⟨line, hline, h⟩ :=
    infix_of_infix_intercalate (hp.lacks '\n' (by decide)) hp.ne_nil h
  rw [List.cons_append, List.mem_cons, List.mem_append, List.mem_singleton] at hline
  rcases hline with rfl | hline | rfl
  · have hfront : ¬ managedStart <:+: [] ++ lit " client=" :=
      hp.free_of_not_mem (not_mem_lit rfl (by decide))
    exact free_startLine hp hfree hfront h
  · exact free_bodyLines hp hfree line hline h
  · exact absurd h (by decide)

theorem cutFirst_end_block (hfree : request.Free managedEnd) {after : Text} :
    ∃ middle, cutFirst managedEnd (managedStart ++ (blockRest client request ++ after)) =
      some (middle, after) := by
  have hp := managedEnd_lineMarker
  have hnewline : lit "\n" = ['\n'] := by decide
  obtain ⟨_, hblock, _⟩ := @blockRest_eq client request
  rw [← List.append_assoc, hblock]
  refine ⟨_, managedEnd_isMarker.cutFirst_append ?_⟩
  have hlines : ¬ managedEnd <:+: (lit "\n").intercalate (bodyLines client request) := by
    rw [hnewline]
    intro h
    obtain ⟨line, hline, h⟩ :=
      infix_of_infix_intercalate (hp.lacks '\n' (by decide)) hp.ne_nil h
    have hcons : bodyLines client request =
        startLine client request :: (bodyLines client request).tail := rfl
    rw [hcons, List.mem_cons] at hline
    rcases hline with rfl | hline
    · rw [startLine_eq] at h
      exact free_startLine hp hfree (by decide) h
    · exact free_bodyLines hp hfree line hline h
  rw [hnewline] at hlines ⊢
  exact fun h => hlines
    (infix_append_of_disjoint (forall_mem_of_all (by decide)) h hp.ne_nil)

/-! ## Managed texts -/

theorem managedSpan_block {front after : Text} (hfree : request.Free managedStart)
    (hfront : ¬ managedStart <:+: front) (hafter : ¬ managedStart <:+: after) :
    ∃ after', managedSpan (front ++ managedStart ++ (blockRest client request ++ after)) =
      .ok (some (front, after')) := by
  have hrest : ¬ managedStart <:+: blockRest client request ++ after := by
    rw [infix_append_of_getLast getLast_blockRest (by decide)]
    exact fun h => h.elim (free_blockRest hfree) hafter
  obtain ⟨middle, _, hmiddle⟩ := @blockRest_eq client request
  cases hend : cutFirst managedEnd (managedStart ++ (blockRest client request ++ after)) with
  | none =>
    refine absurd ?_ (cutFirst_eq_none.mp hend)
    rw [hmiddle]
    exact ⟨managedStart ++ middle, after, by simp only [List.append_assoc]⟩
  | some cut =>
    refine ⟨cut.2, managedSpan_eq_some.mpr ⟨_, cut.1, ?_, hend, hrest⟩⟩
    exact managedStart_isMarker.cutFirst_append hfront

theorem managedSpan_renderBody (hstart : request.Free managedStart)
    (hend : request.Free managedEnd) :
    managedSpan (renderBody client request) = .ok (some ([], lit "\n")) := by
  have hnewline : ¬ managedStart <:+: lit "\n" :=
    managedStart_lineMarker.free_of_not_mem (by decide)
  rw [renderBody_eq_rest, List.append_assoc]
  obtain ⟨middle, hcut⟩ := @cutFirst_end_block client request hend (lit "\n")
  refine managedSpan_eq_some.mpr ⟨_, middle, ?_, hcut, ?_⟩
  · exact @IsMarker.cutFirst_append _ _ _ [] _ _ managedStart_isMarker
      (managedStart_lineMarker.free_of_not_mem List.not_mem_nil)
  · rw [infix_append_of_getLast getLast_blockRest (by decide)]
    exact fun h => h.elim (free_blockRest hstart) hnewline

theorem free_of_managedSpan {content before after : Text}
    (h : managedSpan content = .ok (some (before, after))) :
    ¬ managedStart <:+: before ∧ ¬ managedStart <:+: after := by
  obtain ⟨rest, middle, hstart, hend, hrest⟩ := managedSpan_eq_some.mp h
  obtain ⟨heq, hfirst⟩ := cutFirst_eq_some hstart
  constructor
  · rintro ⟨s, t, rfl⟩
    have hle := hfirst s (t ++ managedStart ++ rest) (by rw [heq]; simp only [List.append_assoc])
    have hlength : 0 < managedStart.length := by decide
    simp only [List.length_append] at hle
    omega
  · obtain ⟨heq, _⟩ := cutFirst_eq_some hend
    have hlength : managedStart.length ≤ managedEnd.length := by decide
    have hsuffix : after <:+ rest := by
      have hend : after <:+ managedStart ++ rest := heq ▸ List.suffix_append _ _
      refine List.suffix_of_suffix_length_le hend (List.suffix_append _ _) ?_
      have hlengths := congrArg List.length heq
      simp only [List.length_append] at hlengths
      omega
    exact fun hafter => hrest (hafter.trans hsuffix.isInfix)

theorem managedSpan_update {content before after : Text} (hfree : request.Free managedStart)
    (h : managedSpan content = .ok (some (before, after))) :
    ∃ span, managedSpan (rstrip (before ++ rstrip (renderBody client request) ++ after) ++
      lit "\n") = .ok (some span) := by
  obtain ⟨hbefore, hafter⟩ := free_of_managedSpan h
  have htext : rstrip (before ++ rstrip (renderBody client request) ++ after) ++ lit "\n" =
      before ++ managedStart ++ (blockRest client request ++ (rstrip after ++ lit "\n")) := by
    rw [rstrip_renderBody, rstrip_append_of_getLast (getLast_block before) (by decide)]
    simp only [List.append_assoc]
  have hstripped : ¬ managedStart <:+: rstrip after ++ lit "\n" := by
    refine managedStart_lineMarker.free_append_right ?_ (by decide) (by decide)
    exact fun h => hafter (h.trans (rstrip_isPrefix _).isInfix)
  rw [htext]
  obtain ⟨after', hspan⟩ := managedSpan_block hfree hbefore hstripped
  exact ⟨_, hspan⟩

theorem update_block {block : Text} (hblock : block = renderBody client request) :
    rstrip ([] ++ rstrip block ++ lit "\n") ++ lit "\n" = block := by
  have hnewline : lit "\n" = ['\n'] := by decide
  have hlast : (managedStart ++ blockRest client request).getLast? = some '>' :=
    getLast_block []
  rw [hblock, List.nil_append, rstrip_renderBody, hnewline, rstrip_concat_space (by decide),
    rstrip_of_getLast hlast (by decide), renderBody_eq_rest, hnewline]

theorem managedSpan_adoptText {current : Text} (hfree : request.Free managedStart)
    (hcurrent : ¬ managedStart <:+: current) :
    ∃ span, managedSpan (adoptText current (renderBody client request)) = .ok (some span) := by
  have hnewline : ¬ managedStart <:+: lit "\n" :=
    managedStart_lineMarker.free_of_not_mem (by decide)
  have hnil : ¬ managedStart <:+: ([] : Text) :=
    managedStart_lineMarker.free_of_not_mem List.not_mem_nil
  unfold adoptText
  rw [renderBody_eq_rest]
  split
  · obtain ⟨after, hspan⟩ := @managedSpan_block client request _ _ hfree hnil hnewline
    rw [List.append_assoc]
    exact ⟨_, hspan⟩
  · have hfront : ¬ managedStart <:+: rstrip current ++ lit "\n\n---\n\n" := by
      refine managedStart_lineMarker.free_append_right ?_ (by decide) (by decide)
      exact fun h => hcurrent (h.trans (rstrip_isPrefix _).isInfix)
    obtain ⟨after, hspan⟩ := @managedSpan_block client request _ _ hfree hfront hnewline
    rw [List.append_assoc managedStart, ← List.append_assoc (rstrip current ++ _)]
    exact ⟨_, hspan⟩

/-- **What is desired is managed**, where a render goes through with it. -/
theorem Desired.managed {current desired : Text} {mode : Mode}
    (h : Desired request current (renderBody client request) desired mode)
    (hmode : mode ≠ .conflict) (hfree : request.Free managedStart) :
    ∃ span, managedSpan desired = .ok (some span) := by
  have hnewline : ¬ managedStart <:+: lit "\n" :=
    managedStart_lineMarker.free_of_not_mem (by decide)
  have hnil : ¬ managedStart <:+: ([] : Text) :=
    managedStart_lineMarker.free_of_not_mem List.not_mem_nil
  have hblock : ∃ span, managedSpan (renderBody client request) = .ok (some span) := by
    obtain ⟨after, hspan⟩ := @managedSpan_block client request _ _ hfree hnil hnewline
    rw [renderBody_eq_rest, List.append_assoc]
    exact ⟨_, hspan⟩
  cases h with
  | updated hspan => exact managedSpan_update hfree hspan
  | created | replaced => exact hblock
  | adopted hnot => exact managedSpan_adoptText hfree hnot
  | conflict => exact absurd rfl hmode

/-- A file with nothing but a block has nothing but a block after an update. -/
theorem Desired.block {current desired : Text} {mode : Mode}
    (h : Desired request current (renderBody client request) desired mode)
    (hcurrent : current = [] ∨ managedSpan current = .ok (some ([], lit "\n")))
    (hstart : request.Free managedStart) (hend : request.Free managedEnd) :
    managedSpan desired = .ok (some ([], lit "\n")) := by
  have hwithin : current = [] ∨ managedStart <:+: current := by
    refine hcurrent.imp id fun hspan => ?_
    by_contra hnot
    rw [managedSpan_eq_none.mpr hnot] at hspan
    cases hspan
  have hblock := @managedSpan_renderBody client request hstart hend
  cases h with
  | @updated before after hspan =>
    rcases hcurrent with rfl | hcurrent
    · rw [managedSpan_eq_none.mpr (by decide)] at hspan
      cases hspan
    · rw [hcurrent] at hspan
      obtain ⟨rfl, rfl⟩ := Prod.mk.inj (Option.some.inj (Except.ok.inj hspan))
      rw [update_block rfl]
      exact hblock
  | created => exact hblock
  | adopted hnot hne | replaced hnot hne | conflict hnot hne =>
    exact absurd hwithin (by simp [hne, hnot])

end Ecosystem.Projections
