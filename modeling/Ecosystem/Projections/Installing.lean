import Ecosystem.Projections.Histories
import Ecosystem.Projections.Markers

/-!
# What a render leaves

A render that returns has put its text at every target and the former text into a
backup, as long as no target is another one, a backup or the state.  The rest is as it
was, up to directories where there was nothing.
-/

namespace Ecosystem.Projections

open Ecosystem.Lib Ecosystem.Lib.Checks

/-! ## Texts in a tree -/

def HasText (tree : Tree) (path : Path) (text : Text) : Prop :=
  ∃ content, tree.lookup path = some (.file content) ∧ content.val = .utf8 text

variable {tree tree' tree'' : Tree} {path : Path} {text : Text}

theorem HasText.lookup_eq (h : HasText tree path text) (h' : HasText tree' path text) :
    tree.lookup path = tree'.lookup path := by
  obtain ⟨content, hfile, hcontent⟩ := h
  obtain ⟨content', hfile', hcontent'⟩ := h'
  obtain rfl : content = content' := Subtype.ext (hcontent.trans hcontent'.symm)
  rw [hfile, hfile']

theorem HasText.of_lookup (h : HasText tree path text)
    (hlookup : tree'.lookup path = tree.lookup path) : HasText tree' path text := by
  obtain ⟨content, hfile, hcontent⟩ := h
  exact ⟨content, hlookup.trans hfile, hcontent⟩

theorem HasText.isSome (h : HasText tree path text) : (tree.lookup path).isSome := by
  obtain ⟨content, hfile, _⟩ := h
  rw [hfile]
  rfl

theorem HasText.unique {text' : Text} (h : HasText tree path text)
    (h' : HasText tree path text') : text = text' := by
  obtain ⟨content, hfile, hcontent⟩ := h
  obtain ⟨content', hfile', hcontent'⟩ := h'
  rw [hfile] at hfile'
  cases hfile'
  exact RawContent.utf8.inj (hcontent.symm.trans hcontent')

theorem HasText.read (h : HasText tree path text) (hshort : tooLong path = false) :
    readProjection tree path = .ok text := by
  obtain ⟨⟨content, hsize⟩, hfile, rfl⟩ := h
  rw [readProjection, hshort, hfile]
  rfl

theorem hasText_of_read (h : readProjection tree path = .ok text) :
    HasText tree path text ∨ (text = [] ∧ tree.lookup path = none) := by
  unfold readProjection at h
  split at h
  · cases h
  split at h
  · next hnone => exact .inr ⟨(Except.ok.inj h).symm, hnone⟩
  · next text' hsize hfile =>
      cases h
      exact .inl ⟨_, hfile, rfl⟩
  · cases h
  · cases h

/-! ## Growth -/

/-- Apart from the paths that were edited, only directories have come about. -/
def Grew (edited : Path → Prop) (tree tree' : Tree) : Prop :=
  ∀ q, ¬ edited q → tree'.lookup q = tree.lookup q ∨
    (tree.lookup q = none ∧ tree'.lookup q = some .directory)

variable {edited edited' : Path → Prop}

theorem Grew.refl : Grew edited tree tree := fun _ _ => .inl rfl

theorem Grew.mono (h : Grew edited tree tree') (himp : ∀ q, edited q → edited' q) :
    Grew edited' tree tree' := fun q hq => h q fun he => hq (himp q he)

theorem Grew.trans (h : Grew edited tree tree') (h' : Grew edited tree' tree'') :
    Grew edited tree tree'' := by
  intro q hq
  rcases h' q hq with hsame | ⟨hnone, hdir⟩
  · rw [hsame]
    exact h q hq
  · rcases h q hq with hsame | ⟨_, hdir'⟩
    · exact .inr ⟨hsame ▸ hnone, hdir⟩
    · rw [hdir'] at hnone
      cases hnone

theorem Grew.hasText (h : Grew edited tree tree') (hq : ¬ edited path)
    (htext : HasText tree path text) : HasText tree' path text := by
  rcases h path hq with hsame | ⟨hnone, _⟩
  · exact htext.of_lookup hsame
  · obtain ⟨content, hfile, _⟩ := htext
    rw [hnone] at hfile
    cases hfile

theorem Tree.Wrote.grew {content : Content} (h : Tree.Wrote tree tree' path content) :
    Grew (· = path) tree tree' := by
  intro q hq
  rcases h.others q hq with hsame | ⟨hnone, hdir, _⟩
  · exact .inl hsame
  · exact .inr ⟨hnone, hdir⟩

variable {prims : Primitives} {config : Path}

theorem returns_writeText : Returns (writeText path text)
    (fun _ tree' => HasText tree' path text ∧ Grew (· = path) tree tree') tree := by
  refine returns_change fun tree' hwrite => ?_
  obtain ⟨content, hcontent, hwrite⟩ := bind_eq_ok.mp hwrite
  have hwrote := (Tree.atomicWrite_eq_ok hwrite).2
  exact ⟨⟨content, hwrote.written, encode_eq_ok hcontent⟩, hwrote.grew⟩

/-! ## Backups -/

/-- Where the text that a plan replaces is kept. -/
def ProjectionPlan.backup (prims : Primitives) (config : Path) (plan : ProjectionPlan) : Path :=
  config ++ backupPath prims plan.path plan.current

theorem returns_keepBackup_text {plan : ProjectionPlan} :
    Returns (keepBackup prims config plan)
      (fun _ tree' => HasText tree' (plan.backup prims config) plan.current ∧
        Grew (· = plan.backup prims config) tree tree' ∧
        ∀ q text, HasText tree q text → HasText tree' q text) tree := by
  refine returns_bind (fun found tree' => tree = tree' ∧
    existing tree (plan.backup prims config) = .ok found)
    (returns_inspect fun found h => ⟨rfl, h⟩) ?_
  rintro found _ ⟨rfl, hfound⟩
  cases found with
  | some content =>
    refine returns_ofExcept fun _ hsame => ?_
    rw [require_eq_ok, decide_eq_true_eq] at hsame
    exact ⟨⟨content, existing_eq_some hfound, hsame⟩, Grew.refl, fun _ _ h => h⟩
  | none =>
    refine returns_writeText.mono fun _ tree' ⟨htext, hgrew⟩ => ⟨htext, hgrew, ?_⟩
    intro q text hq
    refine hgrew.hasText ?_ hq
    rintro rfl
    obtain ⟨content, hfile, _⟩ := hq
    have hfile : tree.lookup (plan.backup prims config) = some (.file content) := hfile
    unfold existing at hfound
    split at hfound
    · cases hfound
    rw [hfile] at hfound
    cases hfound

/-! ## Targets -/

def ProjectionPlan.Edits (prims : Primitives) (config : Path) (plan : ProjectionPlan)
    (q : Path) : Prop :=
  q = plan.path ∨ (plan.backsUp = true ∧ q = plan.backup prims config)

structure Applied (prims : Primitives) (config : Path) (plan : ProjectionPlan)
    (tree tree' : Tree) : Prop where
  target : HasText tree' plan.path plan.desired
  backup : plan.backsUp = true → HasText tree' (plan.backup prims config) plan.current
  frame : Grew (plan.Edits prims config) tree tree'
  texts : ∀ q text, q ≠ plan.path → HasText tree q text → HasText tree' q text

theorem returns_applyProjection_text {prior : List Output} {plan : ProjectionPlan}
    (hlive : plan.current = plan.desired → HasText tree plan.path plan.current)
    (hbackup : plan.backsUp = true → plan.backup prims config ≠ plan.path) :
    Returns (applyProjection prims config prior plan)
      (fun _ tree' => Applied prims config plan tree tree') tree := by
  refine returns_bind (fun _ tree' =>
    (plan.backsUp = true → HasText tree' (plan.backup prims config) plan.current) ∧
      Grew (fun q => plan.backsUp = true ∧ q = plan.backup prims config) tree tree' ∧
      ∀ q text, HasText tree q text → HasText tree' q text) ?_ ?_
  · refine returns_whenever (fun hbacks => ?_) fun hskip => ?_
    · refine returns_keepBackup_text.mono fun _ tree' ⟨htext, hgrew, hkeeps⟩ => ?_
      exact ⟨fun _ => htext, hgrew.mono fun q hq => ⟨hbacks, hq⟩, hkeeps⟩
    · exact ⟨fun h => absurd h (by simp [hskip]), Grew.refl, fun _ _ h => h⟩
  · rintro ⟨⟩ tree₁ ⟨hkept, hgrew, hkeeps⟩
    refine returns_bind (fun _ tree' => Applied prims config plan tree tree') ?_
      fun _ _ h => returns_pure h
    refine returns_whenever (fun _ => ?_) fun hskip => ?_
    · refine returns_writeText.mono fun _ tree' ⟨htext, hwrote⟩ => ?_
      refine ⟨htext, fun hbacks => hwrote.hasText (hbackup hbacks) (hkept hbacks), ?_, ?_⟩
      · exact (hgrew.mono fun q hq => .inr hq).trans (hwrote.mono fun q hq => .inl hq)
      · exact fun q text hq h => hwrote.hasText hq (hkeeps q text h)
    · rw [decide_eq_false_iff_not, not_not] at hskip
      refine ⟨hskip ▸ hkeeps _ _ (hlive hskip), hkept, hgrew.mono fun q hq => .inr hq, ?_⟩
      exact fun q text _ h => hkeeps q text h

structure AppliedAll (prims : Primitives) (config : Path) (plans : List ProjectionPlan)
    (tree tree' : Tree) : Prop where
  target : ∀ plan ∈ plans, HasText tree' plan.path plan.desired
  backup : ∀ plan ∈ plans, plan.backsUp = true →
    HasText tree' (plan.backup prims config) plan.current
  frame : Grew (fun q => ∃ plan ∈ plans, plan.Edits prims config q) tree tree'
  texts : ∀ q text, q ∉ plans.map ProjectionPlan.path → HasText tree q text →
    HasText tree' q text

theorem returns_applyEach_text {prior : List Output} {plans : List ProjectionPlan}
    (hnodup : (plans.map ProjectionPlan.path).Nodup)
    (hlive : ∀ plan ∈ plans, plan.current = plan.desired →
      HasText tree plan.path plan.current) (hbackup : ∀ plan ∈ plans, plan.backsUp = true →
      plan.backup prims config ∉ plans.map ProjectionPlan.path) :
    Returns (applyEach prims config prior plans)
      (fun _ tree' => AppliedAll prims config plans tree tree') tree := by
  induction plans generalizing tree with
  | nil =>
    exact returns_pure ⟨fun _ h => (nomatch h), fun _ h => (nomatch h), Grew.refl,
      fun _ _ _ h => h⟩
  | cons plan plans ih =>
    rw [List.map_cons, List.nodup_cons] at hnodup
    rw [List.forall_mem_cons] at hlive
    have hfirst : plan.backsUp = true → plan.backup prims config ≠ plan.path := by
      intro hbacks heq
      refine hbackup plan (List.mem_cons_self ..) hbacks ?_
      rw [heq]
      exact List.mem_cons_self ..
    refine returns_bind _ (returns_applyProjection_text hlive.1 hfirst)
      fun output tree₁ happlied => ?_
    refine returns_bind (fun _ tree' => AppliedAll prims config plans tree₁ tree') ?_
      fun outputs tree₂ hall => returns_pure ?_
    · refine ih hnodup.2 (fun plan' hplan' heq => ?_) fun plan' hplan' hbacks hmem => ?_
      · refine happlied.texts _ _ ?_ (hlive.2 plan' hplan' heq)
        intro hpath
        exact hnodup.1 (hpath ▸ List.mem_map_of_mem hplan')
      · exact hbackup plan' (List.mem_cons_of_mem _ hplan') hbacks
          (List.mem_cons_of_mem _ hmem)
    · refine ⟨?_, ?_, ?_, ?_⟩
      · rw [List.forall_mem_cons]
        exact ⟨hall.texts _ _ hnodup.1 happlied.target, hall.target⟩
      · rw [List.forall_mem_cons]
        refine ⟨fun hbacks => hall.texts _ _ (fun hmem => ?_) (happlied.backup hbacks),
          hall.backup⟩
        exact hbackup plan (List.mem_cons_self ..) hbacks (List.mem_cons_of_mem _ hmem)
      · refine (happlied.frame.mono fun q hq => ⟨plan, List.mem_cons_self .., hq⟩).trans
          (hall.frame.mono fun q ⟨plan', hplan', hq⟩ => ?_)
        exact ⟨plan', List.mem_cons_of_mem _ hplan', hq⟩
      · intro q text hq h
        rw [List.map_cons, List.mem_cons, not_or] at hq
        exact hall.texts q text hq.2 (happlied.texts q text hq.1 h)

theorem returns_writeState_text {outputs : List Output} :
    Returns (writeState prims config outputs)
      (fun _ tree' => Grew (· = statePath config) tree tree') tree := by
  refine returns_bind (fun _ tree' => tree = tree') (returns_inspect fun _ _ => rfl) ?_
  rintro found _ rfl
  refine returns_whenever (fun _ => returns_writeText.mono fun _ _ h => h.2) fun _ => ?_
  exact Grew.refl

/-! ## A render -/

theorem Desired.ne_nil {request : RenderRequest} {client : Client} {current desired : Text}
    {mode : Mode} (h : Desired request current (renderBody client request) desired mode) :
    desired ≠ [] := by
  have hblock : renderBody client request ≠ [] := by
    rw [renderBody_eq_rest]
    exact List.append_ne_nil_of_right_ne_nil _ (by decide)
  cases h with
  | updated => exact List.append_ne_nil_of_right_ne_nil _ (by decide)
  | created | replaced | conflict => exact hblock
  | adopted =>
    unfold adoptText
    split
    · exact hblock
    · exact List.append_ne_nil_of_right_ne_nil _ hblock

/-- No target is where the text of another one would be kept. -/
def BackupsApart (prims : Primitives) (config : Path) (tree : Tree)
    (targets : List Path) : Prop :=
  ∀ p ∈ targets, ∀ q ∈ targets, ∀ text, HasText tree q text → ¬ managedStart <:+: text →
    config ++ backupPath prims q text ≠ p

/-- What a render leaves at its targets and elsewhere. -/
structure Installed (prims : Primitives) (config : Path) (tree : Tree)
    (plans : List ProjectionPlan) (tree' : Tree) : Prop where
  target : ∀ plan ∈ plans, HasText tree' plan.path plan.desired
  backup : ∀ plan ∈ plans, plan.backsUp = true →
    HasText tree' (plan.backup prims config) plan.current
  frame : Grew (fun q => q = statePath config ∨ ∃ plan ∈ plans, plan.Edits prims config q)
    tree tree'
  texts : ∀ q text, q ∉ plans.map ProjectionPlan.path → q ≠ statePath config →
    HasText tree q text → HasText tree' q text

/-- **What a render has done to the files when it returns.** -/
theorem returns_render_installed {request : RenderRequest} (hnodup : request.targets.Nodup)
    (hapart : TargetsApart config request)
    (hbackups : BackupsApart prims config tree request.targets) :
    Returns (render prims config request) (fun outputs tree' => ∃ plans prior,
        Rendered prims config tree request plans prior outputs tree' ∧
          Installed prims config tree plans tree') tree := by
  have hinstalled : Returns (render prims config request)
      (fun _ tree' => ∃ plans, planProjections tree request = .ok plans ∧
        Installed prims config tree plans tree') tree := by
    refine returns_bind
      (fun plans tree' => tree' = tree ∧ planProjections tree request = .ok plans)
      (returns_inspect fun plans h => ⟨rfl, h⟩) ?_
    rintro plans _ ⟨rfl, hplans⟩
    rename_i tree
    refine returns_bind (fun _ tree' => tree' = tree) (returns_ofExcept fun _ _ => rfl) ?_
    rintro _ _ rfl
    rename_i tree
    refine returns_bind (fun _ tree' => tree' = tree) returns_checkEach ?_
    rintro _ _ rfl
    rename_i tree
    refine returns_bind (fun _ tree' => tree' = tree) (returns_inspect fun _ _ => rfl) ?_
    rintro prior _ rfl
    rename_i tree
    have htargets := planned_targets hplans
    have hlive : ∀ plan ∈ plans, plan.current ≠ [] → HasText tree plan.path plan.current := by
      intro plan hplan hne
      obtain ⟨_, _, hfor⟩ := planned_live hplans hplan
      exact (hasText_of_read hfor.current).resolve_right fun h => hne h.1
    have hbackup : ∀ plan ∈ plans, plan.backsUp = true →
        plan.backup prims config ∉ plans.map ProjectionPlan.path := by
      intro plan hplan hbacks hmem
      obtain ⟨_, _, hfor⟩ := planned_live hplans hplan
      obtain ⟨hne, hnot⟩ := hfor.free_of_backsUp hbacks
      rw [htargets] at hmem
      refine hbackups _ hmem plan.path ?_ _ (hlive plan hplan hne) hnot rfl
      rw [← htargets]
      exact List.mem_map_of_mem hplan
    refine returns_bind _ (returns_applyEach_text (htargets ▸ hnodup) (fun plan hplan heq => ?_)
      hbackup) fun outputs tree₁ hall => ?_
    · obtain ⟨_, _, hfor⟩ := planned_live hplans hplan
      refine hlive plan hplan ?_
      rw [heq]
      exact hfor.desired.ne_nil
    refine returns_bind _ returns_writeState_text fun _ tree₂ hstate => returns_pure ?_
    refine ⟨plans, hplans, ?_, ?_, ?_, ?_⟩
    · intro plan hplan
      refine hstate.hasText ?_ (hall.target plan hplan)
      intro heq
      refine (hapart plan.path ?_).ne.2.2 heq.symm
      rw [← htargets]
      exact List.mem_map_of_mem hplan
    · intro plan hplan hbacks
      refine hstate.hasText ?_ (hall.backup plan hplan hbacks)
      exact fun heq => (backupPath_apart _ _).ne.2.2 heq.symm
    · exact (hall.frame.mono fun q hq => .inr hq).trans (hstate.mono fun q hq => .inl hq)
    · exact fun q text hq hne h => hstate.hasText hne (hall.texts q text hq h)
  refine (returns_render.and hinstalled).mono ?_
  rintro outputs tree' ⟨⟨plans, prior, hrendered⟩, plans', hplans, hinst⟩
  obtain rfl : plans = plans' := Except.ok.inj (hrendered.planned.symm.trans hplans)
  exact ⟨plans, prior, hrendered, hinst⟩

end Ecosystem.Projections
