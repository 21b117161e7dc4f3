import Ecosystem.Projections.Restoring

/-!
# Renders that can be undone

The invariant of a run of renders relates the tree to the one before the first of them:
every target is owned, with what was there before, and elsewhere only directories,
backups and the state have come about.
-/

namespace Ecosystem.Projections

open Ecosystem.Lib

variable {prims : Primitives} {config : Path} {initial tree tree' : Tree} {path : Path}

/-! ## Before-images -/

/-- The text that an uninstall is to bring back: an empty file has none. -/
def imageOf (tree : Tree) (path : Path) : Option Text :=
  match tree.lookup path with
  | some (.file ⟨.utf8 (c :: cs), _⟩) => some (c :: cs)
  | _ => none

theorem imageOf_text {text : Text} (h : HasText tree path text) (hne : text ≠ []) :
    imageOf tree path = some text := by
  obtain ⟨⟨content, hsize⟩, hfile, rfl⟩ := h
  cases text with
  | nil => exact absurd rfl hne
  | cons c cs => rw [imageOf, hfile]

theorem imageOf_empty (h : HasText tree path []) : imageOf tree path = none := by
  obtain ⟨⟨content, hsize⟩, hfile, rfl⟩ := h
  rw [imageOf, hfile]

theorem imageOf_none (h : tree.lookup path = none) : imageOf tree path = none := by
  rw [imageOf, h]

theorem hasText_of_imageOf {text : Text} (h : imageOf tree path = some text) :
    HasText tree path text ∧ text ≠ [] := by
  unfold imageOf at h
  split at h
  · next c cs hsize hfile =>
      obtain rfl := Option.some.inj h
      exact ⟨⟨_, hfile, rfl⟩, List.cons_ne_nil _ _⟩
  · cases h

/-! ## The invariant of a run -/

structure Undoable (prims : Primitives) (config : Path) (initial : Tree)
    (request : RenderRequest) : Prop where
  distinct : request.targets.Nodup
  apart : TargetsApart config request
  backups : BackupsApart prims config initial request.targets
  start : request.Free managedStart
  finish : (∃ p ∈ request.targets, initial.lookup p = none ∨ HasText initial p []) →
    request.Free managedEnd

def EditedSince (prims : Primitives) (config : Path) (initial : Tree) (targets : List Path)
    (q : Path) : Prop :=
  q ∈ targets ∨ q = statePath config ∨ ∃ p ∈ targets, ∃ before, HasText initial p before ∧
    ¬ managedStart <:+: before ∧ q = config ++ backupPath prims p before

/-- A tree that renders to the targets have led to. -/
structure Tracked (prims : Primitives) (config : Path) (initial : Tree) (targets : List Path)
    (state : Option (List Output)) (tree : Tree) : Prop where
  accepted : projectionState prims config tree = .ok state
  sound : Sound prims config tree
  owned : ∀ o ∈ state.getD [], components o.path ∈ targets ∧
    Owned prims config tree (components o.path) o (imageOf initial (components o.path))
  recorded : ∀ p ∈ targets, ∃ o ∈ state.getD [], components o.path = p
  readable : ∀ p ∈ targets, initial.lookup p = none ∨
    ∃ text, HasText initial p text ∧ ¬ managedStart <:+: text
  backups : BackupsApart prims config initial targets
  frame : Grew (EditedSince prims config initial targets) initial tree

theorem Tracked.fresh (h : projectionState prims config tree = .ok none) :
    Tracked prims config tree [] none tree :=
  ⟨h, ⟨none, h, fun _ h => (nomatch h)⟩, fun _ h => (nomatch h), fun _ h => (nomatch h),
    fun _ h => (nomatch h), fun _ h => (nomatch h), Grew.refl⟩

section Step

variable {targets : List Path} {state : Option (List Output)} {request : RenderRequest}
  {plans : List ProjectionPlan} {prior outputs : List Output} {plan : ProjectionPlan}

theorem Owned.managed {o : Output} {image : Option Text}
    (h : Owned prims config tree path o image) :
    ∃ text, HasText tree path text ∧ managedStart <:+: text := by
  obtain ⟨text, htext, _, horigin⟩ := h.text
  obtain ⟨span, hspan⟩ := horigin.managed
  refine ⟨text, htext, ?_⟩
  by_contra hnot
  rw [managedSpan_eq_none.mpr hnot] at hspan
  cases hspan

theorem Tracked.entry (h : Tracked prims config initial targets state tree)
    (hpath : path ∈ targets) : ∃ o ∈ state.getD [], o.path = asPosix path ∧
      Owned prims config tree path o (imageOf initial path) := by
  obtain ⟨o, ho, rfl⟩ := h.recorded path hpath
  obtain ⟨_, howned⟩ := h.owned o ho
  exact ⟨o, ho, howned.name, howned⟩

theorem Tracked.text_initial (h : Tracked prims config initial targets state tree)
    (hsub : targets ⊆ request.targets) (hundo : Undoable prims config initial request)
    (hpath : path ∈ request.targets) (hnew : path ∉ targets)
    (hfile : tree.lookup path ≠ some .directory) : tree.lookup path = initial.lookup path := by
  have hedited : ¬ EditedSince prims config initial targets path := by
    rintro (hmem | hstate | ⟨p, hp, before, htext, hnot, heq⟩)
    · exact hnew hmem
    · exact (hundo.apart path hpath).ne.2.2 hstate.symm
    · exact hundo.backups path hpath p (hsub hp) before htext hnot heq.symm
  rcases h.frame path hedited with hsame | ⟨_, hdir⟩
  · exact hsame
  · exact absurd hdir hfile

theorem Tracked.backupsApart (h : Tracked prims config initial targets state tree)
    (hsub : targets ⊆ request.targets) (hundo : Undoable prims config initial request) :
    BackupsApart prims config tree request.targets := by
  intro p hp q hq text htext hnot
  by_cases hold : q ∈ targets
  · -- a target that has been rendered holds a block
    obtain ⟨o, _, _, howned⟩ := h.entry hold
    obtain ⟨text', htext', hwithin⟩ := howned.managed
    exact absurd (htext.unique htext' ▸ hwithin) hnot
  · have hlookup : tree.lookup q = initial.lookup q := by
      refine h.text_initial hsub hundo hq hold ?_
      obtain ⟨content, hfile, _⟩ := htext
      rw [hfile]
      exact fun h => nomatch h
    exact hundo.backups p hp q hq text (htext.of_lookup hlookup.symm) hnot

theorem components_asPosix_target (hpath : path ∈ request.targets) :
    components (asPosix path) = path := by
  obtain ⟨entry, _, rfl⟩ := List.mem_map.mp hpath
  exact Projections.components_asPosix fun part => components_isComponent

theorem Tracked.renderable (h : Tracked prims config initial targets state tree)
    (hundo : Undoable prims config initial request) :
    Renderable prims config tree request := by
  refine ⟨hundo.distinct, fun p hp found o hfound hprior _ text hread => .inr ?_⟩
  obtain rfl : state = some found := Except.ok.inj (h.accepted.symm.trans hfound)
  obtain ⟨ho, hname⟩ := priorOutput_eq_some hprior
  obtain ⟨_, howned⟩ := h.owned o ho
  rw [hname, components_asPosix_target hp] at howned
  obtain ⟨text', htext', hwithin⟩ := howned.managed
  rw [htext'.read howned.usable.short] at hread
  rw [← Except.ok.inj hread]
  exact hwithin

section Rendered

variable (h : Tracked prims config initial targets state tree)
  (hsub : targets ⊆ request.targets) (hundo : Undoable prims config initial request)
  (hrendered : Rendered prims config tree request plans prior outputs tree')
  (hinst : Installed prims config tree plans tree') (hplan : plan ∈ plans)

include h hrendered

theorem Tracked.prior_eq : prior = state.getD [] := by
  obtain ⟨found, hfound, hprior, _⟩ := readPrior_eq_ok hrendered.read
  obtain rfl : found = state := Except.ok.inj (hfound.symm.trans h.accepted)
  exact hprior

include hplan

omit h in
theorem Rendered.path_mem : plan.path ∈ request.targets := by
  rw [← hrendered.targets_eq]
  exact List.mem_map_of_mem hplan

theorem Tracked.priorOutput_old (hold : plan.path ∈ targets) :
    ∃ o, priorOutput prior plan.path = some o ∧
      Owned prims config tree plan.path o (imageOf initial plan.path) := by
  obtain ⟨o, ho, hname, _⟩ := h.entry hold
  rw [← h.prior_eq hrendered] at ho
  have hsome : (priorOutput prior plan.path).isSome := by
    rw [priorOutput, List.find?_isSome]
    exact ⟨o, ho, by simpa using hname⟩
  obtain ⟨o', ho'⟩ := Option.isSome_iff_exists.mp hsome
  obtain ⟨hmem, hname'⟩ := priorOutput_eq_some ho'
  rw [h.prior_eq hrendered] at hmem
  obtain ⟨_, howned⟩ := h.owned o' hmem
  have hpath := components_asPosix_target (hrendered.path_mem hplan)
  rw [hname', hpath] at howned
  exact ⟨o', ho', howned⟩

theorem Tracked.priorOutput_new (hnew : plan.path ∉ targets) :
    priorOutput prior plan.path = none := by
  cases hprior : priorOutput prior plan.path with
  | none => rfl
  | some o =>
    obtain ⟨hmem, hname⟩ := priorOutput_eq_some hprior
    rw [h.prior_eq hrendered] at hmem
    obtain ⟨htarget, _⟩ := h.owned o hmem
    have hpath := components_asPosix_target (hrendered.path_mem hplan)
    rw [hname, hpath] at htarget
    exact absurd htarget hnew

theorem Tracked.mode_new (hnew : plan.path ∉ targets) :
    (plan.current = [] ∧ plan.backsUp = false) ∨ plan.backsUp = true := by
  obtain ⟨⟨_, _, hfor⟩, hmode⟩ := hrendered.forall_plan hplan
  obtain ⟨_, _, _, hupdated⟩ := readPrior_eq_ok hrendered.read
  rcases mode_of_resolved hfor hmode with hm | ⟨hm, hskip⟩ | ⟨_, hbacks⟩
  · have hsome := hupdated plan hplan hm
    rw [h.priorOutput_new hrendered hplan hnew] at hsome
    cases hsome
  · rcases hfor.desired.mode_cases with h | h | ⟨_, hnil⟩ | ⟨h | h, _⟩
    · rw [hm] at h
      cases h
    · exact absurd h hmode
    · exact .inl ⟨hnil, hskip⟩
    · rw [hm] at h
      cases h
    · rw [hm] at h
      cases h
  · exact .inr hbacks

include hsub hundo

theorem Tracked.current_new (hnew : plan.path ∉ targets) :
    HasText initial plan.path plan.current ∨
      (plan.current = [] ∧ initial.lookup plan.path = none) := by
  obtain ⟨⟨_, _, hfor⟩, _⟩ := hrendered.forall_plan hplan
  have hfile : tree.lookup plan.path ≠ some .directory := by
    intro hdir
    have hread := hfor.current
    rw [readProjection, hdir] at hread
    split at hread <;> cases hread
  have hlookup :=
    h.text_initial hsub hundo (hrendered.path_mem hplan) hnew hfile
  rcases hasText_of_read hfor.current with htext | ⟨hnil, hnone⟩
  · exact .inl (htext.of_lookup hlookup.symm)
  · exact .inr ⟨hnil, hlookup ▸ hnone⟩

theorem Tracked.current_backsUp (hbacks : plan.backsUp = true) :
    HasText initial plan.path plan.current ∧ plan.current ≠ [] ∧
      ¬ managedStart <:+: plan.current := by
  obtain ⟨⟨_, _, hfor⟩, _⟩ := hrendered.forall_plan hplan
  obtain ⟨hne, hnot⟩ := hfor.free_of_backsUp hbacks
  refine ⟨?_, hne, hnot⟩
  by_cases hold : plan.path ∈ targets
  · obtain ⟨o, _, howned⟩ := h.priorOutput_old hrendered hplan hold
    obtain ⟨text, htext, hwithin⟩ := howned.managed
    have hread := hfor.current
    rw [htext.read howned.usable.short] at hread
    exact absurd (Except.ok.inj hread ▸ hwithin) hnot
  · exact (h.current_new hsub hundo hrendered hplan hold).resolve_right fun hnone => hne hnone.1

theorem Tracked.readable_plan :
    initial.lookup plan.path = none ∨
      ∃ text, HasText initial plan.path text ∧ ¬ managedStart <:+: text := by
  by_cases hold : plan.path ∈ targets
  · exact h.readable _ hold
  rcases h.current_new hsub hundo hrendered hplan hold with htext | ⟨_, hnone⟩
  · refine .inr ⟨_, htext, ?_⟩
    rcases h.mode_new hrendered hplan hold with ⟨hnil, _⟩ | hbacks
    · rw [hnil]
      decide
    · exact (h.current_backsUp hsub hundo hrendered hplan hbacks).2.2
  · exact .inl hnone

include hinst

omit hsub in
theorem Tracked.origin_old {text : Text} {o : Output} (hold : plan.path ∈ targets)
    (hprior : priorOutput prior plan.path = some o) (hread : plan.current = text)
    (horigin : Origin prims config tree plan.path o text (imageOf initial plan.path)) :
    Origin prims config tree' plan.path (outputOf prims prior plan) plan.desired
      (imageOf initial plan.path) := by
  obtain ⟨⟨_, _, hfor⟩, hmode⟩ := hrendered.forall_plan hplan
  obtain ⟨span, hspan⟩ := horigin.managed
  have hskip : plan.backsUp = false := by
    rw [Bool.eq_false_iff]
    intro hbacks
    have hnot := (hfor.free_of_backsUp hbacks).2
    rw [hread, ← managedSpan_eq_none, hspan] at hnot
    cases hnot
  have hreadable := h.readable _ hold
  generalize himage : imageOf initial plan.path = image at horigin
  cases horigin with
  | created hbackup hblock =>
    refine .created (by simp [outputOf, hskip, hprior, hbackup]) ?_
    refine hfor.desired.block (.inr (hread ▸ hblock)) hundo.start (hundo.finish ?_)
    refine ⟨plan.path, hrendered.path_mem hplan, hreadable.imp id ?_⟩
    rintro ⟨initialText, hinitial, _⟩
    by_cases hnil : initialText = []
    · exact hnil ▸ hinitial
    · rw [imageOf_text hinitial hnil] at himage
      cases himage
  | replaced before span hspan hbackup hdigest hsize hkept hshort =>
    obtain ⟨span', hspan'⟩ := hfor.desired.managed hmode hundo.start
    refine .replaced before span' hspan' ?_ ?_ ?_ ?_ hshort
    · simp [outputOf, hskip, hprior, hbackup]
    · simp [outputOf, hskip, hprior, hdigest]
    · simp [outputOf, hskip, hprior, hsize]
    · refine hinst.texts _ _ ?_ (fun heq => (backupPath_apart _ _).ne.2.2 heq.symm) hkept
      obtain ⟨hinitial, _⟩ := hasText_of_imageOf himage
      obtain ⟨text', htext', hnot⟩ := hreadable.resolve_left fun hnone => by
        rw [imageOf_none hnone] at himage
        cases himage
      rw [hrendered.targets_eq]
      intro hmem
      exact hundo.backups _ hmem plan.path (hrendered.path_mem hplan) before hinitial
        (htext'.unique hinitial ▸ hnot) rfl

theorem Tracked.origin_new (hnew : plan.path ∉ targets) :
    Origin prims config tree' plan.path (outputOf prims prior plan) plan.desired
      (imageOf initial plan.path) := by
  obtain ⟨⟨_, _, hfor⟩, hmode⟩ := hrendered.forall_plan hplan
  have hprior := h.priorOutput_new hrendered hplan hnew
  rcases h.mode_new hrendered hplan hnew with ⟨hnil, hskip⟩ | hbacks
  · have himage : imageOf initial plan.path = none ∧
        (initial.lookup plan.path = none ∨ HasText initial plan.path []) := by
      rcases h.current_new hsub hundo hrendered hplan hnew with htext | ⟨_, hnone⟩
      · rw [hnil] at htext
        exact ⟨imageOf_empty htext, .inr htext⟩
      · exact ⟨imageOf_none hnone, .inl hnone⟩
    rw [himage.1]
    refine .created (by simp [outputOf, hskip, hprior]) ?_
    refine hfor.desired.block (.inl hnil) hundo.start (hundo.finish ?_)
    exact ⟨plan.path, hrendered.path_mem hplan, himage.2⟩
  · obtain ⟨hinitial, hne, _⟩ := h.current_backsUp hsub hundo hrendered hplan hbacks
    obtain ⟨span, hspan⟩ := hfor.desired.managed hmode hundo.start
    rw [imageOf_text hinitial hne]
    refine .replaced plan.current span hspan ?_ ?_ ?_ (hinst.backup plan hplan hbacks)
      (hrendered.backups plan hplan hbacks)
    · simp [outputOf, hbacks]
    · simp [outputOf, hbacks]
    · simp [outputOf, hbacks]

/-- **The entry of a target is owned** after a render. -/
theorem Tracked.owned_output : Owned prims config tree' plan.path (outputOf prims prior plan)
    (imageOf initial plan.path) := by
  obtain ⟨⟨_, _, hfor⟩, _⟩ := hrendered.forall_plan hplan
  refine ⟨rfl, ⟨hfor.nameable, hfor.plain, readProjection_not_tooLong hfor.current⟩,
    hundo.apart _ (hrendered.path_mem hplan), plan.desired, hinst.target plan hplan, rfl, ?_⟩
  by_cases hold : plan.path ∈ targets
  · obtain ⟨o, hprior, howned⟩ := h.priorOutput_old hrendered hplan hold
    obtain ⟨text, htext, _, horigin⟩ := howned.text
    have hread := hfor.current
    rw [htext.read howned.usable.short] at hread
    exact h.origin_old hundo hrendered hinst hplan hold hprior (Except.ok.inj hread).symm
      horigin
  · exact h.origin_new hsub hundo hrendered hinst hplan hold

omit hplan

/-- **A render keeps the invariant of a run.** -/
theorem Tracked.step :
    Tracked prims config initial request.targets (some outputs) tree' := by
  have hsound := hrendered.sound h.sound (h.renderable hundo) hundo.apart
  have hplans : ∀ o ∈ outputs, ∃ plan ∈ plans, outputOf prims prior plan = o := by
    rw [hrendered.outputs_eq]
    exact fun o ho => List.mem_map.mp ho
  refine ⟨?_, hsound, fun o ho => ?_, fun p hp => ?_, fun p hp => ?_, hundo.backups, ?_⟩
  · obtain ⟨state', hstate', _⟩ := hsound
    rw [hstate', hrendered.state_eq hstate']
  · obtain ⟨plan, hplan, rfl⟩ := hplans o ho
    have hpath : components (outputOf prims prior plan).path = plan.path :=
      components_asPosix_target (hrendered.path_mem hplan)
    rw [hpath]
    exact ⟨hrendered.path_mem hplan, h.owned_output hsub hundo hrendered hinst hplan⟩
  · rw [← hrendered.targets_eq] at hp
    obtain ⟨plan, hplan, rfl⟩ := List.mem_map.mp hp
    refine ⟨outputOf prims prior plan, ?_, ?_⟩
    · rw [Option.getD_some, hrendered.outputs_eq]
      exact List.mem_map_of_mem hplan
    · exact components_asPosix_target (hrendered.path_mem hplan)
  · rw [← hrendered.targets_eq] at hp
    obtain ⟨plan, hplan, rfl⟩ := List.mem_map.mp hp
    exact h.readable_plan hsub hundo hrendered hplan
  · have hbefore : Grew (EditedSince prims config initial request.targets) initial tree := by
      refine h.frame.mono fun q hq => ?_
      rcases hq with hmem | hstate | ⟨p, hp, before, hrest⟩
      · exact .inl (hsub hmem)
      · exact .inr (.inl hstate)
      · exact .inr (.inr ⟨p, hsub hp, before, hrest⟩)
    refine hbefore.trans (hinst.frame.mono fun q hq => ?_)
    rcases hq with hstate | ⟨plan, hplan, rfl | ⟨hbacks, rfl⟩⟩
    · exact .inr (.inl hstate)
    · exact .inl (hrendered.path_mem hplan)
    · obtain ⟨htext, _, hnot⟩ := h.current_backsUp hsub hundo hrendered hplan hbacks
      exact .inr (.inr ⟨plan.path, hrendered.path_mem hplan, plan.current, htext, hnot, rfl⟩)

end Rendered

end Step

/-! ## Runs -/

def renderAll (prims : Primitives) (config : Path) :
    List RenderRequest → Tree → Except Failure Tree
  | [], tree => .ok tree
  | request :: requests, tree =>
    match (render prims config request).complete (fun _ => false) tree with
    | (.ok _, tree') => renderAll prims config requests tree'
    | (.error failure, _) => .error failure

theorem tracked_renderAll {requests : List RenderRequest} {targets : List Path}
    {state : Option (List Output)} (h : Tracked prims config initial targets state tree)
    (hsub : ∀ r ∈ requests, targets ⊆ r.targets)
    (hkept : requests.Pairwise fun r r' => r.targets ⊆ r'.targets)
    (hundo : ∀ r ∈ requests, Undoable prims config initial r)
    (hrun : renderAll prims config requests tree = .ok tree') :
    ∃ targets' state', Tracked prims config initial targets' state' tree' ∧
      targets ⊆ targets' ∧ (∀ r ∈ requests, r.targets ⊆ targets') ∧
      (requests ≠ [] ∨ state.isSome → state'.isSome) := by
  induction requests generalizing tree targets state with
  | nil =>
    obtain rfl : tree = tree' := Except.ok.inj hrun
    exact ⟨targets, state, h, List.Subset.refl _, fun _ h => (nomatch h),
      fun hor => hor.elim (fun hne => absurd rfl hne) id⟩
  | cons request requests ih =>
    rw [List.forall_mem_cons] at hsub hundo
    rw [List.pairwise_cons] at hkept
    rw [renderAll] at hrun
    cases hcomplete : (render prims config request).complete (fun _ => false) tree with
    | mk result tree₁ =>
      rw [hcomplete] at hrun
      cases result with
      | error failure => cases hrun
      | ok outputs =>
        have hreturns := @returns_render_installed tree prims config request
          hundo.1.distinct hundo.1.apart (h.backupsApart hsub.1 hundo.1)
        obtain ⟨plans, prior, hrendered, hinst⟩ := hreturns.complete hcomplete
        have hstep := h.step hsub.1 hundo.1 hrendered hinst
        obtain ⟨targets', state', htracked, hincl, hall, hsome⟩ :=
          ih hstep hkept.1 hkept.2 hundo.2 hrun
        refine ⟨targets', state', htracked, fun p hp => hincl (hsub.1 hp), ?_, ?_⟩
        · rw [List.forall_mem_cons]
          exact ⟨hincl, hall⟩
        · exact fun _ => hsome (.inr rfl)

theorem Tracked.uninstall {targets : List Path} {outputs : List Output}
    (h : Tracked prims config initial targets (some outputs) tree) :
    ∃ messages restored, (uninstallProjections prims config).complete (fun _ => false) tree =
        (.ok messages, restored) ∧ ∀ p ∈ targets, asPosix p ∈ outputs.map Output.path ∧
        PutBack restored p (imageOf initial p) := by
  have hsucceeds := @succeeds_uninstall prims config tree outputs (imageOf initial) h.accepted
    (fun o ho => (h.owned o ho).2) fun o ho o' ho' before himage => by
      obtain ⟨hinitial, _⟩ := hasText_of_imageOf himage
      have hmem := (h.owned o ho).1
      obtain ⟨text, htext, hnot⟩ := (h.readable _ hmem).resolve_left fun hnone => by
        rw [imageOf_none hnone] at himage
        cases himage
      exact h.backups _ (h.owned o' ho').1 _ hmem before hinitial
        (htext.unique hinitial ▸ hnot)
  obtain ⟨messages, restored, hrun, hput⟩ := hsucceeds.complete
  refine ⟨messages, restored, hrun, fun p hp => ?_⟩
  obtain ⟨o, ho, rfl⟩ := h.recorded p hp
  refine ⟨?_, hput o ho⟩
  rw [← (h.owned o ho).2.name]
  exact List.mem_map_of_mem ho

/-- **Uninstall restores what was there**: after renders that each return, keep their
targets and bring no second marker into a block, every file that was written is still
recorded, an uninstall returns, and every file is in its initial state; where there was
an empty file, that is all that is missing. -/
theorem uninstall_restores {requests : List RenderRequest}
    (hfresh : projectionState prims config initial = .ok none) (hne : requests ≠ [])
    (hkept : requests.Pairwise fun r r' => r.targets ⊆ r'.targets)
    (hundo : ∀ r ∈ requests, Undoable prims config initial r)
    (hfilled : ∀ r ∈ requests, ∀ p ∈ r.targets, ¬ HasText initial p [])
    (hrun : renderAll prims config requests initial = .ok tree) :
    ∃ outputs messages restored, projectionState prims config tree = .ok (some outputs) ∧
      (uninstallProjections prims config).complete (fun _ => false) tree =
        (.ok messages, restored) ∧ ∀ r ∈ requests, ∀ p ∈ r.targets,
        asPosix p ∈ outputs.map Output.path ∧ restored.lookup p = initial.lookup p := by
  obtain ⟨targets, state, htracked, _, hall, hsome⟩ :=
    tracked_renderAll (Tracked.fresh hfresh) (fun _ _ _ h => (nomatch h)) hkept hundo hrun
  obtain ⟨outputs, rfl⟩ := Option.isSome_iff_exists.mp (hsome (.inl hne))
  obtain ⟨messages, restored, huninstall, hput⟩ := htracked.uninstall
  refine ⟨outputs, messages, restored, htracked.accepted, huninstall, fun r hr p hp => ?_⟩
  obtain ⟨hrecorded, hback⟩ := hput p (hall r hr hp)
  refine ⟨hrecorded, ?_⟩
  rcases htracked.readable p (hall r hr hp) with hnone | ⟨text, htext, _⟩
  · rw [imageOf_none hnone] at hback
    rw [hnone]
    exact hback
  · have htextne : text ≠ [] := by
      rintro rfl
      exact hfilled r hr p hp htext
    rw [imageOf_text htext htextne] at hback
    exact HasText.lookup_eq hback htext

/-! ### One target -/

def soloTarget : Path := [lit "AGENTS.md"]

/-- Codex is to read `AGENTS.md`. -/
def soloRequest : RenderRequest where
  bundle := sampleBundle fun
    | .codex => some (lit "AGENTS.md")
    | _ => none
  sourceDigest := zeroDigest (.utf8 [])
  instructionSource := lit ".ai/instructions.yaml"
  adopt := true
  force := false

/-- The same with another purpose. -/
def editedRequest : RenderRequest :=
  { soloRequest with
    bundle := { soloRequest.bundle with purpose := lit "Another purpose." } }

/-- `AGENTS.md` is there. -/
def agentsTree (content : Content) : Tree where
  nodes := (Finmap.singleton sampleConfig Node.directory).insert soloTarget (.file content)
  closed := by
    intro p part h
    have hmem : p ++ [part] = sampleConfig ∨ p ++ [part] = soloTarget := by
      by_contra hne
      rw [not_or] at hne
      rw [Dict.lookup_insert_ite, if_neg hne.2, Finmap.lookup_eq_none.mpr] at h
      · cases h
      · simpa [Finmap.mem_singleton] using hne.1
    have hnil : p = [] := by
      rcases hmem with hmem | hmem
      · simpa [sampleConfig] using congrArg List.length hmem
      · simpa [soloTarget] using congrArg List.length hmem
    rw [hnil]
    rfl

def emptyTree : Tree := agentsTree ⟨.utf8 [], by decide⟩

def notesTree : Tree := agentsTree ⟨.utf8 ['N', 'o', 't', 'e', 's'], by decide⟩

theorem solo_targets : ∀ request ∈ [soloRequest, editedRequest],
    request.targets = [soloTarget] := by
  intro request hrequest
  rcases List.mem_pair.mp hrequest with rfl | rfl <;> rfl

theorem solo_undoable (tree : Tree) : ∀ request ∈ [soloRequest, editedRequest],
    Undoable samplePrimitives sampleConfig tree request := by
  intro request hrequest
  have htargets := solo_targets request hrequest
  have hfree : ∀ pattern ∈ [managedStart, managedEnd], request.Free pattern := by
    unfold RenderRequest.Free
    rcases List.mem_pair.mp hrequest with rfl | rfl <;> decide
  refine ⟨by rw [htargets]; exact List.nodup_singleton _, ?_, ?_,
    hfree _ (by simp), fun _ => hfree _ (by simp)⟩
  · unfold TargetsApart Apart
    rw [htargets]
    decide
  · intro p hp q _ text _ _ heq
    rw [htargets, List.mem_singleton] at hp
    have hlength := congrArg List.length heq
    rw [hp] at hlength
    simp [sampleConfig, backupPath, soloTarget] at hlength

theorem projectionState_agents {content : Content} :
    projectionState samplePrimitives sampleConfig (agentsTree content) = .ok none :=
  projectionState_none rfl (.inl rfl) rfl

theorem renders_agents :
    let first tree := (render samplePrimitives sampleConfig soloRequest).run
      (List.replicate 40 false) tree
    ((first emptyTree).1.isReturned && ((first notesTree).1.isReturned &&
      ((render samplePrimitives sampleConfig editedRequest).run (List.replicate 40 false)
        (first notesTree).2).1.isReturned)) = true := by
  generalize hprogram : render samplePrimitives sampleConfig = program
  delta render applyProjections planProjections planProjection desire adoptText
    replaceManaged managedSpan renderBody bodyLines startLine commandLines ruleLine
    principleLines managedStart managedEnd projectionPath at hprogram
  unfold editedRequest soloRequest sampleBundle
  rw [lit_ascii] at hprogram ⊢
  subst hprogram
  decide +kernel

theorem exists_of_isReturned {α : Type} {run : Ending Failure α × Tree}
    (h : run.1.isReturned = true) : ∃ a, run = (.returned a, run.2) := by
  obtain ⟨_ | _ | _, _⟩ := run
  · exact ⟨_, rfl⟩
  · cases h
  · cases h

theorem exists_renders_notes : ∃ outputs tree outputs' tree',
    (render samplePrimitives sampleConfig soloRequest).run (List.replicate 40 false)
        notesTree = (.returned outputs, tree) ∧
      (render samplePrimitives sampleConfig editedRequest).run (List.replicate 40 false)
        tree = (.returned outputs', tree') := by
  obtain ⟨-, hboth⟩ := Bool.and_eq_true_iff.mp renders_agents
  obtain ⟨hfirst, hsecond⟩ := Bool.and_eq_true_iff.mp hboth
  obtain ⟨outputs, hrun⟩ := exists_of_isReturned hfirst
  obtain ⟨outputs', hrun'⟩ := exists_of_isReturned hsecond
  exact ⟨outputs, _, outputs', _, hrun, hrun'⟩

theorem ownership_state_readable_notes : ∃ tree tree',
    ((render samplePrimitives sampleConfig soloRequest).run (List.replicate 40 false)
        notesTree).2 = tree ∧
      ((render samplePrimitives sampleConfig editedRequest).run (List.replicate 40 false)
        tree).2 = tree' ∧
      (∃ state, projectionState samplePrimitives sampleConfig tree = .ok state) ∧
      ∃ state, projectionState samplePrimitives sampleConfig tree' = .ok state := by
  obtain ⟨outputs, tree, outputs', tree', hrun, hrun'⟩ := exists_renders_notes
  have hundo := solo_undoable notesTree
  rw [List.forall_mem_cons, List.forall_mem_singleton] at hundo
  have hfresh : Tracked samplePrimitives sampleConfig notesTree [] none notesTree :=
    Tracked.fresh projectionState_agents
  have hmeets : Event.Meets samplePrimitives
      (.rendering soloRequest (List.replicate 40 false)) notesTree :=
    ⟨hfresh.renderable hundo.1, hundo.1.apart⟩
  have hreached := ownership_state_readable (.step _ (.fresh rfl rfl) hmeets)
  rw [Event.run, hrun] at hreached
  -- the second render meets the condition too, by what the first has left
  have hsub : [] ⊆ soloRequest.targets := List.nil_subset _
  obtain ⟨plans, prior, hrendered, hinst⟩ := (returns_render_installed hundo.1.distinct
    hundo.1.apart (hfresh.backupsApart hsub hundo.1)).run hrun
  have hrenderable := (hfresh.step hsub hundo.1 hrendered hinst).renderable hundo.2
  exact ⟨tree, tree', by rw [hrun], by rw [hrun'], hreached.1,
    (hreached.2 _ _ _ _ hrun').mpr hrenderable⟩

/-! ### Files put back -/

theorem uninstall_restores_notes : ∃ outputs messages restored tree,
      projectionState samplePrimitives sampleConfig tree = .ok (some outputs) ∧
      (uninstallProjections samplePrimitives sampleConfig).complete (fun _ => false) tree =
        (.ok messages, restored) ∧ ∀ r ∈ [soloRequest, editedRequest], ∀ p ∈ r.targets,
        asPosix p ∈ outputs.map Output.path ∧ restored.lookup p = notesTree.lookup p := by
  obtain ⟨_, tree₁, _, tree, hfirst, hsecond⟩ := exists_renders_notes
  have hrun : renderAll samplePrimitives sampleConfig [soloRequest, editedRequest]
      notesTree = .ok tree := by
    rw [renderAll, Prog.complete_of_run hfirst]
    show renderAll samplePrimitives sampleConfig [editedRequest] tree₁ = .ok tree
    rw [renderAll, Prog.complete_of_run hsecond]
    rfl
  have hfilled : ∀ r ∈ [soloRequest, editedRequest], ∀ p ∈ r.targets,
      ¬ HasText notesTree p [] := by
    rintro r hr p hp ⟨content, hfile, hempty⟩
    rw [solo_targets r hr, List.mem_singleton] at hp
    rw [hp] at hfile
    cases hfile
    cases hempty
  have hkept : [soloRequest, editedRequest].Pairwise fun r r' => r.targets ⊆ r'.targets := by
    rw [List.pairwise_pair, solo_targets _ (by simp), solo_targets _ (by simp)]
    exact List.Subset.refl _
  obtain ⟨outputs, messages, restored, h⟩ := uninstall_restores projectionState_agents
    (List.cons_ne_nil _ _) hkept (solo_undoable notesTree) hfilled hrun
  exact ⟨outputs, messages, restored, tree, h⟩

theorem empty_file_not_restored :
    soloRequest.bundle.accepted = true ∧
      projectionState samplePrimitives sampleConfig emptyTree = .ok none ∧
      HasText emptyTree soloTarget [] ∧ ∃ tree messages restored,
        renderAll samplePrimitives sampleConfig [soloRequest] emptyTree = .ok tree ∧
        (uninstallProjections samplePrimitives sampleConfig).complete (fun _ => false) tree =
          (.ok messages, restored) ∧ restored.lookup soloTarget = none := by
  have hfresh : projectionState samplePrimitives sampleConfig emptyTree = .ok none :=
    projectionState_agents
  have hempty : HasText emptyTree soloTarget [] := ⟨⟨.utf8 [], by decide⟩, by decide, rfl⟩
  obtain ⟨outputs, hfirst⟩ :=
    exists_of_isReturned (Bool.and_eq_true_iff.mp renders_agents).1
  obtain ⟨tree, hrun⟩ : ∃ tree,
      renderAll samplePrimitives sampleConfig [soloRequest] emptyTree = .ok tree := by
    rw [renderAll, Prog.complete_of_run hfirst]
    exact ⟨_, rfl⟩
  refine ⟨by rfl, hfresh, hempty, ?_⟩
  obtain ⟨targets, state, htracked, _, hall, hsome⟩ := tracked_renderAll
    (Tracked.fresh hfresh) (fun _ _ _ h => (nomatch h)) (List.pairwise_singleton _ _)
    (List.forall_mem_singleton.mpr (solo_undoable emptyTree _ List.mem_cons_self)) hrun
  obtain ⟨outputs, rfl⟩ := Option.isSome_iff_exists.mp (hsome (.inl (List.cons_ne_nil _ _)))
  obtain ⟨messages, restored, huninstall, hput⟩ := htracked.uninstall
  have htarget : soloTarget ∈ soloRequest.targets := by decide
  obtain ⟨_, hback⟩ := hput soloTarget (hall soloRequest (by simp) htarget)
  rw [imageOf_empty hempty] at hback
  exact ⟨tree, messages, restored, hrun, huninstall, hback⟩

end Ecosystem.Projections
