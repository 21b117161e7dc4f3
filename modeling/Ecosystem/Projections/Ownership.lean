import Ecosystem.Projections.Plans

/-!
# The ownership state stays readable

What `apply_projections` writes, `_projection_state` has to accept.  The reader refuses
two entries of one path and a file that was created and has a backup; a render leaves a
state that is accepted exactly when neither happens.
-/

namespace Ecosystem.Projections

open Ecosystem.Lib Ecosystem.Lib.Checks

variable (prims : Primitives) (config : Path)

/-! ## What a render returns -/

/-- The plans of a render that returned, with the state that it wrote. -/
structure Rendered (tree : Tree) (request : RenderRequest) (plans : List ProjectionPlan)
    (prior outputs : List Output) (tree' : Tree) : Prop where
  planned : planProjections tree request = .ok plans
  resolved : conflicts plans = []
  read : readPrior prims config plans tree = .ok prior
  outputs_eq : outputs = plans.map (outputOf prims prior)
  backups : ∀ plan ∈ plans, plan.backsUp = true →
    tooLong (config ++ backupPath prims plan.path plan.current) = false
  state : ∃ content, tree'.lookup (statePath config) = some (.file content) ∧
    content.val = .utf8 (prims.stableJson outputs)

variable {prims config} {tree : Tree}

variable {path : Path} {content : Content} {text : Text} {plan : ProjectionPlan}
  {o : Output} {entry : Client × Text}

theorem existing_not_tooLong {found : Option Content}
    (h : existing tree path = .ok found) : tooLong path = false := by
  unfold existing at h
  split at h
  · cases h
  · next hlong => simpa using hlong

theorem existing_eq_some (h : existing tree path = .ok (some content)) :
    tree.lookup path = some (.file content) := by
  unfold existing at h
  split at h
  · cases h
  split at h
  · cases h
  · next hfile =>
      cases h
      exact hfile
  · cases h

theorem encode_eq_ok (h : encode text = .ok content) : content.val = .utf8 text := by
  unfold encode at h
  split at h
  · cases h
    rfl
  · cases h

theorem returns_keepBackup :
    Returns (keepBackup prims config plan)
      (fun _ _ => tooLong (config ++ backupPath prims plan.path plan.current) = false) tree := by
  refine returns_bind
    (fun _ _ => tooLong (config ++ backupPath prims plan.path plan.current) = false)
    (returns_inspect fun found h => existing_not_tooLong h) fun found tree h => ?_
  cases found with
  | none => exact returns_change fun _ _ => h
  | some content => exact returns_ofExcept fun _ _ => h

theorem returns_applyProjection {prior : List Output} :
    Returns (applyProjection prims config prior plan)
      (fun output _ => output = outputOf prims prior plan ∧ (plan.backsUp = true →
        tooLong (config ++ backupPath prims plan.path plan.current) = false)) tree := by
  refine returns_bind (fun _ _ => plan.backsUp = true →
    tooLong (config ++ backupPath prims plan.path plan.current) = false) ?_ ?_
  · exact returns_whenever (fun _ => returns_keepBackup.mono fun _ _ h _ => h)
      fun hskip hbacks => absurd hbacks (by simp [hskip])
  · rintro ⟨⟩ tree h
    refine returns_bind (fun _ _ => True) ?_ fun _ _ _ => returns_pure ⟨rfl, h⟩
    exact returns_whenever (fun _ => returns_change fun _ _ => trivial) fun _ => trivial

theorem returns_applyEach {prior : List Output} {plans : List ProjectionPlan} :
    Returns (applyEach prims config prior plans)
      (fun outputs _ => outputs = plans.map (outputOf prims prior) ∧
        ∀ plan ∈ plans, plan.backsUp = true →
          tooLong (config ++ backupPath prims plan.path plan.current) = false) tree := by
  induction plans generalizing tree with
  | nil => exact returns_pure ⟨rfl, fun _ h => (nomatch h)⟩
  | cons plan plans ih =>
    refine returns_bind _ returns_applyProjection fun output tree houtput => ?_
    refine returns_bind _ ih fun outputs tree houtputs => returns_pure ⟨?_, ?_⟩
    · rw [List.map_cons, houtput.1, houtputs.1]
    · exact List.forall_mem_cons.mpr ⟨houtput.2, houtputs.2⟩

theorem returns_checkEach {check : ProjectionPlan → Tree → Except Failure Unit}
    {plans : List ProjectionPlan} :
    Returns (checkEach check plans) (fun _ tree' => tree' = tree) tree := by
  induction plans with
  | nil => exact returns_pure rfl
  | cons plan plans ih =>
    refine returns_bind (fun _ tree' => tree' = tree) (returns_inspect fun _ _ => rfl) ?_
    rintro _ _ rfl
    exact ih

theorem returns_writeState {outputs : List Output} :
    Returns (writeState prims config outputs)
      (fun _ tree' => ∃ content, tree'.lookup (statePath config) = some (.file content) ∧
        content.val = .utf8 (prims.stableJson outputs)) tree := by
  refine returns_bind (fun found tree' => existing tree' (statePath config) = .ok found)
    (returns_inspect fun _ h => h) fun found tree hfound => ?_
  refine returns_whenever (fun _ => returns_change fun tree' h => ?_) fun hsame => ?_
  · obtain ⟨content, hcontent, hwrite⟩ := bind_eq_ok.mp h
    exact ⟨content, (Tree.atomicWrite_eq_ok hwrite).2.written, encode_eq_ok hcontent⟩
  · rw [decide_eq_false_iff_not, not_not, Option.map_eq_some_iff] at hsame
    obtain ⟨content, rfl, hcontent⟩ := hsame
    exact ⟨content, existing_eq_some hfound, hcontent⟩

/-- **What a render does when it returns.** -/
theorem returns_render {request : RenderRequest} :
    Returns (render prims config request) (fun outputs tree' => ∃ plans prior,
        Rendered prims config tree request plans prior outputs tree') tree := by
  refine returns_bind
    (fun plans tree' => tree' = tree ∧ planProjections tree request = .ok plans)
    (returns_inspect fun plans h => ⟨rfl, h⟩) ?_
  rintro plans _ ⟨rfl, hplans⟩
  rename_i tree
  refine returns_bind (fun _ tree' => tree' = tree ∧ conflicts plans = []) ?_ ?_
  · exact returns_ofExcept fun _ h => ⟨rfl, by simpa using h⟩
  rintro _ _ ⟨rfl, hconflicts⟩
  rename_i tree
  refine returns_bind (fun _ tree' => tree' = tree) returns_checkEach ?_
  rintro _ _ rfl
  rename_i tree
  refine returns_bind
    (fun prior tree' => tree' = tree ∧ readPrior prims config plans tree = .ok prior)
    (returns_inspect fun prior h => ⟨rfl, h⟩) ?_
  rintro prior _ ⟨rfl, hprior⟩
  rename_i tree
  refine returns_bind _ returns_applyEach fun outputs _ houtputs => ?_
  refine returns_bind _ returns_writeState fun _ tree' hstate => returns_pure ?_
  exact ⟨plans, prior, hplans, hconflicts, hprior, houtputs.1, houtputs.2, hstate⟩

/-! ## The entries of a state -/

theorem byteSize_append (s t : Text) : byteSize (s ++ t) = byteSize s + byteSize t := by
  simp [byteSize]

theorem byteSize_asPosix_append (p q : Path) :
    byteSize (asPosix q) ≤ byteSize (asPosix (p ++ q)) := by
  cases q with
  | nil => simp [asPosix, byteSize]
  | cons part q =>
    induction p with
    | nil => exact le_rfl
    | cons part' p ih =>
      refine ih.trans ?_
      rw [List.cons_append, asPosix, asPosix, List.intercalate_cons_of_ne_nil (by simp),
        byteSize_append]
      omega

/-- An entry such as `apply_projections` writes, of a target apart from the state. -/
structure Output.Written (config : Path) (o : Output) : Prop where
  path : ∃ path, o.path = asPosix path ∧ tooLong path = false ∧ Nameable path ∧
    ¬ path <+: statePath config ∧ ¬ statePath config <+: path
  client : byteSize o.client ≤ 7
  backup : ∀ b, o.backup = some b → byteSize b ≤ pathMax
  size : ∀ n, o.backupSize = some n → n.natAbs < 2 ^ 63

/-- The bounds of an entry, whatever its target. -/
structure Output.Bounded (o : Output) : Prop where
  path : byteSize o.path ≤ pathMax
  client : byteSize o.client ≤ 7
  backup : ∀ b, o.backup = some b → byteSize b ≤ pathMax
  size : ∀ n, o.backupSize = some n → n.natAbs < 2 ^ 63

theorem byteSize_le_of_not_tooLong (h : tooLong path = false) :
    byteSize (asPosix path) ≤ pathMax := by
  simpa [tooLong] using h

theorem Output.Written.bounded (h : o.Written config) : o.Bounded := by
  obtain ⟨path, hpath, hlong, _⟩ := h.path
  exact ⟨hpath ▸ byteSize_le_of_not_tooLong hlong, h.client, h.backup, h.size⟩

theorem byteSize_of_isHexDigest (h : isHexDigest text = true) : byteSize text = 64 := by
  simp only [isHexDigest, Bool.and_eq_true, decide_eq_true_eq, List.all_eq_true] at h
  obtain ⟨hlength, hall⟩ := h
  rw [← hlength]
  clear hlength
  induction text with
  | nil => rfl
  | cons c text ih =>
    rw [List.forall_mem_cons] at hall
    have hc : c.utf8Size = 1 := by
      have hle : c.val ≤ 0x7f := by
        have h := hall.1
        simp only [Char.isDigit, Bool.or_eq_true, Bool.and_eq_true, decide_eq_true_eq,
          Char.le_def] at h
        rcases h with ⟨_, h⟩ | ⟨_, h⟩
        · exact UInt32.le_trans h (by decide)
        · exact UInt32.le_trans h (by decide)
      exact if_pos hle
    have ih := ih hall.2
    simp only [byteSize, List.map_cons, List.sum_cons, List.length_cons] at ih ⊢
    omega

theorem Output.Bounded.jsonBound_le (h : o.Bounded) (hvalid : outputValid o = true) :
    o.jsonBound ≤ 60000 := by
  simp only [outputValid, Bool.and_eq_true, decide_eq_true_eq] at hvalid
  obtain ⟨⟨⟨⟨⟨⟨hdigest, hmode⟩, _⟩, _⟩, _⟩, _⟩, hbackup⟩ := hvalid
  have hmode : byteSize o.mode ≤ 8 := by
    simp only [installedModes, List.mem_cons, List.not_mem_nil, or_false] at hmode
    rcases hmode with h | h | h <;> rw [h] <;> decide
  have hdigest := byteSize_of_isHexDigest hdigest
  have hpath := h.path
  have hclient := h.client
  have hb : o.backup.elim 0 byteSize ≤ pathMax := by
    cases hb : o.backup with
    | none => exact Nat.zero_le _
    | some b => exact h.backup b hb
  have hbd : o.backupDigest.elim 0 byteSize ≤ 64 := by
    cases hd : o.backupDigest with
    | none => exact Nat.zero_le _
    | some d =>
      simp only [backupValid, hd] at hbackup
      cases hb : o.backup with
      | none => simp [hb] at hbackup
      | some b =>
        simp only [hb, Bool.and_eq_true] at hbackup
        exact (byteSize_of_isHexDigest hbackup.1.1.1.1.1.1.1).le
  have hsize : (o.backupSize.elim 0 fun n => n.natAbs.log2 + 2) ≤ 66 := by
    cases hn : o.backupSize with
    | none => exact Nat.zero_le _
    | some n =>
      have hlt := h.size n hn
      by_cases hzero : n.natAbs = 0
      · simp [hzero]
      · have hlog := (Nat.log2_lt hzero).mpr hlt
        simp only [Option.elim_some]
        omega
  simp only [pathMax] at hpath hb
  simp only [Output.jsonBound]
  omega

theorem stableJson_le {outputs : List Output} (hlength : outputs.length ≤ 5)
    (hbounded : ∀ o ∈ outputs, o.Bounded) (hvalid : ∀ o ∈ outputs, outputValid o = true) :
    byteSize (prims.stableJson outputs) ≤ 1048576 := by
  have hsum : (outputs.map Output.jsonBound).sum ≤ outputs.length * 60000 := by
    clear hlength
    induction outputs with
    | nil => exact le_rfl
    | cons o outputs ih =>
      rw [List.forall_mem_cons] at hbounded hvalid
      have ho := hbounded.1.jsonBound_le hvalid.1
      have ih := ih hbounded.2 hvalid.2
      simp only [List.map_cons, List.sum_cons, List.length_cons]
      omega
  have hsize := prims.stableJson_size outputs
  omega

/-! ### The entry of a plan -/

theorem priorOutput_eq_some {prior : List Output}
    (h : priorOutput prior path = some o) : o ∈ prior ∧ o.path = asPosix path := by
  have hp := List.find?_some h
  exact ⟨List.mem_of_find?_eq_some h, by simpa using hp⟩

theorem mem_safeName {relative : Text} {c : Char} (h : c ∈ safeName relative) :
    c ≠ '/' ∧ c ≠ '\\' := by
  obtain ⟨d, _, hd⟩ := List.mem_flatMap.mp h
  by_cases hcond : (d.isAlphanum || d = '.' || d = '_' || d = '-') = true
  · rw [if_pos hcond, List.mem_singleton] at hd
    subst hd
    constructor <;> rintro rfl <;> exact absurd hcond (by decide)
  · rw [if_neg hcond] at hd
    have hall : ∀ c ∈ lit "__", c ≠ '/' ∧ c ≠ '\\' := forall_mem_of_all (by decide)
    exact hall c hd

theorem mem_hexDigest {c : Char} (h : isHexDigest text = true) (hc : c ∈ text) :
    c ≠ '/' ∧ c ≠ '\\' := by
  simp only [isHexDigest, Bool.and_eq_true, List.all_eq_true] at h
  have hhex := h.2 c hc
  constructor <;> rintro rfl <;> exact absurd hhex (by decide)

theorem mem_backupName {current : Text} {c : Char}
    (h : c ∈ backupName prims path current) : c ≠ '/' ∧ c ≠ '\\' := by
  simp only [backupName, List.mem_append] at h
  rcases h with ((h | h) | h) | h
  · exact mem_safeName h
  · have hall : ∀ c ∈ lit ".", c ≠ '/' ∧ c ≠ '\\' := forall_mem_of_all (by decide)
    exact hall c h
  · exact mem_hexDigest (prims.sha256_hex _) (List.mem_of_mem_take h)
  · have hall : ∀ c ∈ lit ".bak", c ≠ '/' ∧ c ≠ '\\' := forall_mem_of_all (by decide)
    exact hall c h

theorem backupPath_nameable (path : Path) (current : Text) :
    Nameable (backupPath prims path current) := by
  have hlength : 5 ≤ (backupName prims path current).length := by
    simp only [backupName, List.length_append]
    have hdot : (lit ".").length = 1 := rfl
    have hbak : (lit ".bak").length = 4 := rfl
    omega
  have hname : IsComponent (backupName prims path current) := by
    refine ⟨fun h => ?_, fun h => ?_, fun h => (mem_backupName h).1 rfl⟩
    · rw [h] at hlength
      exact absurd hlength (by decide)
    · rw [h] at hlength
      exact absurd hlength (by decide)
  refine ⟨?_, ?_, ?_⟩
  · intro part hpart
    simp only [backupPath, List.mem_cons, List.not_mem_nil, or_false] at hpart
    rcases hpart with rfl | rfl | rfl
    · exact ⟨by decide, by decide, by decide⟩
    · exact ⟨by decide, by decide, by decide⟩
    · exact hname
  · simp only [backupPath, List.mem_cons, List.not_mem_nil, or_false]
    rintro (h | h | h)
    · exact absurd h (by decide)
    · exact absurd h (by decide)
    · rw [← h] at hlength
      exact absurd hlength (by decide)
  · intro part hpart
    simp only [backupPath, List.mem_cons, List.not_mem_nil, or_false] at hpart
    rcases hpart with rfl | rfl | rfl
    · decide
    · decide
    · exact fun h => (mem_backupName h).2 rfl

theorem mode_of_resolved {request : RenderRequest} (hplan : plan.For tree request entry)
    (hmode : plan.mode ≠ .conflict) :
    plan.mode = .updated ∨ (plan.mode = .created ∧ plan.backsUp = false) ∨
      ((plan.mode = .adopted ∨ plan.mode = .replaced) ∧ plan.backsUp = true) := by
  rcases hplan.desired.mode_cases with h | h | ⟨h, hempty⟩ | ⟨h, hne, _⟩
  · exact .inl h
  · exact absurd h hmode
  · exact .inr (.inl ⟨h, by simp [ProjectionPlan.backsUp, hempty]⟩)
  · refine .inr (.inr ⟨h, ?_⟩)
    rcases h with h | h <;> simp [ProjectionPlan.backsUp, h, hne]

theorem ProjectionPlan.For.free_of_backsUp {request : RenderRequest}
    (hplan : plan.For tree request entry) (hbacks : plan.backsUp = true) :
    plan.current ≠ [] ∧ ¬ managedStart <:+: plan.current := by
  rcases hplan.desired.mode_cases with hm | hm | ⟨hm, _⟩ | ⟨_, hne, hnot⟩
  · simp [ProjectionPlan.backsUp, hm] at hbacks
  · simp [ProjectionPlan.backsUp, hm] at hbacks
  · simp [ProjectionPlan.backsUp, hm] at hbacks
  · exact ⟨hne, hnot⟩

/-- A file that the state remembers as created is not replaced. -/
def CreatedStay (prior : List Output) (plan : ProjectionPlan) : Prop :=
  plan.backsUp = true → ∀ o, priorOutput prior plan.path = some o → o.mode ≠ lit "created"

/-- **The entry of a plan** is accepted by the reader, unless it gives a backup to a file
that was created. -/
theorem outputValid_outputOf {request : RenderRequest}
    {prior : List Output} (hplan : plan.For tree request entry)
    (hmode : plan.mode ≠ .conflict) (hprior : ∀ o ∈ prior, outputValid o = true)
    (hupdated : plan.mode = .updated → (priorOutput prior plan.path).isSome) :
    outputValid (outputOf prims prior plan) = true ↔ CreatedStay prior plan := by
  have hpath := hplan.nameable
  have hnil := hplan.path_ne_nil
  have hback := @backupPath_nameable prims plan.path plan.current
  -- everything but the mode and the backup is as the reader wants it
  have hfixed : outputValid (outputOf prims prior plan) = true ↔
      (outputOf prims prior plan).mode ∈ installedModes ∧
        backupValid (outputOf prims prior plan) = true := by
    simp [outputValid, outputOf, hpath.components_asPosix, hpath.not_absolute hnil,
      prims.sha256_hex, hpath.upward, hpath.not_backslash, hnil]
    exact fun _ => decide_eq_true_iff
  rw [hfixed]
  cases ho : priorOutput prior plan.path with
  | none =>
    have hmodes := mode_of_resolved hplan hmode
    rcases hmodes with hupd | ⟨hcreated, hbacks⟩ | ⟨hreplaced, hbacks⟩
    · have hsome := hupdated hupd
      rw [ho] at hsome
      cases hsome
    · refine ⟨fun _ h => absurd h (by simp [hbacks]), fun _ => ?_⟩
      simp only [outputOf, ho, hbacks, hcreated, backupValid, Bool.false_eq_true, if_false,
        Option.map_none, Option.getD_none, Option.bind_none]
      decide
    · refine ⟨fun _ _ o h => (by rw [ho] at h; cases h), fun _ => ?_⟩
      have hname : lit plan.mode.name ∈ installedModes ∧
          lit plan.mode.name ≠ lit "created" := by
        rcases hreplaced with h | h <;> rw [h] <;> decide
      simp only [outputOf, ho, hbacks, backupValid, if_true, Option.map_none,
        Option.getD_none, hback.components_asPosix, hback.not_absolute (by simp [backupPath]),
        hback.not_backslash, hback.upward, prims.sha256_hex, hname.1]
      simp [backupPath, hname.2]
  | some o =>
    obtain ⟨hmem, _⟩ := priorOutput_eq_some ho
    have hvalid := hprior o hmem
    simp only [outputValid, Bool.and_eq_true, decide_eq_true_eq] at hvalid
    obtain ⟨⟨⟨⟨⟨⟨_, hm⟩, _⟩, _⟩, _⟩, _⟩, hb⟩ := hvalid
    by_cases hbacks : plan.backsUp = true
    · have hstay : CreatedStay prior plan ↔ o.mode ≠ lit "created" :=
        ⟨fun h => h hbacks o ho, fun h _ o' ho' => by
          rw [ho] at ho'
          cases ho'
          exact h⟩
      rw [hstay]
      simp only [outputOf, ho, hbacks, backupValid, if_true, Option.map_some,
        Option.getD_some, hback.components_asPosix, hback.not_absolute (by simp [backupPath]),
        hback.not_backslash, hback.upward, prims.sha256_hex, hm]
      simp [backupPath]
    · have hbacks : plan.backsUp = false := by simpa using hbacks
      refine ⟨fun _ h => absurd h (by simp [hbacks]), fun _ => ?_⟩
      simp only [outputOf, ho, hbacks, Option.map_some, Option.getD_some, hm, true_and,
        Bool.false_eq_true, if_false, Option.bind_some]
      exact hb

/-! ## When a state is accepted -/

theorem prefix_statePath : config <+: statePath config ∧
    config ++ [stateName] <+: statePath config :=
  ⟨⟨_, rfl⟩, ⟨[lit "render.json"], by simp [statePath]⟩⟩

theorem ne_statePath : config ≠ statePath config ∧
    config ++ [stateName] ≠ statePath config := by
  constructor
  · intro h
    have := congrArg List.length h
    simp [statePath] at this
  · intro h
    have := congrArg List.length h
    simp [statePath] at this

theorem projectionState_file {state : Option (List Output)}
    (hfile : tree.lookup (statePath config) = some (.file content)) :
    projectionState prims config tree = .ok state ↔
      content.val.size ≤ 1048576 ∧ ∃ text document, content.val = .utf8 text ∧
        prims.parseState text = some document ∧ document.valid = true ∧
        state = some document.outputs := by
  have hsome : (tree.lookup (statePath config)).isSome := by
    rw [hfile]
    rfl
  have hconfig := Tree.lookup_above hsome prefix_statePath.1 ne_statePath.1
  have hstate := Tree.lookup_above hsome prefix_statePath.2 ne_statePath.2
  have hdirs : validateStateDirectories tree config false = .ok () := by
    simp [validateStateDirectories, validateDirectories, hconfig, hstate]
  rw [projectionState, hdirs, ok_bind, hfile]
  simp only [require_bind_eq_ok, decide_eq_true_eq]
  cases hval : content.val with
  | binary bytes => simp
  | utf8 text =>
    cases hparse : prims.parseState text with
    | none => simp [hparse]
    | some document =>
      simp only [hparse, require_bind_eq_ok, RawContent.utf8.injEq]
      constructor
      · rintro ⟨hsize, hvalid, hstate⟩
        exact ⟨hsize, text, document, rfl, hparse, hvalid, (Except.ok.inj hstate).symm⟩
      · rintro ⟨hsize, _, document', rfl, hparse', hvalid, rfl⟩
        rw [hparse] at hparse'
        obtain rfl := Option.some.inj hparse'
        exact ⟨hsize, hvalid, rfl⟩

theorem outputValid_of_projectionState {state : List Output}
    (h : projectionState prims config tree = .ok (some state)) :
    (state.map Output.path).Nodup ∧ ∀ o ∈ state, outputValid o = true := by
  unfold projectionState at h
  obtain ⟨⟨⟩, hdirs, h⟩ := bind_eq_ok.mp h
  cases hfile : tree.lookup (statePath config) with
  | none =>
    rw [hfile] at h
    cases h
  | some node =>
    cases node with
    | file content =>
      have h' : projectionState prims config tree = .ok (some state) := by
        unfold projectionState
        rw [hdirs]
        exact h
      obtain ⟨_, text, document, _, _, hvalid, heq⟩ := (projectionState_file hfile).mp h'
      obtain rfl := Option.some.inj heq
      simp only [StateDocument.valid, outputsValid, Bool.and_eq_true, decide_eq_true_eq,
        List.all_eq_true] at hvalid
      exact hvalid.2
    | directory | symlink | special =>
      rw [hfile] at h
      cases h

theorem readPrior_eq_ok {plans : List ProjectionPlan} {prior : List Output}
    (h : readPrior prims config plans tree = .ok prior) :
    ∃ state, projectionState prims config tree = .ok state ∧ prior = state.getD [] ∧
      ∀ plan ∈ plans, plan.mode = .updated → (priorOutput prior plan.path).isSome := by
  simp only [readPrior, bind_eq_ok, require_eq_ok, List.all_eq_true, Bool.or_eq_true,
    decide_eq_true_eq] at h
  obtain ⟨state, hstate, ⟨⟩, _, ⟨⟩, hupdated, h⟩ := h
  have h := Except.ok.inj h
  refine ⟨state, hstate, h.symm, fun plan hplan hmode => ?_⟩
  rw [← h]
  exact (hupdated plan hplan).resolve_left fun hne => hne hmode

theorem valid_prior {state : Option (List Output)}
    (h : projectionState prims config tree = .ok state) :
    ∀ o ∈ state.getD [], outputValid o = true := by
  cases state with
  | none => exact fun _ h => (nomatch h)
  | some state => exact (outputValid_of_projectionState h).2

/-! ## The condition -/

def RenderRequest.targets (request : RenderRequest) : List Path :=
  request.bundle.sortedProjections.map fun entry => components entry.2

theorem planned_live {request : RenderRequest} {plans : List ProjectionPlan}
    (h : planProjections tree request = .ok plans) (hplan : plan ∈ plans) :
    ∃ entry ∈ request.bundle.sortedProjections, plan.For tree request entry := by
  have hforall := planProjections_eq_ok h
  generalize request.bundle.sortedProjections = entries at hforall ⊢
  clear h
  induction hforall with
  | nil => cases hplan
  | cons hfor _ ih =>
    rcases List.mem_cons.mp hplan with rfl | hplan
    · exact ⟨_, List.mem_cons_self .., hfor⟩
    · obtain ⟨entry, hentry, hfor⟩ := ih hplan
      exact ⟨entry, List.mem_cons_of_mem _ hentry, hfor⟩

theorem planned_targets {request : RenderRequest} {plans : List ProjectionPlan}
    (h : planProjections tree request = .ok plans) :
    plans.map ProjectionPlan.path = request.targets := by
  have hforall := planProjections_eq_ok h
  unfold RenderRequest.targets
  generalize request.bundle.sortedProjections = entries at hforall ⊢
  clear h
  induction hforall with
  | nil => rfl
  | cons hfor _ ih => rw [List.map_cons, List.map_cons, hfor.path, ih]

/-- **When a render leaves a readable state**: no two clients have one target, and a
target that the state remembers as created holds no text of someone else. -/
structure Renderable (prims : Primitives) (config : Path) (tree : Tree)
    (request : RenderRequest) : Prop where
  distinct : request.targets.Nodup
  created : ∀ p ∈ request.targets, ∀ state o,
    projectionState prims config tree = .ok (some state) → priorOutput state p = some o →
      o.mode = lit "created" → ∀ text, readProjection tree p = .ok text →
        text = [] ∨ managedStart <:+: text

section Rendered

variable {request : RenderRequest} {plans : List ProjectionPlan} {prior outputs : List Output}
  {tree' : Tree}

theorem Rendered.forall_plan (h : Rendered prims config tree request plans prior outputs tree')
    {plan : ProjectionPlan} (hplan : plan ∈ plans) :
    (∃ entry ∈ request.bundle.sortedProjections, plan.For tree request entry) ∧
      plan.mode ≠ .conflict := by
  obtain ⟨entry, hentry, hfor⟩ := planned_live h.planned hplan
  refine ⟨⟨entry, hentry, hfor⟩, hfor.not_conflict fun hconflict => ?_⟩
  have hresolved := h.resolved
  rw [conflicts, List.filter_eq_nil_iff] at hresolved
  exact hresolved plan hplan (by simpa using hconflict)

theorem Rendered.targets_eq (h : Rendered prims config tree request plans prior outputs tree') :
    plans.map ProjectionPlan.path = request.targets := planned_targets h.planned

theorem Rendered.distinct_iff
    (h : Rendered prims config tree request plans prior outputs tree') :
    (outputs.map Output.path).Nodup ↔ request.targets.Nodup := by
  have hpaths : outputs.map Output.path = request.targets.map asPosix := by
    rw [h.outputs_eq, ← h.targets_eq, List.map_map, List.map_map]
    rfl
  rw [hpaths]
  refine ⟨List.Nodup.of_map _, fun hnodup => ?_⟩
  refine hnodup.map_on fun p hp q hq heq => ?_
  rw [← h.targets_eq] at hp hq
  obtain ⟨plan, hplan, rfl⟩ := List.mem_map.mp hp
  obtain ⟨plan', hplan', rfl⟩ := List.mem_map.mp hq
  obtain ⟨⟨_, _, hfor⟩, _⟩ := h.forall_plan hplan
  obtain ⟨⟨_, _, hfor'⟩, _⟩ := h.forall_plan hplan'
  exact hfor.nameable.asPosix_inj hfor'.nameable heq

theorem Rendered.backsUp_iff (h : Rendered prims config tree request plans prior outputs tree')
    {plan : ProjectionPlan} (hplan : plan ∈ plans) :
    plan.backsUp = true ↔ ¬ (plan.current = [] ∨ managedStart <:+: plan.current) := by
  obtain ⟨⟨entry, _, hfor⟩, hmode⟩ := h.forall_plan hplan
  have hdesired := hfor.desired
  rcases hdesired.mode_cases with hm | hm | ⟨hm, hempty⟩ | ⟨hm, hne, hnot⟩
  · have hwithin : managedStart <:+: plan.current := by
      rw [hm] at hdesired
      generalize plan.desired = desired at hdesired
      cases hdesired with
      | updated hspan =>
        by_contra hnot
        rw [managedSpan_eq_none.mpr hnot] at hspan
        cases hspan
    simp [ProjectionPlan.backsUp, hm, hwithin]
  · exact absurd hm hmode
  · simp [ProjectionPlan.backsUp, hempty]
  · have hbacks : plan.backsUp = true := by
      rcases hm with hm | hm <;> simp [ProjectionPlan.backsUp, hm, hne]
    rw [hbacks]
    exact ⟨fun _ hor => hor.elim hne hnot, fun _ => rfl⟩

theorem Rendered.created_iff (h : Rendered prims config tree request plans prior outputs tree') :
    (∀ plan ∈ plans, CreatedStay prior plan) ↔ ∀ p ∈ request.targets, ∀ state o,
        projectionState prims config tree = .ok (some state) → priorOutput state p = some o →
          o.mode = lit "created" → ∀ text, readProjection tree p = .ok text →
            text = [] ∨ managedStart <:+: text := by
  obtain ⟨found, hfound, hprior, _⟩ := readPrior_eq_ok h.read
  constructor
  · intro hstay p hp state o hstate ho hmode text htext
    rw [← h.targets_eq] at hp
    obtain ⟨plan, hplan, rfl⟩ := List.mem_map.mp hp
    obtain ⟨⟨_, _, hfor⟩, _⟩ := h.forall_plan hplan
    have htext : plan.current = text := Except.ok.inj (hfor.current.symm.trans htext)
    by_contra hnot
    have hbacks := (h.backsUp_iff hplan).mpr (htext ▸ hnot)
    obtain rfl : found = some state := Except.ok.inj (hfound.symm.trans hstate)
    refine hstay plan hplan hbacks o ?_ hmode
    rw [hprior]
    exact ho
  · intro hcreated plan hplan hbacks o ho hmode
    obtain ⟨⟨_, _, hfor⟩, _⟩ := h.forall_plan hplan
    cases found with
    | none =>
      rw [hprior] at ho
      cases ho
    | some state =>
      rw [hprior] at ho
      refine (h.backsUp_iff hplan).mp hbacks ?_
      refine hcreated plan.path ?_ state o hfound ho hmode plan.current hfor.current
      rw [← h.targets_eq]
      exact List.mem_map_of_mem hplan

/-! ### The bounds of what is written -/

theorem client_name_size (client : Client) : byteSize (lit client.name) ≤ 7 := by
  cases client <;> decide

theorem readProjection_size {p : Path} {text : Text} (h : readProjection tree p = .ok text) :
    byteSize text < 2 ^ 63 := by
  unfold readProjection at h
  split at h
  · cases h
  split at h
  · cases h
    decide
  · next hsize _ =>
      cases h
      exact hsize
  · cases h
  · cases h

theorem Rendered.bounded (h : Rendered prims config tree request plans prior outputs tree')
    (hprior : ∀ o ∈ prior, o.Bounded) : ∀ o ∈ outputs, o.Bounded := by
  intro o ho
  rw [h.outputs_eq] at ho
  obtain ⟨plan, hplan, rfl⟩ := List.mem_map.mp ho
  obtain ⟨⟨_, _, hfor⟩, _⟩ := h.forall_plan hplan
  refine ⟨byteSize_le_of_not_tooLong (readProjection_not_tooLong hfor.current),
    client_name_size _, fun b hb => ?_, fun n hn => ?_⟩
  · by_cases hbacks : plan.backsUp = true
    · simp only [outputOf, hbacks, if_true] at hb
      rw [← Option.some.inj hb]
      exact (byteSize_asPosix_append config _).trans
        (byteSize_le_of_not_tooLong (h.backups plan hplan hbacks))
    · simp only [outputOf, hbacks] at hb
      obtain ⟨o, ho, hb⟩ := Option.bind_eq_some_iff.mp hb
      exact (hprior o (priorOutput_eq_some ho).1).backup b hb
  · by_cases hbacks : plan.backsUp = true
    · simp only [outputOf, hbacks, if_true] at hn
      rw [← Option.some.inj hn]
      exact readProjection_size hfor.current
    · simp only [outputOf, hbacks] at hn
      obtain ⟨o, ho, hn⟩ := Option.bind_eq_some_iff.mp hn
      exact (hprior o (priorOutput_eq_some ho).1).size n hn

theorem Rendered.length_le (h : Rendered prims config tree request plans prior outputs tree') :
    outputs.length ≤ 5 := by
  have hlength := (planProjections_eq_ok h.planned).length_eq
  rw [h.outputs_eq, List.length_map, ← hlength]
  exact (List.length_filterMap_le _ _).trans (by decide)

theorem Rendered.state_eq (h : Rendered prims config tree request plans prior outputs tree')
    {state : Option (List Output)} (hstate : projectionState prims config tree' = .ok state) :
    state = some outputs := by
  obtain ⟨content, hfile, hcontent⟩ := h.state
  obtain ⟨_, text, document, htext, hdoc, _, rfl⟩ := (projectionState_file hfile).mp hstate
  rw [hcontent] at htext
  obtain rfl := RawContent.utf8.inj htext
  rw [prims.parseState_stableJson] at hdoc
  rw [← Option.some.inj hdoc]

/-- **A render that returned left a readable state exactly under the condition.** -/
theorem Rendered.accepted_iff (h : Rendered prims config tree request plans prior outputs tree')
    (hbounded : ∀ o ∈ prior, o.Bounded) :
    (∃ state, projectionState prims config tree' = .ok state) ↔
      Renderable prims config tree request := by
  obtain ⟨found, hfound, hprior, hupdated⟩ := readPrior_eq_ok h.read
  have hvalid : ∀ plan ∈ plans,
      (outputValid (outputOf prims prior plan) = true ↔ CreatedStay prior plan) := by
    intro plan hplan
    obtain ⟨⟨_, _, hfor⟩, hmode⟩ := h.forall_plan hplan
    refine outputValid_outputOf hfor hmode ?_ (hupdated plan hplan)
    rw [hprior]
    exact valid_prior hfound
  obtain ⟨content, hfile, hcontent⟩ := h.state
  have hparse := prims.parseState_stableJson outputs
  constructor
  · rintro ⟨state, hstate⟩
    obtain ⟨_, text, document, htext, hdoc, hdocument, _⟩ :=
      (projectionState_file hfile).mp hstate
    rw [hcontent] at htext
    obtain rfl := RawContent.utf8.inj htext
    rw [hparse] at hdoc
    obtain rfl := Option.some.inj hdoc
    simp only [StateDocument.valid, outputsValid, Bool.and_eq_true, decide_eq_true_eq,
      List.all_eq_true] at hdocument
    refine ⟨h.distinct_iff.mp hdocument.2.1, h.created_iff.mp fun plan hplan => ?_⟩
    refine (hvalid plan hplan).mp (hdocument.2.2 _ ?_)
    rw [h.outputs_eq]
    exact List.mem_map_of_mem hplan
  · rintro ⟨hdistinct, hcreated⟩
    have hall : ∀ o ∈ outputs, outputValid o = true := by
      intro o ho
      rw [h.outputs_eq] at ho
      obtain ⟨plan, hplan, rfl⟩ := List.mem_map.mp ho
      exact (hvalid plan hplan).mpr (h.created_iff.mpr hcreated plan hplan)
    refine ⟨some outputs, (projectionState_file hfile).mpr
      ⟨?_, prims.stableJson outputs, ⟨2, outputs⟩, hcontent, hparse, ?_, rfl⟩⟩
    · rw [hcontent]
      exact stableJson_le h.length_le (h.bounded hbounded) hall
    · simp only [StateDocument.valid, outputsValid, Bool.and_eq_true, decide_eq_true_eq,
        List.all_eq_true]
      exact ⟨⟨trivial, h.length_le.trans (by decide)⟩, h.distinct_iff.mpr hdistinct, hall⟩

end Rendered

end Ecosystem.Projections
