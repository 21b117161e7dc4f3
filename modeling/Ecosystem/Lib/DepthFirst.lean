import Ecosystem.Lib.Fold
import Ecosystem.Lib.HashChain

/-!
# Depth-first traversal with a bounded stack

A traversal refuses a vertex on its stack and a successor that is not known, and gives
up when the stack outgrows its bound.

Behind every finished vertex stand all its successors (`Finished`), so an accepted graph
has no cycle.  On a closed acyclic graph the stack is always a `FirstPath` (`visit_spec`).
-/

namespace Ecosystem.Lib.DepthFirst

open Relation

variable {α ε : Type}

def Edge (succ : α → List α) (a b : α) : Prop := b ∈ succ a

def ReachedFrom (succ : α → List α) (bs : List α) (y : α) : Prop :=
  ∃ b ∈ bs, ReflTransGen (Edge succ) b y

section Traversal

variable [DecidableEq α] (known : α → Bool) (succ : α → List α)
  (deep cycle missing : ε)

/-- A visit of a vertex: the vertices finished when it returns. -/
def visit : ℕ → List α → List α → α → Except ε (List α)
  | 0, _, _, _ => .error deep
  | depth + 1, visiting, visited, a =>
    if a ∈ visiting then .error cycle
    else if a ∈ visited then .ok visited
    else
      match (succ a).foldlM (fun visited b =>
          if known b then visit depth (a :: visiting) visited b
          else .error missing) visited with
      | .error err => .error err
      | .ok visited => .ok (a :: visited)

def scan (depth : ℕ) (roots : List α) : Except ε (List α) :=
  roots.foldlM (visit known succ deep cycle missing depth []) []

end Traversal

/-! ## What is accepted -/

/-- Every vertex of the list stands in front of its successors. -/
inductive Finished (succ : α → List α) : List α → Prop
  | nil : Finished succ []
  | cons {a : α} {visited : List α} (hsucc : ∀ b ∈ succ a, b ∈ visited)
      (hvisited : Finished succ visited) : Finished succ (a :: visited)

variable {visited : List α} {done : α → Prop} {depth : ℕ}

theorem Finished.mem_of_edge {succ : α → List α}
    (h : Finished succ visited) {a b : α} (ha : a ∈ visited) (hb : b ∈ succ a) :
    b ∈ visited := by
  induction h with
  | nil => cases ha
  | cons hsucc _ ih =>
    rcases List.mem_cons.mp ha with rfl | ha
    · exact List.mem_cons_of_mem _ (hsucc b hb)
    · exact List.mem_cons_of_mem _ (ih ha)

theorem Finished.acc {succ : α → List α}
    (h : Finished succ visited) : ∀ a ∈ visited, Acc (fun b a => Edge succ a b) a := by
  induction h with
  | nil => exact fun _ ha => (nomatch ha)
  | cons hsucc _ ih =>
    intro a ha
    rcases List.mem_cons.mp ha with rfl | ha
    · exact Acc.intro _ fun b hb => ih b (hsucc b hb)
    · exact ih a ha

theorem foldlM_collects {f : List α → α → Except ε (List α)} {I : List α → Prop}
    (bs : List α) {visited visited' : List α}
    (hstep : ∀ b ∈ bs, ∀ visited visited', I visited → f visited b = .ok visited' →
      I visited' ∧ visited ⊆ visited' ∧ b ∈ visited')
    (hI : I visited) (h : bs.foldlM f visited = .ok visited') :
    I visited' ∧ visited ⊆ visited' ∧ ∀ b ∈ bs, b ∈ visited' := by
  induction bs generalizing visited with
  | nil =>
    obtain rfl : visited = visited' := by simpa [pure, Except.pure] using h
    exact ⟨hI, fun _ hx => hx, fun _ hb => (nomatch hb)⟩
  | cons b bs ih =>
    rw [List.foldlM_cons, bind_eq_ok] at h
    obtain ⟨between, hb, hbs⟩ := h
    obtain ⟨hI', hsub, hmem⟩ := hstep b (List.mem_cons_self ..) visited between hI hb
    obtain ⟨hI'', hsub', hall⟩ :=
      ih (fun c hc => hstep c (List.mem_cons_of_mem _ hc)) hI' hbs
    refine ⟨hI'', fun x hx => hsub' (hsub hx), ?_⟩
    intro c hc
    rcases List.mem_cons.mp hc with rfl | hc
    · exact hsub' hmem
    · exact hall c hc

section Accepted

variable [DecidableEq α] {known : α → Bool} {succ : α → List α}
  {deep cycle missing : ε}

theorem visit_finished {depth : ℕ} {visiting visited visited' : List α} {a : α}
    (h : visit known succ deep cycle missing depth visiting visited a = .ok visited')
    (hknown : known a = true) (hI : Finished succ visited ∧ ∀ x ∈ visited, known x = true) :
    (Finished succ visited' ∧ ∀ x ∈ visited', known x = true) ∧
      visited ⊆ visited' ∧ a ∈ visited' := by
  induction depth generalizing visiting visited visited' a with
  | zero => cases h
  | succ depth ih =>
    rw [visit] at h
    split at h
    · cases h
    split at h
    · next hmem =>
        cases h
        exact ⟨hI, fun _ hx => hx, hmem⟩
    · split at h
      · cases h
      next between hfold =>
      cases h
      have hstep : ∀ b ∈ succ a, ∀ visited visited',
          (Finished succ visited ∧ ∀ x ∈ visited, known x = true) →
          (if known b then
              visit known succ deep cycle missing depth (a :: visiting) visited b
            else .error missing) = .ok visited' →
          (Finished succ visited' ∧ ∀ x ∈ visited', known x = true) ∧
            visited ⊆ visited' ∧ b ∈ visited' := by
        intro b _ visited visited' hI hb
        split at hb
        · next hknown => exact ih hb hknown hI
        · cases hb
      obtain ⟨⟨hfinished, hall⟩, hsub, hsucc⟩ :=
        foldlM_collects (succ a) hstep hI hfold
      refine ⟨⟨.cons hsucc hfinished, ?_⟩, fun x hx => List.mem_cons_of_mem _ (hsub hx),
        List.mem_cons_self ..⟩
      intro x hx
      rcases List.mem_cons.mp hx with rfl | hx
      · exact hknown
      · exact hall x hx

/-- **A graph that is accepted** is closed and has no infinite path. -/
theorem scan_sound {depth : ℕ} {roots visited : List α}
    (h : scan known succ deep cycle missing depth roots = .ok visited)
    (hroots : ∀ a ∈ roots, known a = true) :
    (∀ a ∈ roots, ∀ b ∈ succ a, known b = true) ∧
      ∀ a ∈ roots, Acc (fun b a => Edge succ a b) a := by
  obtain ⟨⟨hfinished, hall⟩, -, hmem⟩ := foldlM_collects roots
    (fun a ha _ _ hI hvisit => visit_finished hvisit (hroots a ha) hI)
    ⟨Finished.nil, fun _ hx => (nomatch hx)⟩ h
  refine ⟨fun a ha b hb => hall b (hfinished.mem_of_edge (hmem a ha) hb), ?_⟩
  intro a ha
  exact hfinished.acc a (hmem a ha)

end Accepted

/-! ## What is refused -/

variable {succ : α → List α} {deep : ε}

/-- The path is the first to reach its vertices, up to the last one, when `done` has
been reached before it: no vertex that it leaves can be reached from a successor in
front of the one that it takes. -/
def FirstPath (succ : α → List α) : (α → Prop) → List α → Prop
  | _, [] => True
  | _, [_] => True
  | done, a :: b :: path =>
    ¬ done a ∧ ∃ before after, succ a = before ++ b :: after ∧
      FirstPath succ (fun y => done y ∨ ReachedFrom succ before y) (b :: path)

def Deep (succ : α → List α) (depth : ℕ) (done : α → Prop) (a : α) : Prop :=
  ∃ path, path.length = depth ∧ FirstPath succ done (a :: path)

theorem deep_zero {a : α} : Deep succ 0 done a :=
  ⟨[], rfl, trivial⟩

theorem deep_succ {a : α} :
    Deep succ (depth + 1) done a ↔
      ¬ done a ∧ ∃ before b after, succ a = before ++ b :: after ∧
        Deep succ depth (fun y => done y ∨ ReachedFrom succ before y) b := by
  constructor
  · rintro ⟨path, hlength, hpath⟩
    rcases path with _ | ⟨b, path⟩
    · cases hlength
    · obtain ⟨hdone, before, after, hsucc, hrest⟩ := hpath
      exact ⟨hdone, before, b, after, hsucc, path, Nat.succ.inj hlength, hrest⟩
  · rintro ⟨hdone, before, b, after, hsucc, path, hlength, hpath⟩
    exact ⟨b :: path, congrArg Nat.succ hlength, hdone, before, after, hsucc, hpath⟩

/-- Whatever a set of vertices reaches is in the set. -/
def Closed (succ : α → List α) (done : α → Prop) : Prop :=
  ∀ a, done a → ∀ b ∈ succ a, done b

theorem Closed.reach (h : Closed succ done) {a b : α} (ha : done a)
    (hab : ReflTransGen (Edge succ) a b) : done b := by
  induction hab with
  | refl => exact ha
  | tail _ hedge ih => exact h _ ih _ hedge

theorem reachedFrom_cons {b : α} {bs : List α} {y : α} :
    ReachedFrom succ (b :: bs) y ↔
      ReflTransGen (Edge succ) b y ∨ ReachedFrom succ bs y := by
  simp [ReachedFrom]

def Visits (succ : α → List α) (deep : ε) (tooDeep : (α → Prop) → α → Prop)
    (f : List α → α → Except ε (List α)) (b : α) : Prop :=
  ∀ visited done, (∀ y, y ∈ visited ↔ done y) → Closed succ done →
    (tooDeep done b → f visited b = .error deep) ∧
      (¬ tooDeep done b → ∃ visited', f visited b = .ok visited' ∧
        ∀ y, y ∈ visited' ↔ done y ∨ ReflTransGen (Edge succ) b y)

/-- **A fold of visits** stops at the first element that is too deep behind the
elements in front of it, and otherwise reaches what its elements reach. -/
theorem foldlM_visits {tooDeep : (α → Prop) → α → Prop}
    {f : List α → α → Except ε (List α)} (bs : List α)
    (hf : ∀ b ∈ bs, Visits succ deep tooDeep f b)
    (hdone : ∀ y, y ∈ visited ↔ done y) (hclosed : Closed succ done) :
    ((∃ before b after, bs = before ++ b :: after ∧
        tooDeep (fun y => done y ∨ ReachedFrom succ before y) b) →
      bs.foldlM f visited = .error deep) ∧ ((¬ ∃ before b after, bs = before ++ b :: after ∧
        tooDeep (fun y => done y ∨ ReachedFrom succ before y) b) →
      ∃ visited', bs.foldlM f visited = .ok visited' ∧
        ∀ y, y ∈ visited' ↔ done y ∨ ReachedFrom succ bs y) := by
  induction bs generalizing visited done with
  | nil =>
    constructor
    · rintro ⟨before, b, after, hsplit, -⟩
      simp at hsplit
    · intro _
      refine ⟨visited, rfl, fun y => ?_⟩
      rw [hdone]
      simp [ReachedFrom]
  | cons b bs ih =>
    have hnone : (fun y => done y ∨ ReachedFrom succ [] y) = done := by
      funext y
      simp [ReachedFrom]
    obtain ⟨hdeep, hok⟩ := hf b (List.mem_cons_self ..) visited done hdone hclosed
    by_cases hb : tooDeep done b
    · have herror : (b :: bs).foldlM f visited = .error deep := by
        rw [List.foldlM_cons, hdeep hb]
        rfl
      refine ⟨fun _ => herror, fun hnot => absurd ⟨[], b, bs, rfl, ?_⟩ hnot⟩
      rw [hnone]
      exact hb
    · obtain ⟨between, hbetween, hmem⟩ := hok hb
      have hclosed' : Closed succ fun y =>
          done y ∨ ReflTransGen (Edge succ) b y := by
        rintro a (ha | ha) c hc
        · exact .inl (hclosed a ha c hc)
        · exact .inr (ha.tail hc)
      have hshift : ∀ before : List α, (fun y => (done y ∨ ReflTransGen (Edge succ) b y) ∨
            ReachedFrom succ before y) =
          fun y => done y ∨ ReachedFrom succ (b :: before) y := by
        intro before
        funext y
        rw [reachedFrom_cons, or_assoc]
      have hsplits : (∃ before c after, b :: bs = before ++ c :: after ∧
            tooDeep (fun y => done y ∨ ReachedFrom succ before y) c) ↔
          ∃ before c after, bs = before ++ c :: after ∧
            tooDeep (fun y => (done y ∨ ReflTransGen (Edge succ) b y) ∨
              ReachedFrom succ before y) c := by
        rw [exists_split_cons, hnone, or_iff_right hb]
        simp only [hshift]
      obtain ⟨hrestDeep, hrestOk⟩ :=
        ih (fun c hc => hf c (List.mem_cons_of_mem _ hc)) hmem hclosed'
      rw [hsplits, List.foldlM_cons, hbetween]
      refine ⟨fun h => hrestDeep h, fun h => ?_⟩
      obtain ⟨visited', hfold, hmem'⟩ := hrestOk h
      refine ⟨visited', hfold, fun y => ?_⟩
      rw [hmem', reachedFrom_cons, or_assoc]

variable [DecidableEq α] {known : α → Bool} {cycle missing : ε}

/-- **A visit in a closed graph without cycles** is refused exactly when it is too
deep, and reaches what its vertex reaches. -/
theorem visit_spec (hknown : ∀ a, known a = true → ∀ b ∈ succ a, known b = true)
    (hacyclic : ∀ a, ¬ TransGen (Edge succ) a a) {visiting : List α} {a : α}
    (ha : known a = true) (hstack : ∀ s ∈ visiting, TransGen (Edge succ) s a) :
    Visits succ deep (Deep succ depth)
      (visit known succ deep cycle missing depth visiting) a := by
  induction depth generalizing visiting a with
  | zero =>
    intro visited done _ _
    exact ⟨fun _ => rfl, fun h => absurd deep_zero h⟩
  | succ depth ih =>
    intro visited done hdone hclosed
    rw [visit, if_neg fun h => hacyclic a (hstack a h), deep_succ]
    by_cases hmem : a ∈ visited
    · rw [if_pos hmem]
      have hin := (hdone a).mp hmem
      refine ⟨fun h => absurd hin h.1, fun _ => ⟨visited, rfl, fun y => ?_⟩⟩
      rw [hdone]
      exact ⟨.inl, fun h => h.elim id (hclosed.reach hin)⟩
    · rw [if_neg hmem]
      have hout : ¬ done a := fun h => hmem ((hdone a).mpr h)
      have hvisits : ∀ b ∈ succ a, Visits succ deep (Deep succ depth)
          (fun visited b => if known b then
              visit known succ deep cycle missing depth (a :: visiting) visited b
            else .error missing) b := by
        intro b hb visited done hdone hclosed
        have hkb := hknown a ha b hb
        simp only [hkb, if_true]
        refine ih hkb ?_ visited done hdone hclosed
        intro s hs
        rcases List.mem_cons.mp hs with rfl | hs
        · exact .single hb
        · exact (hstack s hs).tail hb
      obtain ⟨hdeep, hok⟩ := foldlM_visits (succ a) hvisits hdone hclosed
      refine ⟨?_, ?_⟩
      · rintro ⟨-, hsplit⟩
        rw [hdeep hsplit]
      · intro hnot
        have hnot' := fun h => hnot ⟨hout, h⟩
        obtain ⟨visited', hfold, hmem'⟩ := hok hnot'
        refine ⟨a :: visited', by rw [hfold], fun y => ?_⟩
        rw [List.mem_cons, hmem', ReflTransGen.cases_head_iff]
        constructor
        · rintro (rfl | h | ⟨b, hb, hreach⟩)
          · exact .inr (.inl rfl)
          · exact .inl h
          · exact .inr (.inr ⟨b, hb, hreach⟩)
        · rintro (h | rfl | ⟨b, hb, hreach⟩)
          · exact .inr (.inl h)
          · exact .inl rfl
          · exact .inr (.inr ⟨b, hb, hreach⟩)

/-- **A closed graph without cycles is accepted** exactly when no first path from its
roots is too deep. -/
theorem scan_spec {roots : List α}
    (hknown : ∀ a, known a = true → ∀ b ∈ succ a, known b = true)
    (hacyclic : ∀ a, ¬ TransGen (Edge succ) a a) (hroots : ∀ a ∈ roots, known a = true) :
    (∃ visited, scan known succ deep cycle missing depth roots = .ok visited) ↔
      ¬ ∃ before a after, roots = before ++ a :: after ∧
        Deep succ depth (ReachedFrom succ before) a := by
  have hempty : ∀ y, y ∈ ([] : List α) ↔ False := fun y => by simp
  have hvisits : ∀ a ∈ roots, Visits succ deep (Deep succ depth)
      (visit known succ deep cycle missing depth []) a := by
    intro a ha
    exact visit_spec hknown hacyclic (hroots a ha) (fun _ hs => (nomatch hs))
  obtain ⟨hdeep, hok⟩ := foldlM_visits roots hvisits hempty
    (fun _ h => h.elim)
  simp only [false_or] at hdeep hok
  constructor
  · rintro ⟨visited, h⟩ hsplit
    have herror := hdeep hsplit
    rw [scan, herror] at h
    cases h
  · intro h
    obtain ⟨visited, hscan, -⟩ := hok h
    exact ⟨visited, hscan⟩

end Ecosystem.Lib.DepthFirst
