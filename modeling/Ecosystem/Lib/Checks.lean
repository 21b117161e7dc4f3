import Ecosystem.Lib.Fold

/-!
# Checks in front of a result

Code that validates raises at the first check that fails.  Each rule says when a row of
checks comes to a result, so that no proof unfolds the monad.
-/

namespace Ecosystem.Lib

variable {α β γ ε : Type}

theorem ok_bind (a : α) (f : α → Except ε β) : (.ok a >>= f) = f a :=
  rfl

theorem error_bind (err : ε) (f : α → Except ε β) : (.error err >>= f) = .error err :=
  rfl

namespace Checks

/-- A check that raises. -/
def require (c : Bool) (err : ε) : Except ε Unit :=
  if c then .ok () else .error err

/-- A value that has to be there. -/
def expect (err : ε) : Option α → Except ε α
  | some a => .ok a
  | none => .error err

variable {err : ε}

@[simp] theorem require_eq_ok {c : Bool} {u : Unit} : require c err = .ok u ↔ c = true := by
  cases c <;> simp [require]

@[simp] theorem require_bind_eq_ok {c : Bool} {f : Unit → Except ε α} {a : α} :
    (require c err >>= f) = .ok a ↔ c = true ∧ f () = .ok a := by
  rw [bind_eq_ok]
  constructor
  · rintro ⟨⟨⟩, hc, hf⟩
    exact ⟨require_eq_ok.mp hc, hf⟩
  · rintro ⟨hc, hf⟩
    exact ⟨(), require_eq_ok.mpr hc, hf⟩

@[simp] theorem expect_eq_ok {x : Option α} {a : α} :
    expect err x = .ok a ↔ x = some a := by
  cases x <;> simp [expect]

theorem expect_bind_eq_ok {x : Option α} {f : α → Except ε β} {b : β} :
    (expect err x >>= f) = .ok b ↔ ∃ a, x = some a ∧ f a = .ok b := by
  rw [bind_eq_ok]
  simp

end Checks

variable {f : α → Except ε β} {xs : List α} {ys : List β}

theorem optionMapM_eq_ok {x : Option α} {y : Option β} :
    x.mapM f = .ok y ↔ (x = none ∧ y = none) ∨ ∃ a b, x = some a ∧ f a = .ok b ∧
      y = some b := by
  cases x with
  | none =>
    constructor
    · intro h
      exact Or.inl ⟨rfl, (Except.ok.inj h).symm⟩
    · rintro (⟨-, rfl⟩ | ⟨a, b, h, -⟩)
      · rfl
      · cases h
  | some a =>
    rw [Option.mapM_some]
    cases hf : f a with
    | error err =>
      constructor
      · intro h
        cases h
      · rintro (⟨h, -⟩ | ⟨a', b, h, hb, -⟩)
        · cases h
        · rw [← Option.some.inj h, hf] at hb
          cases hb
    | ok b =>
      constructor
      · intro h
        exact Or.inr ⟨a, b, rfl, hf, (Except.ok.inj h).symm⟩
      · rintro (⟨h, -⟩ | ⟨a', b', h, hb, rfl⟩)
        · cases h
        · rw [← Option.some.inj h, hf] at hb
          rw [Except.ok.inj hb]
          rfl

theorem mapM_eq_ok :
    ∀ {xs : List α} {ys : List β},
      xs.mapM f = .ok ys ↔ List.Forall₂ (fun x y => f x = .ok y) xs ys := by
  intro xs
  induction xs with
  | nil =>
    intro ys
    rw [List.mapM_nil, List.forall₂_nil_left_iff]
    exact ⟨fun h => (Except.ok.inj h).symm, fun h => h ▸ rfl⟩
  | cons x xs ih =>
    intro ys
    rw [List.mapM_cons, bind_eq_ok]
    constructor
    · rintro ⟨y, hy, hbind⟩
      obtain ⟨rest, hrest, hys⟩ := bind_eq_ok.mp hbind
      have hys : y :: rest = ys := Except.ok.inj hys
      rw [← hys]
      exact List.Forall₂.cons hy (ih.mp hrest)
    · intro h
      cases h with
      | cons hy hrest => exact ⟨_, hy, bind_eq_ok.mpr ⟨_, ih.mpr hrest, rfl⟩⟩

/-- A row of calls raises what the first one raises that does. -/
theorem mapM_eq_error {err : ε} : xs.mapM f = .error err ↔
    ∃ before x after, xs = before ++ x :: after ∧ (∀ y ∈ before, ∃ b, f y = .ok b) ∧
      f x = .error err := by
  induction xs with
  | nil =>
    constructor
    · intro h
      cases h
    · rintro ⟨before, x, after, hxs, -⟩
      simp at hxs
  | cons x xs ih =>
    rw [List.mapM_cons]
    cases hx : f x with
    | error err' =>
      rw [error_bind]
      constructor
      · intro h
        cases h
        exact ⟨[], x, xs, rfl, fun _ hy => absurd hy List.not_mem_nil, hx⟩
      · rintro ⟨before, y, after, hxs, hbefore, hy⟩
        cases before with
        | nil =>
          obtain ⟨rfl, -⟩ := List.cons.inj hxs
          rw [hx] at hy
          cases hy
          rfl
        | cons z before =>
          obtain ⟨rfl, -⟩ := List.cons.inj hxs
          obtain ⟨b, hb⟩ := hbefore x List.mem_cons_self
          rw [hx] at hb
          cases hb
    | ok b =>
      have hrest : (.ok b >>= fun y => xs.mapM f >>= fun ys => pure (y :: ys)) =
          (.error err : Except ε (List β)) ↔ xs.mapM f = .error err := by
        rw [ok_bind]
        cases xs.mapM f with
        | error err' =>
          rw [error_bind]
        | ok ys =>
          rw [ok_bind]
          exact iff_of_false (fun h => by cases h) fun h => by cases h
      rw [hrest, ih]
      constructor
      · rintro ⟨before, y, after, rfl, hbefore, hy⟩
        exact ⟨x :: before, y, after, rfl, List.forall_mem_cons.mpr ⟨⟨b, hx⟩, hbefore⟩, hy⟩
      · rintro ⟨before, y, after, hxs, hbefore, hy⟩
        cases before with
        | nil =>
          obtain ⟨rfl, -⟩ := List.cons.inj hxs
          rw [hx] at hy
          cases hy
        | cons z before =>
          obtain ⟨rfl, rfl⟩ := List.cons.inj hxs
          exact ⟨before, y, after, rfl, (List.forall_mem_cons.mp hbefore).2, hy⟩

theorem exists_mapM_eq_ok : (∃ ys, xs.mapM f = .ok ys) ↔ ∀ x ∈ xs, ∃ y, f x = .ok y := by
  simp only [mapM_eq_ok]
  induction xs with
  | nil => exact ⟨fun _ _ h => (nomatch h), fun _ => ⟨[], List.Forall₂.nil⟩⟩
  | cons x xs ih =>
    rw [List.forall_mem_cons, ← ih]
    constructor
    · rintro ⟨ys, h⟩
      cases h with
      | cons hy hrest => exact ⟨⟨_, hy⟩, _, hrest⟩
    · rintro ⟨⟨y, hy⟩, ys, hrest⟩
      exact ⟨y :: ys, List.Forall₂.cons hy hrest⟩

/-- A loop that cannot fail in two ways fails in that way, or comes to a result. -/
theorem mapM_cases {err : ε} (h : ∀ x ∈ xs, ∀ e, f x = .error e → e = err) :
    xs.mapM f = .error err ∨ ∃ ys, xs.mapM f = .ok ys := by
  induction xs with
  | nil => exact Or.inr ⟨[], rfl⟩
  | cons x xs ih =>
    rw [List.forall_mem_cons] at h
    rw [List.mapM_cons]
    cases hx : f x with
    | error e =>
      rw [h.1 e hx]
      exact Or.inl rfl
    | ok y =>
      rcases ih h.2 with hrest | ⟨ys, hrest⟩
      · rw [hrest]
        exact Or.inl rfl
      · rw [hrest]
        exact Or.inr ⟨y :: ys, rfl⟩

theorem map_ok_of_mapM (h : xs.mapM f = .ok ys) : xs.map f = ys.map .ok := by
  induction mapM_eq_ok.mp h with
  | nil => rfl
  | cons hxy hrest ih => rw [List.map_cons, List.map_cons, hxy, ih (mapM_eq_ok.mpr hrest)]

theorem mem_of_mapM (h : xs.mapM f = .ok ys) {y : β} : y ∈ ys ↔ ∃ x ∈ xs, f x = .ok y := by
  have hmem : (.ok y : Except ε β) ∈ xs.map f ↔ (.ok y : Except ε β) ∈ ys.map .ok := by
    rw [map_ok_of_mapM h]
  rw [List.mem_map, List.mem_map_of_injective fun _ _ => Except.ok.inj] at hmem
  exact hmem.symm

theorem exists_mapM_forall₂ {P : α → β → Prop} (h : ∀ x ∈ xs, ∃ y, f x = .ok y ∧ P x y) :
    ∃ ys, xs.mapM f = .ok ys ∧ List.Forall₂ P xs ys := by
  induction xs with
  | nil => exact ⟨[], rfl, List.Forall₂.nil⟩
  | cons x xs ih =>
    rw [List.forall_mem_cons] at h
    obtain ⟨⟨y, hy, hP⟩, hrest⟩ := h
    obtain ⟨ys, hys, hPs⟩ := ih hrest
    refine ⟨y :: ys, ?_, List.Forall₂.cons hP hPs⟩
    rw [List.mapM_cons, hy, hys]
    rfl

theorem forall_mem_of_forall₂ {P : α → β → Prop} {Q : β → Prop}
    (h : List.Forall₂ P xs ys) (himp : ∀ x ∈ xs, ∀ y, P x y → Q y) : ∀ y ∈ ys, Q y := by
  induction h with
  | nil => exact fun _ h => (nomatch h)
  | cons hP _ ih =>
    rw [List.forall_mem_cons] at himp ⊢
    exact ⟨himp.1 _ hP, ih himp.2⟩

end Ecosystem.Lib
