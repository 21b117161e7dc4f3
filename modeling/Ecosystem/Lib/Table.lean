import Mathlib

/-!
# Tables with a primary key

A table is a list of rows under distinct keys.  An `INSERT` is refused when the key is
taken, an `UPDATE` maps the rows, and an aggregate is a sum over them.
-/

namespace Ecosystem.Lib

structure Table (κ ρ : Type) where
  entries : List (κ × ρ)
  unique : (entries.map Prod.fst).Nodup

namespace Table

variable {κ ρ : Type}

def empty : Table κ ρ := ⟨[], List.nodup_nil⟩

/-- `UPDATE`: the row under each key is replaced by `f`. -/
def update (t : Table κ ρ) (f : κ → ρ → ρ) : Table κ ρ where
  entries := t.entries.map fun e => (e.1, f e.1 e.2)
  unique := by
    rw [List.map_map]
    exact t.unique

/-- `SELECT`: the entries that satisfy `p`. -/
def select (t : Table κ ρ) (p : κ → ρ → Bool) : List (κ × ρ) :=
  t.entries.filter fun e => p e.1 e.2

/-- `SUM`. -/
def sumBy (t : Table κ ρ) (w : κ → ρ → ℕ) : ℕ :=
  (t.entries.map fun e => w e.1 e.2).sum

variable [DecidableEq κ]

def get? (t : Table κ ρ) (k : κ) : Option ρ :=
  (t.entries.find? fun e => e.1 = k).map Prod.snd

/-- `UPDATE` of one row. -/
def modify (t : Table κ ρ) (k : κ) (f : ρ → ρ) : Table κ ρ :=
  t.update fun k' r => if k' = k then f r else r

theorem get?_eq_none_iff {t : Table κ ρ} {k : κ} :
    t.get? k = none ↔ k ∉ t.entries.map Prod.fst := by
  rw [get?, Option.map_eq_none_iff, List.find?_eq_none]
  constructor
  · rintro h hmem
    obtain ⟨e, he, rfl⟩ := List.mem_map.mp hmem
    exact h e he (decide_eq_true rfl)
  · intro h e he hk
    exact h (List.mem_map.mpr ⟨e, he, of_decide_eq_true hk⟩)

/-- `INSERT`: refused when the key is taken. -/
def insert? (t : Table κ ρ) (k : κ) (r : ρ) : Option (Table κ ρ) :=
  if h : t.get? k = none then
    some
      { entries := t.entries ++ [(k, r)]
        unique := by
          rw [List.map_append, List.map_cons, List.map_nil]
          refine List.nodup_append.mpr ⟨t.unique, List.nodup_singleton k, ?_⟩
          rintro x hx y hy rfl
          rw [List.mem_singleton.mp hy] at hx
          exact get?_eq_none_iff.mp h hx }
  else none

/-- An `INSERT` whose key is known to be free; a taken key keeps its row. -/
def insert (t : Table κ ρ) (k : κ) (r : ρ) : Table κ ρ :=
  (t.insert? k r).getD t

/-- `INSERT … ON CONFLICT DO UPDATE`: the row under a taken key is replaced by
`f`. -/
def upsert (t : Table κ ρ) (k : κ) (r : ρ) (f : ρ → ρ) : Table κ ρ :=
  (t.insert? k r).getD (t.modify k f)

/-- `DELETE` of one row. -/
def erase (t : Table κ ρ) (k : κ) : Table κ ρ where
  entries := t.entries.filter fun e => e.1 ≠ k
  unique := t.unique.sublist (List.filter_sublist.map Prod.fst)

/-! ## Reading back -/

theorem find?_eq_of_unique {entries : List (κ × ρ)}
    (hunique : (entries.map Prod.fst).Nodup) {k : κ} {r : ρ} (hmem : (k, r) ∈ entries) :
    entries.find? (fun e => e.1 = k) = some (k, r) := by
  induction entries with
  | nil => cases hmem
  | cons e entries ih =>
    rw [List.map_cons, List.nodup_cons] at hunique
    rcases List.mem_cons.mp hmem with rfl | hmem
    · simp
    · have hne : e.1 ≠ k := by
        rintro rfl
        exact hunique.1 (List.mem_map.mpr ⟨_, hmem, rfl⟩)
      rw [List.find?_cons_of_neg (by simpa using hne)]
      exact ih hunique.2 hmem

theorem mem_entries {t : Table κ ρ} {k : κ} {r : ρ} :
    (k, r) ∈ t.entries ↔ t.get? k = some r := by
  constructor
  · intro h
    rw [get?, find?_eq_of_unique t.unique h]
    rfl
  · intro h
    obtain ⟨e, he, rfl⟩ := Option.map_eq_some_iff.mp h
    have hk : e.1 = k := by simpa using List.find?_some he
    rw [← hk]
    exact List.mem_of_find?_eq_some he

@[simp] theorem get?_empty (k : κ) : (empty : Table κ ρ).get? k = none := rfl

@[simp] theorem get?_update (t : Table κ ρ) (f : κ → ρ → ρ) (k : κ) :
    (t.update f).get? k = (t.get? k).map (f k) := by
  cases h : t.get? k with
  | none =>
    rw [get?_eq_none_iff] at h
    rw [Option.map_none, get?_eq_none_iff, update, List.map_map]
    exact h
  | some r =>
    rw [Option.map_some, ← mem_entries, update]
    exact List.mem_map.mpr ⟨(k, r), mem_entries.mpr h, rfl⟩

theorem get?_modify (t : Table κ ρ) (k k' : κ) (f : ρ → ρ) :
    (t.modify k f).get? k' = if k' = k then (t.get? k').map f else t.get? k' := by
  rw [modify, get?_update]
  split <;> simp [*]

theorem get?_modify_self (t : Table κ ρ) (k : κ) (f : ρ → ρ) :
    (t.modify k f).get? k = (t.get? k).map f := by
  rw [get?_modify, if_pos rfl]

theorem get?_modify_of_ne {t : Table κ ρ} {k k' : κ} {f : ρ → ρ} (h : k' ≠ k) :
    (t.modify k f).get? k' = t.get? k' := by
  rw [get?_modify, if_neg h]

section Insert

variable {t t' : Table κ ρ} {k : κ} {r : ρ}

theorem insert?_eq_some (h : t.insert? k r = some t') :
    t.get? k = none ∧ t'.entries = t.entries ++ [(k, r)] := by
  unfold insert? at h
  split at h
  · next hfree => cases h; exact ⟨hfree, rfl⟩
  · cases h

theorem get?_insert? (h : t.insert? k r = some t') (k' : κ) :
    t'.get? k' = if k' = k then some r else t.get? k' := by
  obtain ⟨hfree, hentries⟩ := insert?_eq_some h
  split
  · next hk =>
      rw [hk, ← mem_entries, hentries]
      simp
  · next hk =>
      unfold get?
      rw [hentries, List.find?_append, List.find?_cons_of_neg (by simpa using Ne.symm hk)]
      simp

theorem get?_insert?_of_some (h : t.insert? k r = some t') {k' : κ} {r' : ρ}
    (h' : t.get? k' = some r') : t'.get? k' = some r' := by
  rw [get?_insert? h, if_neg, h']
  rintro rfl
  rw [(insert?_eq_some h).1] at h'
  cases h'

theorem insert?_insert (h : t.get? k = none) : t.insert? k r = some (t.insert k r) := by
  rw [insert, insert?, dif_pos h]
  rfl

theorem get?_insert (h : t.get? k = none) (k' : κ) :
    (t.insert k r).get? k' = if k' = k then some r else t.get? k' :=
  get?_insert? (insert?_insert h) k'

theorem upsert_of_none {t : Table κ ρ} {k : κ} (h : t.get? k = none) (r : ρ) (f : ρ → ρ) :
    t.upsert k r f = t.insert k r := by
  rw [upsert, insert?_insert h]
  rfl

theorem get?_upsert (t : Table κ ρ) (k : κ) (r : ρ) (f : ρ → ρ) (k' : κ) :
    (t.upsert k r f).get? k' =
      if k' = k then some ((t.get? k).elim r f) else t.get? k' := by
  rw [upsert]
  cases h : t.get? k with
  | none =>
    rw [insert?_insert h, Option.getD_some, get?_insert h]
    rfl
  | some old =>
    have hrefused : t.insert? k r = none := by
      rw [insert?, dif_neg (by rw [h]; exact Option.some_ne_none old)]
    rw [hrefused, Option.getD_none, get?_modify]
    split
    · next hk => rw [hk, h, Option.map_some, Option.elim_some]
    · rfl

end Insert

/-! ## Aggregates -/

omit [DecidableEq κ] in
theorem length_select (t : Table κ ρ) (p : κ → ρ → Bool) :
    (t.select p).length = t.sumBy fun k r => if p k r then 1 else 0 := by
  rw [select, sumBy, ← List.countP_eq_length_filter]
  induction t.entries with
  | nil => rfl
  | cons e entries ih => rw [List.countP_cons, ih, List.map_cons, List.sum_cons, Nat.add_comm]

omit [DecidableEq κ] in
theorem sumBy_update (t : Table κ ρ) (f : κ → ρ → ρ) (w : κ → ρ → ℕ) :
    (t.update f).sumBy w = t.sumBy fun k r => w k (f k r) := by
  simp [sumBy, update, Function.comp_def]

theorem sumBy_insert? {t t' : Table κ ρ} {k : κ} {r : ρ} (w : κ → ρ → ℕ)
    (h : t.insert? k r = some t') : t'.sumBy w = t.sumBy w + w k r := by
  rw [sumBy, (insert?_eq_some h).2]
  simp [sumBy]

theorem sumBy_insert {t : Table κ ρ} {k : κ} {r : ρ} (w : κ → ρ → ℕ)
    (h : t.get? k = none) : (t.insert k r).sumBy w = t.sumBy w + w k r :=
  sumBy_insert? w (insert?_insert h)

theorem sumBy_eq_sum {t : Table κ ρ} (w : κ → ρ → ℕ) {keys : Finset κ}
    (hkeys : ∀ k r, t.get? k = some r → k ∈ keys) :
    t.sumBy w = ∑ k ∈ keys, (t.get? k).elim 0 (w k) := by
  have hsub : (t.entries.map Prod.fst).toFinset ⊆ keys := by
    intro k hk
    obtain ⟨e, he, rfl⟩ := List.mem_map.mp (List.mem_toFinset.mp hk)
    exact hkeys e.1 e.2 (mem_entries.mp he)
  rw [← Finset.sum_subset hsub]
  · rw [List.sum_toFinset _ t.unique, List.map_map, sumBy]
    refine congrArg List.sum (List.map_congr_left fun e he => ?_)
    simp only [Function.comp_apply]
    rw [mem_entries.mp he]
    rfl
  · intro k _ hk
    rw [get?_eq_none_iff.mpr fun hmem => hk (List.mem_toFinset.mpr hmem)]
    rfl

/-- Sums compare key by key, also between two tables. -/
theorem sumBy_le_sumBy {t t' : Table κ ρ} {w w' : κ → ρ → ℕ}
    (h : ∀ k r, t.get? k = some r → w k r ≤ (t'.get? k).elim 0 (w' k)) :
    t.sumBy w ≤ t'.sumBy w' := by
  have hkeys : ∀ (t₁ : Table κ ρ) k r, t₁.get? k = some r →
      k ∈ (t₁.entries.map Prod.fst).toFinset := by
    intro t₁ k r hr
    exact List.mem_toFinset.mpr (List.mem_map.mpr ⟨_, mem_entries.mpr hr, rfl⟩)
  rw [sumBy_eq_sum w
      fun k r hr => Finset.mem_union_left _ (hkeys t k r hr),
    sumBy_eq_sum w'
      fun k r hr => Finset.mem_union_right _ (hkeys t' k r hr)]
  refine Finset.sum_le_sum fun k _ => ?_
  cases hr : t.get? k with
  | none => exact Nat.zero_le _
  | some r => exact h k r hr

/-- A sum depends only on what is read under the keys that count. -/
theorem sumBy_congr {t t' : Table κ ρ} {w : κ → ρ → ℕ}
    (h : ∀ k, (t.get? k).elim 0 (w k) = (t'.get? k).elim 0 (w k)) :
    t.sumBy w = t'.sumBy w := by
  refine le_antisymm (sumBy_le_sumBy fun k r hr => ?_)
    (sumBy_le_sumBy fun k r hr => ?_)
  · rw [← h k, hr]
    rfl
  · rw [h k, hr]
    rfl

theorem le_sumBy {t : Table κ ρ} {k : κ} {r : ρ} (h : t.get? k = some r)
    (w : κ → ρ → ℕ) : w k r ≤ t.sumBy w :=
  List.single_le_sum (fun _ _ => Nat.zero_le _) _
    (List.mem_map.mpr ⟨(k, r), mem_entries.mpr h, rfl⟩)

theorem sum_modify {entries : List (κ × ρ)} {k : κ} {r : ρ}
    (hunique : (entries.map Prod.fst).Nodup) (hmem : (k, r) ∈ entries)
    (f : ρ → ρ) (w : κ → ρ → ℕ) :
    (entries.map fun e => w e.1 (if e.1 = k then f e.2 else e.2)).sum + w k r =
      (entries.map fun e => w e.1 e.2).sum + w k (f r) := by
  induction entries with
  | nil => cases hmem
  | cons e entries ih =>
    rw [List.map_cons, List.nodup_cons] at hunique
    rcases List.mem_cons.mp hmem with rfl | hmem
    · have hsame : ∀ x ∈ entries,
          w x.1 (if x.1 = k then f x.2 else x.2) = w x.1 x.2 := by
        intro x hx
        rw [if_neg]
        rintro rfl
        exact hunique.1 (List.mem_map.mpr ⟨x, hx, rfl⟩)
      rw [List.map_cons, List.map_cons, List.map_congr_left hsame]
      simp only [List.sum_cons, if_true]
      omega
    · have hne : e.1 ≠ k := by
        rintro rfl
        exact hunique.1 (List.mem_map.mpr ⟨_, hmem, rfl⟩)
      have := ih hunique.2 hmem
      simp only [List.map_cons, List.sum_cons, if_neg hne]
      omega

/-- An update of one row moves the sum by the difference of that row. -/
theorem sumBy_modify {t : Table κ ρ} {k : κ} {r : ρ} (h : t.get? k = some r)
    (f : ρ → ρ) (w : κ → ρ → ℕ) :
    (t.modify k f).sumBy w + w k r = t.sumBy w + w k (f r) := by
  rw [modify, sumBy_update]
  exact sum_modify t.unique (mem_entries.mpr h) f w

/-! ## Deleting a row -/

theorem get?_erase (t : Table κ ρ) (k k' : κ) :
    (t.erase k).get? k' = if k' = k then none else t.get? k' := by
  by_cases hk : k' = k
  · rw [if_pos hk, get?_eq_none_iff]
    intro hmem
    obtain ⟨e, he, rfl⟩ := List.mem_map.mp hmem
    exact of_decide_eq_true (List.mem_filter.mp he).2 hk
  · rw [if_neg hk, get?, get?, erase, List.find?_filter]
    congr 2
    funext e
    by_cases he : e.1 = k'
    · simp [he, hk]
    · simp [he]

theorem erase_of_none {t : Table κ ρ} {k : κ} (h : t.get? k = none) : t.erase k = t := by
  have hkeep : t.entries.filter (fun e => e.1 ≠ k) = t.entries := by
    rw [List.filter_eq_self]
    intro e he
    refine decide_eq_true ?_
    rintro rfl
    exact get?_eq_none_iff.mp h (List.mem_map.mpr ⟨e, he, rfl⟩)
  cases t
  simp only [erase, mk.injEq]
  exact hkeep

theorem sumBy_erase {t : Table κ ρ} {k : κ} {r : ρ} (h : t.get? k = some r)
    (w : κ → ρ → ℕ) : (t.erase k).sumBy w + w k r = t.sumBy w := by
  have hmem := mem_entries.mpr h
  have hunique := t.unique
  simp only [sumBy, erase]
  generalize t.entries = entries at hmem hunique
  induction entries with
  | nil => cases hmem
  | cons e entries ih =>
    rw [List.map_cons, List.nodup_cons] at hunique
    rcases List.mem_cons.mp hmem with rfl | hmem
    · -- no later row has the key
      have hsame : entries.filter (fun e => e.1 ≠ k) = entries := by
        rw [List.filter_eq_self]
        intro e he
        refine decide_eq_true ?_
        rintro rfl
        exact hunique.1 (List.mem_map.mpr ⟨e, he, rfl⟩)
      rw [List.filter_cons_of_neg (by simp), hsame, List.map_cons, List.sum_cons]
      exact Nat.add_comm _ _
    · have hne : e.1 ≠ k := by
        rintro rfl
        exact hunique.1 (List.mem_map.mpr ⟨_, hmem, rfl⟩)
      have hrest := ih hmem hunique.2
      rw [List.filter_cons_of_pos (by simpa using hne)]
      simp only [List.map_cons, List.sum_cons]
      omega

end Table

end Ecosystem.Lib
