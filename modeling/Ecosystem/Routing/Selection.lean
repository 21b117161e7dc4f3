import Ecosystem.Routing.Eligibility

/-!
# The pick among the candidates

The router picks the candidate with the least rank among those without a rejection reason.
-/

namespace Ecosystem.Routing

open Ecosystem.Lib

variable {dig : RouterDigests}

/-! ## The pick -/

section Pick

variable {e : CandidateEvaluation dig} {evaluations : List (CandidateEvaluation dig)}

theorem ranked_eq_ok {entry : Rank × CandidateEvaluation dig} :
    ranked e = .ok entry ↔ e.rank = .ok entry.1 ∧ entry.2 = e := by
  obtain ⟨rank, e'⟩ := entry
  rw [ranked, bind_eq_ok]
  constructor
  · rintro ⟨rank', hrank, heq⟩
    obtain ⟨rfl, rfl⟩ := Prod.mk.inj (Except.ok.inj heq)
    exact ⟨hrank, rfl⟩
  · rintro ⟨hrank, rfl⟩
    exact ⟨rank, hrank, rfl⟩

theorem eligible_iff : e.eligible = true ↔ e.reasons = [] :=
  List.isEmpty_iff

theorem mem_ranked {entries : List (Rank × CandidateEvaluation dig)}
    (h : (evaluations.filter (·.eligible)).mapM ranked = .ok entries)
    {entry : Rank × CandidateEvaluation dig} :
    entry ∈ entries ↔ entry.2 ∈ evaluations ∧ entry.2.reasons = [] ∧
      entry.2.rank = .ok entry.1 := by
  rw [mem_of_mapM h]
  constructor
  · rintro ⟨e, he, hentry⟩
    obtain ⟨hmem, helig⟩ := List.mem_filter.mp he
    obtain ⟨hrank, rfl⟩ := ranked_eq_ok.mp hentry
    exact ⟨hmem, eligible_iff.mp helig, hrank⟩
  · rintro ⟨hmem, helig, hrank⟩
    exact ⟨entry.2, List.mem_filter.mpr ⟨hmem, eligible_iff.mpr helig⟩,
      ranked_eq_ok.mpr ⟨hrank, rfl⟩⟩

theorem exists_pick (h : ∀ e ∈ evaluations, e.reasons = [] → ∃ rank, e.rank = .ok rank) :
    ∃ selected, pick evaluations = .ok selected := by
  have hall : ∀ e ∈ evaluations.filter (·.eligible), ∃ entry, ranked e = .ok entry := by
    intro e he
    obtain ⟨hmem, helig⟩ := List.mem_filter.mp he
    obtain ⟨rank, hrank⟩ := h e hmem (eligible_iff.mp helig)
    exact ⟨(rank, e), ranked_eq_ok.mpr ⟨hrank, rfl⟩⟩
  obtain ⟨entries, hentries⟩ := exists_mapM_eq_ok.mpr hall
  exact ⟨_, bind_eq_ok.mpr ⟨entries, hentries, rfl⟩⟩

theorem pick_eq_none (h : pick evaluations = .ok none) :
    ∀ e ∈ evaluations, e.reasons = [] → ∀ rank, e.rank ≠ .ok rank := by
  obtain ⟨entries, hentries, hnone⟩ := bind_eq_ok.mp h
  have hnil : entries = [] := by
    have hleast : leastOn (fun entry => entry.1) entries = none :=
      Option.map_eq_none_iff.mp (Except.ok.inj hnone)
    exact leastOn_eq_none.mp hleast
  intro e he helig rank hrank
  have hmem : (rank, e) ∈ entries := (mem_ranked hentries).mpr ⟨he, helig, hrank⟩
  rw [hnil] at hmem
  exact List.not_mem_nil hmem

theorem pick_eq_some (h : pick evaluations = .ok (some e)) :
    e ∈ evaluations ∧ e.reasons = [] ∧ ∃ rank, e.rank = .ok rank ∧
      ∀ e' ∈ evaluations, e'.reasons = [] → ∀ rank', e'.rank = .ok rank' → rank ≤ rank' := by
  obtain ⟨entries, hentries, hsome⟩ := bind_eq_ok.mp h
  obtain ⟨⟨rank, e'⟩, hleast, rfl⟩ := Option.map_eq_some_iff.mp (Except.ok.inj hsome)
  obtain ⟨hmem, hle⟩ := leastOn_spec hleast
  obtain ⟨he, helig, hrank⟩ := (mem_ranked hentries).mp hmem
  refine ⟨he, helig, rank, hrank, ?_⟩
  intro e'' he'' helig'' rank'' hrank''
  exact hle (rank'', e'') ((mem_ranked hentries).mpr ⟨he'', helig'', hrank''⟩)

end Pick

end Ecosystem.Routing
