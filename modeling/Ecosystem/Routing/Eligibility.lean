import Ecosystem.Routing.Router

/-!
# When a candidate is eligible

A candidate has no rejection reason exactly when it is `Suitable`: the role, the request,
the observation and the price of its exact identity all admit it.
-/

namespace Ecosystem.Routing

open Ecosystem.Lib

variable {dig : RouterDigests}

/-! ## The observations -/

theorem addObservation_eq_ok {acc acc' : List ObservedModelCapabilities}
    {o : ObservedModelCapabilities} :
    addObservation dig acc o = .ok acc' ↔
      o.valid dig = true ∧ (∀ a ∈ acc, a.key ≠ o.key) ∧ acc' = acc ++ [o] := by
  rw [addObservation, Checks.require_bind_eq_ok, Checks.require_bind_eq_ok]
  simp only [Bool.not_eq_true', List.any_eq_false, decide_eq_true_eq]
  refine and_congr_right fun _ => and_congr_right fun _ => ?_
  exact ⟨fun h => (Except.ok.inj h).symm, fun h => h ▸ rfl⟩

theorem foldlM_addObservation {observations : List ObservedModelCapabilities} :
    ∀ {acc : List ObservedModelCapabilities}, ((acc ++ observations).map (·.key)).Nodup →
      observations.foldlM (addObservation dig) acc =
        if observations.all (·.valid dig) then .ok (acc ++ observations)
        else .error (.routing "ECO_ROUTING_CONTRACT_INVALID") := by
  induction observations with
  | nil =>
    intro acc _
    simp [pure, Except.pure]
  | cons o rest ih =>
    intro acc hnodup
    rw [List.foldlM_cons]
    cases hvalid : o.valid dig with
    | false =>
      simp [addObservation, hvalid, Checks.require, bind, Except.bind]
    | true =>
      have hfresh : ∀ a ∈ acc, a.key ≠ o.key := by
        rw [List.map_append, List.nodup_append] at hnodup
        intro a ha
        exact hnodup.2.2 _ (List.mem_map_of_mem ha) _ (List.mem_cons_self ..)
      have hstep : addObservation dig acc o = .ok (acc ++ [o]) :=
        addObservation_eq_ok.mpr ⟨hvalid, hfresh, rfl⟩
      have hassoc : acc ++ [o] ++ rest = acc ++ o :: rest := by simp
      rw [hstep, List.all_cons, hvalid, Bool.true_and]
      change rest.foldlM (addObservation dig) (acc ++ [o]) = _
      rw [ih (by rwa [hassoc]), hassoc]

theorem observationMap_eq {observations : List ObservedModelCapabilities}
    (hnodup : (observations.map (·.key)).Nodup) :
    observationMap dig observations =
      if observations.all (·.valid dig) then .ok observations
      else .error (.routing "ECO_ROUTING_CONTRACT_INVALID") :=
  foldlM_addObservation (by simpa using hnodup)

theorem observationMap_eq_ok {observations observed : List ObservedModelCapabilities}
    (h : observationMap dig observations = .ok observed) :
    observed = observations ∧ (∀ o ∈ observations, o.valid dig = true) ∧
      (observations.map (·.key)).Nodup := by
  refine foldlM_history_induction
    (fun seen acc => acc = seen ∧ (∀ o ∈ seen, o.valid dig = true) ∧
      (seen.map (·.key)).Nodup) ⟨rfl, by simp, by simp⟩ ?_ _ _ h
  rintro seen acc o acc' - ⟨hacc, hvalid, hnodup⟩ hstep
  obtain ⟨ho, hfresh, hacc'⟩ := addObservation_eq_ok.mp hstep
  refine ⟨by rw [hacc', hacc], ?_, ?_⟩
  · intro x hx
    rcases List.mem_append.mp hx with hx | hx
    · exact hvalid x hx
    · rw [List.mem_singleton.mp hx]
      exact ho
  · rw [List.map_append, List.nodup_append]
    refine ⟨hnodup, by simp, ?_⟩
    intro k hk k' hk'
    obtain ⟨a, ha, rfl⟩ := List.mem_map.mp hk
    rw [show k' = o.key by simpa using hk']
    exact hfresh a (hacc ▸ ha)

/-! ## Reasons -/

theorem mem_sortedReasons {findings : List (Bool × Rejection)} {r : Rejection} :
    r ∈ sortedReasons findings ↔ (true, r) ∈ findings := by
  rw [sortedReasons, mem_sortOn, List.mem_dedup, List.mem_map]
  constructor
  · rintro ⟨⟨fired, r'⟩, hmem, rfl⟩
    obtain ⟨hmem, hfired⟩ := List.mem_filter.mp hmem
    have hfired : fired = true := hfired
    rwa [hfired] at hmem
  · intro hmem
    exact ⟨(true, r), List.mem_filter.mpr ⟨hmem, rfl⟩, rfl⟩

theorem sortedReasons_eq_nil {findings : List (Bool × Rejection)} :
    sortedReasons findings = [] ↔ ∀ f ∈ findings, f.1 = false := by
  rw [List.eq_nil_iff_forall_not_mem]
  simp only [mem_sortedReasons]
  constructor
  · rintro h ⟨fired, r⟩ hmem
    cases fired with
    | false => rfl
    | true => exact absurd hmem (h r)
  · intro h r hmem
    exact Bool.noConfusion (h _ hmem)

theorem nodup_sortedReasons (findings : List (Bool × Rejection)) :
    (sortedReasons findings).Nodup :=
  (sortOn_perm _ _).nodup_iff.mpr (List.nodup_dedup _)

theorem sortedTexts_sortedReasons (findings : List (Bool × Rejection)) :
    sortedTexts ((sortedReasons findings).map Rejection.text) = true := by
  rw [sortedTexts, decide_eq_true_eq]
  exact pairwise_map_sortOn _ _

/-! ## The evaluation of one candidate -/

theorem addTime_eq_ok {t d u : ℤ} : addTime t d = .ok u ↔ t + d ≤ datetimeMax ∧ u = t + d := by
  rw [addTime]
  split
  · next h => exact ⟨fun hu => ⟨h, (Except.ok.inj hu).symm⟩, fun hu => by rw [hu.2]⟩
  · next h => exact ⟨fun hu => (nomatch hu), fun hu => absurd hu.1 h⟩

section Evaluation

variable {m : ModelRouter dig} {c : DeploymentCandidate dig} {spec : RequestSpec}
  {role : RolePolicy} {observations : List ObservedModelCapabilities} {now : ℤ}
  {excluded : List String} {e : CandidateEvaluation dig}

theorem candidateEvaluation_eq_ok :
    m.candidateEvaluation c spec role observations now excluded = .ok e ↔
      ∃ evidence, evidenceFindings c spec role observations
          (observations.find? (·.key = c.key)) now = .ok evidence ∧
        e = { candidate := c
              reasons := sortedReasons (placementFindings c spec role excluded ++
                evidence ++ priceFindings m c spec role (m.price c.key))
              cost := (m.price c.key).map fun p => reservation p spec
              latency := (observations.find? (·.key = c.key)).map
                (·.spec.latencyP95Millis)
              evidenceDigest := (observations.find? (·.key = c.key)).map (·.recordDigest)
              evidenceValidUntil := (observations.find? (·.key = c.key)).map
                (·.spec.validUntil.instant)
              preference := role.candidateIds.idxOf c.deploymentId } := by
  rw [ModelRouter.candidateEvaluation, bind_eq_ok]
  refine exists_congr fun evidence => and_congr_right fun _ => ?_
  exact ⟨fun h => (Except.ok.inj h).symm, fun h => h ▸ rfl⟩

/-- The latency of the candidate, as far as it is observed, leads to an instant. -/
def Arrives (observations : List ObservedModelCapabilities) (now : ℤ)
    (c : DeploymentCandidate dig) : Prop :=
  ∀ o, observations.find? (·.key = c.key) = some o →
    now + o.spec.latencyP95Millis * 1000 ≤ datetimeMax

theorem exists_candidateEvaluation :
    (∃ e, m.candidateEvaluation c spec role observations now excluded = .ok e) ↔
      Arrives observations now c := by
  simp only [candidateEvaluation_eq_ok, Arrives]
  cases hfind : observations.find? (·.key = c.key) with
  | none => simp [evidenceFindings]
  | some o =>
    simp only [evidenceFindings, bind_eq_ok, addTime_eq_ok, Option.some.injEq]
    constructor
    · rintro ⟨-, -, ⟨-, ⟨hle, -⟩, -⟩, -⟩ o' rfl
      exact hle
    · intro h
      exact ⟨_, _, ⟨_, ⟨h o rfl, rfl⟩, rfl⟩, rfl⟩

/-- Everything that admits a candidate with an observation and a price of its own. -/
structure Suitable (c : DeploymentCandidate dig) (spec : RequestSpec) (role : RolePolicy)
    (now : ℤ) (excluded : List String) (o : ObservedModelCapabilities)
    (p : PriceEntry) : Prop where
  notExcluded : c.candidateDigest ∉ excluded
  enabled : c.enabled = true
  listed : c.deploymentId ∈ role.candidateIds
  zone : c.zone ∈ role.allowedZones ∧ c.zone ∈ spec.allowedZones
  dataClass : spec.dataClass ∈ role.allowedDataClasses ∧
    spec.dataClass ∈ c.allowedDataClasses
  retention : c.retention ∈ role.allowedRetentions ∧ c.retention ∈ spec.allowedRetentions
  cloud : spec.allowCloud = false → c.providerClass = .local
  localProfile : spec.executionProfile = .localZeroCost → c.providerClass = .local
  fresh : o.spec.observedAt.instant ≤ now ∧ now < o.spec.validUntil.instant
  capabilities : ∀ x ∈ role.requiredCapabilities ++ spec.requiredCapabilities,
    x ∈ o.spec.capabilities
  context : tokenRequirement spec ≤ o.spec.contextWindowTokens
  deadline : now + o.spec.latencyP95Millis * 1000 ≤ spec.deadlineAt.instant
  cost : reservation p spec ≤ min spec.maximumCostMicrousd role.maximumCostMicrousd
  localCost : spec.executionProfile = .localZeroCost → reservation p spec = 0

theorem providerClass_ne_cloud {k : ProviderClass} : k ≠ .cloud ↔ k = .local := by
  cases k <;> simp

/-- **A candidate has no rejection reason exactly when it is suitable.** -/
theorem reasons_eq_nil_iff
    (h : m.candidateEvaluation c spec role observations now excluded = .ok e) :
    e.reasons = [] ↔ ∃ o p, observations.find? (·.key = c.key) = some o ∧
      m.price c.key = some p ∧ Suitable c spec role now excluded o p := by
  obtain ⟨evidence, hevidence, rfl⟩ := candidateEvaluation_eq_ok.mp h
  simp only [sortedReasons_eq_nil, List.forall_mem_append]
  cases hfind : observations.find? (·.key = c.key) with
  | none =>
    -- one of the two findings about missing evidence fires
    rw [hfind, evidenceFindings] at hevidence
    obtain rfl := Except.ok.inj hevidence
    constructor
    · rintro ⟨⟨-, hnone⟩, -⟩
      simp only [List.forall_mem_cons, Bool.not_eq_false'] at hnone
      rw [hnone.1] at hnone
      exact absurd hnone.2.1 (by decide)
    · rintro ⟨o, p, ho, -⟩
      cases ho
  | some o =>
    cases hprice : m.price c.key with
    | none =>
      constructor
      · rintro ⟨-, hnone⟩
        simp only [priceFindings, List.forall_mem_cons, Bool.not_eq_false'] at hnone
        rw [hnone.1] at hnone
        exact absurd hnone.2.1 (by decide)
      · rintro ⟨_, p, -, hp, -⟩
        cases hp
    | some p =>
      rw [hfind] at hevidence
      simp only [evidenceFindings, bind_eq_ok, addTime_eq_ok] at hevidence
      obtain ⟨arrival, ⟨-, rfl⟩, hevidence⟩ := hevidence
      obtain rfl := Except.ok.inj hevidence
      simp only [placementFindings, priceFindings, List.forall_mem_cons,
        List.not_mem_nil, false_implies, implies_true, and_true,
        decide_eq_false_iff_not, Bool.not_eq_false', not_or, not_not, not_and, not_lt,
        not_le, Option.some.injEq, providerClass_ne_cloud, ne_eq]
      constructor
      · rintro ⟨⟨⟨h1, h2, h3, h4, h5, h6, h7, h8⟩, h9, h10, h11, h12⟩, h13, h14⟩
        exact ⟨o, p, rfl, rfl,
          ⟨h1, h2, h3, h4, h5, h6, h7, h8, h9, h10, h11, h12, h13, h14⟩⟩
      · rintro ⟨o', p', rfl, rfl, hs⟩
        exact ⟨⟨⟨hs.notExcluded, hs.enabled, hs.listed, hs.zone, hs.dataClass,
          hs.retention, hs.cloud, hs.localProfile⟩, hs.fresh, hs.capabilities,
          hs.context, hs.deadline⟩, hs.cost, hs.localCost⟩

theorem rank_eq_of_suitable {o : ObservedModelCapabilities} {p : PriceEntry}
    (h : m.candidateEvaluation c spec role observations now excluded = .ok e)
    (ho : observations.find? (·.key = c.key) = some o) (hp : m.price c.key = some p) :
    e.rank = .ok (toLex (reservation p spec, toLex (o.spec.latencyP95Millis,
      toLex (role.candidateIds.idxOf c.deploymentId, c.candidateDigest)))) := by
  obtain ⟨evidence, -, rfl⟩ := candidateEvaluation_eq_ok.mp h
  simp only [CandidateEvaluation.rank, ho, hp, Option.map_some]
  rfl

end Evaluation

end Ecosystem.Routing
