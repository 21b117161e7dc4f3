import Ecosystem.Routing.Decisions

/-!
# Fallbacks that select the failed deployment again

A fallback excludes the candidate digest of the previous selection, which covers the whole
record, while the check for drift compares the identity alone.  When anything else has
changed, only its rank keeps the deployment from being selected again (`Reselects`).
-/

namespace Ecosystem.Routing

open Ecosystem.Lib

variable {dig : RouterDigests}

section Laws

variable {m : ModelRouter dig} {request : ModelRouteRequest} {role : RolePolicy}
  {candidates : List (DeploymentCandidate dig)}
  {observations : List ObservedModelCapabilities} {current : ℤ} {excluded : List String}
  {now : Option ℤ} {previous : ModelRouteDecision} {failureClass : String}
  {decisionId explainId : String} {out : RoutingOutcome}

theorem ModelRouter.Least.suitable {c : DeploymentCandidate dig} {rank : Rank}
    (h : m.Least request role candidates observations current excluded c rank) :
    ∃ o p, Suitable c request.spec role current excluded o p ∧
      (ofLex (ofLex (ofLex rank).2).2).1 = role.candidateIds.idxOf c.deploymentId := by
  obtain ⟨e, heval, hnil, hrank⟩ := h.free
  obtain ⟨o, p, ho, hp, hsuitable⟩ := (reasons_eq_nil_iff heval).mp hnil
  refine ⟨o, p, hsuitable, ?_⟩
  rw [Except.ok.inj (hrank.symm.trans (rank_eq_of_suitable heval ho hp))]
  rfl

theorem ModelRouter.Least.deploymentId_eq {c c' : DeploymentCandidate dig} {rank rank' : Rank}
    (h : m.Least request role candidates observations current excluded c rank)
    (h' : m.Least request role candidates observations current excluded c' rank') :
    c.deploymentId = c'.deploymentId := by
  have hle : ∀ {d d' : DeploymentCandidate dig} {r r' : Rank},
      m.Least request role candidates observations current excluded d r →
      m.Least request role candidates observations current excluded d' r' → r ≤ r' := by
    intro d d' r r' hd hd'
    obtain ⟨e', heval', hnil', hrank'⟩ := hd'.free
    obtain ⟨r'', hrank'', hle⟩ := hd.least d' hd'.mem e' heval' hnil'
    rwa [Except.ok.inj (hrank'.symm.trans hrank'')]
  have hrank : rank = rank' := le_antisymm (hle h h') (hle h' h)
  obtain ⟨_, _, hsuitable, hplace⟩ := h.suitable
  obtain ⟨_, _, -, hplace'⟩ := h'.suitable
  rw [hrank, hplace'] at hplace
  exact ((List.idxOf_inj hsuitable.listed).mp hplace.symm)

theorem fallbackReason_eq_none
    (h : m.fallbackReason request previous role failureClass candidates current = none) :
    m.previousAuthorizes request previous current = true ∧
      previous.spec.routeAttempt < role.maxRouteAttempts := by
  rw [ModelRouter.fallbackReason] at h
  split at h
  · cases h
  next hauthorizes =>
  split at h
  · cases h
  · next hattempt => exact ⟨not_not.mp hauthorizes, not_le.mp hattempt⟩

theorem one_le_routeAttempt {digests : RecordDigests} (h : previous.valid digests = true) :
    1 ≤ previous.spec.routeAttempt := by
  simp only [ModelRouteDecision.valid, DecisionSpec.schemaOk, Bool.and_eq_true,
    decide_eq_true_eq] at h
  exact h.1.2.1.1.1.1.1.1.2

theorem matchesDigest_of_valid {digests : RecordDigests} (h : previous.valid digests = true) :
    matchesDigest previous.recordDigest = true := by
  simp only [ModelRouteDecision.valid, Bool.and_eq_true] at h
  exact Metadata.digest_of_schemaOk h.1.1

/-- The candidate of the previous deployment has another digest than the one that was
recorded, and it is the least candidate of a fallback that is authorized, returns and
passes the preconditions. -/
def ModelRouter.Reselects (m : ModelRouter dig) (request : ModelRouteRequest)
    (previous : ModelRouteDecision) (failureClass : String)
    (candidates : List (DeploymentCandidate dig))
    (observations : List ObservedModelCapabilities) (now : Option ℤ)
    (decisionId explainId : String) : Prop :=
  request.valid dig.toRecordDigests = true ∧ previous.valid dig.toRecordDigests = true ∧
    matchesId decisionId = true ∧ matchesId explainId = true ∧
    ∃ current role, now = some current ∧ m.roleOf request.spec.role = .ok role ∧
      current + m.policy.spec.decisionTtlSeconds * 1000000 ≤ datetimeMax ∧
      m.fallbackReason request previous role failureClass candidates current = none ∧
      m.preconditionReason request.spec role current = none ∧
      Admissible candidates observations current ∧
      ∃ selected c rank, previous.spec.selected = some selected ∧
        c.deploymentId = selected.deploymentId ∧
        c.candidateDigest ≠ selected.candidateDigest ∧
        m.Least request role candidates observations current [selected.candidateDigest] c rank

theorem fallback_of_reselects
    (h : m.Reselects request previous failureClass candidates observations now decisionId
      explainId) :
    ∃ out, m.fallback request previous failureClass candidates observations now decisionId
        explainId = .ok out ∧ out.decision.spec.decision = .allowed ∧
      out.decision.spec.selected.map (·.deploymentId) =
        previous.spec.selected.map (·.deploymentId) := by
  obtain ⟨hrequest, hprevious, hdecisionId, hexplainId, current, role, hnow, hrole, hmax,
    hfallback, hprecondition, hadmissible, selected, c, rank, hselected, hid, -, hleast⟩ := h
  have hcall : ∃ out, m.routeWith request candidates observations now
      ⟨decisionId, explainId, 2, some previous.recordDigest⟩ [selected.candidateDigest] =
        .ok out :=
    (exists_routeWith hrequest
      (Or.inr ⟨rfl, _, rfl, matchesDigest_of_valid hprevious⟩)).mpr
      ⟨⟨hdecisionId, hexplainId⟩, current, role, hnow, hrole, hmax, fun _ => hadmissible⟩
  obtain ⟨out, hout⟩ := hcall
  refine ⟨out, fallback_eq_ok.mpr ⟨current, role, hnow, hrequest, hprevious, hrole,
    Or.inr ⟨hfallback, ?_⟩⟩, ?_⟩
  · rw [hselected]
    exact hout
  · obtain ⟨current', role', hnow', hrole', hcases⟩ := routeWith_cases hout
    obtain rfl := Option.some.inj (hnow.symm.trans hnow')
    obtain rfl := Except.ok.inj (hrole.symm.trans hrole')
    rcases hcases with ⟨_, hreason, -⟩ | ⟨-, hnone, -⟩ |
      ⟨-, c', o, p, rank', hleast', -, -, hspec⟩
    · rw [hprecondition] at hreason
      cases hreason
    · obtain ⟨e, heval, hnil, -⟩ := hleast.free
      exact absurd hnil (hnone c hleast.mem e heval)
    · rw [hspec, hselected]
      refine ⟨rfl, ?_⟩
      change some c'.deploymentId = some selected.deploymentId
      rw [hleast'.deploymentId_eq hleast, hid]

end Laws

/-- **When a fallback leaves the failed deployment.**  An allowed fallback is a second
attempt within the attempts of the role, and it selects another deployment than before
unless the candidate of the failed deployment has a new digest and is the least. -/
theorem fallback_leaves_deployment_iff (m : ModelRouter dig) (request : ModelRouteRequest)
    (previous : ModelRouteDecision) (failureClass : String)
    (candidates : List (DeploymentCandidate dig))
    (observations : List ObservedModelCapabilities) (now : Option ℤ)
    (decisionId explainId : String) :
    (∀ out, m.fallback request previous failureClass candidates observations now decisionId
        explainId = .ok out → out.decision.spec.decision = .allowed →
      out.decision.spec.selected.map (·.deploymentId) ≠
          previous.spec.selected.map (·.deploymentId) ∧ out.decision.spec.routeAttempt = 2 ∧
        ∃ role, m.roleOf request.spec.role = .ok role ∧ 2 ≤ role.maxRouteAttempts) ↔
      ¬ m.Reselects request previous failureClass candidates observations now decisionId
        explainId := by
  constructor
  · intro h hreselects
    obtain ⟨out, hout, hallowed, hsame⟩ := fallback_of_reselects hreselects
    exact (h out hout hallowed).1 hsame
  · intro h out hout hallowed
    obtain ⟨current, role, hnow, hrequest, hprevious, hrole, hcases⟩ := fallback_eq_ok.mp hout
    rcases hcases with ⟨reason, -, -, hdenied⟩ | ⟨hfallback, hroute⟩
    · rw [decision_of_precondition hdenied] at hallowed
      cases hallowed
    · obtain ⟨hauthorizes, hattempts⟩ := fallbackReason_eq_none hfallback
      have hone := one_le_routeAttempt hprevious
      have hsome : previous.spec.selected.isSome = true := by
        simp only [ModelRouter.previousAuthorizes, Bool.and_eq_true] at hauthorizes
        exact hauthorizes.1.2
      obtain ⟨selected, hselected⟩ := Option.isSome_iff_exists.mp hsome
      have hreturns := (exists_routeWith hrequest
        (Or.inr ⟨rfl, _, rfl, matchesDigest_of_valid hprevious⟩)).mp ⟨out, hroute⟩
      obtain ⟨⟨hdecisionId, hexplainId⟩, current₁, role₁, hnow₁, hrole₁, hmax,
        hadmissible⟩ := hreturns
      obtain rfl := Option.some.inj (hnow.symm.trans hnow₁)
      obtain rfl := Except.ok.inj (hrole.symm.trans hrole₁)
      obtain ⟨current₂, role₂, hnow₂, hrole₂, hcases⟩ := routeWith_cases hroute
      obtain rfl := Option.some.inj (hnow.symm.trans hnow₂)
      obtain rfl := Except.ok.inj (hrole.symm.trans hrole₂)
      rw [hselected] at hcases
      rcases hcases with ⟨_, -, -, hdenied⟩ | ⟨-, -, -, hdenied⟩ |
        ⟨hprecondition, c, o, p, rank, hleast, -, hsuitable, hspec⟩
      · rw [hdenied] at hallowed
        cases hallowed
      · rw [hdenied] at hallowed
        cases hallowed
      · rw [hspec, hselected]
        refine ⟨?_, rfl, role, hrole, by omega⟩
        intro hsame
        have hid : c.deploymentId = selected.deploymentId := Option.some.inj hsame
        have hdigest : c.candidateDigest ≠ selected.candidateDigest :=
          fun heq => hsuitable.notExcluded (List.mem_singleton.mpr heq)
        exact h ⟨hrequest, hprevious, hdecisionId, hexplainId, current, role, hnow, hrole,
          hmax, hfallback, hprecondition, hadmissible hprecondition, selected, c, rank,
          hselected, hid, hdigest, hleast⟩

/-! ## A deployment whose data classes have changed -/

section Changed

variable {dataClasses : List DataClass} {excluded : List String} {now : ℤ}

theorem sampleSingle_admissible (hnow : now ≤ 1000000) :
    Admissible [sampleCandidate "first" dataClasses] [sampleObservation "first"] now where
  ids := by simp
  valid := by
    rw [List.forall_mem_singleton]
    exact sampleObservation_valid (by decide)
  bindings := by simp
  arrives := by
    intro c _ o ho
    rw [List.mem_singleton.mp (List.mem_of_find?_eq_some ho)]
    have hmax : datetimeMax = 253402300799999999 := rfl
    have hlatency : (sampleObservation "first").spec.latencyP95Millis = 10 := rfl
    omega

theorem sampleSingle_least (hdata : .d1 ∈ dataClasses)
    (hexcluded : (sampleCandidate "first" dataClasses).candidateDigest ∉ excluded)
    (hzero : 0 ≤ now) (hnow : now ≤ 1000000) :
    ∃ rank, sampleRouter.Least sampleRequest (sampleRolePolicy .worker)
      [sampleCandidate "first" dataClasses] [sampleObservation "first"] now excluded
      (sampleCandidate "first" dataClasses) rank := by
  obtain ⟨e, heval⟩ := exists_candidateEvaluation.mpr
    ((sampleSingle_admissible hnow).arrives (sampleCandidate "first" dataClasses)
      (List.mem_cons_self ..))
  have ho : [sampleObservation "first"].find?
      (·.key = (sampleCandidate "first" dataClasses).key) =
        some (sampleObservation "first") := by
    simp [sampleCandidate, DeploymentCandidate.key, ObservedModelCapabilities.key,
      sampleObservation]
  have hp : sampleRouter.price (sampleCandidate "first" dataClasses).key =
      some ⟨"first", hexDigest '6', 0, 0, 10⟩ := by
    change sampleRouter.price ("first", hexDigest '6') = _
    decide
  have hsuitable : Suitable (sampleCandidate "first" dataClasses) sampleRequest.spec
      (sampleRolePolicy .worker) now excluded (sampleObservation "first")
      ⟨"first", hexDigest '6', 0, 0, 10⟩ :=
    { notExcluded := hexcluded
      enabled := rfl
      listed := List.mem_cons_self ..
      zone := ⟨List.mem_cons_self .., List.mem_cons_self ..⟩
      dataClass := ⟨List.mem_cons_self .., hdata⟩
      retention := ⟨List.mem_cons_self .., List.mem_cons_self ..⟩
      cloud := fun _ => rfl
      localProfile := fun _ => rfl
      fresh := ⟨hzero, lt_of_le_of_lt hnow (by decide)⟩
      capabilities := fun _ hx => absurd hx List.not_mem_nil
      context := by decide
      deadline := by
        change now + 10 * 1000 ≤ 60000000
        omega
      cost := by decide
      localCost := fun _ => by contradiction }
  refine ⟨_, List.mem_cons_self .., ⟨e, heval, (reasons_eq_nil_iff heval).mpr
    ⟨_, _, ho, hp, hsuitable⟩, rank_eq_of_suitable heval ho hp⟩, ?_⟩
  intro c' hc' e' heval' _
  rw [List.mem_singleton.mp hc'] at heval'
  rw [← Except.ok.inj (heval.symm.trans heval')]
  exact ⟨_, rank_eq_of_suitable heval ho hp, le_refl _⟩

theorem sampleSingle_routed :
    ∃ first c o p, sampleRouter.route sampleRequest [sampleCandidate "first" [.d1]]
        [sampleObservation "first"] (some 1000) "decision" "explain" = .ok first ∧
      c = sampleCandidate "first" [.d1] ∧ o = sampleObservation "first" ∧
      first.decision.spec = sampleRouter.decisionSpec sampleRequest
        ⟨"decision", "explain", 1, none⟩ .eligible (some (recordOf sampleRequest.spec c o p))
        (max (1000 + 1) (min (sampleRouter.baseValidUntil sampleRequest 1000)
          o.spec.validUntil.instant)) first.explain.recordDigest := by
  have hreturns : ∃ out, sampleRouter.route sampleRequest [sampleCandidate "first" [.d1]]
      [sampleObservation "first"] (some 1000) "decision" "explain" = .ok out :=
    (exists_routeWith sampleRequest_routable (Or.inl ⟨rfl, rfl⟩)).mpr
      ⟨⟨by decide, by decide⟩, 1000, _, rfl, sampleRouter_roleOf, by decide,
        fun _ => sampleSingle_admissible (by decide)⟩
  obtain ⟨first, hfirst⟩ := hreturns
  have hleast : ∃ rank, sampleRouter.Least sampleRequest (sampleRolePolicy .worker)
      [sampleCandidate "first" [.d1]] [sampleObservation "first"] 1000 []
      (sampleCandidate "first" [.d1]) rank :=
    sampleSingle_least (List.mem_cons_self ..) List.not_mem_nil (by decide) (by decide)
  obtain ⟨rank, hleast⟩ := hleast
  obtain ⟨current, role, hnow, hrole, hcases⟩ := routeWith_cases hfirst
  obtain rfl := Option.some.inj hnow
  obtain rfl := Except.ok.inj (sampleRouter_roleOf.symm.trans hrole)
  rcases hcases with ⟨_, hreason, -⟩ | ⟨-, hnone, -⟩ |
    ⟨-, c, o, p, _, hc, ho, -, hspec⟩
  · rw [sampleRouter_precondition] at hreason
    cases hreason
  · obtain ⟨e, heval, hnil, -⟩ := hleast.free
    exact absurd hnil (hnone _ hleast.mem e heval)
  · exact ⟨first, c, o, p, hfirst, List.mem_singleton.mp hc.mem,
      List.mem_singleton.mp (List.mem_of_find?_eq_some ho), hspec⟩

/-- **The failed deployment is selected again.**  Between the route and its fallback the
deployment admits one more class of data: its identity is the same, its digest is not. -/
theorem changed_deployment_reselected :
    ∃ first second, sampleRouter.route sampleRequest [sampleCandidate "first" [.d1]]
        [sampleObservation "first"] (some 1000) "decision" "explain" = .ok first ∧
      first.decision.spec.decision = .allowed ∧
      sampleRouter.fallback sampleRequest first.decision "capacity"
        [sampleCandidate "first" [.d0, .d1]] [sampleObservation "first"] (some 2000)
        "fallback" "fallback-explain" = .ok second ∧
      second.decision.spec.decision = .allowed ∧
      first.decision.spec.selected.map (·.deploymentId) = some "first" ∧
      second.decision.spec.selected.map (·.deploymentId) = some "first" := by
  obtain ⟨first, c, o, p, hfirst, rfl, rfl, hspec⟩ := sampleSingle_routed
  have hselected : first.decision.spec.selected.map (·.deploymentId) = some "first" := by
    rw [hspec]
    rfl
  have hfallback : sampleRouter.fallbackReason sampleRequest first.decision
      (sampleRolePolicy .worker) "capacity" [sampleCandidate "first" [.d0, .d1]] 2000 =
        none := by
    rw [ModelRouter.fallbackReason, ModelRouter.previousAuthorizes, hspec]
    rfl
  have hreselects : sampleRouter.Reselects sampleRequest first.decision "capacity"
      [sampleCandidate "first" [.d0, .d1]] [sampleObservation "first"] (some 2000)
      "fallback" "fallback-explain" := by
    refine ⟨sampleRequest_routable, valid_of_routeWith hfirst, by decide, by decide, 2000, _,
      rfl, sampleRouter_roleOf, by decide, hfallback, by decide,
      sampleSingle_admissible (by decide), ?_⟩
    rw [hspec]
    have hchanged : (sampleCandidate "first" [.d0, .d1]).candidateDigest ≠
        (sampleCandidate "first" [.d1]).candidateDigest := by decide
    have hleast : ∃ rank, sampleRouter.Least sampleRequest (sampleRolePolicy .worker)
        [sampleCandidate "first" [.d0, .d1]] [sampleObservation "first"] 2000
        [(sampleCandidate "first" [.d1]).candidateDigest]
        (sampleCandidate "first" [.d0, .d1]) rank :=
      sampleSingle_least (by decide) (fun h => hchanged (List.mem_singleton.mp h))
        (by decide) (by decide)
    obtain ⟨rank, hleast⟩ := hleast
    exact ⟨_, sampleCandidate "first" [.d0, .d1], rank, rfl, rfl, hchanged, hleast⟩
  obtain ⟨second, hsecond, hallowed, hsame⟩ := fallback_of_reselects hreselects
  refine ⟨first, second, hfirst, ?_, hsecond, hallowed, hselected, hsame.trans hselected⟩
  rw [hspec]
  rfl

end Changed

end Ecosystem.Routing
