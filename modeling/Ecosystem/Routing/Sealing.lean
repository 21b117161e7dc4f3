import Ecosystem.Routing.Selection

/-!
# What a route returns

`outcome` seals two records and validates both.  For a valid request and a well-formed
call the validation never fails: `Serviceable` lists what else a route needs to return.
-/

namespace Ecosystem.Routing

open Ecosystem.Lib

variable {dig : RouterDigests}

/-! ## What validation gives -/

variable {metadata : Metadata}

theorem Metadata.digest_of_schemaOk {recordDigest : String}
    (h : metadata.schemaOk recordDigest = true) : matchesDigest recordDigest = true := by
  simp only [Metadata.schemaOk, Bool.and_eq_true] at h
  exact h.2

theorem ModelRouteRequest.schemaOk_of_valid {digests : RecordDigests} {r : ModelRouteRequest}
    (h : r.valid digests = true) :
    matchesDigest r.recordDigest = true ∧ r.spec.schemaOk = true := by
  simp only [valid, Bool.and_eq_true] at h
  exact ⟨Metadata.digest_of_schemaOk h.1.1, h.1.2⟩

theorem ModelRouteRequest.plan_of_valid {digests : RecordDigests} {r : ModelRouteRequest}
    (h : r.valid digests = true) :
    r.spec.executionPlanDigest.isNone = r.spec.aggregateBudget.isNone := by
  simp only [valid, Bool.and_eq_true, semanticErrors, fieldErrors_isEmpty,
    List.forall_mem_cons, decide_eq_true_eq] at h
  exact h.2.2.2.2.2.2.1

namespace ModelRouter

variable (m : ModelRouter dig)

theorem matchesDigest_policyDigest : matchesDigest m.policyDigest = true := by
  have h := m.policy_valid
  simp only [ModelRoutingPolicy.valid, Bool.and_eq_true] at h
  exact Metadata.digest_of_schemaOk h.1.1.1.1.1.1.1

theorem matchesDigest_priceCatalogDigest : matchesDigest m.priceCatalogDigest = true := by
  have h := m.prices_valid
  simp only [TrustedPriceCatalog.valid, Bool.and_eq_true] at h
  exact Metadata.digest_of_schemaOk h.1.1.1.1.1.1.1.1.1.1

theorem one_le_ttl : 1 ≤ m.policy.spec.decisionTtlSeconds := by
  have h := m.policy_valid
  simp only [ModelRoutingPolicy.valid, Bool.and_eq_true, decide_eq_true_eq] at h
  exact h.1.1.1.1.1.2

variable {m}

theorem exists_roleOf (r : ModelRole) :
    ∃ role, m.roleOf r = .ok role ∧ role ∈ m.policy.spec.roles ∧ role.role = r ∧
      role.schemaOk = true := by
  have h := m.policy_valid
  simp only [ModelRoutingPolicy.valid, Bool.and_eq_true, decide_eq_true_eq] at h
  have hroles : r ∈ m.policy.spec.roles.map (·.role) := by
    rw [h.1.2]
    cases r <;> decide
  obtain ⟨role, hmem, hrole⟩ := List.mem_map.mp hroles
  cases hfind : m.policy.spec.roles.find? (·.role = r) with
  | none =>
    have hne := List.find?_eq_none.mp hfind role hmem
    exact absurd hrole (by simpa using hne)
  | some found =>
    have hfound := List.mem_of_find?_eq_some hfind
    refine ⟨found, by rw [roleOf, hfind]; rfl, hfound, ?_, ?_⟩
    · simpa using List.find?_some hfind
    · exact List.all_eq_true.mp h.1.1.1.2 found hfound

theorem roleOf_schemaOk {r : ModelRole} {role : RolePolicy} (h : m.roleOf r = .ok role) :
    role ∈ m.policy.spec.roles ∧ role.role = r ∧ role.schemaOk = true := by
  obtain ⟨role', hrole', hspec⟩ := exists_roleOf (m := m) r
  obtain rfl : role = role' := Except.ok.inj (h.symm.trans hrole')
  exact hspec

end ModelRouter

/-! ## Sealed records -/

/-- The ids of a call pass the schema, and a second attempt names its predecessor. -/
structure RouteCall.WellFormed (call : RouteCall) : Prop where
  decisionId : matchesId call.decisionId = true
  explainId : matchesId call.explainId = true
  attempt : (call.routeAttempt = 1 ∧ call.fallbackFrom = none) ∨
    (call.routeAttempt = 2 ∧ ∃ d, call.fallbackFrom = some d ∧ matchesDigest d = true)

theorem Metadata.schemaOk_timestamp {id recordDigest : String} (now : ℤ)
    (hid : matchesId id = true) (hdigest : matchesDigest recordDigest = true) :
    (Metadata.mk id (timestamp dig now) none).schemaOk recordDigest = true := by
  simp [Metadata.schemaOk, hid, hdigest, Timestamp.schemaOk, timestamp, dig.timeText_zulu now]

theorem sealExplain_eq_ok {spec : ExplainSpec} {explain : RoutingExplain} :
    sealExplain dig metadata spec = .ok explain ↔
      explain.valid dig = true ∧ explain = ⟨metadata, dig.explain metadata spec, spec⟩ := by
  rw [sealExplain, Checks.require_bind_eq_ok]
  constructor
  · rintro ⟨hvalid, hok⟩
    obtain rfl := Except.ok.inj hok
    exact ⟨hvalid, rfl⟩
  · rintro ⟨hvalid, rfl⟩
    exact ⟨hvalid, rfl⟩

theorem sealDecision_eq_ok {spec : DecisionSpec} {decision : ModelRouteDecision} :
    sealDecision dig metadata spec = .ok decision ↔
      decision.valid dig.toRecordDigests = true ∧
        decision = ⟨metadata, dig.decision metadata spec, spec⟩ := by
  rw [sealDecision, Checks.require_bind_eq_ok]
  constructor
  · rintro ⟨hvalid, hok⟩
    obtain rfl := Except.ok.inj hok
    exact ⟨hvalid, rfl⟩
  · rintro ⟨hvalid, rfl⟩
    exact ⟨hvalid, rfl⟩

/-! ## The explanation -/

section Explain

variable {e : CandidateEvaluation dig}

/-- The reasons of an evaluation are a sorted set, and an eligible one has a rank. -/
structure CandidateEvaluation.WellFormed (e : CandidateEvaluation dig) : Prop where
  nodup : e.reasons.Nodup
  sorted : sortedTexts (e.reasons.map Rejection.text) = true
  rank : e.reasons = [] → ∃ rank, e.rank = .ok rank

theorem wellFormed_of_evaluation {m : ModelRouter dig} {c : DeploymentCandidate dig}
    {spec : RequestSpec} {role : RolePolicy} {observations : List ObservedModelCapabilities}
    {now : ℤ} {excluded : List String}
    (h : m.candidateEvaluation c spec role observations now excluded = .ok e) :
    e.WellFormed := by
  have hreasons : ∃ findings, e.reasons = sortedReasons findings := by
    obtain ⟨_, -, rfl⟩ := candidateEvaluation_eq_ok.mp h
    exact ⟨_, rfl⟩
  obtain ⟨findings, hfindings⟩ := hreasons
  refine ⟨?_, ?_, ?_⟩
  · rw [hfindings]
    exact nodup_sortedReasons _
  · rw [hfindings]
    exact sortedTexts_sortedReasons _
  · intro hnil
    obtain ⟨o, p, ho, hp, -⟩ := (reasons_eq_nil_iff h).mp hnil
    exact ⟨_, rank_eq_of_suitable h ho hp⟩

theorem rankDigest_schemaOk (h : e.WellFormed) :
    ∃ digest, rankDigest e = .ok digest ∧ digest.all matchesDigest = true := by
  rw [rankDigest]
  by_cases helig : e.eligible = true
  · obtain ⟨rank, hrank⟩ := h.rank (eligible_iff.mp helig)
    rw [if_pos helig, hrank]
    exact ⟨some (dig.rank rank), rfl, dig.rank_hex rank⟩
  · rw [if_neg helig]
    exact ⟨none, rfl, rfl⟩

structure Explains (e : CandidateEvaluation dig) (c : ExplainCandidate) : Prop where
  digest : c.candidateDigest = e.candidate.candidateDigest
  reasons : c.reasonCodes = e.reasons
  schema : c.schemaOk = true

theorem explainCandidate_returns (h : e.WellFormed) :
    ∃ c, explainCandidate e = .ok c ∧ Explains e c := by
  obtain ⟨digest, hdigest, hschema⟩ := rankDigest_schemaOk h
  refine ⟨_, bind_eq_ok.mpr ⟨digest, hdigest, rfl⟩, rfl, rfl, ?_⟩
  have hhex : matchesDigest e.candidate.candidateDigest = true := by
    rw [e.candidate.candidate_eq]
    exact dig.candidate_hex ..
  simp only [ExplainCandidate.schemaOk, hhex, h.nodup, hschema, decide_true, Bool.and_self]

theorem digests_of_explains {evaluations : List (CandidateEvaluation dig)}
    {candidates : List ExplainCandidate} (h : List.Forall₂ Explains evaluations candidates) :
    candidates.map (·.candidateDigest) = evaluations.map (·.candidate.candidateDigest) := by
  induction h with
  | nil => rfl
  | cons hc _ ih => rw [List.map_cons, List.map_cons, hc.digest, ih]

theorem explained_returns {evaluations : List (CandidateEvaluation dig)}
    (h : ∀ e ∈ evaluations, e.WellFormed) :
    ∃ candidates, (sortOn (·.candidate.candidateDigest) evaluations).mapM
        explainCandidate = .ok candidates ∧ (∀ c ∈ candidates, c.schemaOk = true) ∧
      sortedTexts (candidates.map (·.candidateDigest)) = true ∧
      ∀ c ∈ candidates, sortedTexts (c.reasonCodes.map Rejection.text) = true := by
  have heach : ∀ e ∈ sortOn (·.candidate.candidateDigest) evaluations,
      ∃ c, explainCandidate e = .ok c ∧ Explains e c :=
    fun e he => explainCandidate_returns (h e (mem_sortOn.mp he))
  obtain ⟨candidates, hcandidates, hexplains⟩ := exists_mapM_forall₂ heach
  refine ⟨candidates, hcandidates, ?_, ?_, ?_⟩
  · exact forall_mem_of_forall₂ hexplains fun _ _ _ hc => hc.schema
  · rw [digests_of_explains hexplains, sortedTexts, decide_eq_true_eq]
    exact pairwise_map_sortOn _ _
  · refine forall_mem_of_forall₂ hexplains fun e he c hc => ?_
    rw [hc.reasons]
    exact (h e (mem_sortOn.mp he)).sorted

end Explain

/-! ## The decision -/

def ModelRouter.decisionSpec (m : ModelRouter dig) (request : ModelRouteRequest)
    (call : RouteCall) (reason : ReasonCode) (selected : Option SelectedDeployment)
    (validUntil : ℤ) (explainDigest : String) : DecisionSpec where
  requestDigest := request.recordDigest
  policyDigest := m.policyDigest
  priceCatalogDigest := m.priceCatalogDigest
  decision := if selected.isSome then .allowed else .denied
  reasonCode := reason
  routeAttempt := call.routeAttempt
  selected := selected
  validUntil := timestamp dig validUntil
  fallbackFromDigest := call.fallbackFrom
  explainDigest := explainDigest
  executionPlanDigest := request.spec.executionPlanDigest

structure Recordable (spec : RequestSpec) (s : SelectedDeployment) : Prop where
  schema : s.schemaOk = true
  reservation : s.aggregateReservation = spec.aggregateBudget.map fun b =>
    ⟨b.maximumCalls, b.inputTokenCeiling, b.outputTokenCeiling, s.reservedCostMicrousd⟩

section Decision

variable {m : ModelRouter dig} {request : ModelRouteRequest} {call : RouteCall}
  {reason : ReasonCode} {selected : Option SelectedDeployment} {now until_ : ℤ}
  {explainDigest : String}

theorem decisionSpec_schemaOk (hrequest : request.valid dig.toRecordDigests = true)
    (hcall : call.WellFormed) (hselected : ∀ s, selected = some s → Recordable request.spec s)
    (hexplain : matchesDigest explainDigest = true) :
    (m.decisionSpec request call reason selected until_ explainDigest).schemaOk = true := by
  obtain ⟨hdigest, hspec⟩ := ModelRouteRequest.schemaOk_of_valid hrequest
  simp only [RequestSpec.schemaOk, Bool.and_eq_true] at hspec
  have hplan : request.spec.executionPlanDigest.all matchesDigest = true := hspec.1.2
  have hsel : selected.all SelectedDeployment.schemaOk = true := by
    rw [Option.all_eq_true]
    exact fun s hs => (hselected s hs).schema
  have hattempt : 1 ≤ call.routeAttempt ∧ call.routeAttempt ≤ 2 ∧
      call.fallbackFrom.all matchesDigest = true := by
    rcases hcall.attempt with ⟨h1, hnone⟩ | ⟨h2, d, hd, hmatch⟩
    · rw [h1, hnone]
      exact ⟨le_refl 1, by decide, rfl⟩
    · rw [h2, hd]
      exact ⟨by decide, le_refl 2, hmatch⟩
  simp only [DecisionSpec.schemaOk, ModelRouter.decisionSpec, hdigest,
    m.matchesDigest_policyDigest, m.matchesDigest_priceCatalogDigest, hattempt.1,
    hattempt.2.1, hattempt.2.2, hsel, hexplain, hplan, Timestamp.schemaOk, timestamp,
    dig.timeText_zulu, decide_true, Bool.and_self]

theorem reservationFits_decisionSpec (hrequest : request.valid dig.toRecordDigests = true)
    (hselected : ∀ s, selected = some s → Recordable request.spec s) :
    (m.decisionSpec request call reason selected until_ explainDigest).reservationFits =
      true := by
  have hplan := ModelRouteRequest.plan_of_valid hrequest
  cases selected with
  | none =>
    rw [DecisionSpec.reservationFits]
    cases hp : request.spec.executionPlanDigest with
    | none | some d => simp [ModelRouter.decisionSpec, hp]
  | some s =>
    have hs := (hselected s rfl).reservation
    rw [DecisionSpec.reservationFits]
    cases hp : request.spec.executionPlanDigest with
    | none =>
      have hnone : request.spec.aggregateBudget = none := by
        rw [hp] at hplan
        exact Option.isNone_iff_eq_none.mp hplan.symm
      simp [ModelRouter.decisionSpec, hp, hs, hnone]
    | some d =>
      cases hb : request.spec.aggregateBudget with
      | none =>
        rw [hp, hb] at hplan
        cases hplan
      | some b => simp [ModelRouter.decisionSpec, hp, hs, hb]

theorem sealDecision_returns (hrequest : request.valid dig.toRecordDigests = true)
    (hcall : call.WellFormed) (hselected : ∀ s, selected = some s → Recordable request.spec s)
    (hreason : selected.isSome = true ↔ reason = .eligible) (hlater : now < until_)
    (hexplain : matchesDigest explainDigest = true) :
    ∃ decision, sealDecision dig ⟨call.decisionId, timestamp dig now, none⟩
      (m.decisionSpec request call reason selected until_ explainDigest) = .ok decision := by
  refine ⟨_, sealDecision_eq_ok.mpr ⟨?_, rfl⟩⟩
  have hmetadata : ∀ digest, matchesDigest digest = true →
      (Metadata.mk call.decisionId (timestamp dig now) none).schemaOk digest = true :=
    fun _ => Metadata.schemaOk_timestamp now hcall.decisionId
  have heffect : ((m.decisionSpec request call reason selected until_
      explainDigest).decision = .allowed) = (selected.isSome = true) := by
    cases selected <;> simp [ModelRouter.decisionSpec]
  have hattempt : (call.routeAttempt = 1) = (call.fallbackFrom.isNone = true) := by
    rcases hcall.attempt with ⟨h1, hnone⟩ | ⟨h2, d, hd, -⟩
    · rw [h1, hnone]
      simp
    · rw [h2, hd]
      simp
  have hcost : (selected.all fun s => s.aggregateReservation.all fun r =>
      r.reservedCostMicrousd = s.reservedCostMicrousd) = true := by
    rw [Option.all_eq_true]
    intro s hs
    rw [(hselected s hs).reservation]
    cases request.spec.aggregateBudget <;> simp
  rw [ModelRouteDecision.valid, Bool.and_eq_true, Bool.and_eq_true]
  refine ⟨⟨hmetadata _ (dig.decision_hex ..),
    decisionSpec_schemaOk hrequest hcall hselected hexplain⟩, ?_⟩
  rw [ModelRouteDecision.semanticErrors, fieldErrors_isEmpty]
  simp only [List.forall_mem_cons, decide_eq_true_eq, heffect]
  refine ⟨trivial, rfl, propext hreason, hlater, hattempt,
    reservationFits_decisionSpec hrequest hselected, hcost, ?_⟩
  exact fun _ h => absurd h List.not_mem_nil

end Decision

/-! ## The outcome -/

section Outcome

variable {m : ModelRouter dig} {request : ModelRouteRequest} {call : RouteCall}
  {reason : ReasonCode} {evaluations : List (CandidateEvaluation dig)}
  {selected : Option (CandidateEvaluation dig)} {now limit : ℤ} {out : RoutingOutcome}

def ModelRouter.explainSpec (m : ModelRouter dig) (request : ModelRouteRequest)
    (reason : ReasonCode) (selected : Option (CandidateEvaluation dig))
    (candidates : List ExplainCandidate) : ExplainSpec where
  requestDigest := request.recordDigest
  policyDigest := m.policyDigest
  priceCatalogDigest := m.priceCatalogDigest
  decision := if selected.isSome then .allowed else .denied
  reasonCode := reason
  selectedCandidateDigest := selected.map (·.candidate.candidateDigest)
  executionPlanDigest := request.spec.executionPlanDigest
  candidates := candidates

theorem sealExplain_returns (hrequest : request.valid dig.toRecordDigests = true)
    (hid : matchesId call.explainId = true) {candidates : List ExplainCandidate}
    (hschema : ∀ c ∈ candidates, c.schemaOk = true)
    (hsorted : sortedTexts (candidates.map (·.candidateDigest)) = true)
    (hreasons : ∀ c ∈ candidates, sortedTexts (c.reasonCodes.map Rejection.text) = true) :
    ∃ explain, sealExplain dig ⟨call.explainId, timestamp dig now, none⟩
      (m.explainSpec request reason selected candidates) = .ok explain := by
  refine ⟨_, sealExplain_eq_ok.mpr ⟨?_, rfl⟩⟩
  obtain ⟨hdigest, hspec⟩ := ModelRouteRequest.schemaOk_of_valid hrequest
  simp only [RequestSpec.schemaOk, Bool.and_eq_true] at hspec
  have hplan : request.spec.executionPlanDigest.all matchesDigest = true := hspec.1.2
  have hmetadata : ∀ digest, matchesDigest digest = true →
      (Metadata.mk call.explainId (timestamp dig now) none).schemaOk digest = true :=
    fun _ => Metadata.schemaOk_timestamp now hid
  have hselected : (selected.map (·.candidate.candidateDigest)).all matchesDigest = true := by
    rw [Option.all_eq_true]
    intro digest hd
    obtain ⟨e, -, rfl⟩ := Option.map_eq_some_iff.mp hd
    rw [e.candidate.candidate_eq]
    exact dig.candidate_hex ..
  have heffect : ((m.explainSpec request reason selected candidates).decision = .allowed) =
      ((m.explainSpec request reason selected
        candidates).selectedCandidateDigest.isSome = true) := by
    cases selected <;> simp [ModelRouter.explainSpec]
  simp only [RoutingExplain.valid, hmetadata _ (dig.explain_hex ..), heffect, decide_true,
    Bool.and_true, Bool.true_and, Bool.and_eq_true]
  simp only [ModelRouter.explainSpec, List.all_eq_true]
  exact ⟨⟨⟨⟨⟨⟨⟨hdigest, m.matchesDigest_policyDigest⟩, m.matchesDigest_priceCatalogDigest⟩,
    hselected⟩, hplan⟩, hschema⟩, hsorted⟩, hreasons⟩

/-- **The parts of an outcome.** -/
theorem outcome_eq_ok :
    m.outcome request call now reason evaluations selected limit = .ok out ↔
      ∃ candidates record, (sortOn (·.candidate.candidateDigest) evaluations).mapM
          explainCandidate = .ok candidates ∧
        sealExplain dig ⟨call.explainId, timestamp dig now, none⟩
          (m.explainSpec request reason selected candidates) = .ok out.explain ∧
        now + 1 ≤ datetimeMax ∧ selected.mapM (selectedRecord request.spec) = .ok record ∧
        sealDecision dig ⟨call.decisionId, timestamp dig now, none⟩
          (m.decisionSpec request call reason record (max (now + 1) limit)
            out.explain.recordDigest) = .ok out.decision := by
  obtain ⟨decision, explain⟩ := out
  have heffect : ∀ record, selected.mapM (selectedRecord request.spec) = .ok record →
      selected.isSome = record.isSome := by
    intro record h
    rcases optionMapM_eq_ok.mp h with ⟨rfl, rfl⟩ | ⟨e, s, rfl, -, rfl⟩
    · rfl
    · rfl
  rw [ModelRouter.outcome, bind_eq_ok]
  simp only [bind_eq_ok, addTime_eq_ok]
  constructor
  · rintro ⟨candidates, hcandidates, explain', hexplain, _, ⟨hnow, rfl⟩, record, hrecord,
      decision', hdecision, hout⟩
    obtain ⟨rfl, rfl⟩ := RoutingOutcome.mk.inj (Except.ok.inj hout)
    rw [heffect record hrecord] at hdecision
    exact ⟨candidates, record, hcandidates, hexplain, hnow, hrecord, hdecision⟩
  · rintro ⟨candidates, record, hcandidates, hexplain, hnow, hrecord, hdecision⟩
    refine ⟨candidates, hcandidates, explain, hexplain, _, ⟨hnow, rfl⟩, record, hrecord,
      decision, ?_, rfl⟩
    rw [heffect record hrecord]
    exact hdecision

end Outcome

end Ecosystem.Routing
