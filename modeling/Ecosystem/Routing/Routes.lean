import Ecosystem.Routing.Sealing

/-!
# Routes over any candidates

When a route returns, and which candidate it selects.  `Admissible` lists what the
candidates and the observations have to satisfy behind the preconditions.
-/

namespace Ecosystem.Routing

open Ecosystem.Lib

variable {dig : RouterDigests}

/-! ## The selected record -/

def recordOf (spec : RequestSpec) (c : DeploymentCandidate dig)
    (o : ObservedModelCapabilities) (p : PriceEntry) : SelectedDeployment where
  deploymentId := c.deploymentId
  deploymentDigest := c.deploymentDigest
  deploymentIdentityDigest := c.identityDigest
  observedEvidenceDigest := o.recordDigest
  candidateDigest := c.candidateDigest
  reservedCostMicrousd := reservation p spec
  estimatedLatencyP95Millis := o.spec.latencyP95Millis
  aggregateReservation := spec.aggregateBudget.map fun b =>
    ⟨b.maximumCalls, b.inputTokenCeiling, b.outputTokenCeiling, reservation p spec⟩

section Record

variable {m : ModelRouter dig} {request : ModelRouteRequest} {c : DeploymentCandidate dig}
  {spec : RequestSpec} {role : RolePolicy} {observations : List ObservedModelCapabilities}
  {now : ℤ} {excluded : List String} {e : CandidateEvaluation dig}
  {o : ObservedModelCapabilities} {p : PriceEntry}

theorem selectedRecord_eq
    (h : m.candidateEvaluation c spec role observations now excluded = .ok e)
    (ho : observations.find? (·.key = c.key) = some o) (hp : m.price c.key = some p) :
    selectedRecord spec e = .ok (recordOf spec c o p) := by
  obtain ⟨_, -, rfl⟩ := candidateEvaluation_eq_ok.mp h
  simp only [selectedRecord, ho, hp, Option.map_some]
  rfl

theorem ObservedModelCapabilities.schemaOk_of_valid (h : o.valid dig = true) :
    matchesDigest o.recordDigest = true ∧ 1 ≤ o.spec.latencyP95Millis := by
  simp only [valid, Bool.and_eq_true, decide_eq_true_eq] at h
  exact ⟨Metadata.digest_of_schemaOk h.1.1.1.1.1.1.1.1.1.1.1.1.1.1, h.1.1.1.1.1.1.1.1.2⟩

theorem recordable_recordOf (hrequest : request.valid dig.toRecordDigests = true)
    (hrole : role.schemaOk = true) (ho : o.valid dig = true)
    (hlisted : c.deploymentId ∈ role.candidateIds) :
    Recordable request.spec (recordOf request.spec c o p) := by
  obtain ⟨hevidence, hlatency⟩ := ObservedModelCapabilities.schemaOk_of_valid ho
  refine ⟨?_, rfl⟩
  have hspec := (ModelRouteRequest.schemaOk_of_valid hrequest).2
  simp only [RequestSpec.schemaOk, Bool.and_eq_true] at hspec
  simp only [RolePolicy.schemaOk, Bool.and_eq_true] at hrole
  have hid : matchesId c.deploymentId = true :=
    List.all_eq_true.mp hrole.1.1.1.2 _ hlisted
  have hdigest : matchesDigest c.candidateDigest = true := by
    rw [c.candidate_eq]
    exact dig.candidate_hex ..
  have hreserved : (request.spec.aggregateBudget.map fun b => AggregateReservation.mk
      b.maximumCalls b.inputTokenCeiling b.outputTokenCeiling
        (reservation p request.spec)).all AggregateReservation.schemaOk = true := by
    rw [Option.all_map]
    exact hspec.2
  simp only [SelectedDeployment.schemaOk, recordOf, hid, c.deployment_hex, c.identity_hex,
    hevidence, hdigest, hlatency, hreserved, decide_true, Bool.and_self]

end Record

/-! ## When a call returns -/

/-- The limit of a decision before evidence is looked at. -/
def ModelRouter.baseValidUntil (m : ModelRouter dig) (request : ModelRouteRequest)
    (current : ℤ) : ℤ :=
  min (min (current + m.policy.spec.decisionTtlSeconds * 1000000)
    request.spec.deadlineAt.instant) m.priceCatalog.spec.validUntil.instant

section Returns

variable {m : ModelRouter dig} {request : ModelRouteRequest} {role : RolePolicy}
  {candidates : List (DeploymentCandidate dig)}
  {observations : List ObservedModelCapabilities} {current limit : ℤ} {call : RouteCall}
  {excluded : List String} {out : RoutingOutcome} {now : Option ℤ}

variable {reason : ReasonCode} {evaluations : List (CandidateEvaluation dig)}
  {selected : Option (CandidateEvaluation dig)}

theorem exists_outcome
    (hrequest : request.valid dig.toRecordDigests = true) (hcall : call.WellFormed)
    (hevaluations : ∀ e ∈ evaluations, e.WellFormed)
    (hselected : ∀ e, selected = some e → ∃ s, selectedRecord request.spec e = .ok s ∧
      Recordable request.spec s) (hreason : selected.isSome = true ↔ reason = .eligible)
    (hnow : current + 1 ≤ datetimeMax) :
    ∃ out, m.outcome request call current reason evaluations selected limit = .ok out := by
  obtain ⟨candidates, hcandidates, hschema, hsorted, hreasons⟩ :=
    explained_returns hevaluations
  have hexplain : ∃ explain, sealExplain dig ⟨call.explainId, timestamp dig current, none⟩
      (m.explainSpec request reason selected candidates) = .ok explain :=
    sealExplain_returns hrequest hcall.explainId hschema hsorted hreasons
  obtain ⟨explain, hexplain⟩ := hexplain
  have hhex : matchesDigest explain.recordDigest = true := by
    rw [(sealExplain_eq_ok.mp hexplain).2]
    exact dig.explain_hex ..
  have hrecord : ∃ record, selected.mapM (selectedRecord request.spec) = .ok record ∧
      (∀ s, record = some s → Recordable request.spec s) ∧
      (record.isSome = true ↔ reason = .eligible) := by
    cases selected with
    | none => exact ⟨none, optionMapM_eq_ok.mpr (Or.inl ⟨rfl, rfl⟩), by simp, hreason⟩
    | some e =>
      obtain ⟨s, hs, hrecordable⟩ := hselected e rfl
      refine ⟨some s, optionMapM_eq_ok.mpr (Or.inr ⟨e, s, rfl, hs, rfl⟩), ?_, hreason⟩
      rintro s' hs'
      rwa [← Option.some.inj hs']
  obtain ⟨record, hrecord, hrecordable, hreason⟩ := hrecord
  have hlater : current < max (current + 1) limit := by omega
  have hdecision : ∃ decision, sealDecision dig
      ⟨call.decisionId, timestamp dig current, none⟩
      (m.decisionSpec request call reason record (max (current + 1) limit)
        explain.recordDigest) = .ok decision :=
    sealDecision_returns hrequest hcall hrecordable hreason hlater hhex
  obtain ⟨decision, hdecision⟩ := hdecision
  exact ⟨⟨decision, explain⟩, outcome_eq_ok.mpr
    ⟨candidates, record, hcandidates, hexplain, hnow, hrecord, hdecision⟩⟩

/-- What the candidates and the observations of a call have to satisfy. -/
structure Admissible (candidates : List (DeploymentCandidate dig))
    (observations : List ObservedModelCapabilities) (current : ℤ) : Prop where
  ids : (candidates.map (·.deploymentId)).Nodup
  valid : ∀ o ∈ observations, o.valid dig = true
  bindings : (observations.map (·.key)).Nodup
  arrives : ∀ c ∈ candidates, Arrives observations current c

theorem select_eq_ok :
    m.select request role candidates observations current call excluded limit = .ok out ↔
      (candidates.map (·.deploymentId)).Nodup ∧ (∀ o ∈ observations, o.valid dig = true) ∧
        (observations.map (·.key)).Nodup ∧ ∃ evaluations selected,
        (candidates.mapM fun c => m.candidateEvaluation c request.spec role observations
          current excluded) = .ok evaluations ∧
        pick evaluations = .ok selected ∧
        m.outcome request call current
          (if selected.isSome then .eligible else .noEligibleCandidate) evaluations selected
          (((selected.bind (·.evidenceValidUntil)).map (min limit)).getD limit) = .ok out := by
  rw [ModelRouter.select, Checks.require_bind_eq_ok, decide_eq_true_eq]
  simp only [bind_eq_ok]
  refine and_congr_right fun _ => ?_
  constructor
  · rintro ⟨observed, hobserved, evaluations, heval, selected, hpick, hout⟩
    obtain ⟨rfl, hvalid, hkeys⟩ := observationMap_eq_ok hobserved
    exact ⟨hvalid, hkeys, evaluations, selected, heval, hpick, hout⟩
  · rintro ⟨hvalid, hkeys, evaluations, selected, heval, hpick, hout⟩
    refine ⟨observations, ?_, evaluations, heval, selected, hpick, hout⟩
    rw [observationMap_eq hkeys, if_pos (List.all_eq_true.mpr hvalid)]

theorem picked_suitable {e : CandidateEvaluation dig}
    (heval : (candidates.mapM fun c => m.candidateEvaluation c request.spec role
      observations current excluded) = .ok evaluations)
    (hpick : pick evaluations = .ok (some e)) :
    ∃ c ∈ candidates, ∃ o p,
      m.candidateEvaluation c request.spec role observations current excluded = .ok e ∧
      observations.find? (·.key = c.key) = some o ∧ m.price c.key = some p ∧
      Suitable c request.spec role current excluded o p := by
  obtain ⟨hmem, hnil, -⟩ := pick_eq_some hpick
  obtain ⟨c, hc, hce⟩ := (mem_of_mapM heval).mp hmem
  obtain ⟨o, p, ho, hp, hsuitable⟩ := (reasons_eq_nil_iff hce).mp hnil
  exact ⟨c, hc, o, p, hce, ho, hp, hsuitable⟩

theorem exists_select (hrequest : request.valid dig.toRecordDigests = true)
    (hrole : role.schemaOk = true) (hcall : call.WellFormed)
    (hnow : current + 1 ≤ datetimeMax) :
    (∃ out, m.select request role candidates observations current call excluded limit =
      .ok out) ↔ Admissible candidates observations current := by
  simp only [select_eq_ok]
  constructor
  · rintro ⟨out, hids, hvalid, hkeys, evaluations, selected, heval, -, -⟩
    refine ⟨hids, hvalid, hkeys, ?_⟩
    intro c hc
    exact exists_candidateEvaluation.mp (exists_mapM_eq_ok.mp ⟨_, heval⟩ c hc)
  · rintro ⟨hids, hvalid, hkeys, harrives⟩
    have heach : ∀ c ∈ candidates, ∃ e,
        m.candidateEvaluation c request.spec role observations current excluded = .ok e :=
      fun c hc => exists_candidateEvaluation.mpr (harrives c hc)
    obtain ⟨evaluations, heval⟩ := exists_mapM_eq_ok.mpr heach
    have hwell : ∀ e ∈ evaluations, e.WellFormed := by
      intro e he
      obtain ⟨c, -, hce⟩ := (mem_of_mapM heval).mp he
      exact wellFormed_of_evaluation hce
    obtain ⟨selected, hpick⟩ := exists_pick fun e he => (hwell e he).rank
    have hselected : ∀ e, selected = some e → ∃ s,
        selectedRecord request.spec e = .ok s ∧ Recordable request.spec s := by
      rintro e rfl
      obtain ⟨c, -, o, p, hce, ho, hp, hsuitable⟩ := picked_suitable heval hpick
      exact ⟨_, selectedRecord_eq hce ho hp, recordable_recordOf hrequest hrole
        (hvalid o (List.mem_of_find?_eq_some ho)) hsuitable.listed⟩
    have hreason : selected.isSome = true ↔
        (if selected.isSome then ReasonCode.eligible else .noEligibleCandidate) =
          .eligible := by
      cases selected <;> simp
    obtain ⟨out, hout⟩ := exists_outcome (m := m) hrequest hcall hwell hselected hreason hnow
    exact ⟨out, hids, hvalid, hkeys, evaluations, selected, heval, hpick, hout⟩

/-- **The parts of a route.** -/
theorem routeWith_eq_ok :
    m.routeWith request candidates observations now call excluded = .ok out ↔
      ∃ current role, now = some current ∧ request.valid dig.toRecordDigests = true ∧
        m.roleOf request.spec.role = .ok role ∧
        current + m.policy.spec.decisionTtlSeconds * 1000000 ≤ datetimeMax ∧
        ((∃ reason, m.preconditionReason request.spec role current = some reason ∧
            m.outcome request call current reason [] none
              (m.baseValidUntil request current) = .ok out) ∨
          (m.preconditionReason request.spec role current = none ∧
            m.select request role candidates observations current call excluded
              (m.baseValidUntil request current) = .ok out)) := by
  simp only [ModelRouter.routeWith, currentTime, checkRequest, Checks.expect_bind_eq_ok,
    Checks.require_bind_eq_ok]
  simp only [bind_eq_ok, addTime_eq_ok]
  constructor
  · rintro ⟨current, hnow, hrequest, role, hrole, _, ⟨httl, rfl⟩, h⟩
    refine ⟨current, role, hnow, hrequest, hrole, httl, ?_⟩
    cases hreason : m.preconditionReason request.spec role current with
    | some reason =>
      rw [hreason] at h
      exact Or.inl ⟨reason, rfl, h⟩
    | none =>
      rw [hreason] at h
      exact Or.inr ⟨rfl, h⟩
  · rintro ⟨current, role, hnow, hrequest, hrole, httl, h⟩
    refine ⟨current, hnow, hrequest, role, hrole, _, ⟨httl, rfl⟩, ?_⟩
    rcases h with ⟨reason, hreason, h⟩ | ⟨hreason, h⟩
    · rw [hreason]
      exact h
    · rw [hreason]
      exact h

theorem valid_of_outcome
    (h : m.outcome request call current reason evaluations selected limit = .ok out) :
    out.decision.valid dig.toRecordDigests = true := by
  obtain ⟨_, _, -, -, -, -, hdecision⟩ := outcome_eq_ok.mp h
  exact (sealDecision_eq_ok.mp hdecision).1

theorem valid_of_routeWith
    (h : m.routeWith request candidates observations now call excluded = .ok out) :
    out.decision.valid dig.toRecordDigests = true := by
  obtain ⟨_, _, -, -, -, -, ⟨_, -, hout⟩ | ⟨-, hout⟩⟩ := routeWith_eq_ok.mp h
  · exact valid_of_outcome hout
  · obtain ⟨-, -, -, _, _, -, -, hout⟩ := select_eq_ok.mp hout
    exact valid_of_outcome hout

theorem ids_of_outcome
    (h : m.outcome request call current reason evaluations selected limit = .ok out) :
    matchesId call.decisionId = true ∧ matchesId call.explainId = true := by
  obtain ⟨_, _, -, hexplain, -, -, hdecision⟩ := outcome_eq_ok.mp h
  obtain ⟨hvalid, heq⟩ := sealExplain_eq_ok.mp hexplain
  obtain ⟨hvalid', heq'⟩ := sealDecision_eq_ok.mp hdecision
  simp only [RoutingExplain.valid, Metadata.schemaOk, Bool.and_eq_true] at hvalid
  simp only [ModelRouteDecision.valid, Metadata.schemaOk, Bool.and_eq_true] at hvalid'
  have hexplainId : matchesId out.explain.metadata.id = true :=
    hvalid.1.1.1.1.1.1.1.1.1.1.1.1.1
  have hdecisionId : matchesId out.decision.metadata.id = true := hvalid'.1.1.1.1.1
  rw [heq] at hexplainId
  rw [heq'] at hdecisionId
  exact ⟨hdecisionId, hexplainId⟩

/-- What a call asks of its clock, its candidates and its observations. -/
def ModelRouter.Serviceable (m : ModelRouter dig) (request : ModelRouteRequest)
    (candidates : List (DeploymentCandidate dig))
    (observations : List ObservedModelCapabilities) (now : Option ℤ) : Prop :=
  ∃ current role, now = some current ∧ m.roleOf request.spec.role = .ok role ∧
    current + m.policy.spec.decisionTtlSeconds * 1000000 ≤ datetimeMax ∧
    (m.preconditionReason request.spec role current = none →
      Admissible candidates observations current)

/-- **When a route returns.** -/
theorem exists_routeWith (hrequest : request.valid dig.toRecordDigests = true)
    (hattempt : (call.routeAttempt = 1 ∧ call.fallbackFrom = none) ∨
      (call.routeAttempt = 2 ∧
        ∃ d, call.fallbackFrom = some d ∧ matchesDigest d = true)) :
    (∃ out, m.routeWith request candidates observations now call excluded = .ok out) ↔
      (matchesId call.decisionId = true ∧ matchesId call.explainId = true) ∧
        m.Serviceable request candidates observations now := by
  have httl := m.one_le_ttl
  have hids : ∀ out, m.routeWith request candidates observations now call excluded =
      .ok out → matchesId call.decisionId = true ∧ matchesId call.explainId = true := by
    intro out h
    obtain ⟨_, _, -, -, -, -, ⟨_, -, hout⟩ | ⟨-, hout⟩⟩ := routeWith_eq_ok.mp h
    · exact ids_of_outcome hout
    · obtain ⟨-, -, -, _, _, -, -, hout⟩ := select_eq_ok.mp hout
      exact ids_of_outcome hout
  constructor
  · rintro ⟨out, h⟩
    have hcall : call.WellFormed := ⟨(hids out h).1, (hids out h).2, hattempt⟩
    refine ⟨hids out h, ?_⟩
    obtain ⟨current, role, hnow, -, hrole, hmax, hcases⟩ := routeWith_eq_ok.mp h
    refine ⟨current, role, hnow, hrole, hmax, ?_⟩
    rcases hcases with ⟨reason, hreason, -⟩ | ⟨-, hout⟩
    · intro hnone
      rw [hreason] at hnone
      cases hnone
    · intro _
      exact (exists_select hrequest (ModelRouter.roleOf_schemaOk hrole).2.2 hcall
        (by omega)).mp ⟨out, hout⟩
  · rintro ⟨hid, current, role, hnow, hrole, hmax, hadmissible⟩
    have hcall : call.WellFormed := ⟨hid.1, hid.2, hattempt⟩
    have hone : current + 1 ≤ datetimeMax := by omega
    cases hreason : m.preconditionReason request.spec role current with
    | some reason =>
      have hdenied : (none : Option (CandidateEvaluation dig)).isSome = true ↔
          reason = .eligible := by
        refine ⟨fun h => absurd h Bool.false_ne_true, fun h => ?_⟩
        rw [h, ModelRouter.preconditionReason] at hreason
        split at hreason
        · cases hreason
        split at hreason
        · cases hreason
        split at hreason <;> cases hreason
      have hout : ∃ out, m.outcome request call current reason [] none
          (m.baseValidUntil request current) = .ok out :=
        exists_outcome hrequest hcall (fun _ h => absurd h List.not_mem_nil)
          (fun _ h => (nomatch h)) hdenied hone
      obtain ⟨out, hout⟩ := hout
      exact ⟨out, routeWith_eq_ok.mpr ⟨current, role, hnow, hrequest, hrole, hmax,
        Or.inl ⟨reason, hreason, hout⟩⟩⟩
    | none =>
      have hout : ∃ out, m.select request role candidates observations current call
          excluded (m.baseValidUntil request current) = .ok out :=
        (exists_select hrequest (ModelRouter.roleOf_schemaOk hrole).2.2 hcall hone).mpr
          (hadmissible hreason)
      obtain ⟨out, hout⟩ := hout
      exact ⟨out, routeWith_eq_ok.mpr ⟨current, role, hnow, hrequest, hrole, hmax,
        Or.inr ⟨hreason, hout⟩⟩⟩

end Returns

/-! ## What is selected -/

section Selected

variable {m : ModelRouter dig} {request : ModelRouteRequest} {role : RolePolicy}
  {candidates : List (DeploymentCandidate dig)}
  {observations : List ObservedModelCapabilities} {current limit : ℤ} {call : RouteCall}
  {excluded : List String} {out : RoutingOutcome}

/-- No candidate is free of rejection reasons. -/
def ModelRouter.NoneEligible (m : ModelRouter dig) (request : ModelRouteRequest)
    (role : RolePolicy) (candidates : List (DeploymentCandidate dig))
    (observations : List ObservedModelCapabilities) (current : ℤ)
    (excluded : List String) : Prop :=
  ∀ c ∈ candidates, ∀ e,
    m.candidateEvaluation c request.spec role observations current excluded = .ok e →
      e.reasons ≠ []

/-- The candidate has no rejection reason, and no candidate without one ranks before it. -/
structure ModelRouter.Least (m : ModelRouter dig) (request : ModelRouteRequest)
    (role : RolePolicy) (candidates : List (DeploymentCandidate dig))
    (observations : List ObservedModelCapabilities) (current : ℤ)
    (excluded : List String) (c : DeploymentCandidate dig) (rank : Rank) : Prop where
  mem : c ∈ candidates
  free : ∃ e, m.candidateEvaluation c request.spec role observations current excluded =
    .ok e ∧ e.reasons = [] ∧ e.rank = .ok rank
  least : ∀ c' ∈ candidates, ∀ e',
    m.candidateEvaluation c' request.spec role observations current excluded = .ok e' →
      e'.reasons = [] → ∃ rank', e'.rank = .ok rank' ∧ rank ≤ rank'

/-- **What the selection decides.** -/
theorem select_cases
    (h : m.select request role candidates observations current call excluded limit =
      .ok out) :
    (m.NoneEligible request role candidates observations current excluded ∧
      out.decision.spec = m.decisionSpec request call .noEligibleCandidate none
        (max (current + 1) limit) out.explain.recordDigest) ∨
    ∃ c o p rank, m.Least request role candidates observations current excluded c rank ∧
      observations.find? (·.key = c.key) = some o ∧
      Suitable c request.spec role current excluded o p ∧
      out.decision.spec = m.decisionSpec request call .eligible
        (some (recordOf request.spec c o p))
        (max (current + 1) (min limit o.spec.validUntil.instant))
        out.explain.recordDigest := by
  obtain ⟨-, -, -, evaluations, selected, heval, hpick, hout⟩ := select_eq_ok.mp h
  obtain ⟨_, record, -, -, -, hrecord, hdecision⟩ := outcome_eq_ok.mp hout
  obtain ⟨-, hspec⟩ := sealDecision_eq_ok.mp hdecision
  have hranks : ∀ c ∈ candidates, ∀ e, m.candidateEvaluation c request.spec role
      observations current excluded = .ok e → e.reasons = [] →
        e ∈ evaluations ∧ ∃ rank, e.rank = .ok rank :=
    fun c hc e hce hnil =>
      ⟨(mem_of_mapM heval).mpr ⟨c, hc, hce⟩, (wellFormed_of_evaluation hce).rank hnil⟩
  cases selected with
  | none =>
    refine Or.inl ⟨?_, ?_⟩
    · intro c hc e hce hnil
      obtain ⟨hmem, rank, hrank⟩ := hranks c hc e hce hnil
      exact pick_eq_none hpick e hmem hnil rank hrank
    · rcases optionMapM_eq_ok.mp hrecord with ⟨-, rfl⟩ | ⟨_, _, hsome, -⟩
      · rw [hspec]
        rfl
      · cases hsome
  | some e =>
    refine Or.inr ?_
    obtain ⟨c, hc, o, p, hce, ho, hp, hsuitable⟩ := picked_suitable heval hpick
    obtain ⟨-, hnil, rank, hrank, hle⟩ := pick_eq_some hpick
    refine ⟨c, o, p, rank, ⟨hc, ⟨e, hce, hnil, hrank⟩, ?_⟩, ho, hsuitable, ?_⟩
    · intro c' hc' e' hce' hnil'
      obtain ⟨hmem', rank', hrank'⟩ := hranks c' hc' e' hce' hnil'
      exact ⟨rank', hrank', hle e' hmem' hnil' rank' hrank'⟩
    · have hexpiry : e.evidenceValidUntil = some o.spec.validUntil.instant := by
        obtain ⟨_, -, rfl⟩ := candidateEvaluation_eq_ok.mp hce
        rw [ho]
        rfl
      rcases optionMapM_eq_ok.mp hrecord with ⟨hnone, -⟩ | ⟨e', s, he', hs, rfl⟩
      · cases hnone
      · obtain rfl := Option.some.inj he'
        rw [selectedRecord_eq hce ho hp] at hs
        obtain rfl := Except.ok.inj hs
        rw [hspec, Option.bind_some, hexpiry]
        rfl

end Selected

end Ecosystem.Routing
