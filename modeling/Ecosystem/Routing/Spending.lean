import Ecosystem.Lib.HashChain
import Ecosystem.Routing.Usage

/-!
# What a route may spend

Any number of processes, each with its own key, consume routes in one journal and reserve
effects in the other.  `Accounted` joins the two: every reserved effect belongs to a
consumed decision whose row names its consumer, and the sum of that consumer, at the time
of the effect, fit the decision.
-/

namespace Ecosystem.Routing

open Ecosystem.Lib

/-! ## The system -/

structure RoutePrimitives where
  digests : RouteDigests
  consumption : ConsumptionPrimitives
  usage : UsagePrimitives

structure RouteSystem where
  consumption : ConsumptionJournal
  usage : UsageJournal

inductive RouteAction
  | consume (key : JournalKey) (e : RouteExpectation) (now : Clock)
      (decision : ModelRouteDecision) (request : ModelRouteRequest)
      (consumer : BoundConsumer)
  | consumeExact (key : JournalKey) (e : RouteExpectation) (now : Clock)
      (decision : ModelRouteDecision) (request : ModelRouteRequest)
      (consumer : Consumer)
  | reserve (key : JournalKey) (call : ReserveCall)
  /-- a call that the database refuses or the process does not survive -/
  | interrupted

section System

variable (prim : RoutePrimitives)

def RouteSystem.consume (sys : RouteSystem) (key : JournalKey)
    (e : RouteExpectation) (now : Clock) (decision : ModelRouteDecision)
    (request : ModelRouteRequest) (consumer : BoundConsumer) :
    Except RoutingError (ConsumeResult × ConsumptionJournal) :=
  Routing.consume prim.consumption prim.digests key sys.consumption e now
    decision request consumer

def RouteSystem.consumeExact (sys : RouteSystem) (key : JournalKey)
    (e : RouteExpectation) (now : Clock) (decision : ModelRouteDecision)
    (request : ModelRouteRequest) (consumer : Consumer) :
    Except RoutingError (ConsumeResult × ConsumptionJournal) :=
  Routing.consumeExact prim.consumption prim.digests key sys.consumption e now
    decision request consumer

def RouteSystem.reserve (sys : RouteSystem) (key : JournalKey)
    (call : ReserveCall) : Except RoutingError (ReserveResult × UsageJournal) :=
  Routing.reserve prim.usage prim.digests key sys.usage call

/-- A call that raises leaves both journals as they were. -/
def RouteSystem.leaveConsumption (sys : RouteSystem) :
    Except RoutingError (ConsumeResult × ConsumptionJournal) → RouteSystem
  | .ok (_, journal) => { sys with consumption := journal }
  | .error _ => sys

def RouteSystem.leaveUsage (sys : RouteSystem) :
    Except RoutingError (ReserveResult × UsageJournal) → RouteSystem
  | .ok (_, journal) => { sys with usage := journal }
  | .error _ => sys

def RouteSystem.step (sys : RouteSystem) : RouteAction → RouteSystem
  | .consume key e now decision request consumer =>
    sys.leaveConsumption
      (sys.consume prim key e now decision request consumer)
  | .consumeExact key e now decision request consumer =>
    sys.leaveConsumption
      (sys.consumeExact prim key e now decision request consumer)
  | .reserve key call => sys.leaveUsage (sys.reserve prim key call)
  | .interrupted => sys

def RouteSystem.after (sys : RouteSystem) (actions : List RouteAction) :
    RouteSystem :=
  actions.foldl (RouteSystem.step prim) sys

def initialRouteSystem (key key' : JournalKey) (journalId journalId' : String) :
    RouteSystem where
  consumption := newConsumptionJournal prim.consumption key journalId
  usage := newUsageJournal prim.usage key' journalId'

/-- Among these calls one of `consume_exact` succeeded for the decision and the
consumer. -/
def ConsumedIn (sys : RouteSystem) (actions : List RouteAction)
    (decision : ModelRouteDecision) (consumer : Consumer) : Prop :=
  ∃ before key e now request after answer,
    actions = before ++ .consumeExact key e now decision request consumer :: after ∧
    (sys.after prim before).consumeExact prim key e now decision request
      consumer = .ok answer

/-- A reserve is made only after `consume_exact` succeeded for its decision and
its consumer. -/
def ConsumesFirst (sys : RouteSystem) (actions : List RouteAction) : Prop :=
  ForallSplit (fun before action => ∀ key call, action = .reserve key call →
    ConsumedIn prim sys before call.decision call.consumer) actions

end System

def UsageJournal.effectsUnder (db : UsageJournal) (routes : List String) :
    List ((String × String) × ReservedEffectRow) :=
  db.reservedEffects.entries.filter fun e => e.2.routeDigest ∈ routes

/-- The effects number at most `calls` and add up to at most these amounts. -/
structure SpendsAtMost (effects : List ((String × String) × ReservedEffectRow))
    (calls inputTokens outputTokens costMicrousd : ℕ) : Prop where
  calls : effects.length ≤ calls
  inputTokens : (effects.map (·.2.inputTokens)).sum ≤ inputTokens
  outputTokens : (effects.map (·.2.outputTokens)).sum ≤ outputTokens
  costMicrousd : (effects.map (·.2.costMicrousd)).sum ≤ costMicrousd

theorem SpendsAtMost.mono {effects : List ((String × String) × ReservedEffectRow)}
    {calls inputTokens outputTokens cost calls' inputTokens' outputTokens' cost' : ℕ}
    (h : SpendsAtMost effects calls inputTokens outputTokens cost)
    (hcalls : calls ≤ calls') (hinput : inputTokens ≤ inputTokens')
    (houtput : outputTokens ≤ outputTokens') (hcost : cost ≤ cost') :
    SpendsAtMost effects calls' inputTokens' outputTokens' cost' :=
  ⟨h.calls.trans hcalls, h.inputTokens.trans hinput,
    h.outputTokens.trans houtput, h.costMicrousd.trans hcost⟩

/-! ## Sums of a consumer -/

section Sums

variable {p : (String × String) × ReservedEffectRow → Bool} {c : String}

theorem spendsAtMost_consumerUsage {entries : List ((String × String) × ReservedEffectRow)}
    (h : ∀ e ∈ entries, p e = true → e.1.1 = c) :
    SpendsAtMost (entries.filter p) (consumerUsage entries c).calls
      (consumerUsage entries c).inputTokens (consumerUsage entries c).outputTokens
      (consumerUsage entries c).costMicrousd := by
  induction entries using List.reverseRecOn with
  | nil => exact ⟨by simp, by simp, by simp, by simp⟩
  | append_singleton entries e ih =>
    have ih := ih fun x hx => h x (List.mem_append_left _ hx)
    rw [consumerUsage_concat, List.filter_append]
    by_cases hp : p e = true
    · have hc : e.1.1 = c := h e (by simp) hp
      rw [if_pos hc, List.filter_cons_of_pos hp, List.filter_nil]
      obtain ⟨h1, h2, h3, h4⟩ := ih
      constructor
      · simpa [RouteAggregateUsage.charge] using h1
      · simpa [RouteAggregateUsage.charge] using h2
      · simpa [RouteAggregateUsage.charge] using h3
      · simpa [RouteAggregateUsage.charge] using h4
    · rw [List.filter_cons_of_neg hp, List.filter_nil, List.append_nil]
      split
      · exact ih.mono (Nat.le_succ _) (Nat.le_add_right ..)
          (Nat.le_add_right ..) (Nat.le_add_right ..)
      · exact ih

end Sums

/-! ## The invariant -/

section Invariant

variable {prim : RoutePrimitives}

/-- A row of the consumption journal spells out a valid decision. -/
structure RouteRowOf (digests : RouteDigests) (digest : String)
    (row : ConsumedRouteRow) (decision : ModelRouteDecision) : Prop where
  valid : decision.valid digests.toRecordDigests = true
  digest : decision.recordDigest = digest
  request : row.requestDigest = decision.spec.requestDigest
  fallback : row.fallbackFromDigest = decision.spec.fallbackFromDigest

/-- What a reserved effect rests on, behind the entries `before`. -/
structure EffectOf (digests : RouteDigests) (routes : Table String ConsumedRouteRow)
    (before : List ((String × String) × ReservedEffectRow))
    (e : (String × String) × ReservedEffectRow) (decision : ModelRouteDecision)
    (request : ModelRouteRequest) : Prop where
  decisionValid : decision.valid digests.toRecordDigests = true
  requestValid : request.valid digests.toRecordDigests = true
  bound : decision.spec.requestDigest = request.recordDigest
  route : e.2.routeDigest = decision.recordDigest
  consumed : ∃ row, routes.get? decision.recordDigest = some row ∧
    row.consumerDigest = e.1.1
  within : ∃ selected reservation budget, decision.spec.selected = some selected ∧
    selected.aggregateReservation = some reservation ∧
    request.spec.aggregateBudget = some budget ∧
    reservationConsistent selected reservation budget = true ∧
    (consumerUsage (before ++ [e]) e.1.1).fits budget reservation = true

/-- **The joint invariant.** -/
structure Accounted (prim : RoutePrimitives) (sys : RouteSystem) : Prop where
  routes : ∀ digest row, sys.consumption.consumedRoutes.get? digest = some row →
    ∃ decision, RouteRowOf prim.digests digest row decision
  fallbacks : ∀ digest row first, sys.consumption.consumedRoutes.get? digest = some row →
    row.fallbackFromDigest = some first →
    ∃ predecessor, sys.consumption.consumedRoutes.get? first = some predecessor ∧
      predecessor.requestDigest = row.requestDigest ∧
      predecessor.consumerDigest = row.consumerDigest
  effects : ForallSplit (fun before e => ∃ decision request,
    EffectOf prim.digests sys.consumption.consumedRoutes before e decision request)
    sys.usage.reservedEffects.entries

theorem accounted_initial (key key' : JournalKey) (journalId journalId' : String) :
    Accounted prim (initialRouteSystem prim key key' journalId journalId') where
  routes := by
    intro digest row h
    cases h
  fallbacks := by
    intro digest row first h
    cases h
  effects := forallSplit_nil

/-! ### Consumption keeps it -/

section Consume

variable {sys : RouteSystem} {key : JournalKey} {e : RouteExpectation}
  {now : Clock} {decision : ModelRouteDecision} {request : ModelRouteRequest}
  {consumer : BoundConsumer} {result : ConsumeResult}
  {journal : ConsumptionJournal}

theorem consume_keeps (h : sys.consume prim key e now decision request consumer =
      .ok (result, journal)) {digest : String} {row : ConsumedRouteRow}
    (hrow : sys.consumption.consumedRoutes.get? digest = some row) :
    journal.consumedRoutes.get? digest = some row := by
  rcases consume_ok h with ⟨rfl, -⟩ | ⟨_, _, _, _, -, -, -, hinsert, -⟩
  · exact hrow
  · exact Table.get?_insert?_of_some hinsert hrow

theorem consume_binds (h : sys.consume prim key e now decision request consumer =
      .ok (result, journal)) :
    ∃ row, journal.consumedRoutes.get? decision.recordDigest = some row ∧
      row.consumerDigest = consumer.digest := by
  rcases consume_ok h with ⟨rfl, row, hrow, hbound⟩ |
    ⟨head, selected, current, row, -, -, hentry, hinsert, -⟩
  · simp only [ConsumedRoute.boundTo, Bool.and_eq_true, decide_eq_true_eq] at hbound
    exact ⟨row, hrow, hbound.2⟩
  · refine ⟨row, ?_, ?_⟩
    · rw [Table.get?_insert? hinsert, if_pos rfl]
    · rw [hentry]
      rfl

theorem EffectOf.mono {digests : RouteDigests}
    {routes routes' : Table String ConsumedRouteRow}
    {before : List ((String × String) × ReservedEffectRow)}
    {x : (String × String) × ReservedEffectRow}
    (hkeeps : ∀ digest row, routes.get? digest = some row → routes'.get? digest = some row)
    (h : EffectOf digests routes before x decision request) :
    EffectOf digests routes' before x decision request := by
  obtain ⟨row, hrow, hconsumer⟩ := h.consumed
  exact { h with consumed := ⟨row, hkeeps _ row hrow, hconsumer⟩ }

theorem accounted_consume (hacc : Accounted prim sys)
    (h : sys.consume prim key e now decision request consumer = .ok (result, journal)) :
    Accounted prim { sys with consumption := journal } := by
  have hkeeps : ∀ digest row, sys.consumption.consumedRoutes.get? digest = some row →
      journal.consumedRoutes.get? digest = some row :=
    fun _ _ hrow => consume_keeps h hrow
  have heffects : ForallSplit (fun before x => ∃ decision request,
      EffectOf prim.digests journal.consumedRoutes before x decision request)
      sys.usage.reservedEffects.entries := by
    intro before x after hsplit
    obtain ⟨d, r, hof⟩ := hacc.effects before x after hsplit
    exact ⟨d, r, hof.mono hkeeps⟩
  rcases consume_ok h with ⟨rfl, -⟩ |
    ⟨head, selected, current, new, hvalid, hbound, hentry, hinsert, hpredecessor, -⟩
  · exact hacc
  have hget := fun digest => Table.get?_insert? hinsert digest
  refine ⟨?_, ?_, heffects⟩
  · intro digest row hrow
    rw [hget digest] at hrow
    split at hrow
    · next hdigest =>
        cases hrow
        refine ⟨decision, hvalid, hdigest.symm, ?_, ?_⟩
        · rw [hentry, hbound]
          rfl
        · rw [hentry]
          rfl
    · exact hacc.routes digest row hrow
  · intro digest row first hrow hfirst
    rw [hget digest] at hrow
    split at hrow
    · next hdigest =>
        cases hrow
        have hfallback : decision.spec.fallbackFromDigest = some first := by
          rw [← hfirst, hentry]
          rfl
        obtain ⟨predecessor, hpre, hcontinues⟩ := checkPredecessor_ok hpredecessor
          (ModelRouteDecision.attempt_of_fallback hvalid hfallback) hfallback
        simp only [ConsumedRoute.continuedBy, ConsumedRoute.boundTo,
          Bool.and_eq_true, decide_eq_true_eq] at hcontinues
        refine ⟨predecessor, hkeeps first predecessor hpre, ?_, ?_⟩
        · rw [hcontinues.1.1.1.1.2, hentry]
          rfl
        · rw [hcontinues.1.2.2, hentry]
          rfl
    · obtain ⟨predecessor, hpre, hsame⟩ :=
        hacc.fallbacks digest row first hrow hfirst
      exact ⟨predecessor, hkeeps first predecessor hpre, hsame⟩

end Consume

theorem consumeExact_ok {sys : RouteSystem} {key : JournalKey}
    {e : RouteExpectation} {now : Clock} {decision : ModelRouteDecision}
    {request : ModelRouteRequest} {consumer : Consumer}
    {answer : ConsumeResult × ConsumptionJournal}
    (h : sys.consumeExact prim key e now decision request consumer = .ok answer) :
    ∃ digest, routeConsumerDigest prim.digests decision request consumer = .ok digest ∧
      sys.consume prim key e now decision request
        ⟨consumer.kind, consumer.id, digest⟩ = .ok answer :=
  bind_eq_ok.mp h

theorem step_cases (prim : RoutePrimitives) (sys : RouteSystem) (action : RouteAction) :
    sys.step prim action = sys ∨
      (∃ key e now decision request consumer result journal,
        sys.consume prim key e now decision request consumer = .ok (result, journal) ∧
        sys.step prim action = { sys with consumption := journal }) ∨
      ∃ key call result journal, action = .reserve key call ∧
        sys.reserve prim key call = .ok (result, journal) ∧
        sys.step prim action = { sys with usage := journal } := by
  cases action with
  | consume key e now decision request consumer =>
    rw [RouteSystem.step]
    cases h : sys.consume prim key e now decision request consumer with
    | error _ => exact .inl rfl
    | ok answer =>
      exact .inr (.inl ⟨key, e, now, decision, request, consumer, answer.1,
        answer.2, h, rfl⟩)
  | consumeExact key e now decision request consumer =>
    rw [RouteSystem.step]
    cases h : sys.consumeExact prim key e now decision request consumer with
    | error _ => exact .inl rfl
    | ok answer =>
      obtain ⟨digest, -, hconsume⟩ := consumeExact_ok h
      exact .inr (.inl ⟨key, e, now, decision, request, _, answer.1,
        answer.2, hconsume, rfl⟩)
  | reserve key call =>
    rw [RouteSystem.step]
    cases h : sys.reserve prim key call with
    | error _ => exact .inl rfl
    | ok answer =>
      exact .inr (.inr ⟨key, call, answer.1, answer.2, rfl, h, rfl⟩)
  | interrupted => exact .inl rfl

/-! ### Reservation keeps it -/

theorem accounted_reserve {sys : RouteSystem} {key : JournalKey}
    {call : ReserveCall} {result : ReserveResult} {journal : UsageJournal}
    (hacc : Accounted prim sys) (h : sys.reserve prim key call = .ok (result, journal))
    (hconsumed : ∀ c, routeConsumerDigest prim.digests call.decision call.request
        call.consumer = .ok c →
      ∃ row, sys.consumption.consumedRoutes.get? call.decision.recordDigest =
        some row ∧ row.consumerDigest = c) :
    Accounted prim { sys with usage := journal } := by
  obtain ⟨c, hc, row, -, -, -, -, -, rfl | hfresh⟩ := reserve_ok h
  · exact hacc
  obtain ⟨hvalid, hrequest, hbound⟩ := routeConsumerDigest_ok hc
  have hentries := (Table.insert?_eq_some hfresh.inserted).2
  refine ⟨hacc.routes, hacc.fallbacks, ?_⟩
  change ForallSplit _ journal.reservedEffects.entries
  rw [hentries, forallSplit_concat]
  refine ⟨hacc.effects, call.decision, call.request, ?_⟩
  exact
    { decisionValid := hvalid
      requestValid := hrequest
      bound := hbound
      route := hfresh.routeDigest
      consumed := hconsumed c hc
      within := by
        rw [← hentries]
        exact hfresh.within }

/-! ### Runs keep it -/

theorem step_keeps_route {sys : RouteSystem} (action : RouteAction)
    {digest : String} {row : ConsumedRouteRow}
    (hrow : sys.consumption.consumedRoutes.get? digest = some row) :
    (sys.step prim action).consumption.consumedRoutes.get? digest = some row := by
  rcases step_cases prim sys action with hstep |
    ⟨_, _, _, _, _, _, _, _, hconsume, hstep⟩ | ⟨_, _, _, _, -, -, hstep⟩
  · rw [hstep]
    exact hrow
  · rw [hstep]
    exact consume_keeps hconsume hrow
  · rw [hstep]
    exact hrow

theorem after_keeps_route {sys : RouteSystem} (actions : List RouteAction)
    {digest : String} {row : ConsumedRouteRow}
    (hrow : sys.consumption.consumedRoutes.get? digest = some row) :
    (sys.after prim actions).consumption.consumedRoutes.get? digest = some row := by
  induction actions generalizing sys with
  | nil => exact hrow
  | cons action actions ih => exact ih (step_keeps_route action hrow)

theorem after_append (sys : RouteSystem) (xs ys : List RouteAction) :
    sys.after prim (xs ++ ys) = (sys.after prim xs).after prim ys :=
  List.foldl_append

theorem after_concat (sys : RouteSystem) (xs : List RouteAction) (action : RouteAction) :
    sys.after prim (xs ++ [action]) = (sys.after prim xs).step prim action := by
  rw [after_append]
  rfl

variable {actions : List RouteAction}

theorem bound_of_consumedIn
    (hinj : prim.digests.toRecordDigests.Injective) {sys : RouteSystem}
    {decision : ModelRouteDecision}
    {request : ModelRouteRequest} {consumer : Consumer} {c : String}
    (h : ConsumedIn prim sys actions decision consumer)
    (hc : routeConsumerDigest prim.digests decision request consumer = .ok c) :
    ∃ row, (sys.after prim actions).consumption.consumedRoutes.get?
        decision.recordDigest = some row ∧ row.consumerDigest = c := by
  obtain ⟨before, key, e, now, request', after, ⟨result, journal⟩, rfl, hexact⟩ := h
  obtain ⟨c', hc', hconsume⟩ := consumeExact_ok hexact
  obtain ⟨-, hrequest, hbound⟩ := routeConsumerDigest_ok hc
  obtain ⟨-, hrequest', hbound'⟩ := routeConsumerDigest_ok hc'
  obtain rfl : request' = request :=
    ModelRouteRequest.eq_of_digest hinj hrequest' hrequest (by rw [← hbound, hbound'])
  obtain rfl : c' = c := by
    rw [hc] at hc'
    cases hc'
    rfl
  obtain ⟨row, hrow, hdigest⟩ := consume_binds hconsume
  refine ⟨row, ?_, hdigest⟩
  rw [after_append]
  refine after_keeps_route after ?_
  rw [RouteSystem.step, hexact]
  exact hrow

/-- **Every run keeps the joint invariant.** -/
theorem accounted_after (hinj : prim.digests.toRecordDigests.Injective)
    {sys : RouteSystem} (hinit : Accounted prim sys)
    (hrun : ConsumesFirst prim sys actions) :
    Accounted prim (sys.after prim actions) := by
  induction actions using List.reverseRecOn with
  | nil => exact hinit
  | append_singleton actions action ih =>
    obtain ⟨hrun, hlast⟩ := forallSplit_concat.mp hrun
    have hacc := ih hrun
    rw [after_concat]
    rcases step_cases prim (sys.after prim actions) action with hstep |
      ⟨_, _, _, _, _, _, _, _, hconsume, hstep⟩ |
      ⟨key, call, _, _, rfl, hreserve, hstep⟩
    · rw [hstep]
      exact hacc
    · rw [hstep]
      exact accounted_consume hacc hconsume
    · rw [hstep]
      refine accounted_reserve hacc hreserve fun c hc => ?_
      exact bound_of_consumedIn hinj (hlast key call rfl) hc

/-! ## The bounds -/

def AggregateReservation.Bounds (r : AggregateReservation)
    (effects : List ((String × String) × ReservedEffectRow)) : Prop :=
  SpendsAtMost effects r.maximumCalls r.inputTokenCeiling r.outputTokenCeiling
    r.reservedCostMicrousd

def AggregateBudget.Bounds (b : AggregateBudget)
    (effects : List ((String × String) × ReservedEffectRow)) : Prop :=
  SpendsAtMost effects b.maximumCalls b.inputTokenCeiling b.outputTokenCeiling
    b.maximumCostMicrousd

section Bounds

variable {sys : RouteSystem}

theorem effectsUnder_bounded (hacc : Accounted prim sys) {routes : List String} {c : String}
    (hall : ∀ e ∈ sys.usage.reservedEffects.entries, e.2.routeDigest ∈ routes → e.1.1 = c) :
    sys.usage.effectsUnder routes = [] ∨
      ∃ before e decision request selected reservation budget,
        decision.recordDigest ∈ routes ∧
        EffectOf prim.digests sys.consumption.consumedRoutes before e decision request ∧
        decision.spec.selected = some selected ∧
        selected.aggregateReservation = some reservation ∧
        request.spec.aggregateBudget = some budget ∧
        reservation.Bounds (sys.usage.effectsUnder routes) ∧
        budget.Bounds (sys.usage.effectsUnder routes) := by
  by_cases hsome : ∃ e ∈ sys.usage.reservedEffects.entries, e.2.routeDigest ∈ routes
  · right
    obtain ⟨before, e, after, hsplit, he, hafter⟩ := exists_last_split hsome
    obtain ⟨decision, request, hof⟩ := hacc.effects before e after hsplit
    obtain ⟨selected, reservation, budget, hselected, hreservation, hbudget,
      hconsistent, hfits⟩ := hof.within
    have hunder : sys.usage.effectsUnder routes =
        (before ++ [e]).filter fun x => decide (x.2.routeDigest ∈ routes) := by
      have hnone : after.filter (fun x => decide (x.2.routeDigest ∈ routes)) =
          [] := by
        rw [List.filter_eq_nil_iff]
        intro x hx hroute
        exact hafter x hx (of_decide_eq_true hroute)
      rw [UsageJournal.effectsUnder, hsplit, ← List.singleton_append,
        ← List.append_assoc, List.filter_append, hnone, List.append_nil]
    have hc : e.1.1 = c := hall e (by rw [hsplit]; simp) he
    have hspent := @spendsAtMost_consumerUsage
      (fun x => decide (x.2.routeDigest ∈ routes)) c (before ++ [e]) (by
        intro x hx hroute
        refine hall x ?_ (of_decide_eq_true hroute)
        rw [hsplit]
        rcases List.mem_append.mp hx with hx | hx
        · exact List.mem_append_left _ hx
        · rw [List.mem_singleton.mp hx]
          simp)
    rw [hc] at hfits
    simp only [RouteAggregateUsage.fits, reservationConsistent, Bool.and_eq_true,
      decide_eq_true_eq] at hfits hconsistent
    obtain ⟨⟨⟨⟨hcalls, hinput⟩, houtput⟩, hcost⟩, hreserved⟩ := hfits
    refine ⟨before, e, decision, request, selected, reservation, budget,
      hof.route ▸ he, hof, hselected, hreservation, hbudget, ?_, ?_⟩
    · rw [AggregateReservation.Bounds, hunder]
      exact hspent.mono (by omega) (by omega) (by omega) hreserved
    · rw [AggregateBudget.Bounds, hunder]
      exact hspent.mono hcalls hinput houtput hcost
  · left
    rw [UsageJournal.effectsUnder, List.filter_eq_nil_iff]
    intro e he hroute
    exact hsome ⟨e, he, of_decide_eq_true hroute⟩

theorem effect_of_decision (hinj : prim.digests.toRecordDigests.Injective)
    (hacc : Accounted prim sys) {decision : ModelRouteDecision}
    (hvalid : decision.valid prim.digests.toRecordDigests = true)
    {e : (String × String) × ReservedEffectRow} (he : e ∈ sys.usage.reservedEffects.entries)
    (hroute : e.2.routeDigest = decision.recordDigest) :
    ∃ row, sys.consumption.consumedRoutes.get? decision.recordDigest = some row ∧
      row.consumerDigest = e.1.1 := by
  obtain ⟨before, after, hsplit⟩ := List.append_of_mem he
  obtain ⟨decision', request, hof⟩ := hacc.effects before e after hsplit
  obtain rfl : decision' = decision := ModelRouteDecision.eq_of_digest hinj
    hof.decisionValid hvalid (by rw [← hof.route, hroute])
  exact hof.consumed

theorem fallback_predecessor (hinj : prim.digests.toRecordDigests.Injective)
    (hacc : Accounted prim sys) {decision : ModelRouteDecision}
    (hvalid : decision.valid prim.digests.toRecordDigests = true) {first : String}
    (hfallback : decision.spec.fallbackFromDigest = some first) {row : ConsumedRouteRow}
    (hrow : sys.consumption.consumedRoutes.get? decision.recordDigest = some row) :
    ∃ predecessor, sys.consumption.consumedRoutes.get? first = some predecessor ∧
      predecessor.requestDigest = decision.spec.requestDigest ∧
      predecessor.consumerDigest = row.consumerDigest := by
  obtain ⟨decision', hof⟩ := hacc.routes _ row hrow
  obtain rfl : decision' = decision :=
    ModelRouteDecision.eq_of_digest hinj hof.valid hvalid hof.digest
  obtain ⟨predecessor, hpre, hrequest, hconsumer⟩ :=
    hacc.fallbacks _ row first hrow (by rw [hof.fallback, hfallback])
  exact ⟨predecessor, hpre, by rw [hrequest, hof.request], hconsumer⟩

theorem decision_bounded (hinj : prim.digests.toRecordDigests.Injective)
    (hacc : Accounted prim sys) {decision : ModelRouteDecision}
    (hvalid : decision.valid prim.digests.toRecordDigests = true) :
    sys.usage.effectsUnder [decision.recordDigest] = [] ∨
      ∃ selected reservation, decision.spec.selected = some selected ∧
        selected.aggregateReservation = some reservation ∧
        reservation.Bounds (sys.usage.effectsUnder [decision.recordDigest]) := by
  have hsame : ∀ e ∈ sys.usage.reservedEffects.entries,
      e.2.routeDigest ∈ [decision.recordDigest] →
      e.1.1 = ((sys.consumption.consumedRoutes.get? decision.recordDigest).map
        (·.consumerDigest)).getD "" := by
    intro e he hroute
    obtain ⟨row, hrow, hconsumer⟩ := effect_of_decision hinj hacc hvalid he
      (List.mem_singleton.mp hroute)
    rw [hrow, ← hconsumer]
    rfl
  rcases effectsUnder_bounded hacc hsame with hnone |
    ⟨_, _, decision', _, selected, reservation, _, hmem, hof, hselected,
      hreservation, -, hbounds, -⟩
  · exact .inl hnone
  · obtain rfl : decision' = decision := ModelRouteDecision.eq_of_digest hinj
      hof.decisionValid hvalid (List.mem_singleton.mp hmem)
    exact .inr ⟨selected, reservation, hselected, hreservation, hbounds⟩

theorem family_bounded (hinj : prim.digests.toRecordDigests.Injective)
    (hacc : Accounted prim sys) {decision : ModelRouteDecision}
    {request : ModelRouteRequest} {fallbacks : List ModelRouteDecision}
    (hvalid : decision.valid prim.digests.toRecordDigests = true)
    (hrequest : request.valid prim.digests.toRecordDigests = true)
    (hbound : decision.spec.requestDigest = request.recordDigest)
    (hfallbacks : ∀ f ∈ fallbacks, f.valid prim.digests.toRecordDigests = true ∧
      f.spec.fallbackFromDigest = some decision.recordDigest) :
    sys.usage.effectsUnder ((decision :: fallbacks).map (·.recordDigest)) = [] ∨
      ∃ budget, request.spec.aggregateBudget = some budget ∧
        budget.Bounds (sys.usage.effectsUnder
          ((decision :: fallbacks).map (·.recordDigest))) := by
  have hfamily : ∀ e ∈ sys.usage.reservedEffects.entries,
      e.2.routeDigest ∈ (decision :: fallbacks).map (·.recordDigest) →
      ∃ row, sys.consumption.consumedRoutes.get? decision.recordDigest =
        some row ∧ row.consumerDigest = e.1.1 := by
    intro e he hroute
    obtain ⟨d, hd, hdigest⟩ := List.mem_map.mp hroute
    rcases List.mem_cons.mp hd with rfl | hd
    · exact effect_of_decision hinj hacc hvalid he hdigest.symm
    · obtain ⟨hfvalid, hfrom⟩ := hfallbacks d hd
      obtain ⟨row, hrow, hconsumer⟩ :=
        effect_of_decision hinj hacc hfvalid he hdigest.symm
      obtain ⟨predecessor, hpre, -, hshared⟩ :=
        fallback_predecessor hinj hacc hfvalid hfrom hrow
      exact ⟨predecessor, hpre, hshared.trans hconsumer⟩
  have hsame : ∀ e ∈ sys.usage.reservedEffects.entries,
      e.2.routeDigest ∈ (decision :: fallbacks).map (·.recordDigest) →
      e.1.1 = ((sys.consumption.consumedRoutes.get? decision.recordDigest).map
        (·.consumerDigest)).getD "" := by
    intro e he hroute
    obtain ⟨row, hrow, hconsumer⟩ := hfamily e he hroute
    rw [hrow, ← hconsumer]
    rfl
  rcases effectsUnder_bounded hacc hsame with hnone |
    ⟨_, _, decision', request', _, _, budget, hmem, hof, -, -, hbudget, -, hbounds⟩
  · exact .inl hnone
  · have hdigest : decision'.spec.requestDigest = decision.spec.requestDigest := by
      obtain ⟨d, hd, heq⟩ := List.mem_map.mp hmem
      rcases List.mem_cons.mp hd with rfl | hd
      · rw [ModelRouteDecision.eq_of_digest hinj hof.decisionValid hvalid heq.symm]
      · obtain ⟨hfvalid, hfrom⟩ := hfallbacks d hd
        obtain rfl : decision' = d := ModelRouteDecision.eq_of_digest hinj
          hof.decisionValid hfvalid heq.symm
        obtain ⟨row, hrow, -⟩ := hof.consumed
        obtain ⟨predecessor, hpre, hreq, -⟩ :=
          fallback_predecessor hinj hacc hfvalid hfrom hrow
        obtain ⟨d₁, hof₁⟩ := hacc.routes _ predecessor hpre
        obtain rfl : d₁ = decision :=
          ModelRouteDecision.eq_of_digest hinj hof₁.valid hvalid hof₁.digest
        rw [← hreq, hof₁.request]
    obtain rfl : request' = request := ModelRouteRequest.eq_of_digest hinj
      hof.requestValid hrequest (by rw [← hof.bound, hdigest, hbound])
    exact .inr ⟨budget, hbudget, hbounds⟩

end Bounds

/-! ## Effects are recorded and kept -/

theorem after_keeps_effect {sys : RouteSystem} (actions : List RouteAction)
    {k : String × String} {row : ReservedEffectRow}
    (hrow : sys.usage.reservedEffects.get? k = some row) :
    (sys.after prim actions).usage.reservedEffects.get? k = some row := by
  induction actions generalizing sys with
  | nil => exact hrow
  | cons action actions ih =>
    refine ih ?_
    rcases step_cases prim sys action with hstep |
      ⟨_, _, _, _, _, _, _, _, -, hstep⟩ | ⟨_, _, _, _, -, hreserve, hstep⟩
    · rw [hstep]
      exact hrow
    · rw [hstep]
      exact hrow
    · rw [hstep]
      obtain ⟨_, -, _, -, -, -, -, -, rfl | hfresh⟩ := reserve_ok hreserve
      · exact hrow
      · exact Table.get?_insert?_of_some hfresh.inserted hrow

theorem reserved_recorded {sys : RouteSystem} :
    ForallSplit (fun before action => ∀ key call answer, action = .reserve key call →
      (sys.after prim before).reserve prim key call = .ok answer →
      ∃ e ∈ (sys.after prim actions).usage.effectsUnder [call.decision.recordDigest],
        e.1.2 = call.effectId ∧ e.2.inputTokens = call.inputTokens.toNat ∧
        e.2.outputTokens = call.outputTokens.toNat ∧
        e.2.costMicrousd = call.costMicrousd.toNat) actions := by
  rintro before action after rfl key call ⟨result, journal⟩ rfl hreserve
  obtain ⟨c, -, row, hroute, hinput, houtput, hcost, hrow, -⟩ :=
    reserve_ok hreserve
  refine ⟨((c, call.effectId), row), ?_, rfl, hinput, houtput, hcost⟩
  refine List.mem_filter.mpr ⟨Table.mem_entries.mpr ?_, by simp [hroute]⟩
  rw [after_append]
  refine after_keeps_effect after ?_
  rw [RouteSystem.step, hreserve]
  exact hrow

/-- **Route spending is bounded end to end.**  In every interleaving of the calls
of both journals in which a reserve follows a successful `consume_exact` for its
decision and consumer, the effects under a decision stay within its aggregate
reservation, and those of a decision and of all fallbacks that name it stay,
together, within the aggregate budget of the request.  The effects counted are
those of all reserves that ever succeeded. -/
theorem route_spending_bounded (prim : RoutePrimitives)
    (hinj : prim.digests.toRecordDigests.Injective) (key key' : JournalKey)
    (journalId journalId' : String) (actions : List RouteAction)
    (hrun : ConsumesFirst prim
      (initialRouteSystem prim key key' journalId journalId') actions) :
    let start := initialRouteSystem prim key key' journalId journalId'
    let effectsUnder := (start.after prim actions).usage.effectsUnder
    (∀ decision : ModelRouteDecision, decision.valid prim.digests.toRecordDigests = true →
      effectsUnder [decision.recordDigest] = [] ∨
        ∃ selected reservation, decision.spec.selected = some selected ∧
          selected.aggregateReservation = some reservation ∧
          reservation.Bounds (effectsUnder [decision.recordDigest])) ∧
    (∀ (decision : ModelRouteDecision) (request : ModelRouteRequest)
      (fallbacks : List ModelRouteDecision),
      decision.valid prim.digests.toRecordDigests = true →
      request.valid prim.digests.toRecordDigests = true →
      decision.spec.requestDigest = request.recordDigest →
      (∀ f ∈ fallbacks, f.valid prim.digests.toRecordDigests = true ∧
        f.spec.fallbackFromDigest = some decision.recordDigest) →
      effectsUnder ((decision :: fallbacks).map (·.recordDigest)) = [] ∨
        ∃ budget, request.spec.aggregateBudget = some budget ∧
          budget.Bounds
            (effectsUnder ((decision :: fallbacks).map (·.recordDigest)))) ∧
    ForallSplit (fun before action => ∀ key call answer, action = .reserve key call →
      (start.after prim before).reserve prim key call = .ok answer →
      ∃ e ∈ effectsUnder [call.decision.recordDigest], e.1.2 = call.effectId ∧
        e.2.inputTokens = call.inputTokens.toNat ∧
        e.2.outputTokens = call.outputTokens.toNat ∧
        e.2.costMicrousd = call.costMicrousd.toNat) actions := by
  have hacc := accounted_after hinj
    (accounted_initial key key' journalId journalId') hrun
  refine ⟨?_, ?_, reserved_recorded⟩
  · intro decision hvalid
    exact decision_bounded hinj hacc hvalid
  · intro decision request fallbacks hvalid hrequest hbound hfallbacks
    exact family_bounded hinj hacc hvalid hrequest hbound hfallbacks

end Invariant

/-! ## A route, its fallback and their effects -/

section Sample

def hexDigest (c : Char) : String := String.ofList (List.replicate 64 c)

def numberedDigest (tag : Char) (n : ℕ) : String :=
  String.ofList (tag :: List.replicate 63 n.digitChar)

def sampleInstant (text : String) (instant : ℤ) : Timestamp := ⟨text, instant⟩

def sampleBudget : AggregateBudget := ⟨2, 100, 100, 50⟩

def sampleRequest : ModelRouteRequest where
  metadata := ⟨"request", sampleInstant "1970-01-01T00:00:00Z" 0, none⟩
  recordDigest := hexDigest 'a'
  spec :=
    { role := .worker
      actionClass := .a1
      dataClass := .d1
      workloadClass := .batch
      requiredCapabilities := []
      requiredContextTokens := 1
      inputTokenCeiling := 60
      outputTokenCeiling := 60
      allowedZones := [.z1]
      allowedRetentions := [.noRetention]
      allowCloud := false
      maximumCostMicrousd := 50
      deadlineAt := sampleInstant "1970-01-01T00:01:00Z" 60000000
      executionProfile := .standard
      policyDigest := hexDigest '1'
      contextDigest := hexDigest '2'
      executionPlanDigest := some (hexDigest '3')
      aggregateBudget := some sampleBudget }

def sampleDecision (digest deployment : String) (attempt : ℕ)
    (fallbackFrom : Option String) : ModelRouteDecision where
  metadata := ⟨deployment, sampleInstant "1970-01-01T00:00:00Z" 0, none⟩
  recordDigest := digest
  spec :=
    { requestDigest := hexDigest 'a'
      policyDigest := hexDigest '1'
      priceCatalogDigest := hexDigest '4'
      decision := .allowed
      reasonCode := .eligible
      routeAttempt := attempt
      selected := some
        { deploymentId := deployment
          deploymentDigest := hexDigest '5'
          deploymentIdentityDigest := hexDigest '6'
          observedEvidenceDigest := hexDigest '7'
          candidateDigest := hexDigest '8'
          reservedCostMicrousd := 50
          estimatedLatencyP95Millis := 10
          aggregateReservation := some ⟨2, 100, 100, 50⟩ }
      validUntil := sampleInstant "1970-01-01T00:01:00Z" 60000000
      fallbackFromDigest := fallbackFrom
      explainDigest := hexDigest '9'
      executionPlanDigest := some (hexDigest '3') }

def sampleRoute : ModelRouteDecision :=
  sampleDecision (hexDigest 'b') "first" 1 none

def sampleFallback : ModelRouteDecision :=
  sampleDecision (hexDigest 'c') "second" 2 (some (hexDigest 'b'))

def sampleConsumer : Consumer := ⟨"workflow", "w1", hexDigest 'e'⟩

def sampleKey : JournalKey := ⟨"key", "key-1"⟩

def sampleRecordDigests : RecordDigests where
  request m s :=
    if (m, s) = (sampleRequest.metadata, sampleRequest.spec) then hexDigest 'a'
    else ""
  decision m s :=
    if (m, s) = (sampleRoute.metadata, sampleRoute.spec) then hexDigest 'b'
    else if (m, s) = (sampleFallback.metadata, sampleFallback.spec) then
      hexDigest 'c'
    else ""

def samplePrimitives : RoutePrimitives where
  digests := { sampleRecordDigests with consumer := fun _ => hexDigest 'd' }
  consumption :=
    { entryHash := fun _ entry => numberedDigest '1' entry.sequence
      entryMac := fun _ _ entry => numberedDigest '2' entry.sequence
      metaMac := fun _ head => numberedDigest '3' head.entries }
  usage :=
    { entryHash := fun _ entry => numberedDigest '4' entry.sequence
      entryMac := fun _ _ entry => numberedDigest '5' entry.sequence
      stateMac := fun _ _ state => numberedDigest '6' state.updatedSequence
      metaMac := fun _ head => numberedDigest '7' head.entries }

def sampleSystem : RouteSystem :=
  initialRouteSystem samplePrimitives sampleKey sampleKey "consumption" "usage"

def sampleConsume (deployment : String) (decision : ModelRouteDecision) :
    RouteAction :=
  .consumeExact sampleKey
    { deploymentId := deployment, deploymentIdentityDigest := hexDigest '6' }
    (.aware 1000) decision sampleRequest sampleConsumer

def sampleReserve (decision : ModelRouteDecision) (effectId : String) :
    RouteAction :=
  .reserve sampleKey
    { decision := decision
      request := sampleRequest
      consumer := sampleConsumer
      effectId := effectId
      effectDigest := hexDigest 'f'
      inputTokens := 40
      outputTokens := 30
      costMicrousd := 20
      now := .aware 2000 }

def sampleRun : List RouteAction :=
  [sampleConsume "first" sampleRoute, sampleReserve sampleRoute "effect-1"]

theorem sampleRequest_of_valid {r : ModelRouteRequest}
    (h : r.valid sampleRecordDigests = true) :
    r.metadata = sampleRequest.metadata ∧ r.spec = sampleRequest.spec := by
  have hdigest := ModelRouteRequest.digest_of_valid h
  by_contra hne
  have hnone : r.recordDigest = "" := by
    rw [hdigest, sampleRecordDigests]
    exact if_neg fun heq => hne (Prod.mk.inj heq)
  simp only [ModelRouteRequest.valid, Metadata.schemaOk, hnone, Bool.and_eq_true] at h
  exact absurd h.1.1.2 (by decide)

theorem sampleDecision_of_valid {d : ModelRouteDecision}
    (h : d.valid sampleRecordDigests = true) :
    (d.recordDigest = hexDigest 'b' ∧ d.metadata = sampleRoute.metadata ∧
        d.spec = sampleRoute.spec) ∨
      (d.recordDigest = hexDigest 'c' ∧ d.metadata = sampleFallback.metadata ∧
        d.spec = sampleFallback.spec) := by
  have hdigest := ModelRouteDecision.digest_of_valid h
  simp only [sampleRecordDigests] at hdigest
  split at hdigest
  · next heq => exact .inl ⟨hdigest, Prod.mk.inj heq⟩
  · split at hdigest
    · next heq => exact .inr ⟨hdigest, Prod.mk.inj heq⟩
    · simp only [ModelRouteDecision.valid, Metadata.schemaOk, hdigest,
        Bool.and_eq_true] at h
      exact absurd h.1.1.2 (by decide)

theorem sampleRecordDigests_injective : sampleRecordDigests.Injective where
  request := by
    intro r r' h h' _
    obtain ⟨hm, hs⟩ := sampleRequest_of_valid h
    obtain ⟨hm', hs'⟩ := sampleRequest_of_valid h'
    exact ⟨hm.trans hm'.symm, hs.trans hs'.symm⟩
  decision := by
    intro d d' h h' heq
    have hne : hexDigest 'b' ≠ hexDigest 'c' := by decide
    rw [← ModelRouteDecision.digest_of_valid h,
      ← ModelRouteDecision.digest_of_valid h'] at heq
    rcases sampleDecision_of_valid h with ⟨hd, hm, hs⟩ | ⟨hd, hm, hs⟩ <;>
      rcases sampleDecision_of_valid h' with ⟨hd', hm', hs'⟩ | ⟨hd', hm', hs'⟩
    · exact ⟨hm.trans hm'.symm, hs.trans hs'.symm⟩
    · exact absurd (hd.symm.trans (heq.trans hd')) hne
    · exact absurd (hd'.symm.trans (heq.symm.trans hd)) hne
    · exact ⟨hm.trans hm'.symm, hs.trans hs'.symm⟩

theorem isDigest_replicate {c : Char} (h : isHex c = true) :
    isDigest (List.replicate 64 c) = true := by
  rw [isDigest, List.length_replicate, List.all_replicate]
  simp [h]

theorem matchesDigest_hexDigest {c : Char} (h : isHex c = true) :
    matchesDigest (hexDigest c) = true := by
  have hne : c ≠ '\n' := by
    rintro rfl
    cases h
  have hbody : patternBody (hexDigest c) = List.replicate 64 c := by
    rw [patternBody, hexDigest, String.toList_ofList]
    simp [hne]
  rw [matchesDigest, hbody, isDigest_replicate h]

theorem sampleRequest_valid : sampleRequest.valid sampleRecordDigests = true := by
  simp (disch := decide) only [ModelRouteRequest.valid, Metadata.schemaOk,
    RequestSpec.schemaOk, sampleRequest, matchesDigest_hexDigest, Option.all_some]
  rfl

theorem sampleTexts : (matchesId "first" = true ∧ matchesId "second" = true) ∧
      "1970-01-01T00:00:00Z".toList.getLast? = some 'Z' ∧
      "1970-01-01T00:01:00Z".toList.getLast? = some 'Z' := by
  decide

theorem sampleInstant_schemaOk (instant : ℤ) :
    (sampleInstant "1970-01-01T00:00:00Z" instant).schemaOk = true ∧
      (sampleInstant "1970-01-01T00:01:00Z" instant).schemaOk = true := by
  obtain ⟨-, hfirst, hsecond⟩ := sampleTexts
  exact ⟨decide_eq_true hfirst, decide_eq_true hsecond⟩

theorem sampleDecision_valid {dig : RecordDigests} {c : Char} {deployment : String}
    {attempt : ℕ} {fallbackFrom : Option String} (hc : isHex c = true)
    (hid : matchesId deployment = true) (hattempt : 1 ≤ attempt ∧ attempt ≤ 2)
    (hfrom : fallbackFrom.all matchesDigest = true)
    (hfirst : (attempt = 1) = (fallbackFrom.isNone = true))
    (hdigest : dig.decision
        (sampleDecision (hexDigest c) deployment attempt fallbackFrom).metadata
        (sampleDecision (hexDigest c) deployment attempt fallbackFrom).spec = hexDigest c) :
    (sampleDecision (hexDigest c) deployment attempt fallbackFrom).valid dig = true := by
  have hmetadata : (sampleDecision (hexDigest c) deployment attempt
      fallbackFrom).metadata.schemaOk (hexDigest c) = true := by
    rw [Metadata.schemaOk, matchesDigest_hexDigest hc]
    simp only [sampleDecision, hid, (sampleInstant_schemaOk 0).1]
    rfl
  have hselected : ((sampleDecision (hexDigest c) deployment attempt
      fallbackFrom).spec.selected.all SelectedDeployment.schemaOk) = true := by
    simp (disch := decide) only [sampleDecision, Option.all_some,
      SelectedDeployment.schemaOk, hid, matchesDigest_hexDigest]
    rfl
  have hspec : (sampleDecision (hexDigest c) deployment attempt
      fallbackFrom).spec.schemaOk = true := by
    rw [DecisionSpec.schemaOk, hselected]
    simp (disch := decide) only [sampleDecision, matchesDigest_hexDigest, hfrom,
      (sampleInstant_schemaOk _).2, Option.all_some]
    simp [hattempt]
  rw [ModelRouteDecision.valid, Bool.and_eq_true, Bool.and_eq_true,
    ModelRouteDecision.semanticErrors, fieldErrors_isEmpty]
  refine ⟨⟨hmetadata, hspec⟩, ?_⟩
  simp only [List.forall_mem_cons, decide_eq_true_eq]
  refine ⟨hdigest.symm, ?_, ?_, ?_, hfirst, rfl, rfl, List.forall_mem_nil _⟩
  · simp [sampleDecision]
  · simp [sampleDecision]
  · simp [sampleDecision, sampleInstant]

theorem sampleRoute_digest :
    sampleRecordDigests.decision sampleRoute.metadata sampleRoute.spec = hexDigest 'b' := by
  simp only [sampleRecordDigests, if_true]

theorem sampleFallback_digest :
    sampleRecordDigests.decision sampleFallback.metadata sampleFallback.spec =
      hexDigest 'c' := by
  have hother : (sampleFallback.metadata, sampleFallback.spec) ≠
      (sampleRoute.metadata, sampleRoute.spec) := fun h =>
    absurd (congrArg (·.2.routeAttempt) h) (by decide)
  simp only [sampleRecordDigests, if_neg hother, if_true]

theorem sampleRoute_valid : sampleRoute.valid sampleRecordDigests = true := by
  have hid := sampleTexts.1.1
  have hdigest := sampleRoute_digest
  rw [sampleRoute] at hdigest ⊢
  exact sampleDecision_valid (by decide) hid (by decide) (by simp) (by simp) hdigest

theorem sampleFallback_valid : sampleFallback.valid sampleRecordDigests = true := by
  have hid := sampleTexts.1.2
  have hfrom : (some (hexDigest 'b')).all matchesDigest = true := by
    rw [Option.all_some, matchesDigest_hexDigest (by decide)]
  have hdigest := sampleFallback_digest
  rw [sampleFallback] at hdigest ⊢
  exact sampleDecision_valid (by decide) hid (by decide) hfrom (by simp) hdigest

theorem sampleEvidence_valid :
    evidenceValid samplePrimitives.digests sampleRoute sampleRequest = true := by
  have hdigests : samplePrimitives.digests.toRecordDigests = sampleRecordDigests := rfl
  rw [evidenceValid, hdigests, sampleRoute_valid, sampleRequest_valid]
  rfl

theorem sampleRoute_consumed :
    ConsumedIn samplePrimitives sampleSystem [sampleConsume "first" sampleRoute]
      sampleRoute sampleConsumer := by
  have hok : (sampleSystem.consumeExact samplePrimitives sampleKey
      { deploymentId := "first", deploymentIdentityDigest := hexDigest '6' }
      (.aware 1000) sampleRoute sampleRequest sampleConsumer).isOk = true := by
    simp only [RouteSystem.consumeExact, consumeExact, routeConsumerDigest,
      consume, verifyRouteBinding, sampleEvidence_valid]
    rfl
  cases h : sampleSystem.consumeExact samplePrimitives sampleKey
      { deploymentId := "first", deploymentIdentityDigest := hexDigest '6' }
      (.aware 1000) sampleRoute sampleRequest sampleConsumer with
  | ok answer => exact ⟨[], _, _, _, _, [], answer, rfl, h⟩
  | error err =>
    rw [h] at hok
    cases hok

theorem sampleRun_consumesFirst :
    ConsumesFirst samplePrimitives sampleSystem sampleRun := by
  refine forallSplit_concat.mpr ⟨forallSplit_concat.mpr ⟨forallSplit_nil, ?_⟩, ?_⟩
  · intro key call hcall
    cases hcall
  · intro key call hcall
    cases hcall
    exact sampleRoute_consumed

theorem route_spending_bounded_sample_run :
    let effects := (sampleSystem.after samplePrimitives sampleRun).usage.effectsUnder
      [sampleRoute.recordDigest, sampleFallback.recordDigest]
    effects.length = 1 ∧ sampleBudget.Bounds effects := by
  have hlength : ((sampleSystem.after samplePrimitives
      sampleRun).usage.effectsUnder
      [sampleRoute.recordDigest, sampleFallback.recordDigest]).length = 1 := by
    simp only [RouteSystem.after, sampleRun, List.foldl_cons, List.foldl_nil,
      RouteSystem.step, sampleReserve, sampleConsume, RouteSystem.reserve, reserve,
      UsageJournal.reserveEffect, reserveRouteEffect, RouteSystem.consumeExact,
      consumeExact, routeConsumerDigest, consume, verifyRouteBinding,
      sampleEvidence_valid]
    rfl
  refine ⟨hlength, ?_⟩
  have hfallbacks : ∀ f ∈ [sampleFallback], f.valid sampleRecordDigests = true ∧
        f.spec.fallbackFromDigest = some sampleRoute.recordDigest := by
    intro f hf
    rw [List.mem_singleton.mp hf]
    exact ⟨sampleFallback_valid, rfl⟩
  rcases (route_spending_bounded samplePrimitives sampleRecordDigests_injective
    sampleKey sampleKey "consumption" "usage" sampleRun
    sampleRun_consumesFirst).2.1 sampleRoute sampleRequest [sampleFallback]
    sampleRoute_valid sampleRequest_valid rfl hfallbacks with
    hnone | ⟨budget, hbudget, hbounds⟩
  · have hempty := congrArg List.length hnone
    exact absurd (hlength.symm.trans hempty) (by decide)
  · cases hbudget
    exact hbounds

end Sample

end Ecosystem.Routing
