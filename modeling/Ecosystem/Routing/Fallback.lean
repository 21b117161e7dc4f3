import Ecosystem.Routing.Spending

/-!
# Fallbacks of a consumed route

Whole histories of `consume` and `consume_exact`.  Rows are only appended, so what a row
was checked against is still there (`Continued`).  The check of a second attempt reads the
row of its predecessor only: two that name the same first attempt are both consumed.
-/

namespace Ecosystem.Routing

open Ecosystem.Lib

/-! ## Histories of one journal -/

inductive ConsumptionCall
  | consume (key : JournalKey) (e : RouteExpectation) (now : Clock)
      (decision : ModelRouteDecision) (request : ModelRouteRequest)
      (consumer : BoundConsumer)
  | consumeExact (key : JournalKey) (e : RouteExpectation) (now : Clock)
      (decision : ModelRouteDecision) (request : ModelRouteRequest)
      (consumer : Consumer)

def ConsumptionCall.decision : ConsumptionCall → ModelRouteDecision
  | .consume _ _ _ decision _ _ => decision
  | .consumeExact _ _ _ decision _ _ => decision

section History

variable (prim : ConsumptionPrimitives) (digests : RouteDigests)

def ConsumptionCall.boundConsumer :
    ConsumptionCall → Except RoutingError BoundConsumer
  | .consume _ _ _ _ _ consumer => .ok consumer
  | .consumeExact _ _ _ decision request consumer => do
    let digest ← routeConsumerDigest digests decision request consumer
    return ⟨consumer.kind, consumer.id, digest⟩

def ConsumptionJournal.exec (db : ConsumptionJournal) :
    ConsumptionCall → Except RoutingError (ConsumeResult × ConsumptionJournal)
  | .consume key e now decision request consumer =>
    Routing.consume prim digests key db e now decision request consumer
  | .consumeExact key e now decision request consumer =>
    Routing.consumeExact prim digests key db e now decision request consumer

/-- A call that raises is rolled back. -/
def ConsumptionJournal.call (db : ConsumptionJournal) (c : ConsumptionCall) :
    ConsumptionJournal :=
  match db.exec prim digests c with
  | .ok (_, db') => db'
  | .error _ => db

def ConsumptionJournal.afterCalls (db : ConsumptionJournal)
    (calls : List ConsumptionCall) : ConsumptionJournal :=
  calls.foldl (ConsumptionJournal.call prim digests) db

end History

/-! ## Where a row stands -/

/-- `row` is a second attempt that continues `predecessor`. -/
structure ConsumedRoute.Continues (row predecessor : ConsumedRoute) : Prop where
  attempt : predecessor.routeAttempt = 1
  first : predecessor.fallbackFromDigest = none
  earlier : predecessor.sequence < row.sequence
  requestDigest : predecessor.requestDigest = row.requestDigest
  consumerKind : predecessor.consumerKind = row.consumerKind
  consumerId : predecessor.consumerId = row.consumerId
  consumerDigest : predecessor.consumerDigest = row.consumerDigest
  deployment : (predecessor.deploymentId, predecessor.deploymentIdentityDigest) ≠
    (row.deploymentId, row.deploymentIdentityDigest)

/-- Every row carries its place as sequence number, and a second attempt
continues one of the rows in front of it. -/
def ConsumptionJournal.Continued (db : ConsumptionJournal) : Prop :=
  ForallSplit (fun before e => e.2.sequence = before.length + 1 ∧
    (e.2.routeAttempt = 2 → ∃ digest predecessor, e.2.fallbackFromDigest = some digest ∧
      (digest, predecessor) ∈ before ∧
      e.2.Continues predecessor.toConsumedRoute)) db.consumedRoutes.entries

section Laws

variable {prim : ConsumptionPrimitives} {digests : RouteDigests}
  {key : JournalKey} {db db' : ConsumptionJournal}

theorem verifyConsumedRoute_ok {acc acc' : ℕ × String} {e : String × ConsumedRouteRow}
    (h : verifyConsumedRoute prim key acc e = .ok acc') : acc'.1 = acc.1 + 1 := by
  simp only [verifyConsumedRoute, require_bind_eq_ok] at h
  cases h.2
  rfl

theorem verifyLocked_entries {head : JournalHead}
    (h : db.verifyLocked prim key = .ok head) :
    head.entries = db.consumedRoutes.entries.length := by
  rw [ConsumptionJournal.verifyLocked] at h
  obtain ⟨-, h⟩ := rest_ok h
  obtain ⟨⟨count, previous⟩, hfold, h⟩ := bind_eq_ok.mp h
  obtain ⟨-, h⟩ := rest_ok h
  cases h
  have hcount := foldlM_history_induction
    (P := fun entries (acc : ℕ × String) => acc.1 = entries.length)
    rfl (fun entries acc e acc' _ ih hstep => by
      rw [verifyConsumedRoute_ok hstep, ih, List.length_append]
      rfl) _ _ hfold
  rw [ConsumptionJournal.bySequence, List.length_insertionSort] at hcount
  exact hcount

variable {request : ModelRouteRequest} {consumer : BoundConsumer} {result : ConsumeResult}
  {e : RouteExpectation} {now : Clock} {decision : ModelRouteDecision}

theorem checkPredecessor_named {decision : DecisionSpec} {selected : SelectedDeployment}
    (h : db.checkPredecessor decision request selected consumer = .ok ())
    (hattempt : decision.routeAttempt = 2) :
    ∃ digest predecessor, decision.fallbackFromDigest = some digest ∧
      db.consumedRoutes.get? digest = some predecessor ∧
      predecessor.continuedBy decision request selected consumer = true := by
  cases hfallback : decision.fallbackFromDigest with
  | none =>
    rw [ConsumptionJournal.checkPredecessor, if_pos hattempt, hfallback] at h
    simp [refuse] at h
  | some digest =>
    obtain ⟨predecessor, hpre, hcontinues⟩ :=
      checkPredecessor_ok h hattempt hfallback
    exact ⟨digest, predecessor, rfl, hpre, hcontinues⟩

theorem consumedRoute_continues {head : JournalHead} {decision : DecisionSpec}
    {selected : SelectedDeployment} {current : ℤ} {predecessor : ConsumedRoute}
    (h : predecessor.continuedBy decision request selected consumer = true)
    (hearlier : predecessor.sequence ≤ head.entries) :
    (consumedRoute head decision request selected consumer current).Continues
      predecessor := by
  simp only [ConsumedRoute.continuedBy, ConsumedRoute.boundTo, Bool.and_eq_true,
    decide_eq_true_eq] at h
  obtain ⟨⟨⟨⟨⟨⟨hattempt, hfirst⟩, hrequest⟩, -⟩, -⟩, ⟨hkind, hid⟩, hdigest⟩,
    hdeployment⟩ := h
  exact
    { attempt := hattempt
      first := hfirst
      earlier := Nat.lt_succ_of_le hearlier
      requestDigest := hrequest
      consumerKind := hkind
      consumerId := hid
      consumerDigest := hdigest
      deployment := by
        intro heq
        obtain ⟨hid, hidentity⟩ := Prod.mk.inj heq
        simp only [consumedRoute] at hid hidentity
        simp [hid, hidentity] at hdeployment }

/-! ## One call -/

theorem exec_ok {c : ConsumptionCall} (h : db.exec prim digests c = .ok (result, db')) :
    ∃ key e now request consumer, c.boundConsumer digests = .ok consumer ∧
      consume prim digests key db e now c.decision request consumer =
        .ok (result, db') := by
  cases c with
  | consume key e now decision request consumer =>
    exact ⟨key, e, now, request, consumer, rfl, h⟩
  | consumeExact key e now decision request consumer =>
    obtain ⟨digest, hdigest, h⟩ := bind_eq_ok.mp h
    refine ⟨key, e, now, request, _, ?_, h⟩
    rw [ConsumptionCall.boundConsumer, hdigest]
    rfl

theorem continued_consume (hdb : db.Continued)
    (h : consume prim digests key db e now decision request consumer =
      .ok (result, db')) : db'.Continued := by
  rcases consume_ok h with ⟨rfl, -⟩ |
    ⟨head, selected, current, row, -, -, hentry, hinsert, hcheck, hverify⟩
  · exact hdb
  have hentries := (Table.insert?_eq_some hinsert).2
  have hcount := verifyLocked_entries hverify
  rw [ConsumptionJournal.Continued, hentries]
  refine forallSplit_concat.mpr ⟨hdb, ?_, ?_⟩
  · simp only [hentry, consumedRoute, hcount]
  · intro hattempt
    simp only [hentry] at hattempt ⊢
    obtain ⟨digest, predecessor, hdigest, hpre, hcontinues⟩ :=
      checkPredecessor_named hcheck hattempt
    have hmem := Table.mem_entries.mpr hpre
    obtain ⟨before, after, hsplit⟩ := List.append_of_mem hmem
    have hplace : predecessor.sequence ≤ head.entries := by
      rw [(hdb before _ after hsplit).1, hcount, hsplit, List.length_append,
        List.length_cons]
      omega
    exact ⟨digest, predecessor, hdigest, hmem, consumedRoute_continues hcontinues hplace⟩

theorem keeps_consume (h : consume prim digests key db e now decision request consumer =
      .ok (result, db')) {digest : String} {row : ConsumedRouteRow}
    (hrow : db.consumedRoutes.get? digest = some row) :
    db'.consumedRoutes.get? digest = some row := by
  rcases consume_ok h with ⟨rfl, -⟩ | ⟨_, _, _, _, -, -, -, hinsert, -⟩
  · exact hrow
  · exact Table.get?_insert?_of_some hinsert hrow

theorem consume_answer (h : consume prim digests key db e now decision request consumer =
      .ok (result, db')) :
    ∃ row, db'.consumedRoutes.get? decision.recordDigest = some row ∧
      row.boundTo consumer = true ∧ result.consumedAt = row.consumedAt ∧
      result.replayed = (db.consumedRoutes.get? decision.recordDigest).isSome := by
  rw [consume] at h
  obtain ⟨-, h⟩ := rest_ok h
  obtain ⟨current, h⟩ := rest_ok h
  obtain ⟨selected, h⟩ := rest_ok h
  obtain ⟨head, h⟩ := rest_ok h
  cases hrow : db.consumedRoutes.get? decision.recordDigest with
  | some existing =>
    simp only [hrow] at h
    split at h
    · next hbound =>
        cases h
        exact ⟨existing, hrow, hbound, rfl, rfl⟩
    · cases h
  | none =>
    simp only [hrow] at h
    obtain ⟨⟨⟩, -, h⟩ := bind_eq_ok.mp h
    obtain ⟨db₁, happend, h⟩ := bind_eq_ok.mp h
    cases h
    obtain ⟨row, hentry, hinsert⟩ := append_ok happend
    refine ⟨row, ?_, ?_, ?_, rfl⟩
    · rw [Table.get?_insert? hinsert, if_pos rfl]
    · simp [ConsumedRoute.boundTo, hentry, consumedRoute]
    · rw [hentry]
      rfl

theorem call_induction {P : ConsumptionJournal → Prop} (c : ConsumptionCall) (hdb : P db)
    (hstep : ∀ key e now request consumer result db',
      consume prim digests key db e now c.decision request consumer =
        .ok (result, db') → P db') : P (db.call prim digests c) := by
  rw [ConsumptionJournal.call]
  cases h : db.exec prim digests c with
  | error err => exact hdb
  | ok answer =>
    obtain ⟨result, db'⟩ := answer
    obtain ⟨key, e, now, request, consumer, -, h⟩ := exec_ok h
    exact hstep key e now request consumer result db' h

/-! ## Whole histories -/

theorem continued_after (calls : List ConsumptionCall) (hdb : db.Continued) :
    (db.afterCalls prim digests calls).Continued := by
  induction calls generalizing db with
  | nil => exact hdb
  | cons c calls ih =>
    refine ih (call_induction c hdb ?_)
    intro key e now request consumer result db' h
    exact continued_consume hdb h

theorem keeps_after (calls : List ConsumptionCall) {digest : String}
    {row : ConsumedRouteRow} (hrow : db.consumedRoutes.get? digest = some row) :
    (db.afterCalls prim digests calls).consumedRoutes.get? digest = some row := by
  induction calls generalizing db with
  | nil => exact hrow
  | cons c calls ih =>
    refine ih (call_induction (P := fun db =>
      db.consumedRoutes.get? digest = some row) c hrow ?_)
    intro key e now request consumer result db' h
    exact keeps_consume h hrow

/-- **A fallback continues a consumed route.**  Behind any history of calls, by
processes with any keys, every consumed second attempt names an earlier consumed
first attempt of the same request and consumer on another deployment; the row of a
decision never changes; and a call that succeeds answers the row of its decision,
which is bound to its consumer, as a replay exactly when it was there before. -/
theorem fallback_continues_consumed_route (prim : ConsumptionPrimitives)
    (digests : RouteDigests) (key : JournalKey) (journalId : String)
    (calls : List ConsumptionCall) :
    let start := newConsumptionJournal prim key journalId
    let routes := (start.afterCalls prim digests calls).consumedRoutes
    (∀ digest row, routes.get? digest = some row → row.routeAttempt = 2 →
      ∃ first predecessor, row.fallbackFromDigest = some first ∧
        routes.get? first = some predecessor ∧
        row.Continues predecessor.toConsumedRoute) ∧
    (∀ before after, calls = before ++ after → ∀ digest row,
      (start.afterCalls prim digests before).consumedRoutes.get? digest = some row →
      routes.get? digest = some row) ∧
    ForallSplit (fun before c => ∀ result db',
      (start.afterCalls prim digests before).exec prim digests c = .ok (result, db') →
      ∃ row consumer, routes.get? c.decision.recordDigest = some row ∧
        c.boundConsumer digests = .ok consumer ∧
        row.boundTo consumer = true ∧ result.consumedAt = row.consumedAt ∧
        result.replayed = ((start.afterCalls prim digests
          before).consumedRoutes.get? c.decision.recordDigest).isSome) calls := by
  refine ⟨?_, ?_, ?_⟩
  · intro digest row hrow hattempt
    have hcontinued : (newConsumptionJournal prim key journalId).Continued :=
      forallSplit_nil
    obtain ⟨before, after, hsplit⟩ :=
      List.append_of_mem (Table.mem_entries.mpr hrow)
    obtain ⟨first, predecessor, hfirst, hmem, hcontinues⟩ :=
      (continued_after calls hcontinued before _ after hsplit).2 hattempt
    refine ⟨first, predecessor, hfirst, Table.mem_entries.mp ?_, hcontinues⟩
    rw [hsplit]
    exact List.mem_append_left _ hmem
  · rintro before after rfl digest row hrow
    simp only [ConsumptionJournal.afterCalls] at hrow
    rw [ConsumptionJournal.afterCalls, List.foldl_append]
    exact keeps_after after hrow
  · rintro before c after rfl result db' h
    obtain ⟨key', e, now, request, consumer, hconsumer, hconsume⟩ := exec_ok h
    obtain ⟨row, hrow, hbound, hat, hreplayed⟩ := consume_answer hconsume
    refine ⟨row, consumer, ?_, hconsumer, hbound, hat, hreplayed⟩
    rw [ConsumptionJournal.afterCalls, List.foldl_append, List.foldl_cons]
    refine keeps_after after ?_
    rw [ConsumptionJournal.call]
    simp only [ConsumptionJournal.afterCalls] at h
    rw [h]
    exact hrow

end Laws

/-! ## Two fallbacks of one route -/

/-- At most one second attempt names a given first attempt. -/
def ConsumptionJournal.AtMostOneFallback (db : ConsumptionJournal) : Prop :=
  ∀ first digest digest' row row', db.consumedRoutes.get? digest = some row →
    db.consumedRoutes.get? digest' = some row' →
    row.fallbackFromDigest = some first →
    row'.fallbackFromDigest = some first → digest = digest'

section Sample

/-- Another answer of the router to the same failed first attempt. -/
def sampleOtherFallback : ModelRouteDecision :=
  sampleDecision (hexDigest 'e') "third" 2 (some (hexDigest 'b'))

def fallbackDigests : RouteDigests where
  request := sampleRecordDigests.request
  decision m s :=
    if (m, s) = (sampleOtherFallback.metadata, sampleOtherFallback.spec) then
      hexDigest 'e'
    else sampleRecordDigests.decision m s
  consumer _ := hexDigest 'd'

def fallbackPrimitives : ConsumptionPrimitives where
  entryHash _ entry := String.singleton entry.sequence.digitChar
  entryMac _ _ entry := String.singleton entry.sequence.digitChar
  metaMac _ head := String.singleton head.entries.digitChar

def sampleFallbackConsume (deployment : String) (decision : ModelRouteDecision) :
    ConsumptionCall :=
  .consume sampleKey
    { deploymentId := deployment, deploymentIdentityDigest := hexDigest '6' }
    (.aware 1000) decision sampleRequest ⟨"workflow", "w1", hexDigest 'd'⟩

def sampleFallbackCalls : List ConsumptionCall :=
  [sampleFallbackConsume "first" sampleRoute, sampleFallbackConsume "second" sampleFallback,
    sampleFallbackConsume "third" sampleOtherFallback]

theorem fallbackDigests_other :
    fallbackDigests.decision sampleOtherFallback.metadata sampleOtherFallback.spec =
      hexDigest 'e' := by
  simp only [fallbackDigests, if_true]

theorem fallbackRequest_valid :
    sampleRequest.valid fallbackDigests.toRecordDigests = true := by
  have hsame : sampleRequest.valid fallbackDigests.toRecordDigests =
      sampleRequest.valid sampleRecordDigests := rfl
  rw [hsame, sampleRequest_valid]

theorem fallbackDigests_route :
    fallbackDigests.decision sampleRoute.metadata sampleRoute.spec = hexDigest 'b' ∧
      fallbackDigests.decision sampleFallback.metadata sampleFallback.spec =
        hexDigest 'c' := by
  have hroute : (sampleRoute.metadata, sampleRoute.spec) ≠
      (sampleOtherFallback.metadata, sampleOtherFallback.spec) := fun h =>
    absurd (congrArg (·.2.routeAttempt) h) (by decide)
  have hfallback : (sampleFallback.metadata, sampleFallback.spec) ≠
      (sampleOtherFallback.metadata, sampleOtherFallback.spec) := fun h =>
    absurd (congrArg (·.1.id) h) (by decide)
  simp only [fallbackDigests, if_neg hroute, if_neg hfallback]
  exact ⟨sampleRoute_digest, sampleFallback_digest⟩

variable {decision : ModelRouteDecision}

theorem fallbackEvidence_valid
    (h : decision ∈ [sampleRoute, sampleFallback, sampleOtherFallback]) :
    evidenceValid fallbackDigests decision sampleRequest = true := by
  have hfrom : (some (hexDigest 'b')).all matchesDigest = true := by
    rw [Option.all_some, matchesDigest_hexDigest (by decide)]
  rw [evidenceValid, fallbackRequest_valid, Bool.and_true]
  simp only [List.mem_cons, List.not_mem_nil, or_false] at h
  rcases h with rfl | rfl | rfl
  · have hid := sampleTexts.1.1
    have hdigest := fallbackDigests_route.1
    rw [sampleRoute] at hdigest ⊢
    exact sampleDecision_valid (by decide) hid (by decide) (by simp) (by simp) hdigest
  · have hid := sampleTexts.1.2
    have hdigest := fallbackDigests_route.2
    rw [sampleFallback] at hdigest ⊢
    exact sampleDecision_valid (by decide) hid (by decide) hfrom (by simp) hdigest
  · have hid : matchesId "third" = true := by rfl
    have hdigest := fallbackDigests_other
    rw [sampleOtherFallback] at hdigest ⊢
    exact sampleDecision_valid (by decide) hid (by decide) hfrom (by simp) hdigest

/-- What `consume` does with the selection of a route whose evidence holds. -/
def ConsumptionJournal.consumeSelected (db : ConsumptionJournal)
    (decision : ModelRouteDecision) (selected : SelectedDeployment) (current : ℤ) :
    Except RoutingError (ConsumeResult × ConsumptionJournal) := do
  let consumer : BoundConsumer := ⟨"workflow", "w1", hexDigest 'd'⟩
  let head ← db.verifyLocked fallbackPrimitives sampleKey
  match db.consumedRoutes.get? decision.recordDigest with
  | some existing =>
    if existing.boundTo consumer then
      return (⟨decision.recordDigest, true, existing.consumedAt⟩, db)
    else refuse "ECO_ROUTE_ALREADY_CONSUMED"
  | none =>
    db.checkPredecessor decision.spec sampleRequest selected consumer
    let db' ← db.append fallbackPrimitives sampleKey head decision.recordDigest
      (consumedRoute head decision.spec sampleRequest selected consumer current)
    return (⟨decision.recordDigest, false, current⟩, db')

theorem sampleFallback_binding {deployment : String}
    (h : (deployment, decision) ∈ [("first", sampleRoute), ("second", sampleFallback),
      ("third", sampleOtherFallback)]) :
    ∃ selected, decision.spec.selected = some selected ∧
      verifyRouteBinding fallbackDigests
        { deploymentId := deployment, deploymentIdentityDigest := hexDigest '6' }
        (.aware 1000) decision sampleRequest = .ok selected := by
  simp only [List.mem_cons, List.not_mem_nil, or_false, Prod.mk.injEq] at h
  rcases h with ⟨rfl, rfl⟩ | ⟨rfl, rfl⟩ | ⟨rfl, rfl⟩
  · refine ⟨_, rfl, ?_⟩
    simp (disch := simp) only [verifyRouteBinding, fallbackEvidence_valid]
    rfl
  · refine ⟨_, rfl, ?_⟩
    simp (disch := simp) only [verifyRouteBinding, fallbackEvidence_valid]
    rfl
  · refine ⟨_, rfl, ?_⟩
    simp (disch := simp) only [verifyRouteBinding, fallbackEvidence_valid]
    rfl

theorem sampleFallback_call (db : ConsumptionJournal) {deployment : String}
    (h : (deployment, decision) ∈ [("first", sampleRoute), ("second", sampleFallback),
      ("third", sampleOtherFallback)]) :
    db.call fallbackPrimitives fallbackDigests (sampleFallbackConsume deployment decision) =
      match decision.spec.selected.map (db.consumeSelected decision · 1000) with
      | some (.ok (_, db')) => db'
      | _ => db := by
  obtain ⟨selected, hselected, hbinding⟩ := sampleFallback_binding h
  have hconsumer : (fullmatchConsumerKind "workflow" && fullmatchIdentifier "w1" &&
      fullmatchDigest (hexDigest 'd')) = true := by
    rfl
  have hconsume : consume fallbackPrimitives fallbackDigests sampleKey db
      { deploymentId := deployment, deploymentIdentityDigest := hexDigest '6' }
      (.aware 1000) decision sampleRequest ⟨"workflow", "w1", hexDigest 'd'⟩ =
      db.consumeSelected decision selected 1000 := by
    simp only [consume, hconsumer, hbinding]
    rfl
  rw [ConsumptionJournal.call, ConsumptionJournal.exec.eq_def, sampleFallbackConsume]
  simp only [hconsume, hselected, Option.map_some]
  cases db.consumeSelected decision selected 1000 with
  | ok result | error e => rfl

def sampleFallbackJournal : ConsumptionJournal :=
  (newConsumptionJournal fallbackPrimitives sampleKey "consumption").afterCalls
    fallbackPrimitives fallbackDigests sampleFallbackCalls

theorem two_fallbacks_of_one_route : ¬sampleFallbackJournal.AtMostOneFallback := by
  have hrows : (sampleFallbackJournal.consumedRoutes.entries.map fun e =>
        (e.1, e.2.fallbackFromDigest)) =
      [(hexDigest 'b', none), (hexDigest 'c', some (hexDigest 'b')),
        (hexDigest 'e', some (hexDigest 'b'))] := by
    rw [sampleFallbackJournal, ConsumptionJournal.afterCalls, sampleFallbackCalls,
      List.foldl_cons, List.foldl_cons, List.foldl_cons, List.foldl_nil,
      sampleFallback_call _ (by simp), sampleFallback_call _ (by simp),
      sampleFallback_call _ (by simp)]
    rfl
  have hnamed : ∀ digest ∈ [hexDigest 'c', hexDigest 'e'], ∃ row,
      sampleFallbackJournal.consumedRoutes.get? digest = some row ∧
        row.fallbackFromDigest = some (hexDigest 'b') := by
    intro digest hdigest
    have hmem : (digest, some (hexDigest 'b')) ∈
        sampleFallbackJournal.consumedRoutes.entries.map fun e =>
          (e.1, e.2.fallbackFromDigest) := by
      rw [hrows]
      simpa using hdigest
    obtain ⟨⟨k, row⟩, he, heq⟩ := List.mem_map.mp hmem
    obtain ⟨rfl, hfirst⟩ := Prod.mk.inj heq
    exact ⟨row, Table.mem_entries.mp he, hfirst⟩
  intro h
  obtain ⟨row, hrow, hfirst⟩ := hnamed (hexDigest 'c') (by simp)
  obtain ⟨row', hrow', hfirst'⟩ := hnamed (hexDigest 'e') (by simp)
  exact absurd (h _ _ _ row row' hrow hrow' hfirst hfirst') (by decide)

end Sample

end Ecosystem.Routing
