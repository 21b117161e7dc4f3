import Ecosystem.Lib.Dict
import Ecosystem.Routing.Consumption

/-!
# The usage journal

`DurableRouteUsageJournal`: every effect is reserved in an append-only chain, and one
aggregate row per consumer digest repeats what it adds up to.  `_verify_locked` replays
the chain; `reserve` counts the next effect on the replayed state.
-/

namespace Ecosystem.Routing

open Ecosystem.Lib

/-! ## Tables -/

/-- What all effects of one consumer have in common. -/
structure UsageBinding where
  requestDigest : String
  executionPlanDigest : String
  policyDigest : String
  priceCatalogDigest : String
  consumerKind : String
  consumerId : String
deriving DecidableEq

/-- `bindings`: what a replay of an effect has to repeat. -/
structure EffectBinding extends UsageBinding where
  routeDigest : String
  deploymentId : String
  deploymentIdentityDigest : String
  effectDigest : String
  inputTokens : ℕ
  outputTokens : ℕ
  costMicrousd : ℕ
deriving DecidableEq

/-- The columns of `reserved_effects` that an entry hash covers, beside the key:
the consumer digest and the effect id. -/
structure ReservedEffect extends EffectBinding where
  sequence : ℕ
  before : RouteAggregateUsage
  after : RouteAggregateUsage
  reservedAt : ℤ
  previousHash : String

structure ReservedEffectRow extends ReservedEffect where
  entryHash : String
  keyId : String
  entryHmac : String

/-- The state of one consumer: a row of `aggregate_usage` and an entry of the
replayed states. -/
structure AggregateState extends UsageBinding where
  usage : RouteAggregateUsage := {}
  updatedSequence : ℕ := 0
deriving DecidableEq

structure AggregateRow extends AggregateState where
  keyId : String
  stateHmac : String

structure UsageJournal where
  journalMeta : JournalMeta
  aggregateUsage : Table String AggregateRow
  reservedEffects : Table (String × String) ReservedEffectRow

/-- The hash of an entry and the MACs of entries, states and the head, under the
domain of this journal. -/
structure UsagePrimitives where
  entryHash : String × String → ReservedEffect → String
  entryMac : JournalKey → String × String → ReservedEffect → String
  stateMac : JournalKey → String → AggregateState → String
  metaMac : JournalKey → JournalHead → String

section Journal

variable (prim : UsagePrimitives) (digests : RouteDigests) (key : JournalKey)

/-- The journal that `_initialize_or_verify` makes in a new file. -/
def newUsageJournal (journalId : String) : UsageJournal where
  journalMeta :=
    { journalId := journalId
      keyId := key.keyId
      headSequence := 0
      headHash := genesisDigest
      metaHmac := prim.metaMac key ⟨journalId, 0, genesisDigest⟩ }
  aggregateUsage := .empty
  reservedEffects := .empty

/-! ## Verification -/

/-- What the replay of a part of the chain has come to. -/
structure UsageReplay where
  count : ℕ := 0
  previous : String := genesisDigest
  states : Dict String AggregateState := ∅

def UsageReplay.current (replay : UsageReplay) (consumerDigest : String)
    (binding : UsageBinding) : AggregateState :=
  (replay.states.lookup consumerDigest).getD { binding with }

def usageOf (states : Dict String AggregateState) (consumerDigest : String) :
    RouteAggregateUsage :=
  ((states.lookup consumerDigest).map AggregateState.usage).getD {}

/-- One turn of the loop of `_verify_locked`. -/
def verifyReservedEffect (replay : UsageReplay)
    (e : (String × String) × ReservedEffectRow) :
    Except RoutingError UsageReplay := do
  let row := e.2
  let expectedHash := prim.entryHash e.1 row.toReservedEffect
  let current := replay.current e.1.1 row.toUsageBinding
  require
    [(row.sequence = replay.count + 1 && row.previousHash = replay.previous,
        "ECO_ROUTE_USAGE_TAMPERED"),
      (row.entryHash = expectedHash && row.keyId = key.keyId &&
          row.entryHmac = prim.entryMac key e.1 row.toReservedEffect,
        "ECO_ROUTE_USAGE_TAMPERED"),
      (current.toUsageBinding = row.toUsageBinding, "ECO_ROUTE_USAGE_TAMPERED"),
      (current.usage = row.before, "ECO_ROUTE_USAGE_TAMPERED"),
      (row.after = row.before.charge row.inputTokens row.outputTokens
          row.costMicrousd, "ECO_ROUTE_USAGE_TAMPERED")]
  return { count := replay.count + 1
           previous := expectedHash
           states := replay.states.insert e.1.1
            { current with usage := row.after, updatedSequence := row.sequence } }

/-- `ORDER BY sequence`. -/
def UsageJournal.bySequence (db : UsageJournal) :
    List ((String × String) × ReservedEffectRow) :=
  db.reservedEffects.entries.insertionSort fun a b =>
    a.2.sequence ≤ b.2.sequence

def aggregateRowOk (states : Dict String AggregateState)
    (e : String × AggregateRow) : Bool :=
  e.2.keyId = key.keyId &&
    e.2.stateHmac = prim.stateMac key e.1 e.2.toAggregateState &&
    states.lookup e.1 = some e.2.toAggregateState

/-- `_verify_locked`: the head of the chain and the state of every consumer. -/
def UsageJournal.verifyLocked (db : UsageJournal) :
    Except RoutingError (JournalHead × Dict String AggregateState) := do
  let m := db.journalMeta
  require [(m.schemaVersion = 1 && m.keyId = key.keyId &&
    m.metaHmac = prim.metaMac key m.head, "ECO_ROUTE_USAGE_TAMPERED")]
  let replay ← db.bySequence.foldlM (verifyReservedEffect prim key) {}
  require
    [(m.headSequence = replay.count && m.headHash = replay.previous,
        "ECO_ROUTE_USAGE_TAMPERED"),
      ((db.aggregateUsage.entries.map Prod.fst).toFinset = replay.states.keys,
        "ECO_ROUTE_USAGE_TAMPERED"),
      (db.aggregateUsage.entries.all (aggregateRowOk prim key replay.states),
        "ECO_ROUTE_USAGE_TAMPERED")]
  return (⟨m.journalId, replay.count, replay.previous⟩, replay.states)

/-! ## Reservation -/

/-- The arguments of `reserve`; the effect digest of the consumer is
`workflow_effect_digest`. -/
structure ReserveCall where
  decision : ModelRouteDecision
  request : ModelRouteRequest
  consumer : Consumer
  effectId : String
  effectDigest : String
  inputTokens : ℤ
  outputTokens : ℤ
  costMicrousd : ℤ
  now : Clock

structure ReserveResult where
  consumerDigest : String
  effectId : String
  routeDigest : String
  sequence : ℕ
  entryHash : String
  replayed : Bool
  reservedAt : ℤ
  usage : RouteAggregateUsage

/-- What `reserve` expects of its own evidence. -/
def ReserveCall.expectation (call : ReserveCall) (selected : SelectedDeployment) :
    RouteExpectation where
  deploymentId := selected.deploymentId
  deploymentIdentityDigest := selected.deploymentIdentityDigest
  policyDigest := some call.decision.spec.policyDigest
  priceCatalogDigest := some call.decision.spec.priceCatalogDigest
  executionPlanDigest := call.request.spec.executionPlanDigest

/-- `bindings` of a call with this execution plan. -/
def ReserveCall.binding (call : ReserveCall) (selected : SelectedDeployment)
    (executionPlanDigest : String) : EffectBinding where
  requestDigest := call.request.recordDigest
  executionPlanDigest := executionPlanDigest
  policyDigest := call.decision.spec.policyDigest
  priceCatalogDigest := call.decision.spec.priceCatalogDigest
  consumerKind := call.consumer.kind
  consumerId := call.consumer.id
  routeDigest := call.decision.recordDigest
  deploymentId := selected.deploymentId
  deploymentIdentityDigest := selected.deploymentIdentityDigest
  effectDigest := call.effectDigest
  inputTokens := call.inputTokens.toNat
  outputTokens := call.outputTokens.toNat
  costMicrousd := call.costMicrousd.toNat

def ReservedEffectRow.result (row : ReservedEffectRow) (k : String × String)
    (replayed : Bool) : ReserveResult where
  consumerDigest := k.1
  effectId := k.2
  routeDigest := row.routeDigest
  sequence := row.sequence
  entryHash := row.entryHash
  replayed := replayed
  reservedAt := row.reservedAt
  usage := row.after

/-- The three writes of `reserve`. -/
def UsageJournal.append (db : UsageJournal) (head : JournalHead)
    (k : String × String) (entry : ReservedEffect) :
    Except RoutingError (ReserveResult × UsageJournal) :=
  let entryHash := prim.entryHash k entry
  let row : ReservedEffectRow :=
    { entry with
      entryHash := entryHash
      keyId := key.keyId
      entryHmac := prim.entryMac key k entry }
  let state : AggregateState :=
    { entry.toUsageBinding with
      usage := entry.after
      updatedSequence := entry.sequence }
  let stateHmac := prim.stateMac key k.1 state
  if !(sqliteInteger entry.after.inputTokens &&
      sqliteInteger entry.after.outputTokens &&
      sqliteInteger entry.after.costMicrousd) then .error .overflow
  else if db.reservedEffects.entries.any (·.2.sequence = entry.sequence) then
    refuse "ECO_ROUTE_USAGE_UNAVAILABLE"
  else
    match db.reservedEffects.insert? k row with
    | none => refuse "ECO_ROUTE_USAGE_UNAVAILABLE"
    | some effects => .ok (row.result k false,
        { journalMeta :=
            { db.journalMeta with
              headSequence := entry.sequence
              headHash := entryHash
              metaHmac := prim.metaMac key
                ⟨head.journalId, entry.sequence, entryHash⟩ }
          aggregateUsage := db.aggregateUsage.upsert k.1
            { state with keyId := key.keyId, stateHmac := stateHmac }
            fun old => { old with
              usage := entry.after
              updatedSequence := entry.sequence
              keyId := key.keyId
              stateHmac := stateHmac }
          reservedEffects := effects })

/-- The transaction of `reserve`. -/
def UsageJournal.reserveEffect (db : UsageJournal) (call : ReserveCall)
    (k : String × String) (binding : EffectBinding) (reservedAt : ℤ) :
    Except RoutingError (ReserveResult × UsageJournal) := do
  let (head, states) ← db.verifyLocked prim key
  match db.reservedEffects.get? k with
  | some existing =>
    require [(existing.toEffectBinding = binding, "ECO_ROUTE_EFFECT_REPLAY_MISMATCH")]
    return (existing.result k true, db)
  | none =>
    require [((states.lookup k.1).all
        (·.toUsageBinding = binding.toUsageBinding),
      "ECO_ROUTE_USAGE_BINDING_MISMATCH")]
    let current := usageOf states k.1
    let updated ← reserveRouteEffect digests call.decision call.request current
      binding.inputTokens binding.outputTokens binding.costMicrousd
    db.append prim key head k
      { binding with
        sequence := head.entries + 1
        before := current
        after := updated
        reservedAt := reservedAt
        previousHash := head.headHash }

def reserve (db : UsageJournal) (call : ReserveCall) :
    Except RoutingError (ReserveResult × UsageJournal) := do
  require [(fullmatchConsumerKind call.consumer.kind &&
    fullmatchIdentifier call.consumer.id && fullmatchIdentifier call.effectId &&
    fullmatchDigest call.effectDigest && 0 ≤ call.inputTokens &&
    0 ≤ call.outputTokens && 0 ≤ call.costMicrousd,
    "ECO_ROUTE_EVIDENCE_INVALID")]
  let reservedAt ← utc call.now
  let consumerDigest ←
    routeConsumerDigest digests call.decision call.request call.consumer
  match call.decision.spec.selected, call.request.spec.executionPlanDigest with
  | some selected, some plan =>
    let _ ← verifyRouteBinding digests (call.expectation selected) call.now
      call.decision call.request
    db.reserveEffect prim digests key call (consumerDigest, call.effectId)
      (call.binding selected plan) reservedAt
  -- the consumer digest exists only for a selection and a plan
  | _, _ => refuse "ECO_ROUTE_NOT_ALLOWED"

end Journal

/-! ## What the replay adds up to -/

section Laws

variable {prim : UsagePrimitives} {digests : RouteDigests} {key : JournalKey}
  {db db' : UsageJournal}

def consumerUsage (entries : List ((String × String) × ReservedEffectRow))
    (consumerDigest : String) : RouteAggregateUsage :=
  entries.foldl (fun u e =>
    if e.1.1 = consumerDigest then
      u.charge e.2.inputTokens e.2.outputTokens e.2.costMicrousd
    else u) {}

theorem consumerUsage_concat
    (entries : List ((String × String) × ReservedEffectRow))
    (e : (String × String) × ReservedEffectRow) (c : String) :
    consumerUsage (entries ++ [e]) c =
      if e.1.1 = c then
        (consumerUsage entries c).charge e.2.inputTokens e.2.outputTokens
          e.2.costMicrousd
      else consumerUsage entries c := by
  rw [consumerUsage, List.foldl_append]
  rfl

theorem charge_comm (u : RouteAggregateUsage) (i o m i' o' m' : ℕ) :
    (u.charge i o m).charge i' o' m' = (u.charge i' o' m').charge i o m := by
  simp only [RouteAggregateUsage.charge, Nat.add_right_comm]

theorem consumerUsage_perm {entries entries' : List ((String × String) × ReservedEffectRow)}
    (h : entries.Perm entries') (c : String) :
    consumerUsage entries c = consumerUsage entries' c := by
  refine h.foldl_eq' (fun x _ y _ u => ?_) _
  by_cases hx : x.1.1 = c
  · by_cases hy : y.1.1 = c
    · simp only [hx, hy, if_true]
      exact charge_comm ..
    · simp [hx, hy]
  · simp [hx]

theorem verifyReservedEffect_ok {replay replay' : UsageReplay}
    {e : (String × String) × ReservedEffectRow}
    (h : verifyReservedEffect prim key replay e = .ok replay') :
    ∃ state : AggregateState, replay'.states = replay.states.insert e.1.1 state ∧
      state.usage = (usageOf replay.states e.1.1).charge e.2.inputTokens
        e.2.outputTokens e.2.costMicrousd := by
  simp only [verifyReservedEffect, require_bind_eq_ok, List.forall_mem_cons,
    decide_eq_true_eq] at h
  obtain ⟨⟨-, -, -, hbefore, hafter, -⟩, h⟩ := h
  cases h
  refine ⟨_, rfl, ?_⟩
  rw [hafter, ← hbefore, UsageReplay.current, usageOf]
  cases replay.states.lookup e.1.1 with
  | none | some state => rfl

theorem replay_usage {entries : List ((String × String) × ReservedEffectRow)}
    {replay : UsageReplay}
    (h : entries.foldlM (verifyReservedEffect prim key) {} = .ok replay)
    (c : String) : usageOf replay.states c = consumerUsage entries c := by
  refine foldlM_history_induction
    (P := fun entries (replay : UsageReplay) => ∀ c,
      usageOf replay.states c = consumerUsage entries c)
    ?_ ?_ entries replay h c
  · intro c
    rfl
  · intro entries replay e replay' _ ih hstep c
    obtain ⟨state, hstates, husage⟩ := verifyReservedEffect_ok hstep
    rw [hstates, usageOf, Dict.lookup_insert_ite, consumerUsage_concat]
    by_cases hc : e.1.1 = c
    · subst hc
      rw [if_pos rfl, if_pos rfl, ← ih, ← husage]
      rfl
    · rw [if_neg (Ne.symm hc), if_neg hc]
      exact ih c

theorem verifyLocked_usage {head : JournalHead} {states : Dict String AggregateState}
    (h : db.verifyLocked prim key = .ok (head, states)) (c : String) :
    usageOf states c = consumerUsage db.reservedEffects.entries c := by
  rw [UsageJournal.verifyLocked] at h
  obtain ⟨-, h⟩ := rest_ok h
  obtain ⟨replay, hreplay, h⟩ := bind_eq_ok.mp h
  obtain ⟨-, h⟩ := rest_ok h
  cases h
  rw [replay_usage hreplay c]
  exact consumerUsage_perm (List.perm_insertionSort ..) c

/-! ## What a call leaves -/

theorem UsageJournal.append_ok {head : JournalHead} {k : String × String}
    {entry : ReservedEffect} {result : ReserveResult}
    (h : db.append prim key head k entry = .ok (result, db')) :
    ∃ row, row.toReservedEffect = entry ∧
      db.reservedEffects.insert? k row = some db'.reservedEffects := by
  simp only [UsageJournal.append] at h
  split at h
  · cases h
  split at h
  · cases h
  split at h
  · cases h
  next effects hinsert =>
    cases h
    exact ⟨_, rfl, hinsert⟩

/-- One fresh reservation: a row for the call, whose consumer, with this effect,
stays within the budget of the request and what the decision reserved. -/
structure FreshReservation (digests : RouteDigests) (db db' : UsageJournal)
    (call : ReserveCall) (k : String × String) (row : ReservedEffectRow) :
    Prop where
  inserted : db.reservedEffects.insert? k row = some db'.reservedEffects
  routeDigest : row.routeDigest = call.decision.recordDigest
  within : ∃ selected reservation budget, call.decision.spec.selected = some selected ∧
    selected.aggregateReservation = some reservation ∧
    call.request.spec.aggregateBudget = some budget ∧
    reservationConsistent selected reservation budget = true ∧
    (consumerUsage db'.reservedEffects.entries k.1).fits budget reservation = true

/-- **What a successful reservation is.**  Either the effect is already there,
with the same route and counts, and nothing changes, or it is added to the sum of
its consumer and the sum still fits. -/
theorem reserve_ok {call : ReserveCall} {result : ReserveResult}
    (h : reserve prim digests key db call = .ok (result, db')) :
    ∃ c, routeConsumerDigest digests call.decision call.request call.consumer = .ok c ∧
      ∃ row, row.routeDigest = call.decision.recordDigest ∧
        row.inputTokens = call.inputTokens.toNat ∧
        row.outputTokens = call.outputTokens.toNat ∧
        row.costMicrousd = call.costMicrousd.toNat ∧
        db'.reservedEffects.get? (c, call.effectId) = some row ∧
        (db' = db ∨ FreshReservation digests db db' call (c, call.effectId) row) := by
  rw [reserve] at h
  obtain ⟨-, h⟩ := rest_ok h
  obtain ⟨reservedAt, h⟩ := rest_ok h
  obtain ⟨c, hconsumer, h⟩ := bind_eq_ok.mp h
  refine ⟨c, hconsumer, ?_⟩
  split at h
  next selected plan hselected hplan =>
    obtain ⟨-, h⟩ := rest_ok h
    rw [UsageJournal.reserveEffect] at h
    obtain ⟨⟨head, states⟩, hverify, h⟩ := bind_eq_ok.mp h
    cases hrow : db.reservedEffects.get? (c, call.effectId) with
    | some existing =>
      simp only [hrow] at h
      obtain ⟨hsame, h⟩ := require_bind_eq_ok.mp h
      cases h
      have hbinding : existing.toEffectBinding = call.binding selected plan := by
        simpa using hsame
      exact ⟨existing, by rw [hbinding]; rfl, by rw [hbinding]; rfl,
        by rw [hbinding]; rfl, by rw [hbinding]; rfl, hrow, .inl rfl⟩
    | none =>
      simp only [hrow] at h
      obtain ⟨-, h⟩ := rest_ok h
      obtain ⟨updated, heffect, h⟩ := bind_eq_ok.mp h
      obtain ⟨row, hentry, hinsert⟩ := UsageJournal.append_ok h
      obtain ⟨hupdated, chosen, reservation, budget, hchosen, hreservation,
        hbudget, hconsistent, hfits⟩ := reserveRouteEffect_ok heffect
      have hentries := (Table.insert?_eq_some hinsert).2
      have hbinding : row.toEffectBinding = call.binding selected plan :=
        congrArg ReservedEffect.toEffectBinding hentry
      have husage : consumerUsage db'.reservedEffects.entries c = updated := by
        rw [hentries, consumerUsage_concat, if_pos rfl, hupdated,
          verifyLocked_usage hverify c, hbinding]
      refine ⟨row, by rw [hbinding]; rfl, by rw [hbinding]; rfl,
        by rw [hbinding]; rfl, by rw [hbinding]; rfl, ?_, .inr ?_⟩
      · rw [Table.get?_insert? hinsert, if_pos rfl]
      · exact
          { inserted := hinsert
            routeDigest := by rw [hbinding]; rfl
            within := ⟨chosen, reservation, budget, hchosen, hreservation,
              hbudget, hconsistent, by rw [husage]; exact hfits⟩ }
  next => cases h

end Laws

end Ecosystem.Routing
