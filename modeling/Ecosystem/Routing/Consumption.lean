import Ecosystem.Lib.Table
import Ecosystem.Routing.Binding

/-!
# The consumption journal

`DurableRouteConsumptionJournal`: every route decision is bound to one consumer in a
chain of authenticated entries.  A call verifies the chain, answers a replay with what is
recorded, or appends one entry.  A second attempt needs the first that it continues.
-/

namespace Ecosystem.Routing

open Ecosystem.Lib

/-! ## Tables -/

structure JournalKey where
  hmacKey : String
  keyId : String

/-- What a verified chain amounts to. -/
structure JournalHead where
  journalId : String
  entries : ℕ
  headHash : String

structure JournalMeta where
  journalId : String
  schemaVersion : ℕ := 1
  keyId : String
  headSequence : ℕ
  headHash : String
  metaHmac : String

def JournalMeta.head (m : JournalMeta) : JournalHead :=
  ⟨m.journalId, m.headSequence, m.headHash⟩

/-- The columns of `consumed_routes` that an entry hash covers, beside the route
digest, which is the key. -/
structure ConsumedRoute where
  sequence : ℕ
  requestDigest : String
  policyDigest : String
  priceCatalogDigest : String
  deploymentId : String
  deploymentIdentityDigest : String
  reservedCostMicrousd : ℕ
  routeAttempt : ℕ
  fallbackFromDigest : Option String
  consumerKind : String
  consumerId : String
  consumerDigest : String
  consumedAt : ℤ
  previousHash : String

structure ConsumedRouteRow extends ConsumedRoute where
  entryHash : String
  keyId : String
  entryHmac : String

structure ConsumptionJournal where
  journalMeta : JournalMeta
  consumedRoutes : Table String ConsumedRouteRow

/-- The hash of an entry, its MAC and the MAC of the head, under the domain of
this journal. -/
structure ConsumptionPrimitives where
  entryHash : String → ConsumedRoute → String
  entryMac : JournalKey → String → ConsumedRoute → String
  metaMac : JournalKey → JournalHead → String

def genesisDigest : String := String.ofList (List.replicate 64 '0')

/-- The integers that a column holds. -/
def sqliteInteger (n : ℕ) : Bool := n < 2 ^ 63

section Journal

variable (prim : ConsumptionPrimitives) (digests : RouteDigests)
  (key : JournalKey)

/-- The journal that `_initialize_or_verify` makes in a new file. -/
def newConsumptionJournal (journalId : String) : ConsumptionJournal where
  journalMeta :=
    { journalId := journalId
      keyId := key.keyId
      headSequence := 0
      headHash := genesisDigest
      metaHmac := prim.metaMac key ⟨journalId, 0, genesisDigest⟩ }
  consumedRoutes := .empty

/-! ## Verification -/

/-- One turn of the loop of `_verify_locked`, over the number of entries and the
hash of the last one. -/
def verifyConsumedRoute (acc : ℕ × String) (e : String × ConsumedRouteRow) :
    Except RoutingError (ℕ × String) := do
  let expectedHash := prim.entryHash e.1 e.2.toConsumedRoute
  require
    [(e.2.sequence = acc.1 + 1 && e.2.previousHash = acc.2, "ECO_ROUTE_JOURNAL_TAMPERED"),
      (e.2.entryHash = expectedHash && e.2.keyId = key.keyId, "ECO_ROUTE_JOURNAL_TAMPERED"),
      (e.2.entryHmac = prim.entryMac key e.1 e.2.toConsumedRoute,
        "ECO_ROUTE_JOURNAL_TAMPERED")]
  return (acc.1 + 1, expectedHash)

/-- `ORDER BY sequence`. -/
def ConsumptionJournal.bySequence (db : ConsumptionJournal) :
    List (String × ConsumedRouteRow) :=
  db.consumedRoutes.entries.insertionSort fun a b => a.2.sequence ≤ b.2.sequence

def ConsumptionJournal.verifyLocked (db : ConsumptionJournal) :
    Except RoutingError JournalHead := do
  let m := db.journalMeta
  require [(m.keyId = key.keyId && m.metaHmac = prim.metaMac key m.head,
    "ECO_ROUTE_JOURNAL_TAMPERED")]
  let (count, previous) ←
    db.bySequence.foldlM (verifyConsumedRoute prim key) (0, genesisDigest)
  require [(m.headSequence = count && m.headHash = previous, "ECO_ROUTE_JOURNAL_TAMPERED")]
  return ⟨m.journalId, count, previous⟩

/-! ## Consumption -/

structure ConsumeResult where
  routeDigest : String
  replayed : Bool
  consumedAt : ℤ

/-- The consumer of a route as `consume` takes it. -/
structure BoundConsumer where
  kind : String
  id : String
  digest : String

def ConsumedRoute.boundTo (row : ConsumedRoute) (consumer : BoundConsumer) :
    Bool :=
  row.consumerKind = consumer.kind && row.consumerId = consumer.id &&
    row.consumerDigest = consumer.digest

/-- The predecessor of a fallback is the first attempt of the same workflow on
another deployment. -/
def ConsumedRoute.continuedBy (predecessor : ConsumedRoute)
    (decision : DecisionSpec) (request : ModelRouteRequest)
    (selected : SelectedDeployment) (consumer : BoundConsumer) : Bool :=
  predecessor.routeAttempt = 1 && predecessor.fallbackFromDigest = none &&
    predecessor.requestDigest = request.recordDigest &&
    predecessor.policyDigest = decision.policyDigest &&
    predecessor.priceCatalogDigest = decision.priceCatalogDigest &&
    predecessor.boundTo consumer &&
    !(predecessor.deploymentId = selected.deploymentId &&
      predecessor.deploymentIdentityDigest = selected.deploymentIdentityDigest)

def ConsumptionJournal.checkPredecessor (db : ConsumptionJournal)
    (decision : DecisionSpec) (request : ModelRouteRequest)
    (selected : SelectedDeployment) (consumer : BoundConsumer) :
    Except RoutingError Unit :=
  if decision.routeAttempt = 2 then
    match decision.fallbackFromDigest.bind db.consumedRoutes.get? with
    | none => refuse "ECO_ROUTE_FALLBACK_PREDECESSOR_MISSING"
    | some predecessor =>
      require [(predecessor.continuedBy decision request selected consumer,
        "ECO_ROUTE_FALLBACK_PREDECESSOR_MISMATCH")]
  else .ok ()

/-- The entry that `consume` appends behind a verified head. -/
def consumedRoute (head : JournalHead) (decision : DecisionSpec)
    (request : ModelRouteRequest) (selected : SelectedDeployment)
    (consumer : BoundConsumer) (current : ℤ) : ConsumedRoute where
  sequence := head.entries + 1
  requestDigest := request.recordDigest
  policyDigest := decision.policyDigest
  priceCatalogDigest := decision.priceCatalogDigest
  deploymentId := selected.deploymentId
  deploymentIdentityDigest := selected.deploymentIdentityDigest
  reservedCostMicrousd := selected.reservedCostMicrousd
  routeAttempt := decision.routeAttempt
  fallbackFromDigest := decision.fallbackFromDigest
  consumerKind := consumer.kind
  consumerId := consumer.id
  consumerDigest := consumer.digest
  consumedAt := current
  previousHash := head.headHash

/-- The two writes of `consume`. -/
def ConsumptionJournal.append (db : ConsumptionJournal) (head : JournalHead)
    (routeDigest : String) (entry : ConsumedRoute) :
    Except RoutingError ConsumptionJournal :=
  let entryHash := prim.entryHash routeDigest entry
  let row : ConsumedRouteRow :=
    { entry with
      entryHash := entryHash
      keyId := key.keyId
      entryHmac := prim.entryMac key routeDigest entry }
  if !sqliteInteger entry.reservedCostMicrousd then .error .overflow
  else if db.consumedRoutes.entries.any (·.2.sequence = entry.sequence) then
    refuse "ECO_ROUTE_JOURNAL_UNAVAILABLE"
  else
    match db.consumedRoutes.insert? routeDigest row with
    | none => refuse "ECO_ROUTE_JOURNAL_UNAVAILABLE"
    | some routes => .ok
        { journalMeta :=
            { db.journalMeta with
              headSequence := entry.sequence
              headHash := entryHash
              metaHmac := prim.metaMac key
                ⟨head.journalId, entry.sequence, entryHash⟩ }
          consumedRoutes := routes }

def consume (db : ConsumptionJournal) (e : RouteExpectation) (now : Clock)
    (decision : ModelRouteDecision) (request : ModelRouteRequest)
    (consumer : BoundConsumer) :
    Except RoutingError (ConsumeResult × ConsumptionJournal) := do
  require [(fullmatchConsumerKind consumer.kind &&
    fullmatchIdentifier consumer.id && fullmatchDigest consumer.digest,
    "ECO_ROUTE_EVIDENCE_INVALID")]
  let current ← utc now
  let selected ← verifyRouteBinding digests e now decision request
  let head ← db.verifyLocked prim key
  match db.consumedRoutes.get? decision.recordDigest with
  | some existing =>
    if existing.boundTo consumer then
      return (⟨decision.recordDigest, true, existing.consumedAt⟩, db)
    else refuse "ECO_ROUTE_ALREADY_CONSUMED"
  | none =>
    db.checkPredecessor decision.spec request selected consumer
    let db' ← db.append prim key head decision.recordDigest
      (consumedRoute head decision.spec request selected consumer current)
    return (⟨decision.recordDigest, false, current⟩, db')

/-- `consume_exact`: the consumer digest is derived, not taken from the caller. -/
def consumeExact (db : ConsumptionJournal) (e : RouteExpectation) (now : Clock)
    (decision : ModelRouteDecision) (request : ModelRouteRequest)
    (consumer : Consumer) :
    Except RoutingError (ConsumeResult × ConsumptionJournal) := do
  let digest ← routeConsumerDigest digests decision request consumer
  consume prim digests key db e now decision request
    ⟨consumer.kind, consumer.id, digest⟩

end Journal

/-! ## What a call leaves -/

section Laws

variable {prim : ConsumptionPrimitives} {digests : RouteDigests}
  {key : JournalKey} {db db' : ConsumptionJournal}

theorem checkPredecessor_ok {decision : DecisionSpec}
    {request : ModelRouteRequest} {selected : SelectedDeployment}
    {consumer : BoundConsumer} {digest : String}
    (h : db.checkPredecessor decision request selected consumer = .ok ())
    (hattempt : decision.routeAttempt = 2)
    (hfallback : decision.fallbackFromDigest = some digest) :
    ∃ predecessor, db.consumedRoutes.get? digest = some predecessor ∧
      predecessor.continuedBy decision request selected consumer = true := by
  rw [ConsumptionJournal.checkPredecessor, if_pos hattempt, hfallback] at h
  cases hpre : db.consumedRoutes.get? digest with
  | none => simp [hpre, refuse] at h
  | some predecessor =>
    simp only [Option.bind_some, hpre] at h
    exact ⟨predecessor, rfl, by simpa using require_eq_ok.mp h⟩

theorem append_ok {head : JournalHead} {routeDigest : String} {entry : ConsumedRoute}
    (h : db.append prim key head routeDigest entry = .ok db') :
    ∃ row, row.toConsumedRoute = entry ∧
      db.consumedRoutes.insert? routeDigest row = some db'.consumedRoutes := by
  simp only [ConsumptionJournal.append] at h
  split at h
  · cases h
  split at h
  · cases h
  split at h
  · cases h
  next routes hinsert =>
    cases h
    exact ⟨_, rfl, hinsert⟩

/-- **What a successful consumption is.**  Either the route is already bound to
this consumer and nothing changes, or one row that spells out the decision is
added, behind a consumed predecessor when the decision is a fallback. -/
theorem consume_ok {e : RouteExpectation} {now : Clock}
    {decision : ModelRouteDecision} {request : ModelRouteRequest}
    {consumer : BoundConsumer} {result : ConsumeResult}
    (h : consume prim digests key db e now decision request consumer = .ok (result, db')) :
    (db' = db ∧ ∃ row, db.consumedRoutes.get? decision.recordDigest = some row ∧
        row.boundTo consumer = true) ∨ ∃ head selected current row,
        decision.valid digests.toRecordDigests = true ∧
        decision.spec.requestDigest = request.recordDigest ∧
        row.toConsumedRoute = consumedRoute head decision.spec request selected
          consumer current ∧ db.consumedRoutes.insert? decision.recordDigest row =
          some db'.consumedRoutes ∧
        db.checkPredecessor decision.spec request selected consumer = .ok () ∧
        db.verifyLocked prim key = .ok head := by
  rw [consume] at h
  obtain ⟨-, h⟩ := rest_ok h
  obtain ⟨current, h⟩ := rest_ok h
  obtain ⟨selected, hbinding, h⟩ := bind_eq_ok.mp h
  obtain ⟨head, hverify, h⟩ := bind_eq_ok.mp h
  obtain ⟨hvalid, -, -, hrequest⟩ := verifyRouteBinding_ok hbinding
  cases hrow : db.consumedRoutes.get? decision.recordDigest with
  | some existing =>
    simp only [hrow] at h
    split at h
    · next hbound =>
        cases h
        exact .inl ⟨rfl, existing, rfl, hbound⟩
    · cases h
  | none =>
    simp only [hrow] at h
    obtain ⟨⟨⟩, hpredecessor, h⟩ := bind_eq_ok.mp h
    obtain ⟨db₁, happend, h⟩ := bind_eq_ok.mp h
    cases h
    obtain ⟨row, hentry, hinsert⟩ := append_ok happend
    exact .inr ⟨head, selected, current, row, hvalid, hrequest, hentry, hinsert,
      hpredecessor, hverify⟩

end Laws

end Ecosystem.Routing
