import Ecosystem.Routing.Spending

/-!
# The usage journal and its replay

`Sealed` ties the three tables to a replay of the chain: the rows of `reserved_effects`
replay in their order, the head names the end, and the rows of `aggregate_usage` are the
states that it leaves.  Such a journal passes `_verify_locked`.

A replayed effect answers the row of the first reservation, at a clock at which the route
is still valid.
-/

namespace Ecosystem.Routing

open Ecosystem.Lib

/-! ## Histories -/

section History

variable (prim : UsagePrimitives) (digests : RouteDigests) (key : JournalKey)

/-- A call that raises is rolled back. -/
def UsageJournal.call (db : UsageJournal) (c : ReserveCall) : UsageJournal :=
  match reserve prim digests key db c with
  | .ok (_, db') => db'
  | .error _ => db

def UsageJournal.afterCalls (db : UsageJournal) (calls : List ReserveCall) :
    UsageJournal :=
  calls.foldl (UsageJournal.call prim digests key) db

end History

/-- The clock lies within the validity of the decision and the request. -/
def ReserveCall.ValidAt (call : ReserveCall) (now : Clock) : Prop :=
  ∃ instant, now = .aware instant ∧
    instant < call.decision.spec.validUntil.instant ∧
    instant < call.request.spec.deadlineAt.instant

/-! ## The invariant -/

/-- What the tables of a journal have to do with a replay of its chain. -/
structure UsageJournal.Sealed (prim : UsagePrimitives) (key : JournalKey)
    (db : UsageJournal) (replay : UsageReplay) : Prop where
  chain : db.reservedEffects.entries.foldlM (verifyReservedEffect prim key) {} = .ok replay
  schemaVersion : db.journalMeta.schemaVersion = 1
  keyId : db.journalMeta.keyId = key.keyId
  metaHmac : db.journalMeta.metaHmac = prim.metaMac key db.journalMeta.head
  headSequence : db.journalMeta.headSequence = replay.count
  headHash : db.journalMeta.headHash = replay.previous
  states : ∀ c, (db.aggregateUsage.get? c).map AggregateRow.toAggregateState =
    replay.states.lookup c
  rows : ∀ c row, db.aggregateUsage.get? c = some row →
    row.keyId = key.keyId ∧
      row.stateHmac = prim.stateMac key c row.toAggregateState

section Laws

variable {prim : UsagePrimitives} {digests : RouteDigests} {key : JournalKey}
  {db db' : UsageJournal} {replay : UsageReplay}

theorem sealed_new (journalId : String) :
    (newUsageJournal prim key journalId).Sealed prim key {} where
  chain := rfl
  schemaVersion := rfl
  keyId := rfl
  metaHmac := rfl
  headSequence := rfl
  headHash := rfl
  states := fun _ => rfl
  rows := by
    intro c row h
    cases h

/-! ### A sealed journal verifies -/

theorem verifyReservedEffect_eq_ok {replay' : UsageReplay}
    {e : (String × String) × ReservedEffectRow} :
    verifyReservedEffect prim key replay e = .ok replay' ↔
      (e.2.sequence = replay.count + 1 ∧ e.2.previousHash = replay.previous) ∧
      ((e.2.entryHash = prim.entryHash e.1 e.2.toReservedEffect ∧
        e.2.keyId = key.keyId) ∧
        e.2.entryHmac = prim.entryMac key e.1 e.2.toReservedEffect) ∧
      (replay.current e.1.1 e.2.toUsageBinding).toUsageBinding = e.2.toUsageBinding ∧
      (replay.current e.1.1 e.2.toUsageBinding).usage = e.2.before ∧
      e.2.after = e.2.before.charge e.2.inputTokens e.2.outputTokens
        e.2.costMicrousd ∧
      { count := replay.count + 1
        previous := prim.entryHash e.1 e.2.toReservedEffect
        states := replay.states.insert e.1.1
          { replay.current e.1.1 e.2.toUsageBinding with
            usage := e.2.after
            updatedSequence := e.2.sequence } : UsageReplay } = replay' := by
  simp only [verifyReservedEffect, require_bind_eq_ok, List.forall_mem_cons,
    List.not_mem_nil, false_imp_iff, implies_true, and_true, Bool.and_eq_true,
    decide_eq_true_eq, pure, Except.pure, Except.ok.injEq, and_assoc]

theorem replay_places {entries : List ((String × String) × ReservedEffectRow)}
    (h : entries.foldlM (verifyReservedEffect prim key) {} = .ok replay) :
    replay.count = entries.length ∧
      ForallSplit (fun before e => e.2.sequence = before.length + 1) entries := by
  refine foldlM_history_induction
    (P := fun entries (replay : UsageReplay) => replay.count = entries.length ∧
      ForallSplit (fun before e => e.2.sequence = before.length + 1) entries)
    ⟨rfl, forallSplit_nil⟩ ?_ entries replay h
  rintro entries replay e replay' - ⟨hcount, hplaces⟩ hstep
  obtain ⟨⟨hsequence, -⟩, -, -, -, -, rfl⟩ := verifyReservedEffect_eq_ok.mp hstep
  refine ⟨?_, forallSplit_concat.mpr ⟨hplaces, ?_⟩⟩
  · simp only [hcount, List.length_append, List.length_cons, List.length_nil]
  · rw [hsequence, hcount]

theorem pairwise_of_places {entries : List ((String × String) × ReservedEffectRow)}
    (h : ForallSplit (fun before e => e.2.sequence = before.length + 1) entries) :
    entries.Pairwise fun a b => a.2.sequence ≤ b.2.sequence := by
  induction entries using List.reverseRecOn with
  | nil => exact List.Pairwise.nil
  | append_singleton entries e ih =>
    obtain ⟨hentries, he⟩ := forallSplit_concat.mp h
    refine List.pairwise_append.mpr
      ⟨ih hentries, List.pairwise_singleton .., ?_⟩
    intro a ha b hb
    obtain ⟨before, after, rfl⟩ := List.append_of_mem ha
    rw [List.mem_singleton.mp hb, he, hentries before a after rfl,
      List.length_append, List.length_cons]
    omega

theorem UsageJournal.Sealed.bySequence (h : db.Sealed prim key replay) :
    db.bySequence = db.reservedEffects.entries :=
  (pairwise_of_places (replay_places h.chain).2).insertionSort_eq

theorem UsageJournal.Sealed.keys (h : db.Sealed prim key replay) :
    (db.aggregateUsage.entries.map Prod.fst).toFinset = replay.states.keys := by
  ext c
  rw [List.mem_toFinset, Dict.mem_keys_iff_lookup, ← h.states c,
    ← not_iff_not, ← Table.get?_eq_none_iff]
  cases db.aggregateUsage.get? c with
  | none | some row => simp

/-- **A sealed journal verifies**, and the verifier answers its replay. -/
theorem UsageJournal.Sealed.verifyLocked (h : db.Sealed prim key replay) :
    db.verifyLocked prim key =
      .ok (⟨db.journalMeta.journalId, replay.count, replay.previous⟩, replay.states) := by
  have hrows : db.aggregateUsage.entries.all
      (aggregateRowOk prim key replay.states) = true := by
    rw [List.all_eq_true]
    rintro ⟨c, row⟩ he
    have hrow := Table.mem_entries.mp he
    obtain ⟨hkey, hmac⟩ := h.rows c row hrow
    have hstate := h.states c
    rw [hrow, Option.map_some] at hstate
    simp [aggregateRowOk, hkey, ← hmac, ← hstate]
  rw [UsageJournal.verifyLocked]
  refine require_bind_eq_ok.mpr ⟨?_, bind_eq_ok.mpr ⟨replay, ?_,
    require_bind_eq_ok.mpr ⟨?_, rfl⟩⟩⟩
  · simp [h.schemaVersion, h.keyId, h.metaHmac]
  · rw [h.bySequence]
    exact h.chain
  · simp only [List.forall_mem_cons, h.headSequence, h.headHash, h.keys, hrows]
    simp

/-! ### A call seals the journal again -/

variable {call : ReserveCall} {k : String × String} {binding : EffectBinding}
  {reservedAt : ℤ} {result : ReserveResult}

/-- `reserve` in full: what it asks of its arguments and of the route, and the
transaction behind that. -/
theorem reserve_eq_ok {answer : ReserveResult × UsageJournal} :
    reserve prim digests key db call = .ok answer ↔
      (fullmatchConsumerKind call.consumer.kind &&
        fullmatchIdentifier call.consumer.id && fullmatchIdentifier call.effectId &&
        fullmatchDigest call.effectDigest && 0 ≤ call.inputTokens &&
        0 ≤ call.outputTokens && 0 ≤ call.costMicrousd) = true ∧
      ∃ reservedAt c selected plan, utc call.now = .ok reservedAt ∧
        routeConsumerDigest digests call.decision call.request call.consumer = .ok c ∧
        call.decision.spec.selected = some selected ∧
        call.request.spec.executionPlanDigest = some plan ∧
        (∃ s, verifyRouteBinding digests (call.expectation selected) call.now
          call.decision call.request = .ok s) ∧
        db.reserveEffect prim digests key call (c, call.effectId)
          (call.binding selected plan) reservedAt = .ok answer := by
  rw [reserve, require_bind_eq_ok, bind_eq_ok]
  refine and_congr (by simp) (exists_congr fun reservedAt => ?_)
  rw [bind_eq_ok]
  constructor
  · rintro ⟨hutc, c, hc, h⟩
    split at h
    next selected plan hselected hplan =>
      obtain ⟨s, hs, h⟩ := bind_eq_ok.mp h
      exact ⟨c, selected, plan, hutc, hc, hselected, hplan, ⟨s, hs⟩, h⟩
    next => cases h
  · rintro ⟨c, selected, plan, hutc, hc, hselected, hplan, ⟨s, hs⟩, h⟩
    refine ⟨hutc, c, hc, ?_⟩
    simp only [hselected, hplan]
    exact bind_eq_ok.mpr ⟨s, hs, h⟩

/-- The transaction of `reserve` on a sealed journal: a known effect answers its
row, a new one is counted on the state of its consumer and appended. -/
theorem UsageJournal.Sealed.reserveEffect_ok (hdb : db.Sealed prim key replay)
    (h : db.reserveEffect prim digests key call k binding reservedAt =
      .ok (result, db')) :
    (∃ row, db.reservedEffects.get? k = some row ∧
        row.toEffectBinding = binding ∧ result = row.result k true ∧ db' = db) ∨
      (replay.states.lookup k.1).all
          (·.toUsageBinding = binding.toUsageBinding) = true ∧
        db.append prim key ⟨db.journalMeta.journalId, replay.count, replay.previous⟩
          k { binding with
              sequence := replay.count + 1
              before := usageOf replay.states k.1
              after := (usageOf replay.states k.1).charge binding.inputTokens
                binding.outputTokens binding.costMicrousd
              reservedAt := reservedAt
              previousHash := replay.previous } = .ok (result, db') := by
  rw [UsageJournal.reserveEffect, hdb.verifyLocked] at h
  simp only [bind, Except.bind] at h
  cases hrow : db.reservedEffects.get? k with
  | some row =>
    simp only [hrow] at h
    obtain ⟨hsame, h⟩ := require_bind_eq_ok.mp h
    cases h
    exact .inl ⟨row, rfl, by simpa using hsame, rfl, rfl⟩
  | none =>
    simp only [hrow] at h
    obtain ⟨hbinding, h⟩ := require_bind_eq_ok.mp h
    obtain ⟨updated, heffect, h⟩ := bind_eq_ok.mp h
    rw [(reserveRouteEffect_ok heffect).1] at h
    exact .inr ⟨by simpa using hbinding, h⟩

theorem UsageJournal.append_eq_ok {head : JournalHead} {entry : ReservedEffect}
    (h : db.append prim key head k entry = .ok (result, db')) :
    ∃ row : ReservedEffectRow, row = { entry with
        entryHash := prim.entryHash k entry
        keyId := key.keyId
        entryHmac := prim.entryMac key k entry } ∧
      result = row.result k false ∧
      db.reservedEffects.insert? k row = some db'.reservedEffects ∧
      db'.journalMeta = { db.journalMeta with
        headSequence := entry.sequence
        headHash := prim.entryHash k entry
        metaHmac := prim.metaMac key
          ⟨head.journalId, entry.sequence, prim.entryHash k entry⟩ } ∧
      ∃ new : AggregateRow, new = { entry.toUsageBinding with
          usage := entry.after
          updatedSequence := entry.sequence
          keyId := key.keyId
          stateHmac := prim.stateMac key k.1
            { entry.toUsageBinding with
              usage := entry.after
              updatedSequence := entry.sequence } } ∧
        db'.aggregateUsage = db.aggregateUsage.upsert k.1 new fun old =>
          { new with toUsageBinding := old.toUsageBinding } := by
  simp only [UsageJournal.append] at h
  split at h
  · cases h
  split at h
  · cases h
  split at h
  · cases h
  next effects hinsert =>
    cases h
    exact ⟨_, rfl, rfl, hinsert, rfl, _, rfl, rfl⟩

theorem UsageJournal.Sealed.append (hdb : db.Sealed prim key replay)
    (hbinding : (replay.states.lookup k.1).all
      (·.toUsageBinding = binding.toUsageBinding) = true)
    (h : db.append prim key
      ⟨db.journalMeta.journalId, replay.count, replay.previous⟩ k
      { binding with
        sequence := replay.count + 1
        before := usageOf replay.states k.1
        after := (usageOf replay.states k.1).charge binding.inputTokens
          binding.outputTokens binding.costMicrousd
        reservedAt := reservedAt
        previousHash := replay.previous } = .ok (result, db')) :
    ∃ replay', db'.Sealed prim key replay' := by
  obtain ⟨row, hrow, -, hinsert, hmeta, new, hnew, haggregate⟩ :=
    UsageJournal.append_eq_ok h
  have hbound : (replay.current k.1 binding.toUsageBinding).toUsageBinding =
      binding.toUsageBinding := by
    rw [UsageReplay.current]
    cases hstate : replay.states.lookup k.1 with
    | none => rfl
    | some state => simpa [hstate] using hbinding
  have husage : (replay.current k.1 binding.toUsageBinding).usage =
      usageOf replay.states k.1 := by
    rw [UsageReplay.current, usageOf]
    cases replay.states.lookup k.1 with
    | none | some state => rfl
  have hturn : verifyReservedEffect prim key replay (k, row) = .ok
      ⟨replay.count + 1, row.entryHash,
        replay.states.insert k.1 new.toAggregateState⟩ := by
    refine verifyReservedEffect_eq_ok.mpr ?_
    subst hrow hnew
    refine ⟨⟨rfl, rfl⟩, ⟨⟨rfl, rfl⟩, rfl⟩, hbound, husage, rfl, ?_⟩
    simp only [hbound]
  have hentries := (Table.insert?_eq_some hinsert).2
  have hold : ∀ old, db.aggregateUsage.get? k.1 = some old →
      ({ new with toUsageBinding := old.toUsageBinding } : AggregateRow) =
        new := by
    intro old hget
    have hstate := hdb.states k.1
    rw [hget, Option.map_some] at hstate
    rw [← hstate, Option.all_some, decide_eq_true_eq] at hbinding
    subst hnew
    simp only [hbinding]
  have hget : ∀ c, db'.aggregateUsage.get? c =
      if c = k.1 then some new else db.aggregateUsage.get? c := by
    intro c
    rw [haggregate, Table.get?_upsert]
    split
    · cases hget : db.aggregateUsage.get? k.1 with
      | none => rfl
      | some old => rw [Option.elim_some, hold old hget]
    · rfl
  refine ⟨⟨replay.count + 1, row.entryHash,
    replay.states.insert k.1 new.toAggregateState⟩, ?_⟩
  exact
    { chain := by
        rw [hentries]
        exact foldlM_concat_eq_ok.mpr ⟨replay, hdb.chain, hturn⟩
      schemaVersion := by rw [hmeta, ← hdb.schemaVersion]
      keyId := by rw [hmeta, ← hdb.keyId]
      metaHmac := by rw [hmeta]; rfl
      headSequence := by rw [hmeta]
      headHash := by rw [hmeta, hrow]
      states := by
        intro c
        rw [hget c, Dict.lookup_insert_ite]
        split
        · rfl
        exact hdb.states c
      rows := by
        intro c stored hstored
        rw [hget c] at hstored
        split at hstored
        · next hc =>
            cases hstored
            rw [hc, hnew]
            exact ⟨rfl, rfl⟩
        · exact hdb.rows c stored hstored }

theorem sealed_reserve (hdb : db.Sealed prim key replay)
    (h : reserve prim digests key db call = .ok (result, db')) :
    ∃ replay', db'.Sealed prim key replay' := by
  obtain ⟨-, reservedAt, c, selected, plan, -, -, -, -, -, h⟩ :=
    reserve_eq_ok.mp h
  rcases hdb.reserveEffect_ok h with ⟨-, -, -, -, rfl⟩ | ⟨hbinding, happend⟩
  · exact ⟨replay, hdb⟩
  · exact hdb.append hbinding happend

theorem sealed_after (hdb : ∃ replay, db.Sealed prim key replay)
    (calls : List ReserveCall) :
    ∃ replay, (db.afterCalls prim digests key calls).Sealed prim key replay := by
  induction calls generalizing db with
  | nil => exact hdb
  | cons call calls ih =>
    refine ih ?_
    rw [UsageJournal.call]
    cases h : reserve prim digests key db call with
    | error err => exact hdb
    | ok answer =>
      obtain ⟨replay, hdb⟩ := hdb
      exact sealed_reserve hdb h

/-! ## Replays -/

theorem effects_kept (calls : List ReserveCall)
    {row : ReservedEffectRow} (hrow : db.reservedEffects.get? k = some row) :
    (db.afterCalls prim digests key calls).reservedEffects.get? k = some row := by
  induction calls generalizing db with
  | nil => exact hrow
  | cons call calls ih =>
    refine ih ?_
    rw [UsageJournal.call]
    cases h : reserve prim digests key db call with
    | error err => exact hrow
    | ok answer =>
      obtain ⟨result, db'⟩ := answer
      obtain ⟨c, -, _, -, -, -, -, -, hchange⟩ := reserve_ok h
      rcases hchange with rfl | hfresh
      · exact hrow
      · exact Table.get?_insert?_of_some hfresh.inserted hrow

/-- A route that `reserve` verified is verified again at any clock within its
validity, and at no other. -/
theorem verifyRouteBinding_again {selected s : SelectedDeployment}
    (h : verifyRouteBinding digests (call.expectation selected) call.now
      call.decision call.request = .ok s) (now : Clock) :
    (∃ s', verifyRouteBinding digests (call.expectation selected) now
        call.decision call.request = .ok s') ↔ call.ValidAt now := by
  rw [verifyRouteBinding, bind_eq_ok] at h
  obtain ⟨current, -, h⟩ := h
  obtain ⟨hevidence, h⟩ := require_bind_eq_ok.mp h
  cases hselected : call.decision.spec.selected with
  | none =>
    rw [hselected] at h
    cases h
  | some chosen =>
    rw [hselected] at h
    obtain ⟨hchecks, -⟩ := require_bind_eq_ok.mp h
    simp only [routeBindingChecks, List.forall_mem_cons, Bool.and_eq_true,
      decide_eq_true_eq] at hchecks
    cases now with
    | naive =>
      simp [verifyRouteBinding, utc, refuse, bind, Except.bind, ReserveCall.ValidAt]
    | aware instant =>
      have hauthority : verifyRouteAuthority (call.expectation selected)
          call.decision call.request instant = .ok () := rfl
      constructor
      · rintro ⟨s', h⟩
        obtain ⟨t, ht, h⟩ := bind_eq_ok.mp h
        cases ht
        obtain ⟨-, h⟩ := rest_ok h
        rw [hselected] at h
        obtain ⟨hagain, -⟩ := require_bind_eq_ok.mp h
        simp only [routeBindingChecks, List.forall_mem_cons,
          Bool.and_eq_true, decide_eq_true_eq] at hagain
        exact ⟨instant, rfl, hagain.2.2.2.2.2.1⟩
      · rintro ⟨t, ht, hvalid⟩
        cases ht
        refine ⟨chosen, bind_eq_ok.mpr ⟨instant, rfl,
          require_bind_eq_ok.mpr ⟨hevidence, ?_⟩⟩⟩
        rw [hselected]
        refine require_bind_eq_ok.mpr ⟨?_, ?_⟩
        · simp only [routeBindingChecks, List.forall_mem_cons,
            Bool.and_eq_true, decide_eq_true_eq]
          obtain ⟨h1, h2, h3, h4, h5, -, h7⟩ := hchecks
          exact ⟨h1, h2, h3, h4, h5, hvalid, h7⟩
        · rw [hauthority]
          rfl

theorem UsageJournal.Sealed.reserve_row (hdb : db.Sealed prim key replay)
    {c : String} {selected : SelectedDeployment} {plan : String}
    (h : db.reserveEffect prim digests key call (c, call.effectId)
      (call.binding selected plan) reservedAt = .ok (result, db')) :
    ∃ row, db'.reservedEffects.get? (c, call.effectId) = some row ∧
      row.toEffectBinding = call.binding selected plan ∧
      row.result (c, call.effectId) true = { result with replayed := true } := by
  rcases hdb.reserveEffect_ok h with ⟨row, hrow, hbinding, rfl, rfl⟩ | ⟨-, h⟩
  · exact ⟨row, hrow, hbinding, rfl⟩
  · obtain ⟨row, hrow, hresult, hinsert, -⟩ := UsageJournal.append_eq_ok h
    refine ⟨row, ?_, ?_, ?_⟩
    · rw [Table.get?_insert? hinsert, if_pos rfl]
    · rw [hrow]
    · rw [hresult]
      rfl

theorem UsageJournal.Sealed.reserveEffect_again (hdb : db.Sealed prim key replay)
    {row : ReservedEffectRow} (hrow : db.reservedEffects.get? k = some row)
    (hbinding : row.toEffectBinding = binding) :
    db.reserveEffect prim digests key call k binding reservedAt =
      .ok (row.result k true, db) := by
  rw [UsageJournal.reserveEffect, hdb.verifyLocked]
  simp only [bind, Except.bind, hrow]
  exact require_bind_eq_ok.mpr ⟨by simp [hbinding], rfl⟩

/-- **An effect that was reserved once.**  The same call, at any clock, on any
sealed journal that still has the row: it answers the first result again and
changes nothing while the route is valid, and raises when it is not. -/
theorem reserve_again {db₀ : UsageJournal}
    {replay₀ : UsageReplay} (hdb₀ : db₀.Sealed prim key replay₀)
    (h : reserve prim digests key db₀ call = .ok (result, db'))
    (hdb : db.Sealed prim key replay)
    (hkept : ∀ k row, db'.reservedEffects.get? k = some row →
      db.reservedEffects.get? k = some row) (now : Clock) :
    (call.ValidAt now → reserve prim digests key db { call with now := now } =
        .ok ({ result with replayed := true }, db)) ∧
      (¬call.ValidAt now → ∃ err,
        reserve prim digests key db { call with now := now } = .error err) := by
  obtain ⟨hargs, reservedAt, c, selected, plan, -, hc, hselected, hplan,
    ⟨s, hs⟩, h⟩ := reserve_eq_ok.mp h
  obtain ⟨row, hrow, hbinding, hresult⟩ := hdb₀.reserve_row h
  constructor
  · intro hvalid
    obtain ⟨instant, rfl, -⟩ := id hvalid
    refine reserve_eq_ok.mpr ⟨hargs, instant, c, selected, plan, rfl, hc,
      hselected, hplan, (verifyRouteBinding_again hs _).mpr hvalid, ?_⟩
    rw [← hresult]
    exact hdb.reserveEffect_again (hkept _ row hrow) hbinding
  · intro hinvalid
    cases hagain : reserve prim digests key db { call with now := now } with
    | error err => exact ⟨err, rfl⟩
    | ok answer =>
      obtain ⟨-, _, _, selected', _, -, -, hselected', -, hs', -⟩ :=
        reserve_eq_ok.mp hagain
      obtain rfl : selected = selected' :=
        Option.some.inj (hselected.symm.trans hselected')
      exact absurd ((verifyRouteBinding_again hs now).mp hs') hinvalid

/-- **The usage journal refines its replay.**  Behind any sequence of reserve
calls the verifier accepts the journal, the aggregate row of a consumer is the
fold of its reserved effects, and a consumer without effects has no row.  A call
that reserved an effect, made again at a clock at which its route is valid,
answers the original result, marked as a replay, and changes nothing; at any
other clock it raises.  A call that raises changes nothing. -/
theorem usage_journal_refines_replay (prim : UsagePrimitives)
    (digests : RouteDigests) (key : JournalKey) (journalId : String)
    (calls : List ReserveCall) :
    let start := newUsageJournal prim key journalId
    let db := start.afterCalls prim digests key calls
    (∃ answer, db.verifyLocked prim key = .ok answer) ∧
    (∀ c row, db.aggregateUsage.get? c = some row →
      row.usage = consumerUsage db.reservedEffects.entries c) ∧
    (∀ c, db.aggregateUsage.get? c = none →
      consumerUsage db.reservedEffects.entries c = {}) ∧
    ForallSplit (fun before call => ∀ result db',
      reserve prim digests key (start.afterCalls prim digests key before) call =
        .ok (result, db') →
      ∀ now, (call.ValidAt now →
          reserve prim digests key db { call with now := now } =
            .ok ({ result with replayed := true }, db)) ∧
        (¬call.ValidAt now → ∃ err,
          reserve prim digests key db { call with now := now } = .error err))
      calls ∧
    (∀ call err, reserve prim digests key db call = .error err →
      db.call prim digests key call = db) := by
  have hnew : ∃ replay, (newUsageJournal prim key journalId).Sealed prim key
      replay := ⟨_, sealed_new journalId⟩
  obtain ⟨replay, hdb⟩ := sealed_after hnew calls
  have husage := verifyLocked_usage hdb.verifyLocked
  refine ⟨⟨_, hdb.verifyLocked⟩, ?_, ?_, ?_, ?_⟩
  · intro c row hrow
    have hstate := hdb.states c
    rw [hrow, Option.map_some] at hstate
    rw [← husage c, usageOf, ← hstate]
    rfl
  · intro c hrow
    have hstate := hdb.states c
    rw [hrow, Option.map_none] at hstate
    rw [← husage c, usageOf, ← hstate]
    rfl
  · rintro before call after rfl result db' h
    obtain ⟨replay₀, hdb₀⟩ := sealed_after hnew before
    refine reserve_again hdb₀ h hdb ?_
    intro k row hrow
    rw [UsageJournal.afterCalls, List.foldl_append, List.foldl_cons]
    refine effects_kept after ?_
    rw [UsageJournal.call]
    simp only [UsageJournal.afterCalls] at h
    rw [h]
    exact hrow
  · intro call err h
    rw [UsageJournal.call, h]

end Laws

/-! ## A replay behind the validity of its route -/

section Sample

def sampleEffect (now : Clock) : ReserveCall where
  decision := sampleRoute
  request := sampleRequest
  consumer := sampleConsumer
  effectId := "effect-1"
  effectDigest := hexDigest 'f'
  inputTokens := 40
  outputTokens := 30
  costMicrousd := 20
  now := now

theorem expired_replay_raises :
    ∃ result db', reserve samplePrimitives.usage samplePrimitives.digests sampleKey
        (newUsageJournal samplePrimitives.usage sampleKey "usage")
        (sampleEffect (.aware 2000)) = .ok (result, db') ∧
      reserve samplePrimitives.usage samplePrimitives.digests sampleKey db'
        (sampleEffect (.aware 60000000)) = .error (.routing "ECO_ROUTE_EXPIRED") := by
  have hok : (reserve samplePrimitives.usage samplePrimitives.digests sampleKey
      (newUsageJournal samplePrimitives.usage sampleKey "usage")
      (sampleEffect (.aware 2000))).isOk = true := by
    simp only [reserve, UsageJournal.reserveEffect, reserveRouteEffect,
      routeConsumerDigest, verifyRouteBinding, sampleEffect, sampleEvidence_valid]
    rfl
  cases h : reserve samplePrimitives.usage samplePrimitives.digests sampleKey
      (newUsageJournal samplePrimitives.usage sampleKey "usage")
      (sampleEffect (.aware 2000)) with
  | error err =>
    rw [h] at hok
    cases hok
  | ok answer =>
    refine ⟨answer.1, answer.2, rfl, ?_⟩
    simp only [reserve, routeConsumerDigest, verifyRouteBinding, sampleEffect,
      sampleEvidence_valid]
    rfl

end Sample

end Ecosystem.Routing
