import Ecosystem.Store.Inversions
import Ecosystem.Store.Ledger

/-!
# The budgets of a reachable store

Every committed transaction makes at most one move on the ledger (`exec_ledger`), so the
ledger of a reachable store is sound, and what an operation holds can be settled.
-/

namespace Ecosystem.Store

open Ecosystem.Lib Ecosystem.Runtime

section Transactions

variable {cfg : StoreConfig} {db db' : Db} {tx : String} {now : Instant}
  {answer : Answer}

/-! ## Helpers that make no move -/

variable {runId : String} {cap : Capability} {at' : Stamp} {plan : RunPlan}
  {decision : PolicyDecision} {operationId : String} {requestId : String}

theorem appendGeneratedEvent_ledger {e : GeneratedEvent}
    (h : db.appendGeneratedEvent cfg runId e cap now tx = .ok db') :
    db'.tables.ledger = db.tables.ledger := by
  obtain ⟨run, replay, next, row, -, -, rfl⟩ := appendGeneratedEvent_ok h
  refine Ledger.ext ?_ rfl rfl rfl rfl rfl
  funext id
  simp only [Tables.ledger, tables_withRevision, tables_afterEvent,
    Tables.afterEvent, Table.get?_modify]
  split
  · cases db.tables.runs.get? id <;> rfl
  · rfl

theorem recordAuthorityRevisions_ledger {entities : List (EntityType × String)}
    (h : db.recordAuthorityRevisions cfg entities tx at' = .ok db') :
    db'.tables.ledger = db.tables.ledger :=
  congrArg Tables.ledger (recordAuthorityRevisions_tables h)

theorem recordAuthorityRevision_ledger {type : EntityType} {id : String}
    (h : db.recordAuthorityRevision cfg type id tx at' = .ok db') :
    db'.tables.ledger = db.tables.ledger := by
  obtain ⟨row, -, rfl⟩ := recordAuthorityRevision_ok h
  rfl

theorem withRun_ledger {runId digest source : String} {state : RunState}
    {complete : Bool} (free : db.tables.runs.get? runId = none) :
    (db.withRun cfg runId digest state at' complete source).tables.ledger =
      db.tables.ledger := by
  refine Ledger.ext ?_ rfl rfl rfl rfl rfl
  funext id
  simp only [Tables.ledger, Db.withRun, Table.get?_insert free]
  split
  · next hid =>
      rw [hid, free]
      rfl
  · rfl

theorem ensurePlan_ledger {inserted : Bool}
    (h : db.ensurePlan cfg plan = .ok (db', inserted)) :
    db'.tables.ledger = db.tables.ledger := by
  cases ensurePlan_ok h <;> rfl

theorem appendPlanCreated_ledger {run : RunRow} {cap : Option Capability}
    (h : db.appendPlanCreated cfg plan run cap tx = .ok db') :
    db'.tables.ledger = db.tables.ledger := by
  unfold Db.appendPlanCreated at h
  split at h
  · obtain ⟨now, h⟩ := rest_ok h
    exact appendGeneratedEvent_ledger h
  · cases h
    rfl

/-! ## Runs and plans -/

theorem startRun_ledger {request : RunRequest}
    (h : db.startRun cfg runId request cap tx = .ok (db', answer)) :
    db'.tables.ledger = db.tables.ledger := by
  obtain ⟨now, db₁, db₂, -, -, free, recorded, -, revised, event⟩ := startRun_ok h
  have htables := recordNew_tables recorded
  rw [← htables] at free
  rw [appendGeneratedEvent_ledger event, recordAuthorityRevision_ledger revised,
    withRun_ledger free, htables]

theorem issuePlan_ledger {runtimeCap : Option Capability}
    (h : db.issuePlan cfg plan decision cap runtimeCap tx = .ok (db', answer)) :
    db'.tables.ledger = db.tables.ledger := by
  obtain ⟨db₁, -, -, recorded, hissued⟩ := issuePlan_ok h
  rw [← congrArg Tables.ledger (recordIfNew_tables recorded)]
  cases hissued with
  | first db₂ db₃ inserted unknown baseline planned issued revised =>
    rw [recordAuthorityRevisions_ledger revised, issueDecision_tables issued,
      ensurePlan_ledger planned, withRun_ledger unknown]
  | further run cap db₂ db₃ db₄ inserted known request awaiting planned issued
      created revised =>
    rw [recordAuthorityRevisions_ledger revised, appendPlanCreated_ledger created,
      issueDecision_tables issued, ensurePlan_ledger planned]

theorem denyPlan_ledger {nonce : String}
    (h : db.denyPlan cfg plan decision nonce now cap tx = .ok (db', answer)) :
    db'.tables.ledger = db.tables.ledger := by
  obtain ⟨run, db₁, db₂, db₃, -, -, -, -, issued, consumed, denied, revised⟩ :=
    denyPlan_ok h
  rw [recordAuthorityRevision_ledger revised, appendGeneratedEvent_ledger denied,
    ← issueDecision_tables issued, ← consumeDecision_tables consumed]
  rfl

theorem createTerminalCheckpoint_ledger
    (h : db.createTerminalCheckpoint cfg runId now cap tx = .ok (db', answer)) :
    db'.tables.ledger = db.tables.ledger := by
  rcases createTerminalCheckpoint_ok h with
    rfl | ⟨checkpoint, row, db₁, -, recorded, revised, -⟩
  · rfl
  · rw [recordAuthorityRevision_ledger revised, ← recordNew_tables recorded]
    rfl

theorem rotateAuditKey_ledger {transition : RotationTransition}
    (h : db.rotateAuditKey cfg transition now tx = .ok (db', answer)) :
    db'.tables.ledger = db.tables.ledger := by
  obtain ⟨rotation, rfl⟩ := rotateAuditKey_ok h
  rfl

theorem activatePlan_ledger {nonce : String}
    (h : db.activatePlan cfg plan decision nonce now cap tx = .ok (db', answer)) :
    db'.tables.ledger = db.tables.ledger ∨ db.tables.ledger.Move cfg db'.tables.ledger := by
  obtain ⟨planRow, -, -, -, fits, -, -, -, hactivated⟩ := activatePlan_ok h
  cases hactivated with
  | again run known active digest consumed =>
    exact .inl (congrArg Tables.ledger (consumeDecision_tables consumed))
  | first deadline cap run db₁ db₂ known inactive consumed budget allowed revised =>
    have htables := consumeDecision_tables consumed
    rw [← htables] at known ⊢
    rw [recordAuthorityRevisions_ledger revised, appendGeneratedEvent_ledger allowed]
    refine .inr ?_
    have hmove : (db₁.withActivation cfg plan now deadline).tables.ledger =
        { db₁.tables.ledger with
          active := Function.update db₁.tables.ledger.active plan.metadata.runId
            (some (plan.metadata.id, some (cfg.recordDigest (.runPlan plan))))
          budgets := (db₁.withActivation cfg plan now deadline).tables.budgets } := by
      refine Ledger.ext ?_ rfl rfl rfl rfl rfl
      funext id
      simp only [Tables.ledger, Db.withActivation, Table.get?_modify, Function.update_apply]
      split
      · next hid =>
          rw [hid, known]
          rfl
      · rfl
    rw [hmove]
    refine .activate plan _ budget ?_
    exact ⟨rfl, rfl, rfl, fits, rfl, rfl, rfl, rfl, rfl, rfl⟩

/-! ## Reads -/

theorem withSettledOperation_ledger {state : OperationState}
    {receipt artifact error : Option String} {outcome : String} :
    (db.withSettledOperation operationId state receipt artifact error outcome
      now).tables.ledger = db.tables.ledger := by
  refine Ledger.ext rfl rfl ?_ rfl rfl rfl
  funext id
  simp only [Tables.ledger, Db.withSettledOperation, Table.get?_modify]
  split
  · cases db.tables.operations.get? id <;> rfl
  · rfl

theorem readRun_eq {operation : OperationRow}
    {reservation : ReservationRow} (hsound : db.tables.ledger.Sound cfg)
    (there : db.tables.operations.get? operationId = some operation)
    (reserved : db.tables.reservations.get? operationId = some reservation) :
    operation.runId = reservation.runId := by
  have := hsound.readRun operationId
  simp only [Tables.ledger, there, reserved, Option.map_some] at this
  exact Option.some.inj this

theorem readOpened_move {r : ReadRequest} (h : ReadOpened cfg db r now tx db') :
    db.tables.ledger.Move cfg db'.tables.ledger := by
  cases h with
  | intro entry lease run policyCap runtimeCap db₁ db₂ db₃ db₄ db₅ db₆ checked known
      active running fresh issued consumed reserved recorded freeOperation
      freeReservation requested allowed revised =>
    have hbefore : db₂.tables = db.tables := by
      rw [consumeDecision_tables consumed, issueDecision_tables issued]
    rw [recordAuthorityRevisions_ledger revised, appendGeneratedEvent_ledger allowed,
      appendGeneratedEvent_ledger requested]
    obtain ⟨b, hb, hroom, rfl⟩ := updateBudget_ok reserved
    have hafter := recordNew_tables recorded
    rw [hafter] at freeOperation freeReservation
    rw [hbefore] at hb
    simp only [hbefore] at freeOperation freeReservation hafter
    simp only [Bool.and_eq_true, decide_eq_true_eq] at hroom
    have hmove : (db₄.withOperation cfg r entry.byteLength lease now).tables.ledger =
        { db.tables.ledger with
          budgets := db.tables.budgets.modify r.runId fun b => { b with
            toolRequests := b.toolRequests + 1
            reservedInputBytes := b.reservedInputBytes + entry.byteLength
            updatedAt := utc now }
          readRun := Function.update db.tables.ledger.readRun r.operationId
            (some r.runId)
          reservations := db.tables.reservations.insert r.operationId
            { runId := r.runId
              planDigest := r.planDigest cfg
              reservedInputBytes := entry.byteLength
              createdAt := utc now
              updatedAt := utc now } } := by
      simp only [Db.withOperation, hafter]
      refine Ledger.ext rfl rfl ?_ rfl rfl rfl
      funext id
      simp only [Tables.ledger, Table.get?_insert freeOperation, Function.update_apply]
      split <;> rfl
    rw [hmove]
    exact .reserveRead r.operationId
      { runId := r.runId
        planDigest := r.planDigest cfg
        reservedInputBytes := entry.byteLength
        createdAt := utc now
        updatedAt := utc now } b (utc now) hb freeReservation rfl hroom.1.2 hroom.2

theorem readReleased_move (hsound : db.tables.ledger.Sound cfg)
    (h : ReadReleased cfg db operationId now tx db') :
    db.tables.ledger.Move cfg db'.tables.ledger := by
  cases h with
  | intro operation reservation intent error outcome cap db₁ db₂ db₃ db₄ there
      prepared loaded reserved unsettled errorRecorded outcomeRecorded released
      failed revised =>
    have hbefore : db₂.tables = db.tables := by
      rw [recordNew_tables outcomeRecorded, recordNew_tables errorRecorded]
    rw [recordAuthorityRevisions_ledger revised, appendGeneratedEvent_ledger failed,
      tables_withNonceResult, withSettledOperation_ledger]
    obtain ⟨b, -, -, rfl⟩ := updateBudget_ok released
    rw [readRun_eq hsound there reserved, hbefore]
    exact .releaseRead operationId reservation (utc now) reserved unsettled

theorem readCommitted_move (hsound : db.tables.ledger.Sound cfg)
    (h : ReadCommitted cfg db operationId now tx db') :
    db.tables.ledger.Move cfg db'.tables.ledger := by
  cases h with
  | intro operation reservation intent result cap db₁ db₂ db₃ db₄ db₅ db₆ there
      prepared loaded bound reserved unsettled bytes receiptRecorded
      artifactRecorded outcomeRecorded committed completed artifact revised =>
    have hbefore : db₃.tables = db.tables := by
      rw [recordNew_tables outcomeRecorded, recordNew_tables artifactRecorded,
        recordNew_tables receiptRecorded]
    rw [recordAuthorityRevisions_ledger revised, appendGeneratedEvent_ledger artifact,
      appendGeneratedEvent_ledger completed, tables_withNonceResult,
      withSettledOperation_ledger]
    obtain ⟨b, -, -, rfl⟩ := updateBudget_ok committed
    rw [readRun_eq hsound there reserved, hbefore, ← bytes]
    exact .commitRead operationId reservation (utc now) reserved unsettled

/-! ## Model invocations -/

theorem withStartedModel_ledger {resume : Option String} :
    (db.withStartedModel requestId resume now).tables.ledger = db.tables.ledger := by
  refine Ledger.ext rfl rfl rfl rfl ?_ rfl
  funext id
  simp only [Tables.ledger, Db.withStartedModel, Table.get?_modify]
  split
  · cases db.tables.modelOperations.get? id <;> rfl
  · rfl

theorem withFailedModel_ledger {requestId digest : String} {state : ModelState} :
    (db.withFailedModel requestId state digest now).tables.ledger = db.tables.ledger := by
  refine Ledger.ext rfl rfl rfl rfl ?_ rfl
  funext id
  simp only [Tables.ledger, Db.withFailedModel, Table.get?_modify]
  split
  · cases db.tables.modelOperations.get? id <;> rfl
  · rfl

theorem withSucceededModel_ledger {r : InvocationResult} :
    (db.withSucceededModel cfg requestId r now).tables.ledger = db.tables.ledger := by
  refine Ledger.ext rfl rfl rfl rfl ?_ rfl
  funext id
  simp only [Tables.ledger, Db.withSucceededModel, Table.get?_modify]
  split
  · cases db.tables.modelOperations.get? id <;> rfl
  · rfl

theorem modelRun_eq {operation : ModelOperationRow}
    {reservation : ModelReservationRow} (hsound : db.tables.ledger.Sound cfg)
    (there : db.tables.modelOperations.get? requestId = some operation)
    (reserved : db.tables.modelReservations.get? requestId = some reservation) :
    operation.runId = reservation.runId := by
  have := hsound.modelRun requestId
  simp only [Tables.ledger, there, reserved, Option.map_some] at this
  exact Option.some.inj this

theorem outstanding_eq (t : Tables) (runId : String) (amount : ModelReservationRow → ℕ) :
    t.outstanding runId amount =
      t.ledger.models runId (ModelReservationRow.held amount) := by
  rw [Tables.outstanding, Ledger.models]
  congr 1
  funext _ row
  by_cases hrun : row.runId = runId <;>
    simp only [hrun, true_and, false_and, if_true, if_false, ModelReservationRow.held]

theorem modelOpened_move {r : InvocationRequest} {key : String} {cost : ℕ}
    (h : ModelOpened cfg db r key cost now tx db') :
    db.tables.ledger.Move cfg db'.tables.ledger := by
  cases h with
  | intro proof validity run budget db₁ db₂ db₃ db₄ db₅ db₆ checked valid fresh known
      running active budgeted room issued consumed endpoint artifact request counted
      freeOperation freeReservation revised =>
    have hbefore : db₅.tables = db.tables := by
      rw [recordIfNew_tables request, recordIfNew_tables artifact,
        recordIfNew_tables endpoint, consumeDecision_tables consumed,
        issueDecision_tables issued]
    rw [recordAuthorityRevisions_ledger revised]
    obtain ⟨b, hb, -, rfl⟩ := updateBudget_ok counted
    rw [hbefore] at hb
    simp only [hbefore] at freeOperation freeReservation
    simp only [Tables.modelRoom, outstanding_eq, Bool.and_eq_true,
      decide_eq_true_eq] at room
    refine (Ledger.Move.openModel (l := db.tables.ledger) r.requestId
      { runId := r.runId
        planDigest := r.planDigest cfg
        reservedOutputBytes := r.reservedOutputBytes
        reservedTotalTokens := r.reservedTotalTokens
        reservedCostMicrousd := cost
        createdAt := utc now
        updatedAt := utc now } budget (utc now) budgeted freeReservation rfl
        room.1.1.1.2 room.1.1.2 room.1.2 room.2).congr ?_
    simp only [Db.withModelOperation, hbefore]
    refine Ledger.ext rfl rfl rfl rfl ?_ rfl
    funext id
    simp only [Tables.ledger, Table.get?_insert freeOperation, Function.update_apply]
    split <;> rfl

theorem modelAborted_move (h : ModelAborted cfg db requestId now tx answer db') :
    db.tables.ledger.Move cfg db'.tables.ledger := by
  cases h with
  | intro operation row reservation error db₁ there prepared reserved unsettled
      recorded revised read answered =>
    have hbefore := recordIfNew_tables recorded
    rw [recordAuthorityRevisions_ledger revised, tables_withNonceResult,
      withFailedModel_ledger, Db.withModelReservation, hbefore]
    refine .waiveModel requestId reservation (·.waived now) reserved unsettled ?_
    exact ⟨rfl, (fun h => nomatch h), rfl, rfl, rfl, Nat.zero_le _, Nat.zero_le _,
      Nat.zero_le _⟩

theorem modelForfeited_move {state : ModelState} (hsound : db.tables.ledger.Sound cfg)
    (h : ModelForfeited cfg db requestId state now tx answer db') :
    db.tables.ledger.Move cfg db'.tables.ledger := by
  cases h with
  | intro operation row reservation error err cap db₁ db₂ db₃ there started reserved
      unsettled recorded charged event revised read answered =>
    have hbefore := recordIfNew_tables recorded
    rw [recordAuthorityRevisions_ledger revised, appendGeneratedEvent_ledger event,
      tables_withNonceResult, withFailedModel_ledger]
    obtain ⟨b, -, -, rfl⟩ := updateBudget_ok charged
    rw [modelRun_eq hsound there reserved, Db.withModelReservation, hbefore]
    refine .settleModel requestId reservation (·.forfeited now) 0
      reservation.reservedTotalTokens reservation.reservedCostMicrousd (utc now)
      reserved unsettled ?_
    exact ⟨rfl, (fun h => nomatch h), rfl, rfl, rfl, Nat.zero_le _, le_rfl, le_rfl⟩

theorem modelCommitted_move {r : InvocationResult} (hsound : db.tables.ledger.Sound cfg)
    (h : ModelCommitted cfg db requestId r now tx answer db') :
    db.tables.ledger.Move cfg db'.tables.ledger := by
  cases h with
  | intro operation row reservation cap db₁ db₂ db₃ db₄ db₅ db₆ there started active
      authorized reserved unsettled bytes resultRecorded artifactRecorded issued
      consumed charged event revised read answered =>
    have hbefore : db₄.tables = db.tables := by
      rw [consumeDecision_tables consumed, issueDecision_tables issued,
        recordIfNew_tables artifactRecorded, recordIfNew_tables resultRecorded]
    rw [recordAuthorityRevisions_ledger revised, appendGeneratedEvent_ledger event,
      tables_withNonceResult, withSucceededModel_ledger]
    obtain ⟨b, -, -, rfl⟩ := updateBudget_ok charged
    rw [modelRun_eq hsound there reserved, Db.withModelReservation, hbefore]
    refine .settleModel requestId reservation
      (·.paid r reservation.reservedTotalTokens now) r.result.output.byteLength
      reservation.reservedTotalTokens reservation.reservedCostMicrousd (utc now)
      reserved unsettled ?_
    exact ⟨rfl, (fun h => nomatch h), rfl, rfl, rfl, bytes, le_rfl, le_rfl⟩

/-! ## Every transaction -/

/-- **The step lemma.**  A committed transaction makes at most one move. -/
theorem exec_ledger {call : Call} (hsound : db.tables.ledger.Sound cfg)
    (h : Call.exec cfg db call = .ok (db', answer)) :
    db'.tables.ledger = db.tables.ledger ∨ db.tables.ledger.Move cfg db'.tables.ledger := by
  cases call with
  | putRecord record tx =>
    exact .inl (congrArg Tables.ledger (recordIfNew_tables (putRecord_ok h).2))
  | startRun runId request cap tx => exact .inl (startRun_ledger h)
  | validateRun runId now cap tx =>
    rcases validateRun_ok h with rfl | ⟨run, request, -, -, hevent⟩
    · exact .inl rfl
    · exact .inl (appendGeneratedEvent_ledger hevent)
  | issuePlan plan decision cap runtimeCap tx => exact .inl (issuePlan_ledger h)
  | activatePlan plan decision nonce now cap tx => exact activatePlan_ledger h
  | denyPlan plan decision nonce now cap tx => exact .inl (denyPlan_ledger h)
  | adapterEvent event runId now cap tx =>
    exact .inl (appendGeneratedEvent_ledger (adapterEvent_ok h))
  | finishRun runId outcome now cap tx =>
    exact .inl (appendGeneratedEvent_ledger (finishRun_ok h).2)
  | createTerminalCheckpoint runId now cap tx =>
    exact .inl (createTerminalCheckpoint_ledger h)
  | issueDecision decision digest cap tx =>
    exact .inl (congrArg Tables.ledger
      (issueDecision_tables (issueDecisionCall_ok h)))
  | consumeDecision decision subject nonce now digest cap tx =>
    exact .inl (congrArg Tables.ledger
      (consumeDecision_tables (consumeDecisionCall_ok h).2.2))
  | rotateAuditKey transition now tx => exact .inl (rotateAuditKey_ledger h)
  | prepareRepositoryRead r ownerId leaseSeconds now policyCap brokerCap runtimeCap tx
      token =>
    rcases prepareRepositoryRead_ok h with rfl | hopened
    · exact .inl rfl
    · exact .inr (readOpened_move hopened)
  | claimOperation operationId ownerId leaseSeconds cap =>
    rw [claimOperation_ok h]
    exact .inl rfl
  | abortExpiredOperation operationId now cap epoch tx =>
    rcases abortExpiredOperation_ok h with rfl | hreleased
    · exact .inl rfl
    · exact .inr (readReleased_move hsound hreleased)
  | completeRepositoryRead operationId token result proof now cap tx =>
    rcases completeRepositoryRead_ok h with rfl | hcommitted
    · exact .inl rfl
    · exact .inr (readCommitted_move hsound hcommitted)
  | failRepositoryRead operationId token error outcome now cap tx =>
    rcases failRepositoryRead_ok h with rfl | hreleased
    · exact .inl rfl
    · exact .inr (readReleased_move hsound hreleased)
  | prepareModelInvocation r proof key cost now policyCap runtimeCap adapterCap tx =>
    rcases prepareModelInvocation_ok h with ⟨rfl, -⟩ | ⟨hopened, -⟩
    · exact .inl rfl
    · exact .inr (modelOpened_move hopened)
  | startModelInvocation requestId now cap tx =>
    rcases startModelInvocation_ok h with ⟨rfl, -⟩ | hstarted
    · exact .inl rfl
    · cases hstarted with
      | intro operation row there prepared live revised read answered =>
        exact .inl ((recordAuthorityRevisions_ledger revised).trans
          withStartedModel_ledger)
  | resumePreparedModelInvocation request decision now policyCap adapterCap tx =>
    rcases resumePreparedModelInvocation_ok h with ⟨rfl, -⟩ | hresumed
    · exact .inl rfl
    · cases hresumed with
      | intro operation row db₁ db₂ there prepared sameRequest sameRun allows subject
          live issued consumed revised read answered =>
        refine .inl ?_
        rw [recordAuthorityRevisions_ledger revised, withStartedModel_ledger,
          consumeDecision_tables consumed, issueDecision_tables issued]
  | abortPreparedModelInvocation request reason now cap tx =>
    rcases abortPreparedModelInvocation_ok h with ⟨rfl, -⟩ | haborted
    · exact .inl rfl
    · exact .inr (modelAborted_move haborted)
  | completeModelInvocation requestId r proof now cap tx =>
    rcases completeModelInvocation_ok h with ⟨rfl, -⟩ | hcommitted
    · exact .inl rfl
    · exact .inr (modelCommitted_move hsound hcommitted)
  | failModelInvocation requestId error now cap tx =>
    rcases failModelInvocation_ok h with ⟨rfl, -⟩ | hforfeited
    · exact .inl rfl
    · exact .inr (modelForfeited_move hsound hforfeited)
  | resolveAmbiguousModelInvocation requestId observed now runtimeCap adapterCap tx =>
    rcases resolveAmbiguousModelInvocation_ok h with ⟨rfl, -⟩ | hforfeited
    · exact .inl rfl
    · exact .inr (modelForfeited_move hsound hforfeited)

end Transactions

/-! ## Every run -/

section Runs

variable {cfg : StoreConfig}

theorem sound_new (keyId : String) : (Db.new keyId).tables.ledger.Sound cfg where
  active _ h := nomatch h
  readBudget _ _ h := nomatch h
  modelBudget _ _ h := nomatch h
  readRun _ := rfl
  modelRun _ := rfl
  rows _ _ h := nomatch h

/-- **The run lemma.**  The ledger of a reachable store is sound. -/
theorem ledger_sound (keyId : String) (calls : List Call) :
    (storeAfter cfg keyId calls).tables.ledger.Sound cfg := by
  refine storeAfter_induction cfg (P := fun db => db.tables.ledger.Sound cfg)
    (sound_new keyId) ?step calls
  case step =>
    intro db call db' answer hsound h
    rcases exec_ledger hsound h with hsame | hmove
    · rw [hsame]
      exact hsound
    · exact hsound.move hmove

end Runs

/-! ## What is held can be settled -/

namespace Ledger

variable {cfg : StoreConfig} {l : Ledger} {id : String}

/-- The bytes of a read are still in the budget, and there is room to spend
them. -/
theorem Sound.spendable {row : ReservationRow} (h : l.Sound cfg)
    (there : l.reservations.get? id = some row) (state : row.state = .reserved) :
    ∃ b, l.budgets.get? row.runId = some b ∧ row.reservedInputBytes ≤ b.reservedInputBytes ∧
      b.inputBytes + row.reservedInputBytes ≤ b.limits.maxInputBytes := by
  obtain ⟨b, hb⟩ := Option.isSome_iff_exists.mp (h.readBudget id row there)
  obtain ⟨plan, hrow⟩ := h.rows _ b hb
  have hheld := @Ledger.le_reads _ _ _ (·.held) there
  rw [show row.held = row.reservedInputBytes from if_pos state,
    ← hrow.balanced.reserved] at hheld
  have := hrow.within.input
  exact ⟨b, hb, hheld, by omega⟩

theorem Sound.chargeable {row : ModelReservationRow} (h : l.Sound cfg)
    (there : l.modelReservations.get? id = some row) (state : row.state = .reserved) :
    ∃ b, l.budgets.get? row.runId = some b ∧
      b.outputBytes + row.reservedOutputBytes ≤ b.limits.maxOutputBytes ∧
      b.totalTokens + row.reservedTotalTokens ≤ b.limits.maxTotalTokens ∧
      b.costMicrousd + row.reservedCostMicrousd ≤ b.limits.maxCostMicrousd := by
  obtain ⟨b, hb⟩ := Option.isSome_iff_exists.mp (h.modelBudget id row there)
  obtain ⟨plan, hrow⟩ := h.rows _ b hb
  have hheld : ∀ amount : ModelReservationRow → ℕ,
      amount row ≤ l.models row.runId (ModelReservationRow.held amount) := by
    intro amount
    have := @Ledger.le_models _ _ _ (ModelReservationRow.held amount) there
    rwa [show ModelReservationRow.held amount row = amount row from
      if_pos state] at this
  have := hrow.within.output
  have := hrow.within.tokens
  have := hrow.within.cost
  have := hheld (·.reservedOutputBytes)
  have := hheld (·.reservedTotalTokens)
  have := hheld (·.reservedCostMicrousd)
  exact ⟨b, hb, by omega, by omega, by omega⟩

end Ledger

end Ecosystem.Store
