import Ecosystem.Store.Orchestrator

/-!
# Egress happens at most once

`ModelStep` says what one transaction can do to one model operation and its reservation.
For the system of executions the log is the witness: an operation enters `started` at
most once, and a worker about to call the transport has just moved it there itself.
-/

namespace Ecosystem.Store

open Ecosystem.Lib Ecosystem.Runtime

/-! ## One transaction -/

def Tables.models (t : Tables) :
    Table String ModelOperationRow × Table String ModelReservationRow :=
  (t.modelOperations, t.modelReservations)

def Tables.model (t : Tables) (id : String) :
    Option ModelOperationRow × Option ModelReservationRow :=
  (t.modelOperations.get? id, t.modelReservations.get? id)

/-- What a transaction does to one operation. -/
inductive ModelStep :
    Option ModelOperationRow × Option ModelReservationRow →
      Option ModelOperationRow × Option ModelReservationRow → Prop
  | same (pair) : ModelStep pair pair
  | opened (row : ModelOperationRow) (reservation : ModelReservationRow)
      (prepared : row.state = .prepared) (unstarted : row.startedAt = none) :
      ModelStep (none, none) (some row, some reservation)
  | started (row row' : ModelOperationRow) (reservation)
      (before : row.state = .prepared) (after : row'.state = .started)
      (stamped : row'.startedAt.isSome = true) :
      ModelStep (some row, reservation) (some row', reservation)
  | settled (row row' : ModelOperationRow)
      (reservation reservation' : ModelReservationRow)
      (before : row.state = .started) (after : row'.state.isOpen = false)
      (stamp : row'.startedAt = row.startedAt) :
      ModelStep (some row, some reservation) (some row', some reservation')
  | aborted (row row' : ModelOperationRow) (reservation : ModelReservationRow)
      (now : Instant) (before : row.state = .prepared)
      (after : row'.state = .failed) (stamp : row'.startedAt = row.startedAt) :
      ModelStep (some row, some reservation)
        (some row', some (reservation.waived now))

section Transactions

variable {cfg : StoreConfig} {db db' : Db} {tx : String} {now : Instant}
  {answer : Answer}

variable {runId : String} {cap : Capability} {plan : RunPlan} {decision : PolicyDecision}
  {requestId : String}

theorem appendGeneratedEvent_models {e : GeneratedEvent}
    (h : db.appendGeneratedEvent cfg runId e cap now tx = .ok db') :
    db'.tables.models = db.tables.models := by
  obtain ⟨run, replay, next, row, -, -, rfl⟩ := appendGeneratedEvent_ok h
  rfl

theorem updateBudget_models {allowed : BudgetRow → Bool}
    {f : BudgetRow → BudgetRow} {err : StoreError}
    (h : db.updateBudget runId allowed f err = .ok db') :
    db'.tables.models = db.tables.models := by
  obtain ⟨b, -, -, rfl⟩ := updateBudget_ok h
  rfl

theorem recordAuthorityRevisions_models {entities : List (EntityType × String)}
    {at' : Stamp} (h : db.recordAuthorityRevisions cfg entities tx at' = .ok db') :
    db'.tables.models = db.tables.models :=
  congrArg Tables.models (recordAuthorityRevisions_tables h)

theorem recordAuthorityRevision_models {type : EntityType} {id : String}
    {at' : Stamp} (h : db.recordAuthorityRevision cfg type id tx at' = .ok db') :
    db'.tables.models = db.tables.models := by
  obtain ⟨row, -, rfl⟩ := recordAuthorityRevision_ok h
  rfl

/-! ### Transactions that touch no model operation -/

theorem startRun_models {request : RunRequest}
    (h : db.startRun cfg runId request cap tx = .ok (db', answer)) :
    db'.tables.models = db.tables.models := by
  obtain ⟨now, db₁, db₂, -, -, -, recorded, -, revised, event⟩ := startRun_ok h
  rw [appendGeneratedEvent_models event, recordAuthorityRevision_models revised,
    ← recordNew_tables recorded]
  rfl

theorem ensurePlan_models {inserted : Bool}
    (h : db.ensurePlan cfg plan = .ok (db', inserted)) :
    db'.tables.models = db.tables.models := by
  cases ensurePlan_ok h <;> rfl

theorem appendPlanCreated_models {run : RunRow} {cap : Option Capability}
    (h : db.appendPlanCreated cfg plan run cap tx = .ok db') :
    db'.tables.models = db.tables.models := by
  unfold Db.appendPlanCreated at h
  split at h
  · obtain ⟨now, h⟩ := rest_ok h
    exact appendGeneratedEvent_models h
  · cases h
    rfl

theorem issuePlan_models {runtimeCap : Option Capability}
    (h : db.issuePlan cfg plan decision cap runtimeCap tx = .ok (db', answer)) :
    db'.tables.models = db.tables.models := by
  obtain ⟨db₁, -, -, recorded, hissued⟩ := issuePlan_ok h
  rw [← congrArg Tables.models (recordIfNew_tables recorded)]
  cases hissued with
  | first db₂ db₃ inserted unknown baseline planned issued revised =>
    rw [recordAuthorityRevisions_models revised, issueDecision_tables issued,
      ensurePlan_models planned]
    rfl
  | further run cap db₂ db₃ db₄ inserted known request awaiting planned issued
      created revised =>
    rw [recordAuthorityRevisions_models revised, appendPlanCreated_models created,
      issueDecision_tables issued, ensurePlan_models planned]

theorem activatePlan_models {nonce : String}
    (h : db.activatePlan cfg plan decision nonce now cap tx = .ok (db', answer)) :
    db'.tables.models = db.tables.models := by
  obtain ⟨planRow, -, -, -, -, -, -, -, hactivated⟩ := activatePlan_ok h
  cases hactivated with
  | first deadline cap run db₁ db₂ known inactive consumed budget allowed revised =>
    rw [recordAuthorityRevisions_models revised, appendGeneratedEvent_models allowed,
      ← consumeDecision_tables consumed]
    rfl
  | again run known active digest consumed =>
    rw [consumeDecision_tables consumed]

theorem denyPlan_models {nonce : String}
    (h : db.denyPlan cfg plan decision nonce now cap tx = .ok (db', answer)) :
    db'.tables.models = db.tables.models := by
  obtain ⟨run, db₁, db₂, db₃, -, -, -, -, issued, consumed, denied, revised⟩ :=
    denyPlan_ok h
  rw [recordAuthorityRevision_models revised, appendGeneratedEvent_models denied,
    ← issueDecision_tables issued, ← consumeDecision_tables consumed]
  rfl

theorem createTerminalCheckpoint_models
    (h : db.createTerminalCheckpoint cfg runId now cap tx = .ok (db', answer)) :
    db'.tables.models = db.tables.models := by
  rcases createTerminalCheckpoint_ok h with
    rfl | ⟨checkpoint, row, db₁, -, recorded, revised, -⟩
  · rfl
  · rw [recordAuthorityRevision_models revised, ← recordNew_tables recorded]
    rfl

theorem rotateAuditKey_models {transition : RotationTransition}
    (h : db.rotateAuditKey cfg transition now tx = .ok (db', answer)) :
    db'.tables.models = db.tables.models := by
  obtain ⟨rotation, rfl⟩ := rotateAuditKey_ok h
  rfl

theorem readOpened_models {r : ReadRequest} (h : ReadOpened cfg db r now tx db') :
    db'.tables.models = db.tables.models := by
  cases h with
  | intro entry lease run policyCap runtimeCap db₁ db₂ db₃ db₄ db₅ db₆ checked known
      active running fresh issued consumed reserved recorded freeOperation
      freeReservation requested allowed revised =>
    rw [recordAuthorityRevisions_models revised, appendGeneratedEvent_models allowed,
      appendGeneratedEvent_models requested]
    change db₄.tables.models = db.tables.models
    rw [recordNew_tables recorded, updateBudget_models reserved,
      consumeDecision_tables consumed, issueDecision_tables issued]

theorem readReleased_models {operationId : String}
    (h : ReadReleased cfg db operationId now tx db') :
    db'.tables.models = db.tables.models := by
  cases h with
  | intro operation reservation intent error outcome cap db₁ db₂ db₃ db₄ there
      prepared loaded reserved unsettled errorRecorded outcomeRecorded released
      failed revised =>
    rw [recordAuthorityRevisions_models revised, appendGeneratedEvent_models failed]
    change db₃.tables.models = db.tables.models
    rw [updateBudget_models released, recordNew_tables outcomeRecorded,
      recordNew_tables errorRecorded]

theorem readCommitted_models {operationId : String}
    (h : ReadCommitted cfg db operationId now tx db') :
    db'.tables.models = db.tables.models := by
  cases h with
  | intro operation reservation intent result cap db₁ db₂ db₃ db₄ db₅ db₆ there
      prepared loaded bound reserved unsettled bytes receiptRecorded
      artifactRecorded outcomeRecorded committed completed artifact revised =>
    rw [recordAuthorityRevisions_models revised, appendGeneratedEvent_models artifact,
      appendGeneratedEvent_models completed]
    change db₄.tables.models = db.tables.models
    rw [updateBudget_models committed, recordNew_tables outcomeRecorded,
      recordNew_tables artifactRecorded, recordNew_tables receiptRecorded]

/-! ### Transactions on a model operation -/

theorem modelStep_of_models
    {models : Table String ModelOperationRow × Table String ModelReservationRow}
    (h : db'.tables.models = models) {id : String}
    (hstep : ModelStep (db.tables.model id) (models.1.get? id, models.2.get? id)) :
    ModelStep (db.tables.model id) (db'.tables.model id) := by
  subst h
  exact hstep

theorem modelOpened_step {r : InvocationRequest} {key : String} {cost : ℕ}
    (h : ModelOpened cfg db r key cost now tx db') (id : String) :
    ModelStep (db.tables.model id) (db'.tables.model id) := by
  cases h with
  | intro proof validity run budget db₁ db₂ db₃ db₄ db₅ db₆ checked valid fresh known
      running active budgeted room issued consumed endpoint artifact request counted
      freeOperation freeReservation revised =>
    have hmodels : db₆.tables.models = db.tables.models := by
      rw [updateBudget_models counted, recordIfNew_tables request,
        recordIfNew_tables artifact, recordIfNew_tables endpoint,
        consumeDecision_tables consumed, issueDecision_tables issued]
    have hoperations := congrArg Prod.fst hmodels
    have hreservations := congrArg Prod.snd hmodels
    change db₆.tables.modelOperations = db.tables.modelOperations at hoperations
    change db₆.tables.modelReservations = db.tables.modelReservations at hreservations
    rw [hoperations] at freeOperation
    rw [hreservations] at freeReservation
    have hrevised := recordAuthorityRevisions_models revised
    refine modelStep_of_models (hrevised.trans rfl) ?_
    simp only [Tables.models, Db.withModelOperation, hoperations, hreservations,
      Table.get?_insert freeOperation, Table.get?_insert freeReservation]
    by_cases hid : id = r.requestId
    · subst hid
      rw [if_pos rfl, if_pos rfl, Tables.model, freeOperation, freeReservation]
      exact .opened _ _ rfl rfl
    · rw [if_neg hid, if_neg hid]
      exact .same _

theorem modelStep_modify {row : ModelOperationRow}
    {f : ModelOperationRow → ModelOperationRow} (hoperations : db'.tables.modelOperations =
      db.tables.modelOperations.modify requestId f) (hreservations : ∀ id, id ≠ requestId →
      db'.tables.modelReservations.get? id = db.tables.modelReservations.get? id)
    (there : db.tables.modelOperations.get? requestId = some row)
    (hstep : ModelStep (some row, db.tables.modelReservations.get? requestId)
      (some (f row), db'.tables.modelReservations.get? requestId))
    (id : String) : ModelStep (db.tables.model id) (db'.tables.model id) := by
  rw [Tables.model, Tables.model, hoperations, Table.get?_modify]
  by_cases hid : id = requestId
  · subst hid
    rw [if_pos rfl, there]
    exact hstep
  · rw [if_neg hid, hreservations id hid]
    exact .same _

theorem withStartedModel_step {row : ModelOperationRow} {resume : Option String}
    (hmodels : db'.tables.models = (db.withStartedModel requestId resume now).tables.models)
    (there : db.tables.modelOperations.get? requestId = some row)
    (prepared : row.state = .prepared) (id : String) :
    ModelStep (db.tables.model id) (db'.tables.model id) := by
  have hreservations : db'.tables.modelReservations = db.tables.modelReservations :=
    congrArg Prod.snd hmodels
  have hoperations := congrArg Prod.fst hmodels
  simp only [Tables.models, Db.withStartedModel] at hoperations
  refine modelStep_modify hoperations (fun id _ => ?_) there ?_ id
  · rw [hreservations]
  · rw [hreservations]
    exact .started row _ _ prepared rfl rfl

theorem modelStarted_step
    (h : ModelStarted cfg db requestId now tx answer db') (id : String) :
    ModelStep (db.tables.model id) (db'.tables.model id) := by
  cases h with
  | intro operation row there prepared live revised read answered =>
    exact withStartedModel_step (recordAuthorityRevisions_models revised) there
      prepared id

theorem modelResumed_step {request : ModelRequest}
    (h : ModelResumed cfg db request decision now tx answer db') (id : String) :
    ModelStep (db.tables.model id) (db'.tables.model id) := by
  cases h with
  | intro operation row db₁ db₂ there prepared sameRequest sameRun allows subject
      live issued consumed revised read answered =>
    have htables : db₂.tables = db.tables := by
      rw [consumeDecision_tables consumed, issueDecision_tables issued]
    rw [← htables] at there ⊢
    exact withStartedModel_step (recordAuthorityRevisions_models revised) there
      prepared id

theorem modelAborted_step
    (h : ModelAborted cfg db requestId now tx answer db') (id : String) :
    ModelStep (db.tables.model id) (db'.tables.model id) := by
  cases h with
  | intro operation row reservation error db₁ there prepared reserved unsettled
      recorded revised read answered =>
    have htables := recordIfNew_tables recorded
    rw [← htables] at there reserved ⊢
    have hmodels := recordAuthorityRevisions_models revised
    have hreservations : db'.tables.modelReservations =
        db₁.tables.modelReservations.modify requestId (·.waived now) :=
      congrArg Prod.snd hmodels
    have hoperations := congrArg Prod.fst hmodels
    simp only [Tables.models, Db.withNonceResult, Db.withFailedModel,
      Db.withModelReservation] at hoperations
    refine modelStep_modify hoperations (fun id hid => ?_) there ?_ id
    · rw [hreservations, Table.get?_modify_of_ne hid]
    · rw [hreservations, Table.get?_modify_self, reserved]
      exact .aborted operation _ reservation now prepared rfl rfl

theorem modelAborted_pair (h : ModelAborted cfg db requestId now tx answer db') :
    db'.tables.budgets = db.tables.budgets ∧ ∃ operation reservation,
        db.tables.model requestId = (some operation, some reservation) ∧
        operation.state = .prepared ∧ ∃ row, db'.tables.model requestId =
            (some row, some (reservation.waived now)) ∧
          row.state = .failed ∧ row.startedAt = operation.startedAt := by
  cases h with
  | intro operation row reservation error db₁ there prepared reserved unsettled
      recorded revised read answered =>
    have htables := recordAuthorityRevisions_tables revised
    have hbefore := recordIfNew_tables recorded
    refine ⟨?_, operation, reservation, ?_, prepared, { operation with
        state := .failed
        errorRecordDigest := some (cfg.recordDigest (.errorRecord error))
        updatedAt := utc now }, ?_, rfl, rfl⟩
    · rw [htables, ← hbefore]
      rfl
    · rw [Tables.model, there, reserved]
    · rw [htables, Tables.model]
      simp only [Db.withNonceResult, Db.withFailedModel, Db.withModelReservation,
        Table.get?_modify_self, hbefore, there, reserved, Option.map_some]

theorem modelForfeited_step {state : ModelState} (hstate : state.isOpen = false)
    (h : ModelForfeited cfg db requestId state now tx answer db') (id : String) :
    ModelStep (db.tables.model id) (db'.tables.model id) := by
  cases h with
  | intro operation row reservation error err cap db₁ db₂ db₃ there started reserved
      unsettled recorded charged event revised read answered =>
    have hbefore : db₂.tables.models = db.tables.models := by
      rw [updateBudget_models charged, recordIfNew_tables recorded]
    have hmodels := (recordAuthorityRevisions_models revised).trans
      (appendGeneratedEvent_models event)
    have hreservations : db'.tables.modelReservations =
        db₂.tables.modelReservations.modify requestId (·.forfeited now) :=
      congrArg Prod.snd hmodels
    rw [show db₂.tables.modelReservations = db.tables.modelReservations from
      congrArg Prod.snd hbefore] at hreservations
    have hoperations := congrArg Prod.fst hmodels
    simp only [Tables.models, Db.withNonceResult, Db.withFailedModel,
      Db.withModelReservation] at hoperations
    rw [show db₂.tables.modelOperations = db.tables.modelOperations from
      congrArg Prod.fst hbefore] at hoperations
    refine modelStep_modify hoperations (fun id hid => ?_) there ?_ id
    · rw [hreservations, Table.get?_modify_of_ne hid]
    · rw [hreservations, Table.get?_modify_self, reserved]
      exact .settled operation _ reservation _ started hstate rfl

theorem modelCommitted_step {r : InvocationResult}
    (h : ModelCommitted cfg db requestId r now tx answer db') (id : String) :
    ModelStep (db.tables.model id) (db'.tables.model id) := by
  cases h with
  | intro operation row reservation cap db₁ db₂ db₃ db₄ db₅ db₆ there started active
      authorized reserved unsettled bytes resultRecorded artifactRecorded issued
      consumed charged event revised read answered =>
    have hbefore : db₅.tables.models = db.tables.models := by
      rw [updateBudget_models charged, consumeDecision_tables consumed,
        issueDecision_tables issued, recordIfNew_tables artifactRecorded,
        recordIfNew_tables resultRecorded]
    have hmodels := (recordAuthorityRevisions_models revised).trans
      (appendGeneratedEvent_models event)
    have hreservations : db'.tables.modelReservations =
        db₅.tables.modelReservations.modify requestId
          (·.paid r reservation.reservedTotalTokens now) :=
      congrArg Prod.snd hmodels
    rw [show db₅.tables.modelReservations = db.tables.modelReservations from
      congrArg Prod.snd hbefore] at hreservations
    have hoperations := congrArg Prod.fst hmodels
    simp only [Tables.models, Db.withNonceResult, Db.withSucceededModel,
      Db.withModelReservation] at hoperations
    rw [show db₅.tables.modelOperations = db.tables.modelOperations from
      congrArg Prod.fst hbefore] at hoperations
    refine modelStep_modify hoperations (fun id hid => ?_) there ?_ id
    · rw [hreservations, Table.get?_modify_of_ne hid]
    · rw [hreservations, Table.get?_modify_self, reserved]
      exact .settled operation _ reservation _ started rfl rfl

/-- **The step lemma.**  What a committed transaction does to an operation. -/
theorem exec_modelStep {call : Call}
    (h : Call.exec cfg db call = .ok (db', answer)) (id : String) :
    ModelStep (db.tables.model id) (db'.tables.model id) := by
  have hsame : db'.tables.models = db.tables.models →
      ModelStep (db.tables.model id) (db'.tables.model id) := by
    intro hmodels
    exact modelStep_of_models hmodels (.same _)
  cases call with
  | putRecord record tx =>
    exact hsame (congrArg Tables.models (recordIfNew_tables (putRecord_ok h).2))
  | startRun runId request cap tx => exact hsame (startRun_models h)
  | validateRun runId now cap tx =>
    rcases validateRun_ok h with rfl | ⟨run, request, -, -, hevent⟩
    · exact .same _
    · exact hsame (appendGeneratedEvent_models hevent)
  | issuePlan plan decision cap runtimeCap tx => exact hsame (issuePlan_models h)
  | activatePlan plan decision nonce now cap tx => exact hsame (activatePlan_models h)
  | denyPlan plan decision nonce now cap tx => exact hsame (denyPlan_models h)
  | adapterEvent event runId now cap tx =>
    exact hsame (appendGeneratedEvent_models (adapterEvent_ok h))
  | finishRun runId outcome now cap tx =>
    exact hsame (appendGeneratedEvent_models (finishRun_ok h).2)
  | createTerminalCheckpoint runId now cap tx =>
    exact hsame (createTerminalCheckpoint_models h)
  | issueDecision decision digest cap tx =>
    exact hsame (congrArg Tables.models
      (issueDecision_tables (issueDecisionCall_ok h)))
  | consumeDecision decision subject nonce now digest cap tx =>
    exact hsame (congrArg Tables.models
      (consumeDecision_tables (consumeDecisionCall_ok h).2.2))
  | rotateAuditKey transition now tx => exact hsame (rotateAuditKey_models h)
  | prepareRepositoryRead r ownerId leaseSeconds now policyCap brokerCap runtimeCap tx
      token =>
    rcases prepareRepositoryRead_ok h with rfl | hopened
    · exact .same _
    · exact hsame (readOpened_models hopened)
  | claimOperation operationId ownerId leaseSeconds cap =>
    rw [claimOperation_ok h]
    exact .same _
  | abortExpiredOperation operationId now cap epoch tx =>
    rcases abortExpiredOperation_ok h with rfl | hreleased
    · exact .same _
    · exact hsame (readReleased_models hreleased)
  | completeRepositoryRead operationId token result proof now cap tx =>
    rcases completeRepositoryRead_ok h with rfl | hcommitted
    · exact .same _
    · exact hsame (readCommitted_models hcommitted)
  | failRepositoryRead operationId token error outcome now cap tx =>
    rcases failRepositoryRead_ok h with rfl | hreleased
    · exact .same _
    · exact hsame (readReleased_models hreleased)
  | prepareModelInvocation r proof key cost now policyCap runtimeCap adapterCap tx =>
    rcases prepareModelInvocation_ok h with ⟨rfl, -⟩ | ⟨hopened, -⟩
    · exact .same _
    · exact modelOpened_step hopened id
  | startModelInvocation requestId now cap tx =>
    rcases startModelInvocation_ok h with ⟨rfl, -⟩ | hstarted
    · exact .same _
    · exact modelStarted_step hstarted id
  | resumePreparedModelInvocation request decision now policyCap adapterCap tx =>
    rcases resumePreparedModelInvocation_ok h with ⟨rfl, -⟩ | hresumed
    · exact .same _
    · exact modelResumed_step hresumed id
  | abortPreparedModelInvocation request reason now cap tx =>
    rcases abortPreparedModelInvocation_ok h with ⟨rfl, -⟩ | haborted
    · exact .same _
    · exact modelAborted_step haborted id
  | completeModelInvocation requestId r proof now cap tx =>
    rcases completeModelInvocation_ok h with ⟨rfl, -⟩ | hcommitted
    · exact .same _
    · exact modelCommitted_step hcommitted id
  | failModelInvocation requestId error now cap tx =>
    rcases failModelInvocation_ok h with ⟨rfl, -⟩ | hforfeited
    · exact .same _
    · exact modelForfeited_step rfl hforfeited id
  | resolveAmbiguousModelInvocation requestId observed now runtimeCap adapterCap tx =>
    rcases resolveAmbiguousModelInvocation_ok h with ⟨rfl, -⟩ | hforfeited
    · exact .same _
    · exact modelForfeited_step rfl hforfeited id

end Transactions

/-! ## The life of an operation -/

/-- The shape of an operation: it has a start exactly from `started` on, and one
that failed without a start is settled without charge. -/
structure ModelSound
    (pair : Option ModelOperationRow × Option ModelReservationRow) : Prop where
  prepared : ∀ row, pair.1 = some row → row.state = .prepared → row.startedAt = none
  fenced : ∀ row, pair.1 = some row → row.state ≠ .prepared → row.state ≠ .failed →
    row.startedAt.isSome = true
  aborted : ∀ row, pair.1 = some row → row.state = .failed → row.startedAt = none →
    ∃ reservation now, pair.2 = some (ModelReservationRow.waived reservation now)

theorem modelSound_none (reservation : Option ModelReservationRow) :
    ModelSound (none, reservation) where
  prepared _ h := nomatch h
  fenced _ h := nomatch h
  aborted _ h := nomatch h

theorem ModelSound.step {pair pair' : Option ModelOperationRow × Option ModelReservationRow}
    (hsound : ModelSound pair) (h : ModelStep pair pair') : ModelSound pair' := by
  cases h with
  | same => exact hsound
  | opened row reservation prepared unstarted =>
    refine ⟨?_, ?_, ?_⟩
    · rintro _ ⟨⟩ _
      exact unstarted
    · rintro _ ⟨⟩ h
      exact absurd prepared h
    · rintro _ ⟨⟩ h
      rw [prepared] at h
      cases h
  | started row row' reservation before after stamped =>
    refine ⟨?_, ?_, ?_⟩
    · rintro _ ⟨⟩ h
      rw [after] at h
      cases h
    · rintro _ ⟨⟩ _ _
      exact stamped
    · rintro _ ⟨⟩ h
      rw [after] at h
      cases h
  | settled row row' reservation reservation' before after stamp =>
    have hstamped : row'.startedAt.isSome = true := by
      rw [stamp]
      exact hsound.fenced row rfl (by rw [before]; decide) (by rw [before]; decide)
    refine ⟨?_, ?_, ?_⟩
    · rintro _ ⟨⟩ h
      rw [h] at after
      cases after
    · rintro _ ⟨⟩ _ _
      exact hstamped
    · rintro _ ⟨⟩ _ h
      rw [h] at hstamped
      cases hstamped
  | aborted row row' reservation now before after stamp =>
    refine ⟨?_, ?_, ?_⟩
    · rintro _ ⟨⟩ h
      rw [after] at h
      cases h
    · rintro _ ⟨⟩ _ h
      exact absurd after h
    · rintro _ ⟨⟩ _ _
      exact ⟨reservation, now, rfl⟩

theorem ModelStep.frozen
    {pair pair' : Option ModelOperationRow × Option ModelReservationRow}
    (h : ModelStep pair pair') {row : ModelOperationRow} (hrow : pair.1 = some row)
    (hsettled : row.state.isOpen = false) : pair' = pair := by
  cases h with
  | same => rfl
  | opened => cases hrow
  | started _ _ _ before | settled _ _ _ _ before | aborted _ _ _ _ before =>
    cases hrow
    rw [before] at hsettled
    cases hsettled

def wasStarted (pair : Option ModelOperationRow × Option ModelReservationRow) :
    Bool :=
  pair.1.any (·.startedAt.isSome)

/-- Does it enter `started` here? -/
def enters (pair pair' : Option ModelOperationRow × Option ModelReservationRow) :
    Bool :=
  pair'.1.any (·.state = .started) && pair.1.all (·.state ≠ .started)

/-- An operation enters `started` when it gets its start, and only then. -/
theorem ModelStep.enters_iff
    {pair pair' : Option ModelOperationRow × Option ModelReservationRow}
    (hsound : ModelSound pair) (h : ModelStep pair pair') :
    (wasStarted pair' = true ↔ wasStarted pair = true ∨ enters pair pair' = true) ∧
      ¬ (wasStarted pair = true ∧ enters pair pair' = true) := by
  cases h with
  | same =>
    obtain ⟨operation, reservation⟩ := pair
    cases operation with
    | none => simp [wasStarted, enters]
    | some row =>
      have hne : enters (some row, reservation) (some row, reservation) = false := by
        simp [enters]
      simp [hne]
  | opened row reservation prepared unstarted =>
    simp [wasStarted, enters, prepared, unstarted]
  | started row row' reservation before after stamped =>
    have hunstarted := hsound.prepared row rfl before
    simp [wasStarted, enters, before, after, stamped, hunstarted]
  | settled row row' reservation reservation' before after stamp =>
    have hclosed : row'.state ≠ .started := by
      intro h
      rw [h] at after
      cases after
    simp [wasStarted, enters, before, stamp, hclosed]
  | aborted row row' reservation now before after stamp =>
    simp [wasStarted, enters, before, after, stamp]

/-! ### The log of starts -/

variable {id : String}

theorem mem_startedSince {t t' : Tables} :
    id ∈ t.startedSince t' ↔ enters (t.model id) (t'.model id) = true := by
  rw [Tables.startedSince, List.mem_map]
  constructor
  · rintro ⟨⟨k, row⟩, hmem, rfl⟩
    obtain ⟨hentry, hstarted⟩ := List.mem_filter.mp hmem
    rw [enters, Tables.model, Tables.model, Table.mem_entries.mp hentry]
    simpa using hstarted
  · intro h
    simp only [enters, Tables.model, Bool.and_eq_true, Option.any_eq_true,
      decide_eq_true_eq] at h
    obtain ⟨⟨row, hrow, hstarted⟩, hbefore⟩ := h
    exact ⟨(id, row), List.mem_filter.mpr
      ⟨Table.mem_entries.mpr hrow, by simpa [hstarted] using hbefore⟩, rfl⟩

theorem nodup_startedSince (t t' : Tables) : (t.startedSince t').Nodup :=
  List.Nodup.sublist (List.filter_sublist.map Prod.fst) t'.modelOperations.unique

theorem startedSince_self (t : Tables) : t.startedSince t = [] := by
  rw [List.eq_nil_iff_forall_not_mem]
  intro id hid
  have h := mem_startedSince.mp hid
  rw [enters] at h
  cases hrow : (t.model id).1 with
  | none | some row => simp [hrow] at h

/-! ## The system of executions -/

namespace Egress

def isEntered (id : String) : Egress → Bool
  | .entered _ id' => id' = id
  | .sent _ _ => false

def isSent (id : String) : Egress → Bool
  | .sent _ id' => id' = id
  | .entered _ _ => false

end Egress

/-- In the log, a call of the transport stands behind a start by the same worker. -/
inductive Fenced : List Egress → Prop
  | nil : Fenced []
  | entered {log : List Egress} (worker : Option ℕ) (id : String) (h : Fenced log) :
      Fenced (log ++ [.entered worker id])
  | sent {log : List Egress} (worker : ℕ) (id : String) (h : Fenced log)
      (own : .entered (some worker) id ∈ log) : Fenced (log ++ [.sent worker id])

theorem Fenced.append_entered {log : List Egress} (h : Fenced log)
    (worker : Option ℕ) (ids : List String) :
    Fenced (log ++ ids.map (.entered worker)) := by
  induction ids generalizing log with
  | nil => simpa using h
  | cons id ids ih =>
    rw [List.map_cons, ← List.singleton_append, ← List.append_assoc]
    exact ih (h.entered worker id)

/-- **Sent only behind an own start.** -/
theorem Fenced.own {log pre post : List Egress} {worker : ℕ}
    (h : Fenced log) (hsplit : log = pre ++ .sent worker id :: post) :
    .entered (some worker) id ∈ pre := by
  induction h generalizing post with
  | nil => simp at hsplit
  | @entered log by' id' h ih =>
    rcases List.eq_nil_or_concat post with rfl | ⟨post, last, rfl⟩
    · have := (List.append_inj' hsplit rfl).2
      cases this
    · rw [List.concat_eq_append, ← List.cons_append, ← List.append_assoc] at hsplit
      exact ih (List.append_inj' hsplit rfl).1
  | @sent log by' id' h own ih =>
    rcases List.eq_nil_or_concat post with rfl | ⟨post, last, rfl⟩
    · obtain ⟨rfl, hlast⟩ := List.append_inj' hsplit rfl
      cases hlast
      exact own
    · rw [List.concat_eq_append, ← List.cons_append, ← List.append_assoc] at hsplit
      exact ih (List.append_inj' hsplit rfl).1

theorem Fenced.own_mem {log : List Egress} {worker : ℕ}
    (h : Fenced log) (hmem : .sent worker id ∈ log) :
    .entered (some worker) id ∈ log := by
  obtain ⟨pre, post, rfl⟩ := List.append_of_mem hmem
  exact List.mem_append_left _ (h.own rfl)

/-- What holds in every state of the system. -/
structure EgressInvariant (s : EgressSystem) : Prop where
  sound : ∀ id, ModelSound (s.db.tables.model id)
  entered : ∀ id, s.log.countP (Egress.isEntered id) =
    if wasStarted (s.db.tables.model id) then 1 else 0
  ordered : Fenced s.log
  ready : ∀ n w now, s.workers n = some w → w.control = .fenced now →
    .entered (some n) w.execution.requestId ∈ s.log ∧
      s.log.countP (Egress.isSent w.execution.requestId) = 0
  sent : ∀ id, s.log.countP (Egress.isSent id) ≤ 1

theorem egressInvariant_new (keyId : String) :
    EgressInvariant (EgressSystem.new keyId) where
  sound _ := modelSound_none none
  entered _ := rfl
  ordered := .nil
  ready _ _ _ h := nomatch h
  sent _ := Nat.zero_le 1

theorem countP_isEntered_map (id : String) (worker : Option ℕ) {ids : List String}
    (hnodup : ids.Nodup) :
    (ids.map (.entered worker)).countP (Egress.isEntered id) =
      if id ∈ ids then 1 else 0 := by
  rw [List.countP_map]
  have hcount : ids.countP (Egress.isEntered id ∘ .entered worker) = ids.count id := by
    rw [List.count]
    refine List.countP_congr fun x _ => ?_
    simp [Egress.isEntered]
  rw [hcount]
  split
  · next hmem => exact List.count_eq_one_of_mem hnodup hmem
  · next hmem => exact List.count_eq_zero_of_not_mem hmem

theorem countP_isSent_map (id : String) (worker : Option ℕ) (ids : List String) :
    (ids.map (.entered worker)).countP (Egress.isSent id) = 0 := by
  rw [List.countP_eq_zero]
  intro e he
  obtain ⟨x, -, rfl⟩ := List.mem_map.mp he
  simp [Egress.isSent]

section System

variable {cfg : StoreConfig} {sha256 : String → String} {s : EgressSystem}

def Transacts (cfg : StoreConfig) (db db' : Db) : Prop :=
  db' = db ∨ ∃ call answer, Call.exec cfg db call = .ok (db', answer)

theorem Transacts.modelStep {db db' : Db} (h : Transacts cfg db db') (id : String) :
    ModelStep (db.tables.model id) (db'.tables.model id) := by
  rcases h with rfl | ⟨call, answer, h⟩
  · exact .same _
  · exact exec_modelStep h id

theorem EgressInvariant.transact (hinv : EgressInvariant s) {db : Db}
    {workers : ℕ → Option Worker} {by' : Option ℕ}
    (hdb : Transacts cfg s.db db)
    (hworkers : ∀ n w now, workers n = some w → w.control = .fenced now →
      s.workers n = some w ∨ (by' = some n ∧
        w.execution.requestId ∈ s.db.tables.startedSince db.tables)) :
    EgressInvariant
      { db := db
        workers := workers
        log := s.log ++ (s.db.tables.startedSince db.tables).map (.entered by') } := by
  have hstep := fun id => hdb.modelStep id
  have hiff := fun id => (hstep id).enters_iff (hinv.sound id)
  refine ⟨fun id => (hinv.sound id).step (hstep id), fun id => ?_,
    hinv.ordered.append_entered by' _, fun n w now hw hcontrol => ?_, fun id => ?_⟩
  · rw [List.countP_append, hinv.entered id,
      countP_isEntered_map id by' (nodup_startedSince _ _)]
    simp only [mem_startedSince]
    obtain ⟨hiff, hnot⟩ := hiff id
    by_cases hbefore : wasStarted (s.db.tables.model id) = true
    · have henters : ¬ enters (s.db.tables.model id) (db.tables.model id) = true :=
        fun h => hnot ⟨hbefore, h⟩
      rw [if_pos hbefore, if_neg henters, if_pos (hiff.mpr (.inl hbefore))]
    · by_cases henters : enters (s.db.tables.model id) (db.tables.model id) = true
      · rw [if_neg hbefore, if_pos henters, if_pos (hiff.mpr (.inr henters))]
      · rw [if_neg hbefore, if_neg henters, if_neg fun h => (hiff.mp h).elim hbefore
          henters]
  · rw [List.countP_append, countP_isSent_map, Nat.add_zero]
    rcases hworkers n w now hw hcontrol with hold | ⟨rfl, hmem⟩
    · obtain ⟨hentered, hsent⟩ := hinv.ready n w now hold hcontrol
      exact ⟨List.mem_append_left _ hentered, hsent⟩
    · refine ⟨List.mem_append_right _ (List.mem_map_of_mem hmem), ?_⟩
      -- A call of the transport would stand behind an earlier start.
      by_contra hsent
      obtain ⟨e, he, hisSent⟩ := List.countP_pos_iff.mp (Nat.pos_of_ne_zero hsent)
      cases e with
      | entered => cases hisSent
      | sent m id =>
        obtain rfl : id = w.execution.requestId := of_decide_eq_true hisSent
        have hentered := hinv.ordered.own_mem he
        have hpos : 0 < s.log.countP (Egress.isEntered w.execution.requestId) :=
          List.countP_pos_iff.mpr ⟨_, hentered, by simp [Egress.isEntered]⟩
        rw [hinv.entered] at hpos
        have hbefore : wasStarted
            (s.db.tables.model w.execution.requestId) = true := by
          by_contra h
          rw [if_neg h] at hpos
          cases hpos
        exact (hiff _).2 ⟨hbefore, mem_startedSince.mp hmem⟩
  · rw [List.countP_append, countP_isSent_map, Nat.add_zero]
    exact hinv.sent id

/-! ### Steps of an execution -/

theorem withStartedModel_enters {db db' : Db} {requestId : String}
    {row : ModelOperationRow} {resume : Option String} {now : Instant}
    (hmodels : db'.tables.models = (db.withStartedModel requestId resume now).tables.models)
    (there : db.tables.modelOperations.get? requestId = some row)
    (prepared : row.state = .prepared) :
    requestId ∈ db.tables.startedSince db'.tables := by
  have hoperations := congrArg Prod.fst hmodels
  simp only [Tables.models, Db.withStartedModel] at hoperations
  rw [mem_startedSince, enters, Tables.model, Tables.model, hoperations,
    Table.get?_modify_self, there]
  simp [prepared]

namespace Execution

variable {x : Execution} {db db' : Db} {env : Surroundings} {control : Control}
  {now : Instant}

theorem replay_ne_fenced {row : ModelOperationRow} : x.replay row ≠ .fenced now := by
  unfold replay raise
  split <;> simp

theorem checkInput_ne_fenced {existing : Bool} :
    x.checkInput sha256 existing ≠ .fenced now := by
  unfold checkInput raise
  split <;> simp

theorem inspect_ne_fenced : x.inspect cfg sha256 db ≠ .fenced now := by
  unfold inspect
  split
  · simp [raise]
  split
  · simp [raise]
  cases db.exactModelReplayStatus cfg x.invocation x.idempotencyKey x.cost with
  | error error => simp [raise]
  | ok existing =>
    cases existing with
    | none => exact checkInput_ne_fenced
    | some operation =>
      change (if operation.state ≠ .prepared then x.replay operation
        else x.checkInput sha256 true) ≠ _
      split
      · exact replay_ne_fenced
      · exact checkInput_ne_fenced

theorem afterPrepare_ne_fenced {at' : Instant} {resume : Option PolicyDecision}
    {answer : Answer} : x.afterPrepare at' resume answer ≠ .fenced now := by
  unfold afterPrepare
  split
  · split
    · exact replay_ne_fenced
    · split <;> simp [raise]
  · simp
  · simp [raise]

theorem settle_ne_fenced {answer : AdapterAnswer} {at' : Instant} :
    orRaise (x.settle cfg db env answer at') ≠ .fenced now := by
  intro h
  unfold orRaise at h
  split at h
  · next control hcontrol =>
      subst h
      obtain ⟨done, h⟩ := rest_ok hcontrol
      cases answer with
      | unsent code | raised code => cases h
      | returned record output =>
        cases record with
        | none => cases h
        | some record =>
          cases output with
          | none => cases h
          | some output =>
            simp only at h
            split at h
            · obtain ⟨budget, h⟩ := rest_ok h
              obtain ⟨deadline, h⟩ := rest_ok h
              split at h
              · cases h
              obtain ⟨⟨decision, reason⟩, -, h⟩ := bind_eq_ok.mp h
              simp only at h
              split at h <;> cases h
            · cases h
  · cases h

theorem transact_cases {result : Result} {next : Answer → Control} :
    (∃ db' answer, result = .ok (db', answer) ∧
      transact db result next = (db', next answer)) ∨
    ∃ error, transact db result next = (db, raise error) := by
  cases result with
  | ok pair => exact .inl ⟨pair.1, pair.2, rfl, rfl⟩
  | error error => exact .inr ⟨error, rfl⟩

theorem transact_ne_fenced {call : Call} {result : Result}
    {next : Answer → Control} (hcall : Call.exec cfg db call = result)
    (hnext : ∀ answer now, next answer ≠ .fenced now) :
    Transacts cfg db (transact db result next).1 ∧
      ∀ now, (transact db result next).2 ≠ .fenced now := by
  rcases transact_cases with
    ⟨db', answer, hresult, h⟩ | ⟨error, h⟩
  · rw [h]
    exact ⟨.inr ⟨call, answer, hcall.trans hresult⟩, hnext answer⟩
  · rw [h]
    exact ⟨.inl rfl, fun now => by simp [raise]⟩

/-- **Steps of an execution.**  A step makes at most one transaction, and an
execution that has come to the fence has moved its operation to `started` in this
very step. -/
theorem step_spec :
    Transacts cfg db (x.step cfg sha256 db env control).1 ∧
      ∀ now, (x.step cfg sha256 db env control).2 = .fenced now →
        x.requestId ∈ db.tables.startedSince
          (x.step cfg sha256 db env control).1.tables := by
  cases control with
  | begun => exact ⟨.inl rfl, fun now h => absurd h inspect_ne_fenced⟩
  | inspected existing =>
    simp only [step, prepare]
    cases x.authorize existing env with
    | error error => exact ⟨.inl rfl, fun now h => nomatch h⟩
    | ok args =>
      obtain ⟨at', resume, proof⟩ := args
      obtain ⟨hdb, hfenced⟩ := @Execution.transact_ne_fenced _ _
        (.prepareModelInvocation x.invocation proof x.idempotencyKey x.cost
          at' (.trusted .policy) (.trusted .runtime) (.trusted .adapter)
          env.transactionId) _ _ rfl
        fun _ _ => afterPrepare_ne_fenced
      exact ⟨hdb, fun now h => absurd h (hfenced now)⟩
  | prepared at' =>
    simp only [step]
    rcases transact_cases with
      ⟨db', answer, hresult, h⟩ | ⟨error, h⟩
    · rw [h]
      refine ⟨.inr ⟨.startModelInvocation x.requestId at' (.trusted .adapter)
        env.transactionId, answer, hresult⟩, fun now hnow => ?_⟩
      rcases startModelInvocation_ok hresult with
        ⟨rfl, row, -, -, rfl⟩ | ⟨operation, row, there, prepared, live, revised⟩
      · exact absurd hnow replay_ne_fenced
      · exact withStartedModel_enters (recordAuthorityRevisions_models revised) there
          prepared
    · rw [h]
      exact ⟨.inl rfl, fun now hnow => nomatch hnow⟩
  | resuming decision at' =>
    simp only [step]
    rcases transact_cases with
      ⟨db', answer, hresult, h⟩ | ⟨error, h⟩
    · rw [h]
      refine ⟨.inr ⟨.resumePreparedModelInvocation x.request decision at'
        (.trusted .policy) (.trusted .adapter) env.transactionId, answer, hresult⟩,
        fun now hnow => ?_⟩
      rcases resumePreparedModelInvocation_ok hresult with
        ⟨rfl, row, -, -, rfl⟩ | ⟨operation, row, db₁, db₂, there, prepared,
          sameRequest, sameRun, allows, subject, live, issued, consumed, revised⟩
      · exact absurd hnow replay_ne_fenced
      · have htables : db₂.tables = db.tables := by
          rw [consumeDecision_tables consumed, issueDecision_tables issued]
        rw [← htables] at there ⊢
        exact withStartedModel_enters (recordAuthorityRevisions_models revised) there
          prepared
    · rw [h]
      exact ⟨.inl rfl, fun now hnow => nomatch hnow⟩
  | fenced at' | ended ending => exact ⟨.inl rfl, fun now h => nomatch h⟩
  | answered answer at' => exact ⟨.inl rfl, fun now h => absurd h settle_ne_fenced⟩
  | denied decision rule at' =>
    obtain ⟨hdb, hfenced⟩ := @Execution.transact_ne_fenced _ _
      (.issueDecision decision x.invocation.plan.project.semanticConfigDigest
        (.trusted .policy) env.transactionId) _
      (fun _ => .failing "ECO_MODEL_FINALIZATION_DENIED" (some rule) at') rfl
      fun _ _ h => nomatch h
    exact ⟨hdb, fun now h => absurd h (hfenced now)⟩
  | failing code rule at' =>
    simp only [step, fail]
    split
    · let call : Call := .failModelInvocation x.requestId (x.failure cfg code rule at')
        at' (.trusted .adapter) env.transactionId
      have hnext : ∀ answer now, x.afterFail answer ≠ .fenced now := by
        intro answer now
        cases answer <;> simp [afterFail, raise]
      obtain ⟨hdb, hfenced⟩ := transact_ne_fenced (Eq.refl (Call.exec cfg db call)) hnext
      exact ⟨hdb, fun now h => absurd h (hfenced now)⟩
    · exact ⟨.inl rfl, fun now h => nomatch h⟩
  | completing result output decision at' =>
    simp only [step, complete]
    cases env.outputProof with
    | error code => exact ⟨.inl rfl, fun now h => nomatch h⟩
    | ok proof =>
      simp only
      split
      · let call : Call := .completeModelInvocation x.requestId
          ⟨result, x.outputArtifact cfg result at', decision⟩ proof at'
          (.trusted .adapter) env.transactionId
        have hnext : ∀ answer now, x.afterComplete output answer ≠ .fenced now := by
          intro answer now
          cases answer <;> simp [afterComplete, raise]
        obtain ⟨hdb, hfenced⟩ :=
          transact_ne_fenced (Eq.refl (Call.exec cfg db call)) hnext
        exact ⟨hdb, fun now h => absurd h (hfenced now)⟩
      · exact ⟨.inl rfl, fun now h => nomatch h⟩

end Execution

/-! ### Steps of the system -/

theorem eq_of_countP_le_one {α : Type} {p : α → Bool} {l : List α} {a b : α}
    (h : l.countP p ≤ 1) (ha : a ∈ l) (hb : b ∈ l) (hpa : p a = true)
    (hpb : p b = true) : a = b := by
  rw [List.countP_eq_length_filter] at h
  have ha := List.mem_filter.mpr ⟨ha, hpa⟩
  have hb := List.mem_filter.mpr ⟨hb, hpb⟩
  match hfilter : l.filter p with
  | [] =>
    rw [hfilter] at ha
    cases ha
  | [c] =>
    rw [hfilter] at ha hb
    rw [List.mem_singleton.mp ha, List.mem_singleton.mp hb]
  | _ :: _ :: _ =>
    rw [hfilter] at h
    simp at h

theorem setControl_eq_some {n m : ℕ} {control : Control} {w' : Worker}
    (h : s.setControl n control m = some w') :
    (m = n ∧ ∃ w, s.workers n = some w ∧
        w' = { w with control := control }) ∨ s.workers m = some w' := by
  unfold EgressSystem.setControl at h
  by_cases hm : m = n
  · subst hm
    rw [Function.update_self] at h
    obtain ⟨w, hw, rfl⟩ := Option.map_eq_some_iff.mp h
    exact .inl ⟨rfl, w, hw, rfl⟩
  · rw [Function.update_of_ne hm] at h
    exact .inr h

theorem EgressInvariant.send (hinv : EgressInvariant s) {n : ℕ} {w : Worker}
    {now : Instant} (hw : s.workers n = some w) (hcontrol : w.control = .fenced now)
    (answer : AdapterAnswer) :
    EgressInvariant
      { db := s.db
        workers := s.setControl n (.answered answer now)
        log := s.log ++ [.sent n w.execution.requestId] } := by
  obtain ⟨hown, hunsent⟩ := hinv.ready n w now hw hcontrol
  have hentered : ∀ id, s.log.countP (Egress.isEntered id) ≤ 1 := by
    intro id
    rw [hinv.entered]
    split <;> decide
  refine ⟨hinv.sound, fun id => ?_, hinv.ordered.sent n _ hown,
    fun m w' at' hw' hcontrol' => ?_, fun id => ?_⟩
  · rw [List.countP_append, hinv.entered]
    rfl
  · rcases setControl_eq_some hw' with ⟨-, old, -, rfl⟩ | hold
    · cases hcontrol'
    · obtain ⟨hown', hunsent'⟩ := hinv.ready m w' at' hold hcontrol'
      refine ⟨List.mem_append_left _ hown', ?_⟩
      -- Two workers at the fence have two operations.
      have hne : w.execution.requestId ≠ w'.execution.requestId := by
        intro hid
        have hsame := eq_of_countP_le_one (hentered w'.execution.requestId) hown hown'
          (by simp [Egress.isEntered, hid]) (by simp [Egress.isEntered])
        obtain rfl : n = m := Option.some.inj (Egress.entered.inj hsame).1
        change Function.update s.workers n _ n = some w' at hw'
        rw [Function.update_self, hw] at hw'
        cases hw'
        cases hcontrol'
      rw [List.countP_append, hunsent', Nat.zero_add]
      simp [Egress.isSent, hne]
  · rw [List.countP_append]
    by_cases hid : w.execution.requestId = id
    · subst hid
      rw [hunsent]
      simp [Egress.isSent]
    · have hsent := hinv.sent id
      simp [Egress.isSent, hid, hsent]

theorem EgressInvariant.runWorker (hinv : EgressInvariant s) {n : ℕ} {w : Worker}
    (hw : s.workers n = some w) (env : Surroundings) :
    EgressInvariant (s.runWorker cfg sha256 n w env) := by
  obtain ⟨hdb, hfenced⟩ := w.execution.step_spec
  have htransact := @EgressInvariant.transact _ _ hinv _
    (s.setControl n (w.execution.step cfg sha256 s.db env w.control).2) _ hdb
    (fun m w' now hw' hcontrol => by
      rcases setControl_eq_some hw' with ⟨rfl, old, hold, rfl⟩ | hsame
      · cases hold.symm.trans hw
        exact .inr ⟨rfl, hfenced now hcontrol⟩
      · exact .inl hsame)
  cases hcontrol : w.control with
  | fenced now =>
    cases hsent : env.adapter.isSent with
    | true =>
      have hsend := hinv.send hw hcontrol env.adapter
      simpa [EgressSystem.runWorker, hcontrol, Execution.step, hsent,
        startedSince_self] using hsend
    | false =>
      rw [hcontrol] at htransact
      simpa [EgressSystem.runWorker, hcontrol, hsent] using htransact
  | _ =>
    rw [hcontrol] at htransact
    simpa [EgressSystem.runWorker, hcontrol] using htransact

theorem EgressInvariant.step (hinv : EgressInvariant s) (action : EgressAction) :
    EgressInvariant (s.step cfg sha256 action) := by
  cases action with
  | spawn n execution =>
    simp only [EgressSystem.step]
    split
    · exact hinv
    have htransact := @EgressInvariant.transact cfg _ hinv _
      (Function.update s.workers n (some { execution := execution })) none
      (.inl rfl) (fun m w now hw hcontrol => by
        by_cases hm : m = n
        · subst hm
          rw [Function.update_self] at hw
          cases hw
          cases hcontrol
        · rw [Function.update_of_ne hm] at hw
          exact .inl hw)
    simpa [startedSince_self] using htransact
  | run n env =>
    simp only [EgressSystem.step]
    cases hw : s.workers n with
    | none => exact hinv
    | some w => exact hinv.runWorker hw env
  | crash n =>
    have htransact := @EgressInvariant.transact cfg _ hinv _
      (s.setControl n (.ended .crashed)) none (.inl rfl) (fun m w now hw hcontrol => by
        rcases setControl_eq_some hw with ⟨-, old, -, rfl⟩ | hsame
        · cases hcontrol
        · exact .inl hsame)
    simpa [EgressSystem.step, startedSince_self] using htransact
  | call call =>
    refine @EgressInvariant.transact cfg _ hinv _ _ _ ?_ fun m w now hw _ => .inl hw
    rcases call_cases cfg s.db call with hsame | ⟨answer, h⟩
    · exact .inl hsame
    · exact .inr ⟨call, answer, h⟩

theorem egressInvariant_after (keyId : String) (actions : List EgressAction) :
    EgressInvariant (egressAfter cfg sha256 keyId actions) := by
  induction actions using List.reverseRecOn with
  | nil => exact egressInvariant_new keyId
  | append_singleton actions action ih =>
    rw [egressAfter, List.foldl_append]
    exact ih.step action

theorem step_transacts (action : EgressAction) :
    Transacts cfg s.db (s.step cfg sha256 action).db := by
  cases action with
  | spawn n execution =>
    simp only [EgressSystem.step]
    split <;> exact .inl rfl
  | run n env =>
    simp only [EgressSystem.step]
    cases s.workers n with
    | none => exact .inl rfl
    | some w => exact Execution.step_spec.1
  | crash n => exact .inl rfl
  | call call =>
    rcases call_cases cfg s.db call with hsame | ⟨answer, h⟩
    · exact .inl hsame
    · exact .inr ⟨call, answer, h⟩

theorem settled_stays (keyId : String) (actions more : List EgressAction)
    {id : String} {row : ModelOperationRow}
    (hrow : (egressAfter cfg sha256 keyId actions).db.tables.modelOperations.get? id =
      some row) (hsettled : row.state.isOpen = false) :
    (egressAfter cfg sha256 keyId (actions ++ more)).db.tables.model id =
      (egressAfter cfg sha256 keyId actions).db.tables.model id := by
  induction more using List.reverseRecOn with
  | nil => rw [List.append_nil]
  | append_singleton more action ih =>
    rw [← List.append_assoc, egressAfter, List.foldl_append, ← ih]
    refine (Transacts.modelStep
      (step_transacts action) id).frozen ?_ hsettled
    exact (congrArg Prod.fst ih).trans hrow

end System

/-! ## The main result -/

/-- **Egress happens at most once.**  For any number of executions, their crashes
and restarts, and any other calls of the store between their steps: an operation
enters `started` at most once; the transport is called for it at most once, by a
worker whose own transaction moved it there before; an abort finds an operation that
was never started, leaves the budget alone and settles without charge; and the first
terminal state of an operation is its last. -/
theorem model_egress_at_most_once (cfg : StoreConfig) (sha256 : String → String)
    (keyId : String) (actions : List EgressAction) :
    let s := egressAfter cfg sha256 keyId actions
    (∀ id, s.log.countP (Egress.isEntered id) ≤ 1) ∧
    (∀ id, s.log.countP (Egress.isSent id) ≤ 1) ∧
    (∀ pre worker id post, s.log = pre ++ .sent worker id :: post →
      .entered (some worker) id ∈ pre) ∧
    (∀ request reason now cap tx db' answer,
      s.db.abortPreparedModelInvocation cfg request reason now cap tx = .ok (db', answer) →
      db' = s.db ∨
        ((∀ worker, .entered worker request.metadata.id ∉ s.log) ∧
          db'.tables.budgets = s.db.tables.budgets ∧
          ∃ row reservation,
            db'.tables.model request.metadata.id = (some row, some reservation) ∧
            row.state = .failed ∧ row.startedAt = none ∧
            reservation.state = .committed ∧
            reservation.actualOutputBytes = none ∧
            reservation.chargedTotalTokens = some 0 ∧
            reservation.chargedCostMicrousd = some 0)) ∧
    (∀ more id row, s.db.tables.modelOperations.get? id = some row →
      row.state.isOpen = false →
      (egressAfter cfg sha256 keyId (actions ++ more)).db.tables.model id =
        s.db.tables.model id) := by
  intro s
  have hinv : EgressInvariant s := egressInvariant_after keyId actions
  refine ⟨fun id => ?_, hinv.sent, fun pre worker id post h => hinv.ordered.own h,
    fun request reason now cap tx db' answer h => ?_,
    fun more id row => settled_stays keyId actions more⟩
  · rw [hinv.entered]
    split <;> decide
  · rcases abortPreparedModelInvocation_ok h with ⟨rfl, -⟩ | haborted
    · exact .inl rfl
    refine .inr ?_
    obtain ⟨hbudgets, operation, reservation, hpair, hprepared, row', hpair', hfailed,
      hstamp⟩ := modelAborted_pair haborted
    have hunstarted := (hinv.sound request.metadata.id).prepared operation
      (congrArg Prod.fst hpair) hprepared
    refine ⟨fun worker hmem => ?_, hbudgets, row', _, hpair', hfailed,
      hstamp.trans hunstarted, rfl, rfl, rfl, rfl⟩
    have hcount := hinv.entered request.metadata.id
    rw [hpair, wasStarted, Option.any_some, hunstarted] at hcount
    have hpos : 0 < s.log.countP (Egress.isEntered request.metadata.id) :=
      List.countP_pos_iff.mpr ⟨_, hmem, by simp [Egress.isEntered]⟩
    rw [hcount] at hpos
    exact absurd hpos (by decide)

end Ecosystem.Store
