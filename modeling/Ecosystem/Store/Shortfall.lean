import Ecosystem.Store.Accounting

/-!
# No settlement fails for want of budget

The calls that settle an operation update the budget under a guard that never fails on a
reachable store.  `Covered` says of a part of a transaction that it raises none of these
errors.
-/

namespace Ecosystem.Store

open Ecosystem.Lib Ecosystem.Runtime

def shortfallMessages : List String :=
  ["Budget reservation cannot release", "Budget reservation cannot commit",
    "Model budget cannot settle", "Model failure budget cannot settle",
    "Ambiguous model budget cannot settle"]

def StoreError.isShortfall : StoreError → Bool
  | .store code message =>
    code = "ECO_RESERVATION_INVALID" && message ∈ shortfallMessages
  | _ => false

/-- A part of a transaction that raises no shortfall. -/
def Covered {α : Type} (x : Except StoreError α) : Prop :=
  ∀ e, x = .error e → e.isShortfall = false

section Rules

variable {α β : Type} {x : Except StoreError α} {f : α → Except StoreError β}

theorem covered_ok (a : α) : Covered (.ok a : Except StoreError α) :=
  fun _ h => nomatch h

theorem covered_error {e : StoreError} (h : e.isShortfall = false) :
    Covered (.error e : Except StoreError α) := by
  intro e' he'
  cases he'
  exact h

theorem Covered.bind (hx : Covered x) (hf : ∀ a, x = .ok a → Covered (f a)) :
    Covered (x >>= f) := by
  cases x with
  | error e => exact covered_error (hx e rfl)
  | ok a => exact hf a rfl

theorem covered_require {checks : List (Bool × StoreError)}
    (h : ∀ check ∈ checks, check.2.isShortfall = false) :
    Covered (require checks) := by
  induction checks with
  | nil => exact covered_ok ()
  | cons check checks ih =>
    rw [require]
    split
    · exact ih fun check' hcheck' => h check' (List.mem_cons_of_mem _ hcheck')
    · exact covered_error (h check List.mem_cons_self)

theorem covered_expect {err : StoreError} {a : Option α}
    (h : err.isShortfall = false) : Covered (expect err a) := by
  cases a with
  | none => exact covered_error h
  | some a => exact covered_ok a

theorem covered_foldlM {g : β → α → Except StoreError β} {l : List α}
    (h : ∀ b a, Covered (g b a)) (b : β) : Covered (l.foldlM g b) := by
  induction l generalizing b with
  | nil => exact covered_ok b
  | cons a l ih =>
    rw [List.foldlM_cons]
    exact (h b a).bind fun b' _ => ih b'

end Rules

attribute [local simp] StoreError.isShortfall shortfallMessages chainInconsistent
  clockRollback conflictError deadlineElapsed incompleteAuthority invalidRecord
  invalidReservation otherOutcome unknownModel unknownOperation unknownRun

section Helpers

variable {cfg : StoreConfig} {db : Db} {tx : String} {now : Instant}

theorem covered_parse (s : Stamp) : Covered (parse s) := by
  unfold parse
  split
  · exact covered_ok _
  · exact covered_error rfl

theorem covered_requireCapability (producer : Producer) (cap : Capability) :
    Covered (requireCapability producer cap) := by
  refine covered_require ?_
  cases producer <;> simp [StoreError.isShortfall]

variable {err : StoreError}

theorem covered_requireValid {records : List Record}
    (h : err.isShortfall = false) : Covered (requireValid cfg records err) :=
  covered_require (by simpa using h)

theorem covered_insertRecord (r : Record) : Covered (db.insertRecord cfg r) := by
  refine (covered_require (by simp)).bind fun _ _ => ?_
  cases db.book.records.get? r.id with
  | none => exact covered_ok _
  | some row =>
    exact (covered_require (by simp)).bind fun _ _ => covered_ok _

theorem covered_recordIfNew (r : Record) : Covered (db.recordIfNew cfg tx r) :=
  (covered_insertRecord r).bind fun _ _ => covered_ok _

theorem covered_recordNew (r : Record)
    (h : err.isShortfall = false) : Covered (db.recordNew cfg tx r err) :=
  (covered_insertRecord r).bind fun _ _ =>
    (covered_require (by simpa using h)).bind fun _ _ => covered_ok _

theorem covered_loadRecord (id : String) : Covered (db.loadRecord id) :=
  (covered_expect (by simp)).bind fun _ _ => covered_ok _

theorem covered_recordAuthorityRevision (type : EntityType) (id : String)
    (at' : Stamp) : Covered (db.recordAuthorityRevision cfg type id tx at') :=
  (covered_expect (by simp)).bind fun _ _ => covered_ok _

theorem covered_recordAuthorityRevisions (entities : List (EntityType × String))
    (at' : Stamp) : Covered (db.recordAuthorityRevisions cfg entities tx at') :=
  covered_foldlM
    (fun _ (e : EntityType × String) => covered_recordAuthorityRevision e.1 e.2 at') db

theorem covered_issueDecision (decision : PolicyDecision) :
    Covered (db.issueDecision cfg decision tx) := by
  refine (covered_insertRecord _).bind fun found _ => Covered.bind ?_ fun _ _ =>
    covered_ok _
  unfold Db.ensureDecision
  split
  · exact (covered_require (by simp)).bind fun _ _ => covered_ok _
  · exact (covered_parse _).bind fun _ _ => covered_ok _

theorem covered_consumeDecision (decision : PolicyDecision) (subject nonce : String) :
    Covered (db.consumeDecision cfg decision subject nonce tx now) := by
  refine (covered_expect (by simp)).bind fun row _ =>
    (covered_require (by simp)).bind fun _ _ => ?_
  cases db.book.nonces.get? nonce with
  | none | some existing =>
    exact (covered_require (by simp)).bind fun _ _ => covered_ok _

theorem covered_replayEvent (runId : String) (replay : Replay)
    (e : String × EventRow × Record) : Covered (replayEvent cfg runId replay e) := by
  unfold replayEvent
  split
  · refine (covered_require (by simp)).bind fun _ _ => ?_
    split
    · exact covered_ok _
    · exact covered_error (by simp)
  · exact covered_error (by simp)

theorem covered_replay (runId : String) : Covered (db.replay cfg runId) :=
  (covered_expect (by simp)).bind fun _ _ =>
    (covered_require (by simp)).bind fun _ _ =>
    (covered_parse _).bind fun _ _ =>
        covered_foldlM (fun replay e => covered_replayEvent runId replay e) _

theorem covered_appendGeneratedEvent (runId : String) (e : GeneratedEvent)
    (cap : Capability) : Covered (db.appendGeneratedEvent cfg runId e cap now tx) := by
  refine (covered_require (by simp)).bind fun _ _ =>
    (covered_expect (by simp)).bind fun run _ =>
    (covered_replay runId).bind fun replay _ =>
    (covered_require (by simp)).bind fun _ _ =>
          Covered.bind ?_ fun next _ =>
            (covered_require (by simp)).bind fun _ _ =>
      (covered_recordNew _ (by simp)).bind fun db₁ _ =>
      (covered_require (by simp)).bind
                    fun _ _ => covered_recordAuthorityRevision _ _ _
  cases reduceRunEvent replay.projection e.spec with
  | error e => exact covered_error rfl
  | ok next => exact covered_ok next

theorem covered_requireClock (run : RunRow) : Covered (requireClock run now) :=
  (covered_parse _).bind fun _ _ =>
    covered_require (by simp)

theorem covered_requireLiveRunTime (runId : String) :
    Covered (db.requireLiveRunTime cfg runId now) :=
  (covered_expect (by simp)).bind fun _ _ =>
    (covered_requireClock _).bind fun _ _ =>
      covered_require (by simp)

theorem covered_requireLiveLease (operation : OperationRow) (token : String)
    (epoch : ℤ) : Covered (requireLiveLease cfg operation token epoch) :=
  covered_require (by simp)

theorem covered_requireAvailable (artifact : ArtifactRecord)
    (proof : Option ArtifactAvailabilityProof) {required invalid : StoreError}
    (hrequired : required.isShortfall = false) (hinvalid : invalid.isShortfall = false) :
    Covered (requireAvailable cfg artifact proof required invalid) := by
  refine (covered_expect hrequired).bind fun _ _ =>
    (covered_expect hrequired).bind fun _ _ => covered_require ?_
  simp only [List.mem_cons, List.not_mem_nil, or_false, forall_eq_or_imp, forall_eq]
  exact ⟨hinvalid, by simp [StoreError.isShortfall]⟩

theorem covered_asIntent (r : Record) : Covered r.asIntent := by
  cases r <;> first | exact covered_ok _ | exact covered_error rfl

theorem covered_asPlan (r : Record) : Covered r.asPlan := by
  cases r <;> first | exact covered_ok _ | exact covered_error rfl

theorem covered_asModelRequest (r : Record) : Covered r.asModelRequest := by
  cases r <;> first | exact covered_ok _ | exact covered_error rfl

theorem covered_asArtifact (r : Record) : Covered r.asArtifact := by
  cases r <;> first | exact covered_ok _ | exact covered_error rfl

theorem covered_asEndpoint (r : Record) : Covered r.asEndpoint := by
  cases r <;> first | exact covered_ok _ | exact covered_error rfl

theorem covered_requireActiveModelRun (operation : ModelOperationRow)
    (h : err.isShortfall = false) :
    Covered (db.requireActiveModelRun operation now err) :=
  (covered_expect h).bind fun _ _ =>
    (covered_require (by simpa using h)).bind fun _ _ =>
    (covered_parse _).bind fun _ _ => covered_require (by simpa using h)

theorem covered_loadModelPlan (operation : ModelOperationRow) :
    Covered (db.loadModelPlan operation) :=
  (covered_expect (by simp)).bind fun _ _ =>
    (covered_loadRecord _).bind fun _ _ => covered_asPlan _

theorem covered_requireAbortObserved (reason : AbortReason) (run : RunRow)
    (endpoint : Record) :
    Covered (requireAbortObserved cfg reason run endpoint now) := by
  cases reason with
  | cancelled => exact covered_ok ()
  | deadlineExpired =>
    exact (covered_expect rfl).bind fun _ _ =>
      covered_require (by simp)
  | endpointExpired =>
    exact (covered_asEndpoint _).bind fun _ _ => (covered_parse _).bind fun _ _ =>
      covered_require (by simp)

theorem covered_closeModel (entities : List (EntityType × String))
    (requestId : String) : Covered (db.closeModel cfg entities requestId now tx) :=
  (covered_recordAuthorityRevisions _ _).bind fun _ _ =>
    (covered_expect (by simp)).bind fun _ _ => covered_ok _

theorem covered_updateBudget {runId : String} {allowed : BudgetRow → Bool}
    {f : BudgetRow → BudgetRow} {b : BudgetRow}
    (hb : db.tables.budgets.get? runId = some b) (hallowed : allowed b = true) :
    Covered (db.updateBudget runId allowed f err) := by
  unfold Db.updateBudget
  rw [hb, expect]
  refine (covered_ok b).bind fun b' hb' => ?_
  cases hb'
  rw [hallowed]
  exact covered_ok _

end Helpers

/-! ## The calls that settle -/

section Settlements

variable {cfg : StoreConfig} {db : Db} {tx : String} {now : Instant}

variable {cap : Capability}

theorem covered_releaseRead {operationId : String} {operation : OperationRow}
    {intent : ToolExecutionIntent} {reservation : ReservationRow}
    {error : ErrorRecord} {outcome : ToolExecutionOutcome}
    (hsound : db.tables.ledger.Sound cfg)
    (there : db.tables.operations.get? operationId = some operation)
    (reserved : db.tables.reservations.get? operationId = some reservation)
    (unsettled : reservation.state = .reserved) :
    Covered (db.releaseRead cfg operationId operation intent reservation error
      outcome now cap tx) := by
  obtain ⟨b, hb, hheld, -⟩ := hsound.spendable reserved unsettled
  rw [← readRun_eq hsound there reserved] at hb
  refine (covered_recordNew _ (by simp)).bind fun db₁ herror => (covered_recordNew _
      (by simp)).bind fun db₂ houtcome =>
        Covered.bind ?_ fun db₃ _ =>
          (covered_appendGeneratedEvent _ _ _).bind fun _ _ =>
      (covered_recordAuthorityRevisions _ _).bind fun _ _ =>
      (covered_expect (by simp)).bind fun _ _ => covered_ok _
  have htables := (recordNew_tables houtcome).trans (recordNew_tables herror)
  refine covered_updateBudget (b := b) ?_ (decide_eq_true hheld)
  rw [htables]
  exact hb

theorem covered_commitRead {operationId : String} {operation : OperationRow}
    {intent : ToolExecutionIntent} {reservation : ReservationRow}
    {result : ReadResult} (hsound : db.tables.ledger.Sound cfg)
    (there : db.tables.operations.get? operationId = some operation)
    (reserved : db.tables.reservations.get? operationId = some reservation)
    (unsettled : reservation.state = .reserved)
    (bytes : reservation.reservedInputBytes = intent.repositoryEntry.byteLength) :
    Covered (db.commitRead cfg operationId operation intent result now cap tx) := by
  obtain ⟨b, hb, hheld, hroom⟩ := hsound.spendable reserved unsettled
  rw [← readRun_eq hsound there reserved] at hb
  rw [bytes] at hheld hroom
  refine (covered_recordNew _ (by simp)).bind fun db₁ hreceipt => (covered_recordNew _
      (by simp)).bind fun db₂ hartifact =>
        (covered_recordNew _ (by simp)).bind fun db₃ houtcome => Covered.bind ?_ fun db₄ _ =>
      (covered_appendGeneratedEvent _ _ _).bind fun _ _ =>
      (covered_appendGeneratedEvent _ _ _).bind fun _ _ =>
      (covered_recordAuthorityRevisions _ _).bind fun _ _ =>
      (covered_expect (by simp)).bind fun _ _ => covered_ok _
  have htables := (recordNew_tables houtcome).trans
    ((recordNew_tables hartifact).trans (recordNew_tables hreceipt))
  refine covered_updateBudget (b := b) ?_ ?_
  · rw [htables]
    exact hb
  · rw [Bool.and_eq_true]
    exact ⟨decide_eq_true hheld, decide_eq_true hroom⟩

theorem covered_chargeFailedModel {requestId : String}
    {operation : ModelOperationRow} {reservation : ModelReservationRow}
    {error : ErrorRecord} {state : ModelState} {err : StoreError}
    (hsound : db.tables.ledger.Sound cfg)
    (there : db.tables.modelOperations.get? requestId = some operation)
    (reserved : db.tables.modelReservations.get? requestId = some reservation)
    (unsettled : reservation.state = .reserved) :
    Covered (db.chargeFailedModel cfg requestId operation reservation error state err
      now cap tx) := by
  obtain ⟨b, hb, -, htokens, hcost⟩ := hsound.chargeable reserved unsettled
  rw [← modelRun_eq hsound there reserved] at hb
  refine (covered_recordIfNew _).bind fun db₁ hrecord => Covered.bind ?_ fun db₂ _ =>
    (covered_appendGeneratedEvent _ _ _).bind fun _ _ => covered_closeModel _ _
  refine covered_updateBudget (b := b) ?_ ?_
  · rw [recordIfNew_tables hrecord]
    exact hb
  · rw [Bool.and_eq_true]
    exact ⟨decide_eq_true htokens, decide_eq_true hcost⟩

theorem covered_commitModel {requestId : String} {operation : ModelOperationRow}
    {reservation : ModelReservationRow} {r : InvocationResult}
    (hsound : db.tables.ledger.Sound cfg)
    (there : db.tables.modelOperations.get? requestId = some operation)
    (reserved : db.tables.modelReservations.get? requestId = some reservation)
    (unsettled : reservation.state = .reserved)
    (bytes : r.result.output.byteLength ≤ reservation.reservedOutputBytes) :
    Covered (db.commitModel cfg requestId operation reservation r now cap tx) := by
  obtain ⟨b, hb, houtput, htokens, hcost⟩ := hsound.chargeable reserved unsettled
  rw [← modelRun_eq hsound there reserved] at hb
  refine (covered_recordIfNew _).bind fun db₁ hresult =>
    (covered_recordIfNew _).bind fun db₂ hartifact =>
    (covered_issueDecision _).bind fun db₃ hissue =>
    (covered_consumeDecision _ _ _).bind fun db₄ hconsume =>
          Covered.bind ?_ fun db₅ _ =>
            (covered_appendGeneratedEvent _ _ _).bind fun _ _ =>
              covered_closeModel _ _
  refine covered_updateBudget (b := b) ?_ ?_
  · rw [consumeDecision_tables hconsume, issueDecision_tables hissue,
      recordIfNew_tables hartifact, recordIfNew_tables hresult]
    exact hb
  · rw [Bool.and_eq_true, Bool.and_eq_true]
    exact ⟨⟨decide_eq_true (by omega), decide_eq_true htokens⟩, decide_eq_true hcost⟩

theorem covered_abortExpiredOperation (hsound : db.tables.ledger.Sound cfg)
    (operationId : String) (cap : Capability) (epoch : Option ℕ) :
    Covered (db.abortExpiredOperation cfg operationId now cap epoch tx) := by
  refine (covered_requireCapability _ _).bind fun _ _ =>
    (covered_expect (by simp)).bind fun operation hoperation => ?_
  split
  · exact covered_ok _
  refine (covered_require (by simp)).bind fun _ _ =>
    (covered_expect (by simp)).bind fun _ _ =>
    (covered_requireClock _).bind fun _ _ =>
    (covered_require (by simp)).bind fun _ _ =>
    (covered_expect (by simp)).bind fun reservation hreservation =>
    (covered_require (by simp)).bind fun _ hreserved =>
    (covered_loadRecord _).bind fun _ _ =>
    (covered_asIntent _).bind fun _ _ =>
    (covered_requireValid rfl).bind fun _ _ => ?_
  exact covered_releaseRead hsound (expect_eq_ok.mp hoperation)
    (expect_eq_ok.mp hreservation) (by simpa using require_eq_ok.mp hreserved)

theorem covered_failRepositoryRead (hsound : db.tables.ledger.Sound cfg)
    (operationId token : String) (error : ErrorRecord)
    (outcome : ToolExecutionOutcome) (cap : Capability) :
    Covered (db.failRepositoryRead cfg operationId token error outcome now cap tx) := by
  refine (covered_requireCapability _ _).bind fun _ _ =>
    (covered_requireValid (by simp)).bind
      fun _ _ => (covered_expect (by simp)).bind fun operation hoperation => ?_
  split
  · exact (covered_require (by simp)).bind fun _ _ => covered_ok _
  refine (covered_requireLiveRunTime _).bind fun _ _ =>
    (covered_requireLiveLease _ _ _).bind fun _ _ =>
    (covered_loadRecord _).bind fun _ _ => (covered_asIntent _).bind fun _ _ =>
    (covered_require (by simp)).bind fun _ _ =>
    (covered_expect (by simp)).bind fun reservation hreservation =>
    (covered_require (by simp)).bind fun _ hreserved => ?_
  exact covered_releaseRead hsound (expect_eq_ok.mp hoperation)
    (expect_eq_ok.mp hreservation) (by simpa using require_eq_ok.mp hreserved)

theorem covered_completeRepositoryRead (hsound : db.tables.ledger.Sound cfg)
    (operationId token : String) (result : ReadResult)
    (proof : Option ArtifactAvailabilityProof) (cap : Capability) :
    Covered (db.completeRepositoryRead cfg operationId token result proof now cap tx) := by
  refine (covered_requireCapability _ _).bind fun _ _ =>
    (covered_requireValid (by simp)).bind
      fun _ _ => (covered_expect (by simp)).bind fun operation hoperation => ?_
  split
  · exact (covered_require (by simp)).bind fun _ _ => covered_ok _
  refine (covered_requireLiveRunTime _).bind fun _ _ =>
    (covered_requireLiveLease _ _ _).bind fun _ _ =>
    (covered_loadRecord _).bind fun _ _ =>
    (covered_asIntent _).bind fun intent _ =>
    (covered_require (by simp)).bind fun _ _ =>
    (covered_requireAvailable _ _ (by simp) (by simp)).bind fun _ _ =>
    (covered_expect (by simp)).bind fun reservation hreservation =>
    (covered_require (by simp)).bind fun _ hreserved => ?_
  have hsettled := require_eq_ok.mp hreserved
  simp only [List.mem_cons, List.not_mem_nil, or_false, forall_eq,
    Bool.and_eq_true, decide_eq_true_eq] at hsettled
  exact covered_commitRead hsound (expect_eq_ok.mp hoperation)
    (expect_eq_ok.mp hreservation) hsettled.1 hsettled.2

theorem covered_failModelInvocation (hsound : db.tables.ledger.Sound cfg)
    (requestId : String) (error : ErrorRecord) (cap : Capability) :
    Covered (db.failModelInvocation cfg requestId error now cap tx) := by
  refine (covered_requireCapability _ _).bind fun _ _ =>
    (covered_requireValid (by simp)).bind
      fun _ _ => (covered_expect (by simp)).bind fun operation hoperation => ?_
  cases operation.state with
  | prepared | succeeded | ambiguous =>
    exact covered_error (by simp)
  | failed =>
    exact (covered_require (by simp)).bind fun _ _ => covered_ok _
  | started =>
    refine (covered_requireActiveModelRun _ (by simp)).bind fun _ _ => (covered_loadRecord _).bind
        fun _ _ => (covered_asModelRequest _).bind fun _ _ =>
          (covered_require (by simp)).bind fun _ _ =>
          (covered_expect (by simp)).bind fun reservation hreservation =>
          (covered_require (by simp)).bind fun _ hreserved => ?_
    exact covered_chargeFailedModel hsound (expect_eq_ok.mp hoperation)
      (expect_eq_ok.mp hreservation) (by simpa using require_eq_ok.mp hreserved)

theorem covered_resolveAmbiguousModelInvocation (hsound : db.tables.ledger.Sound cfg)
    (requestId : String) (observed : Stamp) (runtimeCap adapterCap : Capability) :
    Covered (db.resolveAmbiguousModelInvocation cfg requestId observed now runtimeCap
      adapterCap tx) := by
  refine (covered_requireCapability _ _).bind fun _ _ =>
    (covered_requireCapability _ _).bind fun _ _ =>
    (covered_expect (by simp)).bind fun operation hoperation => ?_
  cases operation.state with
  | prepared | succeeded | failed =>
    exact covered_error (by simp)
  | ambiguous =>
    exact (covered_require (by simp)).bind fun _ _ => covered_ok _
  | started =>
    refine (covered_require (by simp)).bind fun _ _ =>
      (covered_loadRecord _).bind fun _ _ =>
      (covered_expect (by simp)).bind fun reservation hreservation =>
      (covered_require (by simp)).bind fun _ hreserved =>
      (covered_asModelRequest _).bind fun _ _ =>
      (covered_requireValid rfl).bind fun _ _ => ?_
    exact covered_chargeFailedModel hsound (expect_eq_ok.mp hoperation)
      (expect_eq_ok.mp hreservation) (by simpa using require_eq_ok.mp hreserved)

theorem covered_completeModelInvocation (hsound : db.tables.ledger.Sound cfg)
    (requestId : String) (r : InvocationResult) (proof : ArtifactAvailabilityProof)
    (cap : Capability) :
    Covered (db.completeModelInvocation cfg requestId r proof now cap tx) := by
  refine (covered_requireCapability _ _).bind fun _ _ =>
    (covered_requireValid (by simp)).bind fun _ _ =>
    (covered_requireAvailable _ _ (by simp) (by simp)).bind fun _ _ =>
    (covered_expect (by simp)).bind fun operation hoperation => ?_
  cases operation.state with
  | prepared | failed | ambiguous =>
    exact covered_error (by simp)
  | succeeded =>
    exact (covered_require (by simp)).bind fun _ _ => covered_ok _
  | started =>
    refine (covered_requireActiveModelRun _ (by simp)).bind fun _ _ =>
      (covered_loadRecord _).bind fun _ _ =>
      (covered_loadModelPlan _).bind fun _ _ =>
      (covered_require (by simp)).bind fun _ _ =>
      (covered_require (by simp)).bind fun _ _ =>
      (covered_expect (by simp)).bind fun _ _ =>
      (covered_expect (by simp)).bind fun _ _ =>
      (covered_asModelRequest _).bind fun _ _ =>
      (covered_asArtifact _).bind fun _ _ =>
      (covered_asEndpoint _).bind fun _ _ =>
      (covered_require (by simp)).bind fun _ _ =>
      (covered_expect (by simp)).bind fun reservation hreservation =>
      (covered_require (by simp)).bind fun _ hreserved => ?_
    have hsettled := require_eq_ok.mp hreserved
    simp only [List.mem_cons, List.not_mem_nil, or_false, forall_eq,
      Bool.and_eq_true, decide_eq_true_eq] at hsettled
    exact covered_commitModel hsound (expect_eq_ok.mp hoperation)
      (expect_eq_ok.mp hreservation) hsettled.1.1 hsettled.1.2

theorem covered_abortPreparedModelInvocation (request : ModelRequest)
    (reason : AbortReason) (cap : Capability) :
    Covered (db.abortPreparedModelInvocation cfg request reason now cap tx) := by
  refine (covered_requireCapability _ _).bind fun _ _ =>
    (covered_requireValid (by simp)).bind
      fun _ _ => (covered_expect (by simp)).bind fun operation hoperation =>
    (covered_require (by simp)).bind fun _ _ => ?_
  cases operation.state with
  | started | succeeded | ambiguous =>
    exact covered_error (by simp)
  | failed =>
    exact (covered_require (by simp)).bind fun _ _ => covered_ok _
  | prepared =>
    exact (covered_expect (by simp)).bind fun _ _ => (covered_expect (by simp)).bind fun _ _ =>
          (covered_expect (by simp)).bind fun _ _ =>
          (covered_requireClock _).bind fun _ _ =>
          (covered_requireAbortObserved _ _ _).bind fun _ _ =>
          (covered_require (by simp)).bind fun _ _ =>
          (covered_requireValid rfl).bind fun _ _ =>
          (covered_recordIfNew _).bind fun _ _ =>
                          covered_closeModel _ _

end Settlements

def Call.settles : Call → Bool
  | .abortExpiredOperation .. | .completeRepositoryRead ..
  | .failRepositoryRead .. | .abortPreparedModelInvocation ..
  | .completeModelInvocation .. | .failModelInvocation ..
  | .resolveAmbiguousModelInvocation .. => true
  | _ => false

/-- **Budget conservation and limits.**  In every reachable store the budget of a
run with an active plan is that of the plan, every counter is the sum over the
reservations of the run, and what is spent and still held stays within the
limits.  So no call that settles an operation is refused for want of budget. -/
theorem budgets_conserved (cfg : StoreConfig) (keyId : String) (calls : List Call) :
    let db := storeAfter cfg keyId calls
    (∀ runId run planId, db.tables.runs.get? runId = some run →
      run.activePlanId = some planId →
      ∃ plan b, plan.metadata.id = planId ∧ plan.metadata.runId = runId ∧
        run.activePlanDigest = some (cfg.recordDigest (.runPlan plan)) ∧
        db.tables.budgets.get? runId = some b ∧ b.limits = plan.budget ∧
        db.tables.ledger.Balanced runId plan.initialInputBytes b ∧
        db.tables.ledger.Within runId b) ∧
      ∀ call, Call.settles call = true →
        ∀ e, Call.exec cfg db call = .error e → e.isShortfall = false := by
  have hsound := @ledger_sound cfg keyId calls
  refine ⟨?_, ?_⟩
  · intro runId run planId hrun hplan
    have hactive : (storeAfter cfg keyId calls).tables.ledger.active runId =
        some (planId, run.activePlanDigest) := by
      simp only [Tables.ledger, hrun, Option.bind_some, hplan, Option.map_some]
    obtain ⟨b, hb⟩ := Option.isSome_iff_exists.mp
      (hsound.active runId (by rw [hactive]; rfl))
    obtain ⟨plan, hrow⟩ := hsound.rows runId b hb
    have hsame := hactive.symm.trans hrow.active
    simp only [Option.some.injEq, Prod.mk.injEq] at hsame
    exact ⟨plan, b, hsame.1.symm, hrow.run, hsame.2, hb, hrow.limits, hrow.balanced,
      hrow.within⟩
  · intro call hcall
    cases call with
    | abortExpiredOperation operationId now cap epoch tx =>
      exact covered_abortExpiredOperation hsound operationId cap epoch
    | completeRepositoryRead operationId token result proof now cap tx =>
      exact covered_completeRepositoryRead hsound operationId token result proof cap
    | failRepositoryRead operationId token error outcome now cap tx =>
      exact covered_failRepositoryRead hsound operationId token error outcome cap
    | abortPreparedModelInvocation request reason now cap tx =>
      exact covered_abortPreparedModelInvocation request reason cap
    | completeModelInvocation requestId result proof now cap tx =>
      exact covered_completeModelInvocation hsound requestId result proof cap
    | failModelInvocation requestId error now cap tx =>
      exact covered_failModelInvocation hsound requestId error cap
    | resolveAmbiguousModelInvocation requestId observed now runtimeCap adapterCap tx =>
      exact covered_resolveAmbiguousModelInvocation hsound requestId observed
        runtimeCap adapterCap
    | _ => cases hcall

end Ecosystem.Store
