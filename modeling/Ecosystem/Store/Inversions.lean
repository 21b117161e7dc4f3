import Ecosystem.Store.Effects

/-!
# What a committed transaction has done

One lemma for each operation that writes: when its transaction commits, the helpers that
ran in it, one behind the other, with the databases between them.
-/

namespace Ecosystem.Store

open Ecosystem.Lib Ecosystem.Runtime

section Inversions

variable {cfg : StoreConfig} {db db' : Db} {tx : String} {answer : Answer}

/-! ## Runs and plans -/

theorem putRecord_ok {r : Record} (h : db.putRecord cfg r tx = .ok (db', answer)) :
    r.kind.isAuthorityManaged = false ∧ db.recordIfNew cfg tx r = .ok db' := by
  obtain ⟨-, h⟩ := rest_ok h
  obtain ⟨hkind, h⟩ := require_bind_eq_ok.mp h
  obtain ⟨db₁, hrecord, h⟩ := bind_eq_ok.mp h
  cases pure_eq_ok.mp h
  exact ⟨by simpa using hkind, hrecord⟩

variable {runId : String} {cap : Capability} {now : Instant} {plan : RunPlan}
  {decision : PolicyDecision} {operationId : String} {error : ErrorRecord}
  {outcome : ToolExecutionOutcome} {r : InvocationRequest}
  {proof : ArtifactAvailabilityProof} {cost : ℕ} {requestId : String}
  {request : ModelRequest}

theorem startRun_ok {request : RunRequest}
    (h : db.startRun cfg runId request cap tx = .ok (db', answer)) :
    ∃ now db₁ db₂, isBoundedId runId = true ∧
      parse request.createdAt = .ok now ∧
      db.tables.runs.get? runId = none ∧
      db.recordNew cfg tx (.runRequest request)
        (.store "ECO_RUN_REQUEST_REUSED" "Run request is already bound elsewhere") =
          .ok db₁ ∧
      db₁.tables.baselines.get? runId = none ∧
      (db₁.withRun cfg runId (cfg.recordDigest (.runRequest request)) .new
        request.createdAt true "native-v1").recordAuthorityRevision cfg
          .eventBaseline runId tx request.createdAt = .ok db₂ ∧
      db₂.appendGeneratedEvent cfg runId
        { type := .runReceived
          producer := .runtime
          subjectId := some request.id
          subjectDigest := some (cfg.recordDigest (.runRequest request)) }
        cap now tx = .ok db' := by
  obtain ⟨-, h⟩ := rest_ok h
  obtain ⟨hid, h⟩ := require_bind_eq_ok.mp h
  obtain ⟨-, h⟩ := rest_ok h
  obtain ⟨now, hnow, h⟩ := bind_eq_ok.mp h
  obtain ⟨hfree, h⟩ := require_bind_eq_ok.mp h
  obtain ⟨db₁, hrecord, h⟩ := bind_eq_ok.mp h
  obtain ⟨hbaseline, h⟩ := require_bind_eq_ok.mp h
  obtain ⟨db₂, hrevision, h⟩ := bind_eq_ok.mp h
  obtain ⟨db₃, hevent, h⟩ := bind_eq_ok.mp h
  cases pure_eq_ok.mp h
  exact ⟨now, db₁, db₂, by simpa using hid, hnow, by simpa using hfree, hrecord,
    by simpa using hbaseline, hrevision, hevent⟩

theorem validateRun_ok (h : db.validateRun cfg runId now cap tx = .ok (db', answer)) :
    db' = db ∨ ∃ run request, db.tables.runs.get? runId = some run ∧
      run.state = .received ∧
      db.appendGeneratedEvent cfg runId
        { type := .runValidated
          producer := .runtime
          subjectId := some (Record.id request)
          subjectDigest := some run.requestDigest }
        cap now tx = .ok db' := by
  obtain ⟨-, h⟩ := rest_ok h
  obtain ⟨run, hrun, h⟩ := bind_eq_ok.mp h
  split at h
  · cases pure_eq_ok.mp h
    exact .inl rfl
  · obtain ⟨hstate, h⟩ := require_bind_eq_ok.mp h
    obtain ⟨request, h⟩ := rest_ok h
    obtain ⟨db₁, hevent, h⟩ := bind_eq_ok.mp h
    obtain ⟨run', h⟩ := rest_ok h
    cases pure_eq_ok.mp h
    exact .inr ⟨run, request.record, expect_eq_ok.mp hrun, by simpa using hstate, hevent⟩

/-- What `issue_plan` finds of the plan row, and what it leaves. -/
inductive PlanFound (cfg : StoreConfig) (db : Db) (plan : RunPlan) : Db → Bool → Prop
  | there (row : PlanRow) (h : db.tables.plans.get? plan.metadata.id = some row)
      (run : row.runId = plan.metadata.runId)
      (digest : row.planDigest = cfg.recordDigest (.runPlan plan)) :
      PlanFound cfg db plan db false
  | free (h : db.tables.plans.get? plan.metadata.id = none) :
      PlanFound cfg db plan
        { db with tables := { db.tables with
          plans := db.tables.plans.insert plan.metadata.id
            { runId := plan.metadata.runId
              planDigest := cfg.recordDigest (.runPlan plan) } } } true

theorem ensurePlan_ok {inserted : Bool} (h : db.ensurePlan cfg plan = .ok (db', inserted)) :
    PlanFound cfg db plan db' inserted := by
  unfold Db.ensurePlan at h
  cases hrow : db.tables.plans.get? plan.metadata.id with
  | none =>
    rw [hrow] at h
    cases pure_eq_ok.mp h
    exact .free hrow
  | some row =>
    rw [hrow] at h
    obtain ⟨hsame, h⟩ := require_bind_eq_ok.mp h
    cases pure_eq_ok.mp h
    simp only [List.mem_cons, List.not_mem_nil, or_false, forall_eq,
      Bool.and_eq_true, decide_eq_true_eq] at hsame
    exact .there row hrow hsame.1 hsame.2

def planEntities (plan : RunPlan) (inserted : Bool) : List (EntityType × String) :=
  if inserted then [(.plan, plan.metadata.id)] else []

inductive PlanIssued (cfg : StoreConfig) (db : Db) (plan : RunPlan)
    (decision : PolicyDecision) (tx : String) (db' : Db) : Prop
  | first (db₁ db₂ : Db) (inserted : Bool)
      (unknown : db.tables.runs.get? plan.metadata.runId = none)
      (baseline : db.tables.baselines.get? plan.metadata.runId = none)
      (planned : (db.withRun cfg plan.metadata.runId plan.requestDigest .planned
        plan.metadata.createdAt false "issue-plan-bootstrap-v1").ensurePlan cfg
          plan = .ok (db₁, inserted))
      (issued : db₁.issueDecision cfg decision tx = .ok db₂)
      (revised : db₂.recordAuthorityRevisions cfg
        ([(.run, plan.metadata.runId), (.eventBaseline, plan.metadata.runId)] ++
          planEntities plan inserted) tx plan.metadata.createdAt = .ok db') :
      PlanIssued cfg db plan decision tx db'
  | further (run : RunRow) (cap : Option Capability) (db₁ db₂ db₃ : Db)
      (inserted : Bool)
      (known : db.tables.runs.get? plan.metadata.runId = some run)
      (request : run.requestDigest = plan.requestDigest)
      (awaiting : requireAwaitingPlan run
        (db.tables.baselines.get? plan.metadata.runId) cap = .ok ())
      (planned : db.ensurePlan cfg plan = .ok (db₁, inserted))
      (issued : db₁.issueDecision cfg decision tx = .ok db₂)
      (created : db₂.appendPlanCreated cfg plan run cap tx = .ok db₃)
      (revised : db₃.recordAuthorityRevisions cfg (planEntities plan inserted) tx
        plan.metadata.createdAt = .ok db') :
      PlanIssued cfg db plan decision tx db'

theorem issuePlan_ok {runtimeCap : Option Capability}
    (h : db.issuePlan cfg plan decision cap runtimeCap tx = .ok (db', answer)) :
    ∃ db₁, decision.metadata.runId = plan.metadata.runId ∧
      decision.subject = planSubject cfg plan ∧
      db.recordIfNew cfg tx (.runPlan plan) = .ok db₁ ∧
      PlanIssued cfg db₁ plan decision tx db' := by
  obtain ⟨-, h⟩ := rest_ok h
  obtain ⟨-, h⟩ := rest_ok h
  obtain ⟨-, h⟩ := rest_ok h
  obtain ⟨-, h⟩ := rest_ok h
  obtain ⟨hbound, h⟩ := require_bind_eq_ok.mp h
  obtain ⟨db₁, hrecord, h⟩ := bind_eq_ok.mp h
  simp only [List.mem_cons, List.not_mem_nil, or_false, forall_eq,
    Bool.and_eq_true, decide_eq_true_eq] at hbound
  refine ⟨db₁, hbound.1, hbound.2, hrecord, ?_⟩
  cases hrun : db₁.tables.runs.get? plan.metadata.runId with
  | none =>
    rw [hrun] at h
    obtain ⟨hbaseline, h⟩ := require_bind_eq_ok.mp h
    obtain ⟨⟨db₂, inserted⟩, hplan, h⟩ := bind_eq_ok.mp h
    obtain ⟨db₃, hissue, h⟩ := bind_eq_ok.mp h
    obtain ⟨db₄, hrevised, h⟩ := bind_eq_ok.mp h
    cases pure_eq_ok.mp h
    exact .first db₂ db₃ inserted hrun (by simpa using hbaseline) hplan hissue
      hrevised
  | some run =>
    rw [hrun] at h
    obtain ⟨hrequest, h⟩ := require_bind_eq_ok.mp h
    obtain ⟨⟨⟩, hawaiting, h⟩ := bind_eq_ok.mp h
    obtain ⟨⟨db₂, inserted⟩, hplan, h⟩ := bind_eq_ok.mp h
    obtain ⟨db₃, hissue, h⟩ := bind_eq_ok.mp h
    obtain ⟨db₄, hcreated, h⟩ := bind_eq_ok.mp h
    obtain ⟨db₅, hrevised, h⟩ := bind_eq_ok.mp h
    cases pure_eq_ok.mp h
    exact .further run runtimeCap db₂ db₃ db₄ inserted hrun
      (by simpa using hrequest) hawaiting hplan hissue hcreated hrevised

theorem budgetStatus_ok (h : db.budgetStatus runId = .ok (db', answer)) : db' = db := by
  obtain ⟨row, h⟩ := rest_ok h
  cases pure_eq_ok.mp h
  rfl

inductive PlanActivated (cfg : StoreConfig) (db : Db) (plan : RunPlan)
    (decision : PolicyDecision) (nonce tx : String) (now : Instant) (db' : Db) :
    Prop
  | first (deadline : Instant) (cap : Capability) (run : RunRow) (db₁ db₂ : Db)
      (known : db.tables.runs.get? plan.metadata.runId = some run)
      (inactive : run.activePlanId = none)
      (consumed : db.consumeDecision cfg decision
        (cfg.recordDigest (.runPlan plan)) nonce tx now = .ok db₁)
      (budget : db₁.tables.budgets.get? plan.metadata.runId = none)
      (allowed : (db₁.withActivation cfg plan now deadline).appendGeneratedEvent
        cfg plan.metadata.runId
        { type := .policyAllowed
          producer := .policy
          subjectId := some plan.metadata.id
          subjectDigest := some (cfg.recordDigest (.runPlan plan))
          resultDigest := some (cfg.recordDigest (.policyDecision decision)) }
        cap now tx = .ok db₂)
      (revised : db₂.recordAuthorityRevisions cfg
        [(.plan, plan.metadata.id), (.budget, plan.metadata.runId)] tx (utc now) =
          .ok db') : PlanActivated cfg db plan decision nonce tx now db'
  | again (run : RunRow)
      (known : db.tables.runs.get? plan.metadata.runId = some run)
      (active : run.activePlanId = some plan.metadata.id)
      (digest : run.activePlanDigest = some (cfg.recordDigest (.runPlan plan)))
      (consumed : db.consumeDecision cfg decision
        (cfg.recordDigest (.runPlan plan)) nonce tx now = .ok db') :
      PlanActivated cfg db plan decision nonce tx now db'

theorem activatePlan_ok {nonce : String}
    (h : db.activatePlan cfg plan decision nonce now cap tx = .ok (db', answer)) :
    ∃ planRow, decision.metadata.runId = plan.metadata.runId ∧
      decision.effect = .allow ∧ decision.subject = planSubject cfg plan ∧
      plan.initialInputBytes ≤ plan.budget.maxInputBytes ∧
      db.tables.plans.get? plan.metadata.id = some planRow ∧
      planRow.planDigest = cfg.recordDigest (.runPlan plan) ∧
      planRow.runId = plan.metadata.runId ∧
      PlanActivated cfg db plan decision nonce tx now db' := by
  obtain ⟨-, h⟩ := rest_ok h
  obtain ⟨-, h⟩ := rest_ok h
  obtain ⟨-, h⟩ := rest_ok h
  obtain ⟨-, h⟩ := rest_ok h
  obtain ⟨-, h⟩ := rest_ok h
  obtain ⟨hbound, h⟩ := require_bind_eq_ok.mp h
  obtain ⟨createdAt, h⟩ := rest_ok h
  obtain ⟨deadline, h⟩ := rest_ok h
  obtain ⟨-, h⟩ := rest_ok h
  obtain ⟨planRow, hplan, h⟩ := bind_eq_ok.mp h
  obtain ⟨run, hrun, h⟩ := bind_eq_ok.mp h
  obtain ⟨htrusted, h⟩ := require_bind_eq_ok.mp h
  simp only [List.mem_cons, List.not_mem_nil, or_false, forall_eq_or_imp,
    forall_eq, Bool.and_eq_true, decide_eq_true_eq] at hbound htrusted
  refine ⟨planRow, hbound.1.1.1, hbound.1.1.2, hbound.1.2, hbound.2,
    expect_eq_ok.mp hplan, htrusted.1, htrusted.2, ?_⟩
  split at h
  · obtain ⟨hactive, h⟩ := require_bind_eq_ok.mp h
    obtain ⟨db₁, hconsume, h⟩ := bind_eq_ok.mp h
    cases budgetStatus_ok h
    simp only [List.mem_cons, List.not_mem_nil, or_false, forall_eq,
      Bool.and_eq_true, decide_eq_true_eq] at hactive
    exact .again run (expect_eq_ok.mp hrun) hactive.1 hactive.2 hconsume
  · next hinactive =>
      obtain ⟨db₁, hconsume, h⟩ := bind_eq_ok.mp h
      obtain ⟨hbudget, h⟩ := require_bind_eq_ok.mp h
      obtain ⟨db₂, hevent, h⟩ := bind_eq_ok.mp h
      obtain ⟨db₃, hrevised, h⟩ := bind_eq_ok.mp h
      cases budgetStatus_ok h
      exact .first deadline cap run db₁ db₂ (expect_eq_ok.mp hrun)
        (by simpa using hinactive) hconsume (by simpa using hbudget) hevent hrevised

theorem denyPlan_ok {nonce : String}
    (h : db.denyPlan cfg plan decision nonce now cap tx = .ok (db', answer)) :
    ∃ run db₁ db₂ db₃, decision.effect = .deny ∧
      decision.subject = planSubject cfg plan ∧
      db.tables.runs.get? plan.metadata.runId = some run ∧
      run.state = .planned ∧
      db.issueDecision cfg decision tx = .ok db₁ ∧
      db₁.consumeDecision cfg decision (cfg.recordDigest (.runPlan plan)) nonce tx
        now = .ok db₂ ∧
      ({ db₂ with tables := { db₂.tables with
        plans := db₂.tables.plans.modify plan.metadata.id fun row =>
          { row with status := .terminal } } } : Db).appendGeneratedEvent cfg
        plan.metadata.runId
        { type := .policyDenied
          producer := .policy
          subjectId := some plan.metadata.id
          subjectDigest := some (cfg.recordDigest (.runPlan plan))
          resultDigest := some (cfg.recordDigest (.policyDecision decision)) }
        cap now tx = .ok db₃ ∧
      db₃.recordAuthorityRevision cfg .plan plan.metadata.id tx (utc now) =
        .ok db' := by
  obtain ⟨-, h⟩ := rest_ok h
  obtain ⟨-, h⟩ := rest_ok h
  obtain ⟨-, h⟩ := rest_ok h
  obtain ⟨-, h⟩ := rest_ok h
  obtain ⟨hbound, h⟩ := require_bind_eq_ok.mp h
  obtain ⟨planRow, hplan, h⟩ := bind_eq_ok.mp h
  obtain ⟨run, hrun, h⟩ := bind_eq_ok.mp h
  obtain ⟨hawaiting, h⟩ := require_bind_eq_ok.mp h
  obtain ⟨db₁, hissue, h⟩ := bind_eq_ok.mp h
  obtain ⟨db₂, hconsume, h⟩ := bind_eq_ok.mp h
  obtain ⟨db₃, hevent, h⟩ := bind_eq_ok.mp h
  obtain ⟨db₄, hrevised, h⟩ := bind_eq_ok.mp h
  obtain ⟨run', h⟩ := rest_ok h
  cases pure_eq_ok.mp h
  simp only [List.mem_cons, List.not_mem_nil, or_false, forall_eq,
    Bool.and_eq_true, decide_eq_true_eq] at hbound hawaiting
  exact ⟨run, db₁, db₂, db₃, hbound.1, hbound.2, expect_eq_ok.mp hrun,
    hawaiting.2, hissue, hconsume, hevent, hrevised⟩

theorem adapterEvent_ok {event : AdapterEvent}
    (h : db.adapterEvent cfg event runId now cap tx = .ok (db', answer)) :
    db.appendGeneratedEvent cfg runId
      { type := event.type, producer := .adapter } cap now tx = .ok db' := by
  obtain ⟨-, h⟩ := rest_ok h
  obtain ⟨db₁, hevent, h⟩ := bind_eq_ok.mp h
  cases pure_eq_ok.mp h
  exact hevent

theorem finishRun_ok {outcome : RunOutcome}
    (h : db.finishRun cfg runId outcome now cap tx = .ok (db', answer)) :
    db.tables.hasOpenModel runId = false ∧ db.appendGeneratedEvent cfg runId
        { type := outcome.type, producer := .runtime } cap now tx = .ok db' := by
  obtain ⟨-, h⟩ := rest_ok h
  obtain ⟨hopen, h⟩ := require_bind_eq_ok.mp h
  obtain ⟨db₁, hevent, h⟩ := bind_eq_ok.mp h
  cases pure_eq_ok.mp h
  exact ⟨by simpa using hopen, hevent⟩

theorem createTerminalCheckpoint_ok
    (h : db.createTerminalCheckpoint cfg runId now cap tx = .ok (db', answer)) :
    db' = db ∨ ∃ checkpoint row db₁, db.tables.checkpoints.get? runId = none ∧
      db.recordNew cfg tx (.runCheckpoint checkpoint)
        (.store "ECO_CHECKPOINT_CONFLICT" "Checkpoint id already exists") = .ok db₁ ∧
      ({ db₁ with tables := { db₁.tables with
        checkpoints := db₁.tables.checkpoints.insert runId row } } :
          Db).recordAuthorityRevision cfg .checkpoint runId tx (utc now) = .ok db' ∧
      ∃ version, checkpoint.metadata.id = checkpointId cfg runId version := by
  obtain ⟨-, h⟩ := rest_ok h
  cases hrow : db.tables.checkpoints.get? runId with
  | some row =>
    rw [hrow] at h
    obtain ⟨checkpoint, h⟩ := rest_ok h
    cases pure_eq_ok.mp h
    exact .inl rfl
  | none =>
    rw [hrow] at h
    obtain ⟨run, h⟩ := rest_ok h
    obtain ⟨replay, h⟩ := rest_ok h
    obtain ⟨-, h⟩ := rest_ok h
    obtain ⟨budget, h⟩ := rest_ok h
    obtain ⟨planId, h⟩ := rest_ok h
    obtain ⟨planRecord, h⟩ := rest_ok h
    obtain ⟨plan, h⟩ := rest_ok h
    obtain ⟨baseline, h⟩ := rest_ok h
    obtain ⟨-, h⟩ := rest_ok h
    obtain ⟨-, h⟩ := rest_ok h
    obtain ⟨db₁, hrecord, h⟩ := bind_eq_ok.mp h
    obtain ⟨db₂, hrevised, h⟩ := bind_eq_ok.mp h
    cases pure_eq_ok.mp h
    exact .inr ⟨_, _, db₁, rfl, hrecord, hrevised, _, rfl⟩

theorem issueDecisionCall_ok {digest : String}
    (h : db.issueDecisionCall cfg decision digest cap tx = .ok (db', answer)) :
    db.issueDecision cfg decision tx = .ok db' := by
  obtain ⟨-, h⟩ := rest_ok h
  obtain ⟨-, h⟩ := rest_ok h
  obtain ⟨-, h⟩ := rest_ok h
  obtain ⟨db₁, hissue, h⟩ := bind_eq_ok.mp h
  cases pure_eq_ok.mp h
  exact hissue

theorem consumeDecisionCall_ok {subject : Record} {nonce digest : String}
    (h : db.consumeDecisionCall cfg decision subject nonce now digest cap tx =
      .ok (db', answer)) :
    some decision.metadata.runId = subject.runId ∧
      decision.subject.digest = cfg.recordDigest subject ∧
      db.consumeDecision cfg decision (cfg.recordDigest subject) nonce tx now =
        .ok db' := by
  obtain ⟨-, h⟩ := rest_ok h
  obtain ⟨-, h⟩ := rest_ok h
  obtain ⟨-, h⟩ := rest_ok h
  obtain ⟨-, h⟩ := rest_ok h
  obtain ⟨-, h⟩ := rest_ok h
  obtain ⟨hbound, h⟩ := require_bind_eq_ok.mp h
  obtain ⟨expiry, h⟩ := rest_ok h
  obtain ⟨-, h⟩ := rest_ok h
  obtain ⟨db₁, hconsume, h⟩ := bind_eq_ok.mp h
  cases pure_eq_ok.mp h
  simp only [List.mem_cons, List.not_mem_nil, or_false, forall_eq,
    Bool.and_eq_true, decide_eq_true_eq] at hbound
  exact ⟨hbound.1.1.1, hbound.2, hconsume⟩

theorem rotateAuditKey_ok {transition : RotationTransition}
    (h : db.rotateAuditKey cfg transition now tx = .ok (db', answer)) :
    ∃ rotation, db' = { ({ db with book := { db.book with
          rotations := db.book.rotations.insert transition.nonce rotation } } :
          Db).appendAudit cfg tx .hmacKeyRotation transition.nonce .keyRotation
            (cfg.semanticDigest (.rotation transition)) (utc now) with
        book :=
          { (({ db with book := { db.book with
              rotations := db.book.rotations.insert transition.nonce rotation } } :
              Db).appendAudit cfg tx .hmacKeyRotation transition.nonce .keyRotation
                (cfg.semanticDigest (.rotation transition)) (utc now)).book with
            keyId := transition.toKeyId } } := by
  obtain ⟨-, h⟩ := rest_ok h
  obtain ⟨issued, h⟩ := rest_ok h
  obtain ⟨expiry, h⟩ := rest_ok h
  obtain ⟨-, h⟩ := rest_ok h
  cases pure_eq_ok.mp h
  exact ⟨_, rfl⟩

/-! ## Reads -/

theorem readCheck_ok {r : ReadRequest} {entry : SnapshotEntry}
    (h : r.check cfg = .ok entry) :
    r.records.all (Record.valid cfg.schema) = true ∧
      ∃ path, r.bound cfg path entry = true := by
  obtain ⟨⟨⟩, hvalid, h⟩ := bind_eq_ok.mp h
  obtain ⟨-, h⟩ := rest_ok h
  obtain ⟨-, h⟩ := rest_ok h
  obtain ⟨path, h⟩ := rest_ok h
  obtain ⟨planned, h⟩ := rest_ok h
  obtain ⟨-, h⟩ := rest_ok h
  obtain ⟨entry', h⟩ := rest_ok h
  obtain ⟨hbound, h⟩ := require_bind_eq_ok.mp h
  cases pure_eq_ok.mp h
  exact ⟨by simpa using require_eq_ok.mp hvalid, path, by simpa using hbound⟩

def readRequested (cfg : StoreConfig) (r : ReadRequest) : GeneratedEvent where
  type := .toolRequested
  producer := .runtime
  subjectId := some r.toolRequest.metadata.id
  subjectDigest := some (r.requestDigest cfg)

def readAllowed (cfg : StoreConfig) (r : ReadRequest) : GeneratedEvent where
  type := .toolAllowed
  producer := .policy
  subjectId := some r.toolRequest.metadata.id
  subjectDigest := some (r.requestDigest cfg)
  resultDigest := some (r.decisionDigest cfg)

inductive ReadOpened (cfg : StoreConfig) (db : Db) (r : ReadRequest)
    (now : Instant) (tx : String) (db' : Db) : Prop
  | intro (entry : SnapshotEntry) (lease : LeaseGrant) (run : RunRow)
      (policyCap runtimeCap : Capability) (db₁ db₂ db₃ db₄ db₅ db₆ : Db)
      (checked : r.check cfg = .ok entry)
      (known : db.tables.runs.get? r.runId = some run)
      (active : run.activePlanDigest = some (r.planDigest cfg))
      (running : run.state = .running)
      (fresh : db.tables.hasToolRequest r.runId (r.requestDigest cfg) = false)
      (issued : db.issueDecision cfg r.decision tx = .ok db₁)
      (consumed : db₁.consumeDecision cfg r.decision (r.requestDigest cfg)
        r.operationId tx now = .ok db₂)
      (reserved : db₂.reserveInput cfg r entry.byteLength now = .ok db₃)
      (recorded : db₃.recordNew cfg tx (.toolExecutionIntent r.intent)
        (.store "ECO_OPERATION_CONFLICT" "Operation record already exists") = .ok db₄)
      (freeOperation : db₄.tables.operations.get? r.operationId = none)
      (freeReservation : db₄.tables.reservations.get? r.operationId = none)
      (requested : (db₄.withOperation cfg r entry.byteLength lease
        now).appendGeneratedEvent cfg r.runId (readRequested cfg r) runtimeCap now
          tx = .ok db₅)
      (allowed : db₅.appendGeneratedEvent cfg r.runId (readAllowed cfg r) policyCap
        now tx = .ok db₆)
      (revised : db₆.recordAuthorityRevisions cfg
        [(.budget, r.runId), (.operation, r.operationId),
          (.reservation, r.operationId)] tx (utc now) = .ok db') :
      ReadOpened cfg db r now tx db'

theorem prepareRepositoryRead_ok {r : ReadRequest} {ownerId token : String}
    {leaseSeconds : ℕ} {policyCap brokerCap runtimeCap : Capability}
    (h : db.prepareRepositoryRead cfg r ownerId leaseSeconds now policyCap brokerCap
      runtimeCap tx token = .ok (db', answer)) :
    db' = db ∨ ReadOpened cfg db r now tx db' := by
  obtain ⟨-, h⟩ := rest_ok h
  obtain ⟨-, h⟩ := rest_ok h
  obtain ⟨-, h⟩ := rest_ok h
  obtain ⟨-, h⟩ := rest_ok h
  obtain ⟨entry, hcheck, h⟩ := bind_eq_ok.mp h
  obtain ⟨leaseUntil, h⟩ := rest_ok h
  obtain ⟨run, hrun, h⟩ := bind_eq_ok.mp h
  obtain ⟨planRow, h⟩ := rest_ok h
  obtain ⟨hactive, h⟩ := require_bind_eq_ok.mp h
  obtain ⟨-, h⟩ := rest_ok h
  obtain ⟨-, h⟩ := rest_ok h
  obtain ⟨deadline, h⟩ := rest_ok h
  simp only [List.mem_cons, List.not_mem_nil, or_false, forall_eq,
    Bool.and_eq_true, decide_eq_true_eq] at hactive
  cases hkey : db.tables.operationByKey? r.runId r.intent.idempotencyKeyDigest with
  | some existing =>
    rw [hkey] at h
    obtain ⟨-, h⟩ := rest_ok h
    cases pure_eq_ok.mp h
    exact .inl rfl
  | none =>
    rw [hkey] at h
    obtain ⟨hfresh, h⟩ := require_bind_eq_ok.mp h
    obtain ⟨db₁, hissue, h⟩ := bind_eq_ok.mp h
    obtain ⟨db₂, hconsume, h⟩ := bind_eq_ok.mp h
    obtain ⟨db₃, hreserve, h⟩ := bind_eq_ok.mp h
    obtain ⟨db₄, hrecord, h⟩ := bind_eq_ok.mp h
    obtain ⟨hfree, h⟩ := require_bind_eq_ok.mp h
    obtain ⟨db₅, hrequested, h⟩ := bind_eq_ok.mp h
    obtain ⟨db₆, hallowed, h⟩ := bind_eq_ok.mp h
    obtain ⟨db₇, hrevised, h⟩ := bind_eq_ok.mp h
    cases pure_eq_ok.mp h
    simp only [List.mem_cons, List.not_mem_nil, or_false, forall_eq,
      Bool.and_eq_true, Option.isNone_iff_eq_none] at hfree
    exact .inr (.intro entry _ run policyCap runtimeCap db₁ db₂ db₃ db₄ db₅ db₆
      hcheck (expect_eq_ok.mp hrun) hactive.1.1 hactive.2 (by simpa using hfresh)
      hissue hconsume hreserve hrecord hfree.1 hfree.2 hrequested hallowed
      hrevised)

theorem claimOperation_ok {operationId ownerId : String} {leaseSeconds : ℕ}
    (h : db.claimOperation operationId ownerId leaseSeconds cap =
      .ok (db', answer)) : db' = db := by
  obtain ⟨-, h⟩ := rest_ok h
  obtain ⟨-, h⟩ := rest_ok h
  obtain ⟨operation, h⟩ := rest_ok h
  split at h
  · cases pure_eq_ok.mp h
    rfl
  · cases operation.recoveryMode
    cases h

def Db.withReservation (db : Db) (operationId : String)
    (f : ReservationRow → ReservationRow) : Db :=
  { db with tables := { db.tables with
    reservations := db.tables.reservations.modify operationId f } }

/-- The transaction that gives the bytes of a read back. -/
inductive ReadReleased (cfg : StoreConfig) (db : Db) (operationId : String)
    (now : Instant) (tx : String) (db' : Db) : Prop
  | intro (operation : OperationRow) (reservation : ReservationRow)
      (intent : ToolExecutionIntent) (error : ErrorRecord)
      (outcome : ToolExecutionOutcome) (cap : Capability) (db₁ db₂ db₃ db₄ : Db)
      (there : db.tables.operations.get? operationId = some operation)
      (prepared : operation.state = .prepared)
      (loaded : db.loadRecord operationId = .ok (.toolExecutionIntent intent))
      (reserved : db.tables.reservations.get? operationId = some reservation)
      (unsettled : reservation.state = .reserved)
      (errorRecorded : db.recordNew cfg tx (.errorRecord error) conflictError = .ok db₁)
      (outcomeRecorded : db₁.recordNew cfg tx (.toolExecutionOutcome outcome)
        conflictError = .ok db₂)
      (released : db₂.updateBudget operation.runId
        (fun b => reservation.reservedInputBytes ≤ b.reservedInputBytes)
        (fun b => { b with
          reservedInputBytes := b.reservedInputBytes - reservation.reservedInputBytes
          updatedAt := utc now }) cannotRelease = .ok db₃)
      (failed : (((db₃.withReservation operationId fun row =>
        { row with state := .released, updatedAt := utc now }).withSettledOperation
          operationId .failed operation.receiptDigest operation.artifactRecordDigest
          (some (cfg.recordDigest (.errorRecord error)))
          (cfg.recordDigest (.toolExecutionOutcome outcome)) now).withNonceResult
            operationId (cfg.recordDigest (.toolExecutionOutcome
              outcome))).appendGeneratedEvent cfg operation.runId
        { type := .toolFailed
          producer := .broker
          subjectId := some intent.toolRequest.id
          subjectDigest := some operation.toolRequestDigest
          resultDigest := some (cfg.recordDigest (.toolExecutionOutcome outcome)) }
        cap now tx = .ok db₄)
      (revised : db₄.recordAuthorityRevisions cfg
        (readEntities operation.runId operationId) tx (utc now) = .ok db')
      (errorId : error.metadata.id = "error-" ++ operationId)
      (outcomeId : outcome.metadata.id = "outcome-" ++ operationId) :
      ReadReleased cfg db operationId now tx db'

theorem releaseRead_ok {operation : OperationRow}
    {intent : ToolExecutionIntent} {reservation : ReservationRow}
    (errorId : error.metadata.id = "error-" ++ operationId)
    (outcomeId : outcome.metadata.id = "outcome-" ++ operationId)
    (there : db.tables.operations.get? operationId = some operation)
    (prepared : operation.state = .prepared)
    (loaded : db.loadRecord operationId = .ok (.toolExecutionIntent intent))
    (reserved : db.tables.reservations.get? operationId = some reservation)
    (unsettled : reservation.state = .reserved)
    (h : db.releaseRead cfg operationId operation intent reservation error outcome
      now cap tx = .ok (db', answer)) :
    ReadReleased cfg db operationId now tx db' := by
  obtain ⟨db₁, herror, h⟩ := bind_eq_ok.mp h
  obtain ⟨db₂, houtcome, h⟩ := bind_eq_ok.mp h
  obtain ⟨db₃, hbudget, h⟩ := bind_eq_ok.mp h
  obtain ⟨db₄, hevent, h⟩ := bind_eq_ok.mp h
  obtain ⟨db₅, hrevised, h⟩ := bind_eq_ok.mp h
  obtain ⟨row, h⟩ := rest_ok h
  cases pure_eq_ok.mp h
  exact .intro operation reservation intent error outcome cap db₁ db₂ db₃ db₄ there
    prepared loaded reserved unsettled herror houtcome hbudget hevent hrevised
    errorId outcomeId

theorem abortExpiredOperation_ok {epoch : Option ℕ}
    (h : db.abortExpiredOperation cfg operationId now cap epoch tx = .ok (db', answer)) :
    db' = db ∨ ReadReleased cfg db operationId now tx db' := by
  obtain ⟨-, h⟩ := rest_ok h
  obtain ⟨operation, hoperation, h⟩ := bind_eq_ok.mp h
  split at h
  · cases pure_eq_ok.mp h
    exact .inl rfl
  · next hprepared =>
      obtain ⟨-, h⟩ := rest_ok h
      obtain ⟨run, h⟩ := rest_ok h
      obtain ⟨-, h⟩ := rest_ok h
      obtain ⟨-, h⟩ := rest_ok h
      obtain ⟨reservation, hreservation, h⟩ := bind_eq_ok.mp h
      obtain ⟨hreserved, h⟩ := require_bind_eq_ok.mp h
      obtain ⟨record, hrecord, h⟩ := bind_eq_ok.mp h
      obtain ⟨intent, hintent, h⟩ := bind_eq_ok.mp h
      obtain ⟨-, h⟩ := rest_ok h
      rw [asIntent_ok hintent] at hrecord
      exact .inr (releaseRead_ok rfl rfl (expect_eq_ok.mp hoperation)
        (by simpa using hprepared) hrecord (expect_eq_ok.mp hreservation)
        (by simpa using hreserved) h)

theorem failureBound_ids {operation : OperationRow} {intent : ToolExecutionIntent}
    (h : failureBound cfg operationId operation intent error outcome = true) :
    error.metadata.id = "error-" ++ operationId ∧
      outcome.metadata.id = "outcome-" ++ operationId := by
  obtain ⟨message, -, h⟩ := (Option.any_eq_true _ _).mp h
  simp only [Bool.and_eq_true, decide_eq_true_eq] at h
  refine ⟨?_, ?_⟩
  · rw [h.1.1]
  · rw [h.2]
    rfl

theorem failRepositoryRead_ok {operationId token : String}
    (h : db.failRepositoryRead cfg operationId token error outcome now cap tx =
      .ok (db', answer)) :
    db' = db ∨ ReadReleased cfg db operationId now tx db' := by
  obtain ⟨-, h⟩ := rest_ok h
  obtain ⟨-, h⟩ := rest_ok h
  obtain ⟨operation, hoperation, h⟩ := bind_eq_ok.mp h
  split at h
  · obtain ⟨-, h⟩ := rest_ok h
    cases pure_eq_ok.mp h
    exact .inl rfl
  · obtain ⟨-, h⟩ := rest_ok h
    obtain ⟨⟨⟩, hlease, h⟩ := bind_eq_ok.mp h
    obtain ⟨record, hrecord, h⟩ := bind_eq_ok.mp h
    obtain ⟨intent, hintent, h⟩ := bind_eq_ok.mp h
    obtain ⟨hbound, h⟩ := require_bind_eq_ok.mp h
    obtain ⟨reservation, hreservation, h⟩ := bind_eq_ok.mp h
    obtain ⟨hreserved, h⟩ := require_bind_eq_ok.mp h
    rw [asIntent_ok hintent] at hrecord
    have hprepared := (require_eq_ok.mp hlease) _ List.mem_cons_self
    obtain ⟨herrorId, houtcomeId⟩ := failureBound_ids (by simpa using hbound)
    exact .inr (releaseRead_ok herrorId houtcomeId (expect_eq_ok.mp hoperation)
      (by simpa using hprepared) hrecord (expect_eq_ok.mp hreservation)
      (by simpa using hreserved) h)

/-- The transaction that spends the bytes of a read. -/
inductive ReadCommitted (cfg : StoreConfig) (db : Db) (operationId : String)
    (now : Instant) (tx : String) (db' : Db) : Prop
  | intro (operation : OperationRow) (reservation : ReservationRow)
      (intent : ToolExecutionIntent) (result : ReadResult) (cap : Capability)
      (db₁ db₂ db₃ db₄ db₅ db₆ : Db)
      (there : db.tables.operations.get? operationId = some operation)
      (prepared : operation.state = .prepared)
      (loaded : db.loadRecord operationId = .ok (.toolExecutionIntent intent))
      (bound : result.bound cfg operationId operation intent.repositoryEntry = true)
      (reserved : db.tables.reservations.get? operationId = some reservation)
      (unsettled : reservation.state = .reserved)
      (bytes : reservation.reservedInputBytes = intent.repositoryEntry.byteLength)
      (receiptRecorded : db.recordNew cfg tx
        (.repositoryReadReceipt result.receipt) conflictError = .ok db₁)
      (artifactRecorded : db₁.recordNew cfg tx (.artifactRecord result.artifact)
        conflictError = .ok db₂)
      (outcomeRecorded : db₂.recordNew cfg tx
        (.toolExecutionOutcome result.outcome) conflictError = .ok db₃)
      (committed : db₃.updateBudget operation.runId
        (fun b => intent.repositoryEntry.byteLength ≤ b.reservedInputBytes &&
          b.inputBytes + intent.repositoryEntry.byteLength ≤ b.limits.maxInputBytes)
        (fun b => { b with
          reservedInputBytes :=
            b.reservedInputBytes - intent.repositoryEntry.byteLength
          inputBytes := b.inputBytes + intent.repositoryEntry.byteLength
          updatedAt := utc now }) cannotCommit = .ok db₄)
      (completed : (((db₄.withReservation operationId fun row =>
        { row with
          actualInputBytes := some row.reservedInputBytes
          state := .committed
          updatedAt := utc now }).withSettledOperation
          operationId .succeeded (some (result.receiptDigest cfg))
          (some (result.artifactDigest cfg)) operation.errorRecordDigest
          (result.outcomeDigest cfg) now).withNonceResult
            operationId (result.outcomeDigest cfg)).appendGeneratedEvent cfg
              operation.runId
        { type := .toolCompleted
          producer := .broker
          subjectId := some intent.toolRequest.id
          subjectDigest := some operation.toolRequestDigest
          resultDigest := some (result.outcomeDigest cfg) }
        cap now tx = .ok db₅)
      (artifact : db₅.appendGeneratedEvent cfg operation.runId
        { type := .artifactRecorded
          producer := .broker
          subjectId := some result.artifact.metadata.id
          subjectDigest := some (result.artifactDigest cfg)
          resultDigest := some (result.artifactDigest cfg) }
        cap now tx = .ok db₆)
      (revised : db₆.recordAuthorityRevisions cfg
        (readEntities operation.runId operationId) tx (utc now) = .ok db') :
      ReadCommitted cfg db operationId now tx db'

theorem completeRepositoryRead_ok {operationId token : String} {result : ReadResult}
    {proof : Option ArtifactAvailabilityProof}
    (h : db.completeRepositoryRead cfg operationId token result proof now cap tx =
      .ok (db', answer)) :
    db' = db ∨ ReadCommitted cfg db operationId now tx db' := by
  obtain ⟨-, h⟩ := rest_ok h
  obtain ⟨-, h⟩ := rest_ok h
  obtain ⟨operation, hoperation, h⟩ := bind_eq_ok.mp h
  split at h
  · obtain ⟨-, h⟩ := rest_ok h
    cases pure_eq_ok.mp h
    exact .inl rfl
  · obtain ⟨-, h⟩ := rest_ok h
    obtain ⟨⟨⟩, hlease, h⟩ := bind_eq_ok.mp h
    obtain ⟨record, hrecord, h⟩ := bind_eq_ok.mp h
    obtain ⟨intent, hintent, h⟩ := bind_eq_ok.mp h
    obtain ⟨hbound, h⟩ := require_bind_eq_ok.mp h
    obtain ⟨-, h⟩ := rest_ok h
    obtain ⟨reservation, hreservation, h⟩ := bind_eq_ok.mp h
    obtain ⟨hreserved, h⟩ := require_bind_eq_ok.mp h
    obtain ⟨db₁, hreceipt, h⟩ := bind_eq_ok.mp h
    obtain ⟨db₂, hartifact, h⟩ := bind_eq_ok.mp h
    obtain ⟨db₃, houtcome, h⟩ := bind_eq_ok.mp h
    obtain ⟨db₄, hbudget, h⟩ := bind_eq_ok.mp h
    obtain ⟨db₅, hcompleted, h⟩ := bind_eq_ok.mp h
    obtain ⟨db₆, hrecorded, h⟩ := bind_eq_ok.mp h
    obtain ⟨db₇, hrevised, h⟩ := bind_eq_ok.mp h
    obtain ⟨row, h⟩ := rest_ok h
    cases pure_eq_ok.mp h
    rw [asIntent_ok hintent] at hrecord
    have hprepared := (require_eq_ok.mp hlease) _ List.mem_cons_self
    simp only [List.mem_cons, List.not_mem_nil, or_false, forall_eq,
      Bool.and_eq_true, decide_eq_true_eq] at hreserved
    exact .inr (.intro operation reservation intent result cap db₁ db₂ db₃ db₄ db₅
      db₆ (expect_eq_ok.mp hoperation) (by simpa using hprepared) hrecord
      (by simpa using hbound) (expect_eq_ok.mp hreservation) hreserved.1 hreserved.2
      hreceipt hartifact houtcome hbudget hcompleted hrecorded hrevised)

/-! ## Model invocations -/

theorem invocationCheck_ok {validity : Instant × Instant}
    (h : r.check cfg proof cost = .ok validity) :
    r.records.all (Record.valid cfg.schema) = true ∧ r.isLocal cost = true ∧
      r.bound cfg = true := by
  obtain ⟨⟨⟩, hvalid, h⟩ := bind_eq_ok.mp h
  obtain ⟨-, h⟩ := rest_ok h
  obtain ⟨-, h⟩ := rest_ok h
  obtain ⟨-, h⟩ := rest_ok h
  obtain ⟨hlocal, h⟩ := require_bind_eq_ok.mp h
  obtain ⟨resolvedAt, h⟩ := rest_ok h
  obtain ⟨validUntil, h⟩ := rest_ok h
  obtain ⟨hbound, h⟩ := require_bind_eq_ok.mp h
  exact ⟨by simpa using require_eq_ok.mp hvalid, by simpa using hlocal,
    by simpa using hbound⟩

inductive ModelOpened (cfg : StoreConfig) (db : Db) (r : InvocationRequest)
    (idempotencyDigest : String) (cost : ℕ) (now : Instant) (tx : String)
    (db' : Db) : Prop
  | intro (proof : ArtifactAvailabilityProof) (validity : Instant × Instant)
      (run : RunRow) (budget : BudgetRow) (db₁ db₂ db₃ db₄ db₅ db₆ : Db)
      (checked : r.check cfg proof cost = .ok validity)
      (valid : validity.1.us ≤ now.us ∧ now.us < validity.2.us)
      (fresh : db.tables.hasModelRequest (r.requestDigest cfg) = false)
      (known : db.tables.runs.get? r.runId = some run)
      (running : run.state = .running)
      (active : run.activePlanDigest = some (r.planDigest cfg))
      (budgeted : db.tables.budgets.get? r.runId = some budget)
      (room : db.tables.modelRoom cfg r cost budget = true)
      (issued : db.issueDecision cfg r.decision tx = .ok db₁)
      (consumed : db₁.consumeDecision cfg r.decision (r.requestDigest cfg)
        r.requestId tx now = .ok db₂)
      (endpoint : db₂.recordIfNew cfg tx (.endpointBinding r.endpointBinding) = .ok db₃)
      (artifact : db₃.recordIfNew cfg tx (.artifactRecord r.inputArtifact) = .ok db₄)
      (request : db₄.recordIfNew cfg tx (.modelRequest r.request) = .ok db₅)
      (counted : db₅.countModelRequest cfg r now = .ok db₆)
      (freeOperation : db₆.tables.modelOperations.get? r.requestId = none)
      (freeReservation : db₆.tables.modelReservations.get? r.requestId = none)
      (revised : (db₆.withModelOperation cfg r idempotencyDigest cost
        now).recordAuthorityRevisions cfg
          ((.budget, r.runId) :: modelEntities r.requestId) tx (utc now) = .ok db') :
      ModelOpened cfg db r idempotencyDigest cost now tx db'

theorem openModel_ok {validity : Instant × Instant} {key : String}
    (checked : r.check cfg proof cost = .ok validity)
    (h : db.openModel cfg r validity key cost now tx = .ok (db', answer)) :
    ModelOpened cfg db r key cost now tx db' ∧
      answer = .prepared r.requestId (r.requestDigest cfg) := by
  obtain ⟨hfresh, h⟩ := require_bind_eq_ok.mp h
  obtain ⟨run, hrun, h⟩ := bind_eq_ok.mp h
  obtain ⟨planRow, h⟩ := rest_ok h
  obtain ⟨hactive, h⟩ := require_bind_eq_ok.mp h
  obtain ⟨-, h⟩ := rest_ok h
  obtain ⟨-, h⟩ := rest_ok h
  obtain ⟨budget, hbudget, h⟩ := bind_eq_ok.mp h
  obtain ⟨hroom, h⟩ := require_bind_eq_ok.mp h
  obtain ⟨db₁, hissue, h⟩ := bind_eq_ok.mp h
  obtain ⟨db₂, hconsume, h⟩ := bind_eq_ok.mp h
  obtain ⟨db₃, hendpoint, h⟩ := bind_eq_ok.mp h
  obtain ⟨db₄, hartifact, h⟩ := bind_eq_ok.mp h
  obtain ⟨db₅, hrequest, h⟩ := bind_eq_ok.mp h
  obtain ⟨db₆, hcount, h⟩ := bind_eq_ok.mp h
  obtain ⟨hfree, h⟩ := require_bind_eq_ok.mp h
  obtain ⟨db₇, hrevised, h⟩ := bind_eq_ok.mp h
  cases pure_eq_ok.mp h
  simp only [List.mem_cons, List.not_mem_nil, or_false, forall_eq_or_imp,
    forall_eq, Bool.and_eq_true, decide_eq_true_eq, Bool.not_eq_true',
    Option.isNone_iff_eq_none] at hfresh hactive hroom hfree
  exact ⟨.intro proof validity run budget db₁ db₂ db₃ db₄ db₅ db₆ checked hfresh.1
    hfresh.2 (expect_eq_ok.mp hrun) hactive.1.1 hactive.1.2
    (expect_eq_ok.mp hbudget) hroom hissue hconsume hendpoint hartifact hrequest
    hcount hfree.1 hfree.2 hrevised, rfl⟩

theorem prepareModelInvocation_ok {key : String}
    {policyCap runtimeCap adapterCap : Capability}
    (h : db.prepareModelInvocation cfg r proof key cost now policyCap runtimeCap
      adapterCap tx = .ok (db', answer)) :
    (db' = db ∧ ∃ requestId row, db.tables.modelOperations.get? requestId = some row ∧
      answer = .modelOperation row true) ∨
    (ModelOpened cfg db r (cfg.semanticDigest (.modelIdempotency key)) cost now tx
        db' ∧ answer = .prepared r.requestId (r.requestDigest cfg)) := by
  obtain ⟨-, h⟩ := rest_ok h
  obtain ⟨-, h⟩ := rest_ok h
  obtain ⟨-, h⟩ := rest_ok h
  obtain ⟨-, h⟩ := rest_ok h
  obtain ⟨validity, hcheck, h⟩ := bind_eq_ok.mp h
  cases hkey : db.tables.modelByKey? r.runId
      (cfg.semanticDigest (.modelIdempotency key)) with
  | some found =>
    obtain ⟨requestId, row⟩ := found
    rw [hkey] at h
    obtain ⟨reservation, h⟩ := rest_ok h
    obtain ⟨-, h⟩ := rest_ok h
    cases pure_eq_ok.mp h
    exact .inl ⟨rfl, requestId, row,
      Table.mem_entries.mp (List.mem_of_find?_eq_some hkey), rfl⟩
  | none =>
    rw [hkey] at h
    exact .inr (openModel_ok hcheck h)

def AnswersSettled (db : Db) (requestId : String) (answer : Answer) : Prop :=
  ∃ row, db.tables.modelOperations.get? requestId = some row ∧
    row.state.isOpen = false ∧ answer = .modelOperation row true

inductive ModelStarted (cfg : StoreConfig) (db : Db) (requestId : String)
    (now : Instant) (tx : String) (answer : Answer) (db' : Db) : Prop
  | intro (operation row : ModelOperationRow)
      (there : db.tables.modelOperations.get? requestId = some operation)
      (prepared : operation.state = .prepared)
      (live : db.requireLiveRunTime cfg operation.runId now = .ok ())
      (revised : (db.withStartedModel requestId operation.resumeDecisionDigest
        now).recordAuthorityRevisions cfg [(.modelOperation, requestId)] tx
          (utc now) = .ok db')
      (read : (db.withStartedModel requestId operation.resumeDecisionDigest
        now).tables.modelOperations.get? requestId = some row)
      (answered : answer = .modelOperation row false) :
      ModelStarted cfg db requestId now tx answer db'

theorem startModelInvocation_ok
    (h : db.startModelInvocation cfg requestId now cap tx = .ok (db', answer)) :
    (db' = db ∧ AnswersSettled db requestId answer) ∨
      ModelStarted cfg db requestId now tx answer db' := by
  obtain ⟨-, h⟩ := rest_ok h
  obtain ⟨operation, hoperation, h⟩ := bind_eq_ok.mp h
  cases hstate : operation.state with
  | started =>
    rw [hstate] at h
    cases h
  | prepared =>
    rw [hstate] at h
    obtain ⟨⟨⟩, hlive, h⟩ := bind_eq_ok.mp h
    obtain ⟨row, hrevised, hrow, rfl⟩ := closeModel_ok h
    exact .inr (.intro operation row (expect_eq_ok.mp hoperation) hstate hlive
      hrevised hrow rfl)
  | succeeded | failed | ambiguous =>
    rw [hstate] at h
    cases pure_eq_ok.mp h
    exact .inl ⟨rfl, operation, expect_eq_ok.mp hoperation, by rw [hstate]; rfl, rfl⟩

def resumeNonce (cfg : StoreConfig) (requestId decisionDigest : String) : String :=
  "resume-" ++ cfg.semanticDigest (.requestDecision requestId decisionDigest)

def finalizeNonce (cfg : StoreConfig) (requestId decisionDigest : String) :
    String :=
  "finalize-" ++ cfg.semanticDigest (.requestDecision requestId decisionDigest)

inductive ModelResumed (cfg : StoreConfig) (db : Db) (request : ModelRequest)
    (decision : PolicyDecision) (now : Instant) (tx : String) (answer : Answer)
    (db' : Db) : Prop
  | intro (operation row : ModelOperationRow) (db₁ db₂ : Db)
      (there : db.tables.modelOperations.get? request.metadata.id = some operation)
      (prepared : operation.state = .prepared)
      (sameRequest :
        cfg.recordDigest (.modelRequest request) = operation.requestDigest)
      (sameRun : decision.metadata.runId = operation.runId)
      (allows : decision.effect = .allow)
      (subject : decision.subject = ⟨.modelRequest, request.metadata.id,
        cfg.recordDigest (.modelRequest request)⟩)
      (live : db.requireLiveRunTime cfg operation.runId now = .ok ())
      (issued : db.issueDecision cfg decision tx = .ok db₁)
      (consumed : db₁.consumeDecision cfg decision
        (cfg.recordDigest (.modelRequest request))
        (resumeNonce cfg request.metadata.id
          (cfg.recordDigest (.policyDecision decision))) tx now = .ok db₂)
      (revised : (db₂.withStartedModel request.metadata.id
        (some (cfg.recordDigest (.policyDecision decision)))
          now).recordAuthorityRevisions cfg
            [(.modelOperation, request.metadata.id)] tx (utc now) = .ok db')
      (read : (db₂.withStartedModel request.metadata.id
        (some (cfg.recordDigest (.policyDecision decision)))
          now).tables.modelOperations.get? request.metadata.id = some row)
      (answered : answer = .modelOperation row false) :
      ModelResumed cfg db request decision now tx answer db'

theorem resumePreparedModelInvocation_ok {policyCap adapterCap : Capability}
    (h : db.resumePreparedModelInvocation cfg request decision now policyCap
      adapterCap tx = .ok (db', answer)) :
    (db' = db ∧ AnswersSettled db request.metadata.id answer) ∨
      ModelResumed cfg db request decision now tx answer db' := by
  obtain ⟨-, h⟩ := rest_ok h
  obtain ⟨-, h⟩ := rest_ok h
  obtain ⟨-, h⟩ := rest_ok h
  obtain ⟨operation, hoperation, h⟩ := bind_eq_ok.mp h
  cases hstate : operation.state with
  | started =>
    rw [hstate] at h
    cases h
  | prepared =>
    rw [hstate] at h
    obtain ⟨plan, h⟩ := rest_ok h
    obtain ⟨-, h⟩ := rest_ok h
    obtain ⟨hbound, h⟩ := require_bind_eq_ok.mp h
    obtain ⟨⟨⟩, hlive, h⟩ := bind_eq_ok.mp h
    obtain ⟨db₁, hissue, h⟩ := bind_eq_ok.mp h
    obtain ⟨db₂, hconsume, h⟩ := bind_eq_ok.mp h
    obtain ⟨row, hrevised, hrow, rfl⟩ := closeModel_ok h
    simp only [List.mem_cons, List.not_mem_nil, or_false, forall_eq,
      Bool.and_eq_true, decide_eq_true_eq] at hbound
    exact .inr (.intro operation row db₁ db₂ (expect_eq_ok.mp hoperation) hstate
      hbound.1.1.1 hbound.1.1.2 hbound.1.2 hbound.2 hlive hissue hconsume hrevised
      hrow rfl)
  | succeeded | failed | ambiguous =>
    rw [hstate] at h
    cases pure_eq_ok.mp h
    exact .inl ⟨rfl, operation, expect_eq_ok.mp hoperation, by rw [hstate]; rfl, rfl⟩

def Db.withModelReservation (db : Db) (requestId : String)
    (f : ModelReservationRow → ModelReservationRow) : Db :=
  { db with tables := { db.tables with
    modelReservations := db.tables.modelReservations.modify requestId f } }

/-- A reservation that is settled without charge. -/
def ModelReservationRow.waived (row : ModelReservationRow) (now : Instant) :
    ModelReservationRow :=
  { row with
    actualOutputBytes := none
    actualTotalTokens := none
    chargedTotalTokens := some 0
    chargedCostMicrousd := some 0
    state := .committed
    updatedAt := utc now }

/-- A reservation that is charged in full. -/
def ModelReservationRow.forfeited (row : ModelReservationRow) (now : Instant) :
    ModelReservationRow :=
  { row with
    actualOutputBytes := none
    actualTotalTokens := none
    chargedTotalTokens := some row.reservedTotalTokens
    chargedCostMicrousd := some row.reservedCostMicrousd
    state := .uncertain
    updatedAt := utc now }

/-- The transaction of an abort before egress. -/
inductive ModelAborted (cfg : StoreConfig) (db : Db) (requestId : String)
    (now : Instant) (tx : String) (answer : Answer) (db' : Db) : Prop
  | intro (operation row : ModelOperationRow) (reservation : ModelReservationRow)
      (error : ErrorRecord) (db₁ : Db)
      (there : db.tables.modelOperations.get? requestId = some operation)
      (prepared : operation.state = .prepared)
      (reserved : db.tables.modelReservations.get? requestId = some reservation)
      (unsettled : reservation.state = .reserved)
      (recorded : db.recordIfNew cfg tx (.errorRecord error) = .ok db₁)
      (revised : (((db₁.withModelReservation requestId
        (·.waived now)).withFailedModel requestId .failed
          (cfg.recordDigest (.errorRecord error)) now).withNonceResult requestId
            (cfg.recordDigest (.errorRecord error))).recordAuthorityRevisions cfg
              (modelEntities requestId) tx (utc now) = .ok db')
      (read : (((db₁.withModelReservation requestId
        (·.waived now)).withFailedModel requestId .failed
          (cfg.recordDigest (.errorRecord error)) now).withNonceResult requestId
            (cfg.recordDigest
              (.errorRecord error))).tables.modelOperations.get? requestId = some row)
      (answered : answer = .modelOperation row false)
      (errorId : error.metadata.id = modelErrorId cfg requestId) :
      ModelAborted cfg db requestId now tx answer db'

theorem abortPreparedModelInvocation_ok {reason : AbortReason}
    (h : db.abortPreparedModelInvocation cfg request reason now cap tx =
      .ok (db', answer)) :
    (db' = db ∧ AnswersSettled db request.metadata.id answer) ∨
      ModelAborted cfg db request.metadata.id now tx answer db' := by
  obtain ⟨-, h⟩ := rest_ok h
  obtain ⟨-, h⟩ := rest_ok h
  obtain ⟨operation, hoperation, h⟩ := bind_eq_ok.mp h
  obtain ⟨-, h⟩ := rest_ok h
  cases hstate : operation.state with
  | started | ambiguous | succeeded =>
    rw [hstate] at h
    cases h
  | failed =>
    rw [hstate] at h
    obtain ⟨-, h⟩ := rest_ok h
    cases pure_eq_ok.mp h
    exact .inl ⟨rfl, operation, expect_eq_ok.mp hoperation, by rw [hstate]; rfl, rfl⟩
  | prepared =>
    rw [hstate] at h
    obtain ⟨run, h⟩ := rest_ok h
    obtain ⟨endpointRow, h⟩ := rest_ok h
    obtain ⟨reservation, hreservation, h⟩ := bind_eq_ok.mp h
    obtain ⟨-, h⟩ := rest_ok h
    obtain ⟨-, h⟩ := rest_ok h
    obtain ⟨hreserved, h⟩ := require_bind_eq_ok.mp h
    obtain ⟨-, h⟩ := rest_ok h
    obtain ⟨db₁, hrecord, h⟩ := bind_eq_ok.mp h
    obtain ⟨row, hrevised, hrow, rfl⟩ := closeModel_ok h
    exact .inr (.intro operation row reservation _ db₁
      (expect_eq_ok.mp hoperation) hstate (expect_eq_ok.mp hreservation)
      (by simpa using hreserved) hrecord hrevised hrow rfl rfl)

def ModelReservationRow.paid (row : ModelReservationRow) (r : InvocationResult)
    (tokens : ℕ) (now : Instant) : ModelReservationRow :=
  { row with
    actualOutputBytes := some r.result.output.byteLength
    actualTotalTokens := some r.result.totalTokens
    chargedTotalTokens := some tokens
    chargedCostMicrousd := some row.reservedCostMicrousd
    state := .committed
    updatedAt := utc now }

def Db.withSucceededModel (cfg : StoreConfig) (db : Db) (requestId : String)
    (r : InvocationResult) (now : Instant) : Db :=
  { db with tables := { db.tables with
    modelOperations := db.tables.modelOperations.modify requestId fun row =>
      { row with
        state := .succeeded
        modelResultDigest := some (r.resultDigest cfg)
        outputArtifactRecordDigest := some (r.artifactDigest cfg)
        finalizationDecisionDigest := some (r.decisionDigest cfg)
        updatedAt := utc now } } }

/-- The transaction of a completion. -/
inductive ModelCommitted (cfg : StoreConfig) (db : Db) (requestId : String)
    (r : InvocationResult) (now : Instant) (tx : String) (answer : Answer)
    (db' : Db) : Prop
  | intro (operation row : ModelOperationRow) (reservation : ModelReservationRow)
      (cap : Capability) (db₁ db₂ db₃ db₄ db₅ db₆ : Db)
      (there : db.tables.modelOperations.get? requestId = some operation)
      (started : operation.state = .started)
      (active : db.requireActiveModelRun operation now (.store "ECO_PLAN_NOT_ACTIVE"
        "Model completion requires its active running plan") = .ok ())
      (authorized : r.authorized requestId operation = true)
      (reserved : db.tables.modelReservations.get? requestId = some reservation)
      (unsettled : reservation.state = .reserved)
      (bytes : r.result.output.byteLength ≤ reservation.reservedOutputBytes)
      (resultRecorded : db.recordIfNew cfg tx (.modelResult r.result) = .ok db₁)
      (artifactRecorded : db₁.recordIfNew cfg tx (.artifactRecord r.outputArtifact) =
        .ok db₂)
      (issued : db₂.issueDecision cfg r.finalizationDecision tx = .ok db₃)
      (consumed : db₃.consumeDecision cfg r.finalizationDecision
        operation.requestDigest (finalizeNonce cfg requestId (r.decisionDigest cfg))
        tx now = .ok db₄)
      (charged : db₄.chargeModel operation.runId r.result.output.byteLength
        reservation.reservedTotalTokens reservation.reservedCostMicrousd now
        cannotSettle = .ok db₅)
      (event : (((db₅.withModelReservation requestId
        (·.paid r reservation.reservedTotalTokens now)).withSucceededModel cfg
          requestId r now).withNonceResult requestId
            (r.resultDigest cfg)).appendGeneratedEvent cfg operation.runId
        { type := .artifactRecorded
          producer := .adapter
          subjectId := some r.outputArtifact.metadata.id
          subjectDigest := some (r.artifactDigest cfg)
          resultDigest := some (r.artifactDigest cfg) }
        cap now tx = .ok db₆)
      (revised : db₆.recordAuthorityRevisions cfg
        ((.budget, operation.runId) :: modelEntities requestId) tx (utc now) = .ok db')
      (read : db₆.tables.modelOperations.get? requestId = some row)
      (answered : answer = .modelOperation row false)
      (request : ModelRequest) (input : ArtifactRecord) (endpoint : EndpointBinding)
      (bound : r.bound cfg requestId operation request input endpoint now = true) :
      ModelCommitted cfg db requestId r now tx answer db'

theorem completeModelInvocation_ok {r : InvocationResult}
    (h : db.completeModelInvocation cfg requestId r proof now cap tx =
      .ok (db', answer)) :
    (db' = db ∧ AnswersSettled db requestId answer) ∨
      ModelCommitted cfg db requestId r now tx answer db' := by
  obtain ⟨-, h⟩ := rest_ok h
  obtain ⟨-, h⟩ := rest_ok h
  obtain ⟨-, h⟩ := rest_ok h
  obtain ⟨operation, hoperation, h⟩ := bind_eq_ok.mp h
  cases hstate : operation.state with
  | prepared | failed | ambiguous =>
    rw [hstate] at h
    cases h
  | succeeded =>
    rw [hstate] at h
    obtain ⟨-, h⟩ := rest_ok h
    cases pure_eq_ok.mp h
    exact .inl ⟨rfl, operation, expect_eq_ok.mp hoperation, by rw [hstate]; rfl, rfl⟩
  | started =>
    rw [hstate] at h
    obtain ⟨⟨⟩, hactive, h⟩ := bind_eq_ok.mp h
    obtain ⟨requestRecord, h⟩ := rest_ok h
    obtain ⟨plan, h⟩ := rest_ok h
    obtain ⟨-, h⟩ := rest_ok h
    obtain ⟨hauthorized, h⟩ := require_bind_eq_ok.mp h
    obtain ⟨inputRow, h⟩ := rest_ok h
    obtain ⟨endpointRow, h⟩ := rest_ok h
    obtain ⟨request, h⟩ := rest_ok h
    obtain ⟨input, h⟩ := rest_ok h
    obtain ⟨endpoint, h⟩ := rest_ok h
    obtain ⟨hbound, h⟩ := require_bind_eq_ok.mp h
    obtain ⟨reservation, hreservation, h⟩ := bind_eq_ok.mp h
    obtain ⟨hreserved, h⟩ := require_bind_eq_ok.mp h
    obtain ⟨db₁, hresult, h⟩ := bind_eq_ok.mp h
    obtain ⟨db₂, hartifact, h⟩ := bind_eq_ok.mp h
    obtain ⟨db₃, hissue, h⟩ := bind_eq_ok.mp h
    obtain ⟨db₄, hconsume, h⟩ := bind_eq_ok.mp h
    obtain ⟨db₅, hcharge, h⟩ := bind_eq_ok.mp h
    obtain ⟨db₆, hevent, h⟩ := bind_eq_ok.mp h
    obtain ⟨row, hrevised, hrow, rfl⟩ := closeModel_ok h
    simp only [List.mem_cons, List.not_mem_nil, or_false, forall_eq,
      Bool.and_eq_true, decide_eq_true_eq] at hreserved
    exact .inr (.intro operation row reservation cap db₁ db₂ db₃ db₄ db₅ db₆
      (expect_eq_ok.mp hoperation) hstate hactive (by simpa using hauthorized)
      (expect_eq_ok.mp hreservation) hreserved.1.1 hreserved.1.2 hresult hartifact
      hissue hconsume hcharge hevent hrevised hrow rfl request input endpoint
      (by simpa using hbound))

/-- The transaction that charges the ceiling of an invocation. -/
inductive ModelForfeited (cfg : StoreConfig) (db : Db) (requestId : String)
    (state : ModelState) (now : Instant) (tx : String) (answer : Answer) (db' : Db) :
    Prop
  | intro (operation row : ModelOperationRow) (reservation : ModelReservationRow)
      (error : ErrorRecord) (err : StoreError) (cap : Capability)
      (db₁ db₂ db₃ : Db)
      (there : db.tables.modelOperations.get? requestId = some operation)
      (started : operation.state = .started)
      (reserved : db.tables.modelReservations.get? requestId = some reservation)
      (unsettled : reservation.state = .reserved)
      (recorded : db.recordIfNew cfg tx (.errorRecord error) = .ok db₁)
      (charged : db₁.updateBudget operation.runId
        (fun b => b.totalTokens + reservation.reservedTotalTokens ≤
            b.limits.maxTotalTokens &&
          b.costMicrousd + reservation.reservedCostMicrousd ≤ b.limits.maxCostMicrousd)
        (fun b => { b with
          totalTokens := b.totalTokens + reservation.reservedTotalTokens
          costMicrousd := b.costMicrousd + reservation.reservedCostMicrousd
          updatedAt := utc now }) err = .ok db₂)
      (event : (((db₂.withModelReservation requestId
        (·.forfeited now)).withFailedModel requestId state
          (cfg.recordDigest (.errorRecord error)) now).withNonceResult requestId
            (cfg.recordDigest (.errorRecord error))).appendGeneratedEvent cfg
              operation.runId
        { type := .adapterFailed
          producer := .adapter
          subjectId := some requestId
          subjectDigest := some operation.requestDigest
          resultDigest := some (cfg.recordDigest (.errorRecord error)) }
        cap now tx = .ok db₃)
      (revised : db₃.recordAuthorityRevisions cfg
        ((.budget, operation.runId) :: modelEntities requestId) tx (utc now) = .ok db')
      (read : db₃.tables.modelOperations.get? requestId = some row)
      (answered : answer = .modelOperation row false)
      (errorId : error.metadata.id = modelErrorId cfg requestId) :
      ModelForfeited cfg db requestId state now tx answer db'

theorem chargeFailedModel_ok {operation : ModelOperationRow}
    {reservation : ModelReservationRow} {state : ModelState} {err : StoreError}
    (errorId : error.metadata.id = modelErrorId cfg requestId)
    (there : db.tables.modelOperations.get? requestId = some operation)
    (started : operation.state = .started)
    (reserved : db.tables.modelReservations.get? requestId = some reservation)
    (unsettled : reservation.state = .reserved)
    (h : db.chargeFailedModel cfg requestId operation reservation error state err
      now cap tx = .ok (db', answer)) :
    ModelForfeited cfg db requestId state now tx answer db' := by
  obtain ⟨db₁, hrecord, h⟩ := bind_eq_ok.mp h
  obtain ⟨db₂, hcharge, h⟩ := bind_eq_ok.mp h
  obtain ⟨db₃, hevent, h⟩ := bind_eq_ok.mp h
  obtain ⟨row, hrevised, hrow, rfl⟩ := closeModel_ok h
  exact .intro operation row reservation error err cap db₁ db₂ db₃ there started
    reserved unsettled hrecord hcharge hevent hrevised hrow rfl errorId

theorem modelFailureBound_id {operation : ModelOperationRow}
    (h : modelFailureBound cfg requestId operation request error now = true) :
    error.metadata.id = modelErrorId cfg requestId := by
  obtain ⟨message, -, h⟩ := (Option.any_eq_true _ _).mp h
  simp only [Bool.and_eq_true, decide_eq_true_eq] at h
  rw [h.2]
  rfl

theorem failModelInvocation_ok
    (h : db.failModelInvocation cfg requestId error now cap tx = .ok (db', answer)) :
    (db' = db ∧ AnswersSettled db requestId answer) ∨
      ModelForfeited cfg db requestId .failed now tx answer db' := by
  obtain ⟨-, h⟩ := rest_ok h
  obtain ⟨-, h⟩ := rest_ok h
  obtain ⟨operation, hoperation, h⟩ := bind_eq_ok.mp h
  cases hstate : operation.state with
  | prepared | succeeded | ambiguous =>
    rw [hstate] at h
    cases h
  | failed =>
    rw [hstate] at h
    obtain ⟨-, h⟩ := rest_ok h
    cases pure_eq_ok.mp h
    exact .inl ⟨rfl, operation, expect_eq_ok.mp hoperation, by rw [hstate]; rfl, rfl⟩
  | started =>
    rw [hstate] at h
    obtain ⟨-, h⟩ := rest_ok h
    obtain ⟨requestRecord, h⟩ := rest_ok h
    obtain ⟨request, h⟩ := rest_ok h
    obtain ⟨hbound, h⟩ := require_bind_eq_ok.mp h
    obtain ⟨reservation, hreservation, h⟩ := bind_eq_ok.mp h
    obtain ⟨hreserved, h⟩ := require_bind_eq_ok.mp h
    exact .inr (chargeFailedModel_ok (modelFailureBound_id (by simpa using hbound))
      (expect_eq_ok.mp hoperation) hstate
      (expect_eq_ok.mp hreservation) (by simpa using hreserved) h)

theorem resolveAmbiguousModelInvocation_ok {observed : Stamp}
    {runtimeCap adapterCap : Capability}
    (h : db.resolveAmbiguousModelInvocation cfg requestId observed now runtimeCap
      adapterCap tx = .ok (db', answer)) :
    (db' = db ∧ AnswersSettled db requestId answer) ∨
      ModelForfeited cfg db requestId .ambiguous now tx answer db' := by
  obtain ⟨-, h⟩ := rest_ok h
  obtain ⟨-, h⟩ := rest_ok h
  obtain ⟨operation, hoperation, h⟩ := bind_eq_ok.mp h
  cases hstate : operation.state with
  | prepared | succeeded | failed =>
    rw [hstate] at h
    cases h
  | ambiguous =>
    rw [hstate] at h
    obtain ⟨-, h⟩ := rest_ok h
    cases pure_eq_ok.mp h
    exact .inl ⟨rfl, operation, expect_eq_ok.mp hoperation, by rw [hstate]; rfl, rfl⟩
  | started =>
    rw [hstate] at h
    obtain ⟨-, h⟩ := rest_ok h
    obtain ⟨requestRecord, h⟩ := rest_ok h
    obtain ⟨reservation, hreservation, h⟩ := bind_eq_ok.mp h
    obtain ⟨hreserved, h⟩ := require_bind_eq_ok.mp h
    obtain ⟨request, h⟩ := rest_ok h
    obtain ⟨-, h⟩ := rest_ok h
    exact .inr (chargeFailedModel_ok rfl (expect_eq_ok.mp hoperation) hstate
      (expect_eq_ok.mp hreservation) (by simpa using hreserved) h)

end Inversions

end Ecosystem.Store
