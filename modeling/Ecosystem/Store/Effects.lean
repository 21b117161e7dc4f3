import Ecosystem.Store.Calls

/-!
# What the shared helpers do

One lemma for each helper of the transactions: what it checked, and the database that it
leaves, as a composition of total writes.
-/

namespace Ecosystem.Store

open Ecosystem.Lib Ecosystem.Runtime

theorem pure_eq_ok {α : Type} {a b : α} :
    (pure a : Except StoreError α) = .ok b ↔ a = b := by
  simp [pure, Except.pure]

theorem mapError_eq_ok {ε ε' α : Type} {f : ε → ε'} {x : Except ε α} {a : α} :
    x.mapError f = .ok a ↔ x = .ok a := by
  cases x <;> simp [Except.mapError]

section Effects

variable {cfg : StoreConfig} {db db' : Db} {tx : String}

/-! ## Writes of the book leave the tables alone -/

variable (cfg db)

@[simp] theorem tables_appendAudit (tx : String) (type : AuditType) (id : String)
    (action : AuditAction) (digest : String) (at' : Stamp) :
    (db.appendAudit cfg tx type id action digest at').tables = db.tables := rfl

@[simp] theorem tables_withRecord (r : Record) :
    (db.withRecord cfg r).tables = db.tables := rfl

@[simp] theorem tables_auditRecord (tx : String) (r : Record) (action : AuditAction) :
    (db.auditRecord cfg tx r action).tables = db.tables := rfl

@[simp] theorem tables_withRevision (type : EntityType) (id tx : String)
    (row : EntityRow) (at' : Stamp) :
    (db.withRevision cfg type id tx row at').tables = db.tables := rfl

@[simp] theorem tables_withDecision (decision : PolicyDecision) (expiry : Instant) :
    (db.withDecision cfg decision expiry).tables = db.tables := rfl

@[simp] theorem tables_withConsumption (decision : PolicyDecision)
    (subject nonce tx : String) (now : Instant) :
    (db.withConsumption cfg decision subject nonce tx now).tables = db.tables := rfl

@[simp] theorem tables_withNonceResult (nonce digest : String) :
    (db.withNonceResult nonce digest).tables = db.tables := rfl

def Db.addRecord (tx : String) (r : Record) (action : AuditAction) : Db :=
  (db.withRecord cfg r).auditRecord cfg tx r action

@[simp] theorem tables_addRecord (tx : String) (r : Record) (action : AuditAction) :
    (db.addRecord cfg tx r action).tables = db.tables := rfl

variable {cfg db}

/-! ## Records -/

/-- What `_insert_record` finds: the record itself, or its id free. -/
inductive RecordFound (cfg : StoreConfig) (db : Db) (r : Record) : Bool → Prop
  | there (row : RecordRow) (h : db.book.records.get? r.id = some row)
      (digest : row.recordDigest = cfg.recordDigest r) : RecordFound cfg db r false
  | free (h : db.book.records.get? r.id = none) : RecordFound cfg db r true

variable {r : Record} {err : StoreError} {decision : PolicyDecision} {now : Instant}
  {runId : String}

theorem insertRecord_ok {inserted : Bool}
    (h : db.insertRecord cfg r = .ok (db', inserted)) :
    r.valid cfg.schema = true ∧ r.kind.isSafe = true ∧
      RecordFound cfg db r inserted ∧
      db' = if inserted then db.withRecord cfg r else db := by
  unfold Db.insertRecord at h
  obtain ⟨hchecks, h⟩ := require_bind_eq_ok.mp h
  simp only [List.mem_cons, List.not_mem_nil, or_false, forall_eq_or_imp,
    forall_eq] at hchecks
  refine ⟨hchecks.1, hchecks.2, ?_⟩
  cases hrow : db.book.records.get? r.id with
  | none =>
    rw [hrow] at h
    cases pure_eq_ok.mp h
    exact ⟨.free hrow, rfl⟩
  | some row =>
    rw [hrow] at h
    obtain ⟨hdigest, h⟩ := require_bind_eq_ok.mp h
    cases pure_eq_ok.mp h
    exact ⟨.there row hrow (by simpa using hdigest), rfl⟩

theorem recordIfNew_ok (h : db.recordIfNew cfg tx r = .ok db') :
    r.valid cfg.schema = true ∧ r.kind.isSafe = true ∧
      ∃ inserted, RecordFound cfg db r inserted ∧
        db' = if inserted then db.addRecord cfg tx r .recorded else db := by
  obtain ⟨⟨db₁, inserted⟩, hinsert, h⟩ := bind_eq_ok.mp h
  obtain ⟨hvalid, hsafe, hfound, rfl⟩ := insertRecord_ok hinsert
  cases pure_eq_ok.mp h
  refine ⟨hvalid, hsafe, inserted, hfound, ?_⟩
  cases inserted <;> rfl

theorem recordNew_ok (h : db.recordNew cfg tx r err = .ok db') :
    r.valid cfg.schema = true ∧ r.kind.isSafe = true ∧
      db.book.records.get? r.id = none ∧ db' = db.addRecord cfg tx r .recorded := by
  obtain ⟨⟨db₁, inserted⟩, hinsert, h⟩ := bind_eq_ok.mp h
  obtain ⟨hvalid, hsafe, hfound, rfl⟩ := insertRecord_ok hinsert
  obtain ⟨hinserted, h⟩ := require_bind_eq_ok.mp h
  cases pure_eq_ok.mp h
  cases hfound with
  | there => simp at hinserted
  | free hfree => exact ⟨hvalid, hsafe, hfree, rfl⟩

theorem recordIfNew_tables (h : db.recordIfNew cfg tx r = .ok db') :
    db'.tables = db.tables := by
  obtain ⟨-, -, inserted, -, rfl⟩ := recordIfNew_ok h
  cases inserted <;> rfl

theorem recordNew_tables
    (h : db.recordNew cfg tx r err = .ok db') : db'.tables = db.tables := by
  obtain ⟨-, -, -, rfl⟩ := recordNew_ok h
  rfl

/-! ## Revisions -/

theorem recordAuthorityRevision_ok {type : EntityType} {id : String} {at' : Stamp}
    (h : db.recordAuthorityRevision cfg type id tx at' = .ok db') :
    ∃ row, db.tables.entityRow type id = some row ∧
      db' = db.withRevision cfg type id tx row at' := by
  obtain ⟨row, hrow, h⟩ := bind_eq_ok.mp h
  exact ⟨row, expect_eq_ok.mp hrow, (pure_eq_ok.mp h).symm⟩

theorem recordAuthorityRevisions_tables {entities : List (EntityType × String)}
    {at' : Stamp} (h : db.recordAuthorityRevisions cfg entities tx at' = .ok db') :
    db'.tables = db.tables := by
  induction entities generalizing db with
  | nil =>
    cases pure_eq_ok.mp h
    rfl
  | cons e entities ih =>
    obtain ⟨db₁, hstep, h⟩ := bind_eq_ok.mp h
    obtain ⟨row, -, rfl⟩ := recordAuthorityRevision_ok hstep
    exact @ih (db.withRevision cfg e.1 e.2 tx row at') h

/-! ## Decisions -/

/-- What `_issue_decision_tx` finds of the decision row, and what it leaves. -/
inductive DecisionFound (cfg : StoreConfig) (db : Db) (decision : PolicyDecision) :
    Db → Prop
  | there (row : DecisionRow)
      (h : db.book.decisions.get? decision.metadata.id = some row)
      (digest : row.decisionDigest = cfg.recordDigest (.policyDecision decision)) :
      DecisionFound cfg db decision db
  | free (h : db.book.decisions.get? decision.metadata.id = none)
      (expiry : Instant) (hexpiry : parse decision.expiresAt = .ok expiry) :
      DecisionFound cfg db decision (db.withDecision cfg decision expiry)

theorem ensureDecision_ok (h : db.ensureDecision cfg decision = .ok db') :
    DecisionFound cfg db decision db' := by
  unfold Db.ensureDecision at h
  cases hrow : db.book.decisions.get? decision.metadata.id with
  | none =>
    rw [hrow] at h
    obtain ⟨expiry, hexpiry, h⟩ := bind_eq_ok.mp h
    cases pure_eq_ok.mp h
    exact .free hrow expiry hexpiry
  | some row =>
    rw [hrow] at h
    obtain ⟨hdigest, h⟩ := require_bind_eq_ok.mp h
    cases pure_eq_ok.mp h
    exact .there row hrow (by simpa using hdigest)

theorem issueDecision_ok (h : db.issueDecision cfg decision tx = .ok db') :
    Record.valid cfg.schema (.policyDecision decision) = true ∧
      ∃ inserted db₁, RecordFound cfg db (.policyDecision decision) inserted ∧
        DecisionFound cfg
          (if inserted then db.withRecord cfg (.policyDecision decision) else db)
          decision db₁ ∧
        db' = if inserted then
          db₁.auditRecord cfg tx (.policyDecision decision) .issued else db₁ := by
  obtain ⟨⟨db₀, inserted⟩, hinsert, h⟩ := bind_eq_ok.mp h
  obtain ⟨hvalid, -, hfound, rfl⟩ := insertRecord_ok hinsert
  obtain ⟨db₁, hensure, h⟩ := bind_eq_ok.mp h
  exact ⟨hvalid, inserted, db₁, hfound, ensureDecision_ok hensure, (pure_eq_ok.mp h).symm⟩

theorem DecisionFound.tables
    (h : DecisionFound cfg db decision db') : db'.tables = db.tables := by
  cases h <;> rfl

theorem issueDecision_tables
    (h : db.issueDecision cfg decision tx = .ok db') : db'.tables = db.tables := by
  obtain ⟨-, inserted, db₁, -, hfound, rfl⟩ := issueDecision_ok h
  have htables := hfound.tables
  cases inserted <;> exact htables

inductive Consumed (cfg : StoreConfig) (db : Db) (decision : PolicyDecision)
    (row : DecisionRow) (subject nonce tx : String) (now : Instant) : Db → Prop
  | again (existing : NonceRow) (h : db.book.nonces.get? nonce = some existing)
      (hrun : existing.runId = decision.metadata.runId)
      (hsubject : existing.subjectDigest = subject)
      (hconsumed : row.consumedNonce = some nonce) :
      Consumed cfg db decision row subject nonce tx now db
  | first (h : db.book.nonces.get? nonce = none) (hopen : row.consumedAt = none) :
      Consumed cfg db decision row subject nonce tx now
        (db.withConsumption cfg decision subject nonce tx now)

theorem consumeDecision_ok {subject nonce : String}
    (h : db.consumeDecision cfg decision subject nonce tx now = .ok db') :
    ∃ row, db.book.decisions.get? decision.metadata.id = some row ∧
      row.decisionDigest = cfg.recordDigest (.policyDecision decision) ∧
      Consumed cfg db decision row subject nonce tx now db' := by
  obtain ⟨row, hrow, h⟩ := bind_eq_ok.mp h
  obtain ⟨hchecks, h⟩ := require_bind_eq_ok.mp h
  simp only [List.mem_cons, List.not_mem_nil, or_false, forall_eq_or_imp,
    forall_eq, decide_eq_true_eq] at hchecks
  refine ⟨row, expect_eq_ok.mp hrow, hchecks.1, ?_⟩
  cases hnonce : db.book.nonces.get? nonce with
  | none =>
    rw [hnonce] at h
    obtain ⟨hopen, h⟩ := require_bind_eq_ok.mp h
    cases pure_eq_ok.mp h
    exact .first hnonce (by simpa using hopen)
  | some existing =>
    rw [hnonce] at h
    obtain ⟨hsame, h⟩ := require_bind_eq_ok.mp h
    cases pure_eq_ok.mp h
    simp only [List.mem_cons, List.not_mem_nil, or_false, forall_eq,
      Bool.and_eq_true, decide_eq_true_eq] at hsame
    exact .again existing hnonce hsame.1.1 hsame.1.2 hsame.2

theorem consumeDecision_tables {subject nonce : String}
    (h : db.consumeDecision cfg decision subject nonce tx now = .ok db') :
    db'.tables = db.tables := by
  obtain ⟨row, -, -, hconsumed⟩ := consumeDecision_ok h
  cases hconsumed <;> rfl

/-! ## Events -/

def Db.afterEvent (cfg : StoreConfig) (db : Db) (runId : String)
    (e : GeneratedEvent) (replay : Replay) (next : RunProjection) (now : Instant)
    (tx : String) : Db :=
  (db.addRecord cfg tx
    (.runEvent (e.record cfg runId replay.sequence replay.head now))
    .recorded).withEvent cfg runId
      (e.row cfg runId replay.sequence replay.head now) next.state now
      replay.sequence

structure Appendable (cfg : StoreConfig) (db : Db) (runId : String)
    (e : GeneratedEvent) (run : RunRow) (replay : Replay) (next : RunProjection)
    (now : Instant) : Prop where
  hproducer : e.producer ∈ (eventSemantics e.type).2
  hrun : db.tables.runs.get? runId = some run
  hreplay : db.replay cfg runId = .ok replay
  hstate : replay.projection.state = run.state
  hsequence : replay.sequence = run.nextEventSequence
  hhead : replay.head = run.eventHeadDigest
  live : replay.projection.state.isTerminal = false
  time : replay.occurredAt ≤ now.us
  reduce : reduceRunEvent replay.projection e.spec = .ok next
  valid : contractValid (e.record cfg runId replay.sequence replay.head now) = true
  freeRecord : db.book.records.get? (eventId cfg runId replay.sequence) = none
  freeEvent : db.tables.events.get? (eventId cfg runId replay.sequence) = none

theorem appendGeneratedEvent_ok {e : GeneratedEvent} {capability : Capability}
    (h : db.appendGeneratedEvent cfg runId e capability now tx = .ok db') :
    ∃ run replay next row, Appendable cfg db runId e run replay next now ∧
      (db.afterEvent cfg runId e replay next now tx).tables.entityRow .run runId =
        some row ∧
      db' = (db.afterEvent cfg runId e replay next now tx).withRevision cfg .run
        runId tx row (utc now) := by
  obtain ⟨hproducer, h⟩ := require_bind_eq_ok.mp h
  obtain ⟨run, hrun, h⟩ := bind_eq_ok.mp h
  obtain ⟨replay, hreplay, h⟩ := bind_eq_ok.mp h
  obtain ⟨hchecks, h⟩ := require_bind_eq_ok.mp h
  obtain ⟨next, hnext, h⟩ := bind_eq_ok.mp h
  obtain ⟨hvalid, h⟩ := require_bind_eq_ok.mp h
  obtain ⟨db₁, hrecord, h⟩ := bind_eq_ok.mp h
  obtain ⟨hfree, h⟩ := require_bind_eq_ok.mp h
  obtain ⟨-, -, hfreeRecord, rfl⟩ := recordNew_ok hrecord
  obtain ⟨row, hrow, rfl⟩ := recordAuthorityRevision_ok h
  simp only [List.mem_cons, List.not_mem_nil, or_false, forall_eq_or_imp,
    forall_eq, Bool.and_eq_true, decide_eq_true_eq, Bool.not_eq_true'] at hproducer hchecks
  refine ⟨run, replay, next, row, ?_, hrow, rfl⟩
  exact
    { hproducer := hproducer.1
      hrun := expect_eq_ok.mp hrun
      hreplay := hreplay
      hstate := hchecks.1.1.1
      hsequence := hchecks.1.1.2
      hhead := hchecks.1.2
      live := hchecks.2.1
      time := hchecks.2.2
      reduce := mapError_eq_ok.mp hnext
      valid := by simpa using hvalid
      freeRecord := hfreeRecord
      freeEvent := by simpa [GeneratedEvent.record] using hfree }

def Tables.afterEvent (cfg : StoreConfig) (t : Tables) (runId : String)
    (e : GeneratedEvent) (replay : Replay) (next : RunProjection) (now : Instant) :
    Tables :=
  { t with
    events := t.events.insert (eventId cfg runId replay.sequence)
      (e.row cfg runId replay.sequence replay.head now)
    runs := t.runs.modify runId fun run =>
      { run with
        state := next.state
        nextEventSequence := replay.sequence + 1
        eventHeadDigest :=
          some (e.row cfg runId replay.sequence replay.head now).eventDigest
        terminalAt :=
          if next.state.isTerminal then some (utc now) else run.terminalAt
        updatedAt := utc now
        version := run.version + 1 } }

@[simp] theorem tables_afterEvent {e : GeneratedEvent}
    {replay : Replay} {next : RunProjection} :
    (db.afterEvent cfg runId e replay next now tx).tables =
      db.tables.afterEvent cfg runId e replay next now := rfl

/-! ## Budgets and clocks -/

theorem updateBudget_ok {allowed : BudgetRow → Bool} {f : BudgetRow → BudgetRow}
    (h : db.updateBudget runId allowed f err = .ok db') :
    ∃ b, db.tables.budgets.get? runId = some b ∧ allowed b = true ∧
      db' = { db with tables := { db.tables with
        budgets := db.tables.budgets.modify runId f } } := by
  obtain ⟨b, hb, h⟩ := bind_eq_ok.mp h
  obtain ⟨hallowed, h⟩ := require_bind_eq_ok.mp h
  exact ⟨b, expect_eq_ok.mp hb, by simpa using hallowed, (pure_eq_ok.mp h).symm⟩

theorem asIntent_ok {intent : ToolExecutionIntent}
    (h : r.asIntent = .ok intent) : r = .toolExecutionIntent intent := by
  cases r <;> cases h
  rfl

theorem closeModel_ok {entities : List (EntityType × String)} {requestId : String}
    {answer : Answer}
    (h : db.closeModel cfg entities requestId now tx = .ok (db', answer)) :
    ∃ row, db.recordAuthorityRevisions cfg entities tx (utc now) = .ok db' ∧
      db.tables.modelOperations.get? requestId = some row ∧
      answer = .modelOperation row false := by
  obtain ⟨db₁, hrevisions, h⟩ := bind_eq_ok.mp h
  obtain ⟨row, hrow, h⟩ := bind_eq_ok.mp h
  cases pure_eq_ok.mp h
  rw [recordAuthorityRevisions_tables hrevisions] at hrow
  exact ⟨row, hrevisions, expect_eq_ok.mp hrow, rfl⟩

end Effects

end Ecosystem.Store
