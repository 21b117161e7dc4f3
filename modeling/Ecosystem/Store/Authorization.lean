import Ecosystem.Store.Inversions

/-!
# Decisions are spent once

A decision is consumed under a nonce, on all paths through `_consume_decision_tx`.
`Book.Authority` says what a transaction can do to decisions and nonces, `Register` is
what these steps keep, and `Backed` says of one use of a decision that it was consumed
under the nonce of that use.
-/

namespace Ecosystem.Store

open Ecosystem.Lib Ecosystem.Runtime

/-! ## The register of decisions and nonces -/

def Book.consumptions (book : Book) (id : String) : ℕ :=
  book.audit.countP fun e => e.action = .consumed && e.recordId = id

/-- One change of the decisions and nonces. -/
inductive Book.Authority (book book' : Book) : Prop
  | other (decisions : book'.decisions = book.decisions)
      (nonces : ∀ n, (book'.nonces.get? n).isSome = (book.nonces.get? n).isSome)
      (audit : ∀ id, book'.consumptions id = book.consumptions id)
  | issue (id : String) (row : DecisionRow)
      (free : book.decisions.get? id = none)
      (unspent : row.consumedAt = none ∧ row.consumedNonce = none)
      (decisions : book'.decisions = book.decisions.insert id row)
      (nonces : book'.nonces = book.nonces)
      (audit : ∀ id, book'.consumptions id = book.consumptions id)
  | consume (id nonce : String) (row : DecisionRow) (at' : Stamp)
      (there : book.decisions.get? id = some row)
      (unspent : row.consumedAt = none)
      (free : book.nonces.get? nonce = none)
      (decisions : book'.decisions = book.decisions.modify id fun row =>
        { row with consumedAt := some at', consumedNonce := some nonce })
      (nonces : ∀ n, (book'.nonces.get? n).isSome =
        (decide (n = nonce) || (book.nonces.get? n).isSome))
      (audit : ∀ i, book'.consumptions i = book.consumptions i + if i = id then 1 else 0)

/-- What a transaction does to them. -/
def Book.Evolves : Book → Book → Prop := Relation.ReflTransGen Book.Authority

/-- **The register.**  A decision is marked as consumed with its nonce, exactly
once, and the nonces are those of the consumed decisions. -/
structure Register (book : Book) : Prop where
  marked : ∀ id row, book.decisions.get? id = some row →
    (row.consumedAt.isSome = true ↔ row.consumedNonce.isSome = true)
  once : ∀ id, book.consumptions id = (book.decisions.get? id).elim 0
    fun row => if row.consumedAt.isSome then 1 else 0
  nonce : ∀ id row nonce, book.decisions.get? id = some row →
    row.consumedNonce = some nonce → (book.nonces.get? nonce).isSome = true
  decision : ∀ nonce, (book.nonces.get? nonce).isSome = true →
    ∃ id row, book.decisions.get? id = some row ∧ row.consumedNonce = some nonce
  unique : ∀ id id' row row' nonce, book.decisions.get? id = some row →
    book.decisions.get? id' = some row' → row.consumedNonce = some nonce →
    row'.consumedNonce = some nonce → id = id'

theorem register_new (keyId : String) : Register (Db.new keyId).book where
  marked _ _ h := nomatch h
  once _ := rfl
  nonce _ _ _ h := nomatch h
  decision _ h := nomatch h
  unique _ _ _ _ _ h := nomatch h

section Register

variable {book book' : Book}

variable {id : String} {row : DecisionRow}

theorem Book.Authority.keeps (h : book.Authority book')
    (hrow : book.decisions.get? id = some row) (hspent : row.consumedAt.isSome = true) :
    book'.decisions.get? id = some row := by
  cases h with
  | other decisions => rw [decisions, hrow]
  | issue id₀ row₀ free unspent decisions =>
    rw [decisions, Table.get?_insert free, if_neg, hrow]
    rintro rfl
    rw [free] at hrow
    cases hrow
  | consume id₀ nonce row₀ at' there unspent free decisions =>
    rw [decisions, Table.get?_modify, if_neg, hrow]
    rintro rfl
    rw [there] at hrow
    cases hrow
    simp [unspent] at hspent

theorem Register.other (hreg : Register book)
    (decisions : book'.decisions = book.decisions)
    (nonces : ∀ n, (book'.nonces.get? n).isSome = (book.nonces.get? n).isSome)
    (audit : ∀ id, book'.consumptions id = book.consumptions id) :
    Register book' where
  marked := by rw [decisions]; exact hreg.marked
  once id := by rw [audit, decisions]; exact hreg.once id
  nonce id row nonce hrow hnonce := by
    rw [nonces]
    rw [decisions] at hrow
    exact hreg.nonce id row nonce hrow hnonce
  decision nonce hnonce := by
    rw [nonces] at hnonce
    rw [decisions]
    exact hreg.decision nonce hnonce
  unique := by rw [decisions]; exact hreg.unique

theorem Register.issue (hreg : Register book) (free : book.decisions.get? id = none)
    (unspent : row.consumedAt = none ∧ row.consumedNonce = none)
    (decisions : book'.decisions = book.decisions.insert id row)
    (nonces : book'.nonces = book.nonces)
    (audit : ∀ id, book'.consumptions id = book.consumptions id) :
    Register book' := by
  have hget := fun i => Table.get?_insert (r := row) free i
  -- A new row is open, so a consumed one was there before.
  have hold : ∀ i r n, book'.decisions.get? i = some r → r.consumedNonce = some n →
      book.decisions.get? i = some r := by
    intro i r n hr hn
    rw [decisions, hget] at hr
    split at hr
    · cases hr
      rw [unspent.2] at hn
      cases hn
    · exact hr
  constructor
  · intro i r hr
    rw [decisions, hget] at hr
    split at hr
    · cases hr
      rw [unspent.1, unspent.2]
      rfl
    · exact hreg.marked i r hr
  · intro i
    rw [audit, hreg.once, decisions, hget]
    split
    · next hi => rw [hi, free, Option.elim_some, unspent.1]; rfl
    · rfl
  · intro i r n hr hn
    rw [nonces]
    exact hreg.nonce i r n (hold i r n hr hn) hn
  · intro n hn
    rw [nonces] at hn
    obtain ⟨i, r, hr, hnonce⟩ := hreg.decision n hn
    refine ⟨i, r, ?_, hnonce⟩
    rw [decisions, hget, if_neg, hr]
    rintro rfl
    rw [free] at hr
    cases hr
  · intro i i' r r' n hr hr' hn hn'
    exact hreg.unique i i' r r' n (hold i r n hr hn) (hold i' r' n hr' hn') hn hn'

theorem Register.consume (hreg : Register book) {id nonce : String} {at' : Stamp}
    (there : book.decisions.get? id = some row) (unspent : row.consumedAt = none)
    (free : book.nonces.get? nonce = none)
    (decisions : book'.decisions = book.decisions.modify id fun row =>
      { row with consumedAt := some at', consumedNonce := some nonce })
    (nonces : ∀ n, (book'.nonces.get? n).isSome =
      (decide (n = nonce) || (book.nonces.get? n).isSome))
    (audit : ∀ i, book'.consumptions i =
      book.consumptions i + if i = id then 1 else 0) : Register book' := by
  have hself : book'.decisions.get? id =
      some { row with consumedAt := some at', consumedNonce := some nonce } := by
    rw [decisions, Table.get?_modify_self, there]
    rfl
  have hother : ∀ i, i ≠ id → book'.decisions.get? i = book.decisions.get? i := by
    intro i hi
    rw [decisions, Table.get?_modify_of_ne hi]
  -- The nonce is new, so no other decision carries it.
  have hfresh : ∀ i r, book.decisions.get? i = some r →
      r.consumedNonce ≠ some nonce := by
    intro i r hr hn
    have := hreg.nonce i r nonce hr hn
    rw [free] at this
    cases this
  constructor
  · intro i r hr
    by_cases hi : i = id
    · subst hi
      rw [hself] at hr
      cases hr
      rfl
    · rw [hother i hi] at hr
      exact hreg.marked i r hr
  · intro i
    rw [audit, hreg.once]
    by_cases hi : i = id
    · subst hi
      rw [hself, there, Option.elim_some, Option.elim_some, unspent, if_pos rfl]
      rfl
    · rw [hother i hi, if_neg hi, Nat.add_zero]
  · intro i r n hr hn
    rw [nonces]
    by_cases hi : i = id
    · subst hi
      rw [hself] at hr
      cases hr
      cases hn
      simp
    · rw [hother i hi] at hr
      rw [hreg.nonce i r n hr hn, Bool.or_true]
  · intro n hn
    rw [nonces, Bool.or_eq_true, decide_eq_true_eq] at hn
    rcases hn with rfl | hn
    · exact ⟨id, _, hself, rfl⟩
    · obtain ⟨i, r, hr, hnonce⟩ := hreg.decision n hn
      have hi : i ≠ id := by
        rintro rfl
        rw [there] at hr
        cases hr
        have := (hreg.marked i row there).mpr (by rw [hnonce]; rfl)
        rw [unspent] at this
        cases this
      exact ⟨i, r, by rw [hother i hi, hr], hnonce⟩
  · intro i i' r r' n hr hr' hn hn'
    by_cases hi : i = id
    · by_cases hi' : i' = id
      · rw [hi, hi']
      · subst hi
        rw [hself] at hr
        cases hr
        cases hn
        rw [hother i' hi'] at hr'
        exact absurd hn' (hfresh i' r' hr')
    · by_cases hi' : i' = id
      · subst hi'
        rw [hself] at hr'
        cases hr'
        cases hn'
        rw [hother i hi] at hr
        exact absurd hn (hfresh i r hr)
      · rw [hother i hi] at hr
        rw [hother i' hi'] at hr'
        exact hreg.unique i i' r r' n hr hr' hn hn'

theorem Register.authority (hreg : Register book) (h : book.Authority book') :
    Register book' := by
  cases h with
  | other decisions nonces audit => exact hreg.other decisions nonces audit
  | issue id row free unspent decisions nonces audit =>
    exact hreg.issue free unspent decisions nonces audit
  | consume id nonce row at' there unspent free decisions nonces audit =>
    exact hreg.consume there unspent free decisions nonces audit

theorem Register.evolves (hreg : Register book) (h : book.Evolves book') :
    Register book' := by
  induction h with
  | refl => exact hreg
  | tail _ hstep ih => exact ih.authority hstep

theorem Book.Evolves.keeps (h : book.Evolves book')
    (hrow : book.decisions.get? id = some row) (hspent : row.consumedAt.isSome = true) :
    book'.decisions.get? id = some row := by
  induction h with
  | refl => exact hrow
  | tail _ hstep ih => exact hstep.keeps ih hspent

end Register

/-! ## Uses of decisions -/

inductive Use
  | read (operationId : String)
  | prepare (requestId : String)
  | resume (requestId : String)
  | finalize (requestId : String)

def Tables.usedDecision (t : Tables) : Use → Option String
  | .read id => (t.operations.get? id).map (·.allowDecisionDigest)
  | .prepare id => (t.modelOperations.get? id).map (·.allowDecisionDigest)
  | .resume id => (t.modelOperations.get? id).bind (·.resumeDecisionDigest)
  | .finalize id => (t.modelOperations.get? id).bind (·.finalizationDecisionDigest)

def Use.nonce (cfg : StoreConfig) (digest : String) : Use → String
  | .read id => id
  | .prepare id => id
  | .resume id => resumeNonce cfg id digest
  | .finalize id => finalizeNonce cfg id digest

def Use.concerns (decision : PolicyDecision) : Use → Prop
  | .read _ => decision.subject.kind = .toolRequest
  | .prepare id | .resume id | .finalize id =>
    decision.subject.kind = .modelRequest ∧ decision.subject.id = id

/-- The decision behind a use: one of those that were presented, about the
operation, allowing it, and consumed under the nonce of this use. -/
structure Backing (cfg : StoreConfig) (presented : PolicyDecision → Prop)
    (book : Book) (use : Use) (digest : String) (decision : PolicyDecision)
    (row : DecisionRow) : Prop where
  hpresented : presented decision
  hdigest : cfg.recordDigest (.policyDecision decision) = digest
  allows : decision.effect = .allow
  concerns : use.concerns decision
  there : book.decisions.get? decision.metadata.id = some row
  rowDigest : row.decisionDigest = digest
  spent : row.consumedAt.isSome = true
  consumed : row.consumedNonce = some (use.nonce cfg digest)

def Backed (cfg : StoreConfig) (presented : PolicyDecision → Prop) (book : Book)
    (use : Use) (digest : String) : Prop :=
  ∃ decision row, Backing cfg presented book use digest decision row

section Uses

variable {cfg : StoreConfig} {presented : PolicyDecision → Prop}
  {db db' db₁ : Db} {book book' : Book} {use : Use} {digest : String}

theorem Backed.evolves (h : Backed cfg presented book use digest)
    (hbook : book.Evolves book') : Backed cfg presented book' use digest := by
  obtain ⟨decision, row, h⟩ := h
  exact ⟨decision, row, { h with there := hbook.keeps h.there h.spent }⟩

variable (cfg presented) in
/-- What a part of a transaction does to the decisions, and to their uses: each
one that is named afterwards was named before or is backed. -/
structure AuthorityStep (db db' : Db) : Prop where
  book : db.book.Evolves db'.book
  uses : ∀ use digest, db'.tables.usedDecision use = some digest →
    db.tables.usedDecision use = some digest ∨
      Backed cfg presented db'.book use digest

theorem AuthorityStep.refl (db : Db) : AuthorityStep cfg presented db db :=
  ⟨.refl, fun _ _ h => .inl h⟩

theorem AuthorityStep.trans (h : AuthorityStep cfg presented db db₁)
    (h' : AuthorityStep cfg presented db₁ db') :
    AuthorityStep cfg presented db db' := by
  refine ⟨h.book.trans h'.book, fun use digest hused => ?_⟩
  rcases h'.uses use digest hused with hused | hbacked
  · rcases h.uses use digest hused with hused | hbacked
    · exact .inl hused
    · exact .inr (hbacked.evolves h'.book)
  · exact .inr hbacked

theorem usedDecision_congr {t t' : Tables} (hreads : t'.operations = t.operations)
    (hmodels : t'.modelOperations = t.modelOperations) :
    t'.usedDecision use = t.usedDecision use := by
  cases use <;> simp only [Tables.usedDecision, hreads, hmodels]

theorem AuthorityStep.of_book (hbook : db.book.Authority db'.book)
    (hreads : db'.tables.operations = db.tables.operations)
    (hmodels : db'.tables.modelOperations = db.tables.modelOperations) :
    AuthorityStep cfg presented db db' := by
  refine ⟨.single hbook, fun use digest hused => .inl ?_⟩
  rwa [usedDecision_congr hreads hmodels] at hused

theorem AuthorityStep.of_tables (hbook : db'.book = db.book)
    (huses : ∀ use digest, db'.tables.usedDecision use = some digest →
      db.tables.usedDecision use = some digest ∨ Backed cfg presented db.book use digest) :
    AuthorityStep cfg presented db db' := by
  refine ⟨?_, ?_⟩
  · rw [hbook]
    exact .refl
  · rw [hbook]
    exact huses

theorem AuthorityStep.of_untouched (hbook : db'.book = db.book)
    (hreads : db'.tables.operations = db.tables.operations)
    (hmodels : db'.tables.modelOperations = db.tables.modelOperations) :
    AuthorityStep cfg presented db db' := by
  refine .of_tables hbook fun use digest hused => .inl ?_
  rwa [usedDecision_congr hreads hmodels] at hused

theorem AuthorityStep.after_untouched (h : AuthorityStep cfg presented db₁ db')
    (hbook : db₁.book = db.book) (hreads : db₁.tables.operations = db.tables.operations)
    (hmodels : db₁.tables.modelOperations = db.tables.modelOperations) :
    AuthorityStep cfg presented db db' :=
  (of_untouched hbook hreads hmodels).trans h

/-! ### The helpers of the transactions -/

theorem consumptions_append {audit : List AuditEntry} {entry : AuditEntry}
    (h : book'.audit = audit ++ [entry]) (hbook : book.audit = audit) (id : String) :
    book'.consumptions id = book.consumptions id +
      if entry.action = .consumed ∧ entry.recordId = id then 1 else 0 := by
  rw [Book.consumptions, h, List.countP_append, Book.consumptions, hbook]
  simp [List.countP_cons]

variable {tx : String} {at' : Stamp} {cap : Capability} {now : Instant}
  {decision : PolicyDecision} {r : ReadRequest} {cost : ℕ} {requestId : String}
  {state : ModelState} {answer : Answer} {plan : RunPlan}

theorem authority_addRecord {r : Record} {action : AuditAction}
    (haction : action ≠ .consumed) :
    db.book.Authority (db.addRecord cfg tx r action).book := by
  refine .other rfl (fun _ => rfl) fun id => ?_
  rw [consumptions_append rfl rfl, if_neg fun h => haction h.1]
  rfl

theorem authority_withRevision {type : EntityType} {id tx : String} {row : EntityRow} :
    db.book.Authority (db.withRevision cfg type id tx row at').book := by
  refine .other rfl (fun _ => rfl) fun id => ?_
  rw [consumptions_append rfl rfl, if_neg fun h => nomatch h.1]
  rfl

theorem recordIfNew_authority {r : Record} (h : db.recordIfNew cfg tx r = .ok db') :
    AuthorityStep cfg presented db db' := by
  obtain ⟨-, -, inserted, -, rfl⟩ := recordIfNew_ok h
  cases inserted with
  | false => exact .refl db
  | true => exact .of_book (authority_addRecord (by decide)) rfl rfl

theorem recordNew_authority {tx : String} {r : Record} {err : StoreError}
    (h : db.recordNew cfg tx r err = .ok db') :
    AuthorityStep cfg presented db db' := by
  obtain ⟨-, -, -, rfl⟩ := recordNew_ok h
  exact .of_book (authority_addRecord (by decide)) rfl rfl

theorem recordAuthorityRevision_authority {type : EntityType} {id tx : String}
    (h : db.recordAuthorityRevision cfg type id tx at' = .ok db') :
    AuthorityStep cfg presented db db' := by
  obtain ⟨row, -, rfl⟩ := recordAuthorityRevision_ok h
  exact .of_book authority_withRevision rfl rfl

theorem recordAuthorityRevisions_authority {entities : List (EntityType × String)}
    (h : db.recordAuthorityRevisions cfg entities tx at' = .ok db') :
    AuthorityStep cfg presented db db' := by
  induction entities generalizing db with
  | nil =>
    cases pure_eq_ok.mp h
    exact .refl _
  | cons e entities ih =>
    obtain ⟨db₁, hstep, h⟩ := bind_eq_ok.mp h
    exact (recordAuthorityRevision_authority hstep).trans (ih h)

theorem appendGeneratedEvent_authority {runId : String} {e : GeneratedEvent}
    (h : db.appendGeneratedEvent cfg runId e cap now tx = .ok db') :
    AuthorityStep cfg presented db db' := by
  obtain ⟨run, replay, next, row, -, -, rfl⟩ := appendGeneratedEvent_ok h
  refine .trans (.of_book
    (authority_addRecord (by decide)) rfl rfl) (.of_book authority_withRevision rfl rfl)

theorem updateBudget_authority {runId : String} {allowed : BudgetRow → Bool}
    {f : BudgetRow → BudgetRow} {err : StoreError}
    (h : db.updateBudget runId allowed f err = .ok db') :
    AuthorityStep cfg presented db db' := by
  obtain ⟨b, -, -, rfl⟩ := updateBudget_ok h
  exact .of_untouched rfl rfl rfl

theorem withNonceResult_authority (nonce result : String) :
    AuthorityStep cfg presented db (db.withNonceResult nonce result) := by
  refine .of_book (.other rfl (fun n => ?_) fun _ => rfl) rfl rfl
  change ((db.book.nonces.modify nonce _).get? n).isSome = _
  rw [Table.get?_modify]
  split
  · rw [Option.isSome_map]
  · rfl

theorem issueDecision_authority {decision : PolicyDecision} {tx : String}
    (h : db.issueDecision cfg decision tx = .ok db') :
    AuthorityStep cfg presented db db' := by
  obtain ⟨-, inserted, db₁, -, hfound, rfl⟩ := issueDecision_ok h
  have hrecord : AuthorityStep cfg presented db
      (if inserted then db.withRecord cfg (.policyDecision decision) else db) := by
    cases inserted with
    | false => exact .refl db
    | true => exact .of_book (.other rfl (fun _ => rfl) fun _ => rfl) rfl rfl
  have hissue : AuthorityStep cfg presented
      (if inserted then db.withRecord cfg (.policyDecision decision) else db) db₁ := by
    cases hfound with
    | there => exact .refl _
    | free hfree expiry =>
      exact .of_book (.issue decision.metadata.id _ hfree ⟨rfl, rfl⟩ rfl rfl
        fun _ => rfl) rfl rfl
  refine (hrecord.trans hissue).trans ?_
  cases inserted with
  | false => exact .refl db₁
  | true =>
    refine .of_book (.other rfl (fun _ => rfl) fun id => ?_) rfl rfl
    rw [consumptions_append rfl rfl, if_neg fun h => nomatch h.1]
    rfl

theorem authority_withConsumption {row : DecisionRow} {subject nonce tx : String}
    (there : db.book.decisions.get? decision.metadata.id = some row)
    (unspent : row.consumedAt = none) (free : db.book.nonces.get? nonce = none) :
    db.book.Authority (db.withConsumption cfg decision subject nonce tx now).book := by
  refine .consume decision.metadata.id nonce row (utc now) there unspent free rfl
    (fun n => ?_) fun id => ?_
  · change ((db.book.nonces.insert nonce _).get? n).isSome = _
    rw [Table.get?_insert free]
    split
    · next hn => simp [hn]
    · next hn => simp [hn]
  · rw [@consumptions_append db.book _ _ _ rfl rfl]
    simp only [true_and, eq_comm]

theorem consumeDecision_authority {subject nonce tx : String}
    (h : db.consumeDecision cfg decision subject nonce tx now = .ok db') :
    AuthorityStep cfg presented db db' := by
  obtain ⟨row, hrow, -, hconsumed⟩ := consumeDecision_ok h
  cases hconsumed with
  | again => exact .refl db
  | first hfree hopen =>
    exact .of_book (authority_withConsumption hrow hopen hfree) rfl rfl

theorem consumeDecision_marks (hreg : Register db.book) {subject nonce tx : String}
    (h : db.consumeDecision cfg decision subject nonce tx now = .ok db') :
    ∃ row, db'.book.decisions.get? decision.metadata.id = some row ∧
      row.decisionDigest = cfg.recordDigest (.policyDecision decision) ∧
      row.consumedAt.isSome = true ∧ row.consumedNonce = some nonce := by
  obtain ⟨row, hrow, hdigest, hconsumed⟩ := consumeDecision_ok h
  cases hconsumed with
  | again existing hnonce hrun hsubject hspent =>
    refine ⟨row, hrow, hdigest, ?_, hspent⟩
    exact (hreg.marked _ row hrow).mpr (by rw [hspent]; rfl)
  | first hfree hopen =>
    refine ⟨{ row with consumedAt := some (utc now), consumedNonce := some nonce },
      ?_, hdigest, rfl, rfl⟩
    change (db.book.decisions.modify decision.metadata.id _).get? _ = _
    rw [Table.get?_modify_self, hrow]
    rfl

theorem consumeDecision_backs (hreg : Register db.book) {decision : PolicyDecision}
    {subject nonce tx : String} {now : Instant}
    (h : db.consumeDecision cfg decision subject nonce tx now = .ok db')
    (hpresented : presented decision) (hallows : decision.effect = .allow)
    (hconcerns : use.concerns decision)
    (hnonce : nonce = use.nonce cfg (cfg.recordDigest (.policyDecision decision))) :
    Backed cfg presented db'.book use (cfg.recordDigest (.policyDecision decision)) := by
  obtain ⟨row, hrow, hdigest, hspent, hconsumed⟩ := consumeDecision_marks hreg h
  exact ⟨decision, row,
    { hpresented := hpresented
      hdigest := rfl
      allows := hallows
      concerns := hconcerns
      there := hrow
      rowDigest := hdigest
      spent := hspent
      consumed := hnonce ▸ hconsumed }⟩

/-! ### The rows of the operations -/

theorem usedDecision_reads {t t' : Tables}
    (hreads : ∀ id, (t'.operations.get? id).map (·.allowDecisionDigest) =
      (t.operations.get? id).map (·.allowDecisionDigest))
    (hmodels : t'.modelOperations = t.modelOperations) :
    t'.usedDecision use = t.usedDecision use := by
  cases use with
  | read id => exact hreads id
  | prepare | resume | finalize => simp only [Tables.usedDecision, hmodels]

theorem usedDecision_withOperation {bytes : ℕ} {lease : LeaseGrant}
    (free : db.tables.operations.get? r.operationId = none)
    (h : (db.withOperation cfg r bytes lease now).tables.usedDecision use = some digest) :
    db.tables.usedDecision use = some digest ∨
      (use = .read r.operationId ∧ digest = r.decisionDigest cfg) := by
  cases use with
  | read id =>
    change ((db.tables.operations.insert r.operationId _).get? id).map _ = _ at h
    rw [Table.get?_insert free] at h
    split at h
    · next hid =>
        cases h
        exact .inr ⟨by rw [hid], rfl⟩
    · exact .inl h
  | prepare | resume | finalize => exact .inl h

theorem usedDecision_withSettledOperation {operationId : String}
    {state : OperationState} {receipt artifact error : Option String} {outcome : String} :
    (db.withSettledOperation operationId state receipt artifact error outcome
      now).tables.usedDecision use = db.tables.usedDecision use := by
  refine usedDecision_reads (fun id => ?_) rfl
  change ((db.tables.operations.modify operationId _).get? id).map _ = _
  rw [Table.get?_modify]
  split
  · rw [Option.map_map]
    rfl
  · rfl

theorem usedDecision_withModelOperation {r : InvocationRequest} {key : String}
    (free : db.tables.modelOperations.get? r.requestId = none)
    (h : (db.withModelOperation cfg r key cost now).tables.usedDecision use = some digest) :
    db.tables.usedDecision use = some digest ∨
      (use = .prepare r.requestId ∧ digest = r.decisionDigest cfg) := by
  have hget := fun row id => Table.get?_insert (r := row) free id
  cases use with
  | read id => exact .inl h
  | prepare id =>
    change ((db.tables.modelOperations.insert r.requestId _).get? id).map _ = _ at h
    rw [hget] at h
    split at h
    · next hid =>
        cases h
        exact .inr ⟨by rw [hid], rfl⟩
    · exact .inl h
  | resume id | finalize id =>
    change ((db.tables.modelOperations.insert r.requestId _).get? id).bind _ = _ at h
    rw [hget] at h
    split at h
    · cases h
    exact .inl h

theorem usedDecision_modify {t t' : Tables} {f : ModelOperationRow → ModelOperationRow}
    (h : t'.usedDecision use = some digest) (hreads : t'.operations = t.operations)
    (hmodels : t'.modelOperations = t.modelOperations.modify requestId f)
    (hallow : ∀ row, (f row).allowDecisionDigest = row.allowDecisionDigest) :
    t.usedDecision use = some digest ∨ ∃ row, t.modelOperations.get? requestId = some row ∧
        ((use = .resume requestId ∧ (f row).resumeDecisionDigest = some digest) ∨
          (use = .finalize requestId ∧
            (f row).finalizationDecisionDigest = some digest)) := by
  cases use with
  | read id => exact .inl (by rwa [Tables.usedDecision, hreads] at h)
  | prepare id =>
    left
    simp only [Tables.usedDecision, hmodels, Table.get?_modify] at h ⊢
    split at h
    · rw [Option.map_map] at h
      simpa only [Function.comp_def, hallow] using h
    · exact h
  | resume id | finalize id =>
    simp only [Tables.usedDecision, hmodels, Table.get?_modify] at h
    split at h
    · next hid =>
        subst hid
        cases hrow : t.modelOperations.get? id with
        | none =>
          rw [hrow] at h
          cases h
        | some row =>
          rw [hrow] at h
          exact .inr ⟨row, rfl, by simpa using h⟩
    · exact .inl h

theorem usedDecision_withStartedModel {resume : Option String}
    (h : (db.withStartedModel requestId resume now).tables.usedDecision use = some digest) :
    db.tables.usedDecision use = some digest ∨
      (use = .resume requestId ∧ resume = some digest) := by
  rcases usedDecision_modify (t := db.tables) (f := fun row =>
    { row with
      state := .started
      startedAt := some (utc now)
      resumeDecisionDigest := resume
      updatedAt := utc now }) h rfl rfl fun _ => rfl with
    hbefore | ⟨row, hrow, ⟨rfl, hnow⟩ | ⟨rfl, hnow⟩⟩
  · exact .inl hbefore
  · exact .inr ⟨rfl, hnow⟩
  · exact .inl (by rw [Tables.usedDecision, hrow]; exact hnow)

theorem usedDecision_withFailedModel {requestId error : String}
    (h : (db.withFailedModel requestId state error now).tables.usedDecision use =
      some digest) : db.tables.usedDecision use = some digest := by
  rcases usedDecision_modify (t := db.tables) (f := fun row =>
    { row with
      state := state
      errorRecordDigest := some error
      updatedAt := utc now }) h rfl rfl fun _ => rfl with
    hbefore | ⟨row, hrow, ⟨rfl, hnow⟩ | ⟨rfl, hnow⟩⟩
  · exact hbefore
  · rw [Tables.usedDecision, hrow]
    exact hnow
  · rw [Tables.usedDecision, hrow]
    exact hnow

theorem usedDecision_withSucceededModel {r : InvocationResult}
    (h : (db.withSucceededModel cfg requestId r now).tables.usedDecision use =
      some digest) :
    db.tables.usedDecision use = some digest ∨
      (use = .finalize requestId ∧ digest = r.decisionDigest cfg) := by
  rcases usedDecision_modify (t := db.tables) (f := fun row =>
    { row with
      state := .succeeded
      modelResultDigest := some (r.resultDigest cfg)
      outputArtifactRecordDigest := some (r.artifactDigest cfg)
      finalizationDecisionDigest := some (r.decisionDigest cfg)
      updatedAt := utc now }) h rfl rfl fun _ => rfl with
    hbefore | ⟨row, hrow, ⟨rfl, hnow⟩ | ⟨rfl, hnow⟩⟩
  · exact .inl hbefore
  · exact .inl (by rw [Tables.usedDecision, hrow]; exact hnow)
  · exact .inr ⟨rfl, (Option.some.inj hnow).symm⟩

/-! ### The transactions -/

theorem readCheck_authorizes {entry : SnapshotEntry} (h : r.check cfg = .ok entry) :
    r.decision.metadata.runId = r.runId ∧ r.decision.effect = .allow ∧ r.decision.subject =
        ⟨.toolRequest, r.toolRequest.metadata.id, r.requestDigest cfg⟩ := by
  obtain ⟨-, path, hbound⟩ := readCheck_ok h
  obtain ⟨tool, -, hbound⟩ := (Option.any_eq_true _ _).mp hbound
  simp only [Bool.and_eq_true, decide_eq_true_eq] at hbound
  obtain ⟨⟨⟨⟨⟨⟨⟨⟨⟨⟨⟨⟨-, hrun⟩, -⟩, -⟩, -⟩, hallows⟩, hsubject⟩, -⟩, -⟩, -⟩, -⟩, -⟩, -⟩ :=
    hbound
  exact ⟨hrun.symm, hallows, hsubject⟩

theorem invocationCheck_authorizes {r : InvocationRequest}
    {proof : ArtifactAvailabilityProof} {validity : Instant × Instant}
    (h : r.check cfg proof cost = .ok validity) :
    r.decision.metadata.runId = r.runId ∧ r.decision.effect = .allow ∧
      r.decision.subject = ⟨.modelRequest, r.requestId, r.requestDigest cfg⟩ := by
  obtain ⟨-, -, hbound⟩ := invocationCheck_ok h
  simp only [InvocationRequest.bound, Bool.and_eq_true, decide_eq_true_eq] at hbound
  obtain ⟨⟨⟨⟨⟨⟨⟨⟨⟨⟨⟨⟨⟨⟨⟨⟨⟨⟨-, -⟩, -⟩, hrun⟩, hallows⟩, hsubject⟩, -⟩, -⟩, -⟩, -⟩, -⟩,
    -⟩, -⟩, -⟩, -⟩, -⟩, -⟩, -⟩, -⟩ := hbound
  exact ⟨hrun, hallows, hsubject⟩

theorem startRun_authority {runId tx : String} {request : RunRequest}
    (h : db.startRun cfg runId request cap tx = .ok (db', answer)) :
    AuthorityStep cfg presented db db' := by
  obtain ⟨now, db₁, db₂, -, -, -, hrecord, -, hrevision, hevent⟩ := startRun_ok h
  exact (recordNew_authority hrecord).trans <|
    ((recordAuthorityRevision_authority hrevision).trans
      (appendGeneratedEvent_authority hevent)).after_untouched rfl rfl rfl

theorem ensurePlan_authority {inserted : Bool}
    (h : db.ensurePlan cfg plan = .ok (db', inserted)) :
    AuthorityStep cfg presented db db' := by
  cases ensurePlan_ok h with
  | there => exact .refl db
  | free => exact .of_untouched rfl rfl rfl

theorem appendPlanCreated_authority {run : RunRow} {cap : Option Capability}
    (h : db.appendPlanCreated cfg plan run cap tx = .ok db') :
    AuthorityStep cfg presented db db' := by
  unfold Db.appendPlanCreated at h
  split at h
  · obtain ⟨now, h⟩ := rest_ok h
    exact appendGeneratedEvent_authority h
  · cases h
    exact .refl db

theorem issuePlan_authority {runtimeCap : Option Capability}
    (h : db.issuePlan cfg plan decision cap runtimeCap tx = .ok (db', answer)) :
    AuthorityStep cfg presented db db' := by
  obtain ⟨db₁, -, -, hrecord, hissued⟩ := issuePlan_ok h
  refine (recordIfNew_authority hrecord).trans ?_
  cases hissued with
  | first db₁ db₂ inserted unknown baseline planned issued revised =>
    exact ((ensurePlan_authority planned).trans <|
      (issueDecision_authority issued).trans
        (recordAuthorityRevisions_authority revised)).after_untouched rfl rfl rfl
  | further run cap db₁ db₂ db₃ inserted known request awaiting planned issued
      created revised =>
    exact (ensurePlan_authority planned).trans <|
      (issueDecision_authority issued).trans <|
      (appendPlanCreated_authority created).trans
        (recordAuthorityRevisions_authority revised)

theorem activatePlan_authority {nonce tx : String}
    (h : db.activatePlan cfg plan decision nonce now cap tx = .ok (db', answer)) :
    AuthorityStep cfg presented db db' := by
  obtain ⟨planRow, -, -, -, -, -, -, -, hactivated⟩ := activatePlan_ok h
  cases hactivated with
  | first deadline cap run db₁ db₂ known inactive consumed budget allowed revised =>
    exact (consumeDecision_authority consumed).trans <|
      ((appendGeneratedEvent_authority allowed).trans
        (recordAuthorityRevisions_authority revised)).after_untouched rfl rfl rfl
  | again run known active digest consumed =>
    exact consumeDecision_authority consumed

theorem denyPlan_authority {nonce tx : String}
    (h : db.denyPlan cfg plan decision nonce now cap tx = .ok (db', answer)) :
    AuthorityStep cfg presented db db' := by
  obtain ⟨run, db₁, db₂, db₃, -, -, -, -, issued, consumed, denied, revised⟩ :=
    denyPlan_ok h
  exact (issueDecision_authority issued).trans <|
    (consumeDecision_authority consumed).trans <|
    ((appendGeneratedEvent_authority denied).trans
      (recordAuthorityRevision_authority revised)).after_untouched rfl rfl rfl

theorem createTerminalCheckpoint_authority {runId tx : String}
    (h : db.createTerminalCheckpoint cfg runId now cap tx = .ok (db', answer)) :
    AuthorityStep cfg presented db db' := by
  rcases createTerminalCheckpoint_ok h with
    rfl | ⟨checkpoint, row, db₁, -, recorded, revised, -⟩
  · exact .refl _
  · exact (recordNew_authority recorded).trans
      ((recordAuthorityRevision_authority revised).after_untouched rfl rfl rfl)

theorem rotateAuditKey_authority {transition : RotationTransition}
    (h : db.rotateAuditKey cfg transition now tx = .ok (db', answer)) :
    AuthorityStep cfg presented db db' := by
  obtain ⟨rotation, rfl⟩ := rotateAuditKey_ok h
  refine .of_book (.other rfl (fun _ => rfl) fun id => ?_) rfl rfl
  rw [consumptions_append rfl rfl, if_neg fun h => nomatch h.1]
  rfl

theorem readOpened_authority (hreg : Register db.book) (hpresented : presented r.decision)
    (h : ReadOpened cfg db r now tx db') : AuthorityStep cfg presented db db' := by
  cases h with
  | intro entry lease run policyCap runtimeCap db₁ db₂ db₃ db₄ db₅ db₆ checked known
      active running fresh issued consumed reserved recorded freeOperation
      freeReservation requested allowed revised =>
    obtain ⟨-, hallows, hsubject⟩ := readCheck_authorizes checked
    have hissued := @issueDecision_authority _ presented _ _ _ _ issued
    have hreserved := @updateBudget_authority cfg presented _ _ _ _ _ _ reserved
    have hrecorded := @recordNew_authority _ presented _ _ _ _ _ recorded
    have hbacked := @consumeDecision_backs _ _ _ _ (.read r.operationId)
      (hreg.evolves hissued.book) _ _ _ _ _ consumed hpresented hallows
      (congrArg DecisionSubject.kind hsubject) rfl
    have hopened : AuthorityStep cfg presented db₄
        (db₄.withOperation cfg r entry.byteLength lease now) := by
      refine .of_tables rfl fun use digest hused => ?_
      rcases usedDecision_withOperation freeOperation hused with
        hbefore | ⟨rfl, rfl⟩
      · exact .inl hbefore
      · exact .inr (hbacked.evolves (hreserved.book.trans hrecorded.book))
    exact hissued.trans <| (consumeDecision_authority consumed).trans <|
      hreserved.trans <| hrecorded.trans <| hopened.trans <|
      (appendGeneratedEvent_authority requested).trans <|
      (appendGeneratedEvent_authority allowed).trans
        (recordAuthorityRevisions_authority revised)

theorem settledOperation_authority {operationId : String} {state : OperationState}
    {receipt artifact error : Option String} {outcome : String} :
    AuthorityStep cfg presented db
      (db.withSettledOperation operationId state receipt artifact error outcome now) := by
  refine .of_tables rfl fun use digest hused => .inl ?_
  rwa [usedDecision_withSettledOperation] at hused

theorem readReleased_authority {operationId tx : String}
    (h : ReadReleased cfg db operationId now tx db') :
    AuthorityStep cfg presented db db' := by
  cases h with
  | intro operation reservation intent error outcome cap db₁ db₂ db₃ db₄ there
      prepared loaded reserved unsettled errorRecorded outcomeRecorded released
      failed revised =>
    exact (recordNew_authority errorRecorded).trans <|
      (recordNew_authority outcomeRecorded).trans <|
      (updateBudget_authority released).trans <|
      (settledOperation_authority.trans <|
      (withNonceResult_authority operationId _).trans <|
      (appendGeneratedEvent_authority failed).trans
        (recordAuthorityRevisions_authority revised)).after_untouched rfl rfl rfl

theorem readCommitted_authority {operationId tx : String}
    (h : ReadCommitted cfg db operationId now tx db') :
    AuthorityStep cfg presented db db' := by
  cases h with
  | intro operation reservation intent result cap db₁ db₂ db₃ db₄ db₅ db₆ there
      prepared loaded bound reserved unsettled bytes receiptRecorded
      artifactRecorded outcomeRecorded committed completed artifact revised =>
    exact (recordNew_authority receiptRecorded).trans <|
      (recordNew_authority artifactRecorded).trans <|
      (recordNew_authority outcomeRecorded).trans <|
      (updateBudget_authority committed).trans <|
      (settledOperation_authority.trans <|
      (withNonceResult_authority operationId _).trans <|
      (appendGeneratedEvent_authority completed).trans <|
      (appendGeneratedEvent_authority artifact).trans
        (recordAuthorityRevisions_authority revised)).after_untouched rfl rfl rfl

theorem modelOpened_authority (hreg : Register db.book) {r : InvocationRequest}
    {key : String} (hpresented : presented r.decision)
    (h : ModelOpened cfg db r key cost now tx db') :
    AuthorityStep cfg presented db db' := by
  cases h with
  | intro proof validity run budget db₁ db₂ db₃ db₄ db₅ db₆ checked valid fresh known
      running active budgeted room issued consumed endpoint artifact request counted
      freeOperation freeReservation revised =>
    obtain ⟨-, hallows, hsubject⟩ := invocationCheck_authorizes checked
    have hissued := @issueDecision_authority _ presented _ _ _ _ issued
    have hprepared : AuthorityStep cfg presented db₂ db₆ :=
      (recordIfNew_authority endpoint).trans <|
        (recordIfNew_authority artifact).trans <|
        (recordIfNew_authority request).trans (updateBudget_authority counted)
    have hbacked := @consumeDecision_backs _ _ _ _ (.prepare r.requestId)
      (hreg.evolves hissued.book) _ _ _ _ _ consumed hpresented hallows
      ⟨congrArg DecisionSubject.kind hsubject, congrArg DecisionSubject.id hsubject⟩ rfl
    have hopened : AuthorityStep cfg presented db₆
        (db₆.withModelOperation cfg r key cost now) := by
      refine .of_tables rfl fun use digest hused => ?_
      rcases usedDecision_withModelOperation freeOperation hused with
        hbefore | ⟨rfl, rfl⟩
      · exact .inl hbefore
      · exact .inr (hbacked.evolves hprepared.book)
    exact hissued.trans <| (consumeDecision_authority consumed).trans <|
      hprepared.trans <| hopened.trans (recordAuthorityRevisions_authority revised)

theorem modelStarted_authority (h : ModelStarted cfg db requestId now tx answer db') :
    AuthorityStep cfg presented db db' := by
  cases h with
  | intro operation row there prepared live revised read answered =>
    refine .trans (@AuthorityStep.of_tables _ _ _ (db.withStartedModel requestId
      operation.resumeDecisionDigest now) rfl fun use digest hused => .inl ?_)
      (recordAuthorityRevisions_authority revised)
    rcases usedDecision_withStartedModel hused with hbefore | ⟨rfl, hresume⟩
    · exact hbefore
    · rw [Tables.usedDecision, there]
      exact hresume

theorem modelResumed_authority (hreg : Register db.book) {request : ModelRequest}
    (hpresented : presented decision)
    (h : ModelResumed cfg db request decision now tx answer db') :
    AuthorityStep cfg presented db db' := by
  cases h with
  | intro operation row db₁ db₂ there prepared sameRequest sameRun allows subject
      live issued consumed revised read answered =>
    have hissued := @issueDecision_authority _ presented _ _ _ _ issued
    have hbacked := @consumeDecision_backs _ _ _ _ (.resume request.metadata.id)
      (hreg.evolves hissued.book) _ _ _ _ _ consumed hpresented allows
      ⟨congrArg DecisionSubject.kind subject, congrArg DecisionSubject.id subject⟩ rfl
    have hstarted : AuthorityStep cfg presented db₂
        (db₂.withStartedModel request.metadata.id
          (some (cfg.recordDigest (.policyDecision decision))) now) := by
      refine .of_tables rfl fun use digest hused => ?_
      rcases usedDecision_withStartedModel hused with hbefore | ⟨rfl, hresume⟩
      · exact .inl hbefore
      · cases hresume
        exact .inr hbacked
    exact hissued.trans <| (consumeDecision_authority consumed).trans <|
      hstarted.trans (recordAuthorityRevisions_authority revised)

theorem failedModel_authority {requestId error : String} :
    AuthorityStep cfg presented db (db.withFailedModel requestId state error now) :=
  .of_tables rfl fun _ _ hused => .inl (usedDecision_withFailedModel hused)

theorem modelAborted_authority (h : ModelAborted cfg db requestId now tx answer db') :
    AuthorityStep cfg presented db db' := by
  cases h with
  | intro operation row reservation error db₁ there prepared reserved unsettled
      recorded revised read answered =>
    exact (recordIfNew_authority recorded).trans <|
      (failedModel_authority.trans <| (withNonceResult_authority requestId _).trans
        (recordAuthorityRevisions_authority revised)).after_untouched rfl rfl rfl

theorem modelForfeited_authority
    (h : ModelForfeited cfg db requestId state now tx answer db') :
    AuthorityStep cfg presented db db' := by
  cases h with
  | intro operation row reservation error err cap db₁ db₂ db₃ there started reserved
      unsettled recorded charged event revised read answered =>
    exact (recordIfNew_authority recorded).trans <|
      (updateBudget_authority charged).trans <|
      (failedModel_authority.trans <| (withNonceResult_authority requestId _).trans <|
        (appendGeneratedEvent_authority event).trans
        (recordAuthorityRevisions_authority revised)).after_untouched rfl rfl rfl

theorem modelCommitted_authority (hreg : Register db.book) {r : InvocationResult}
    (hpresented : presented r.finalizationDecision)
    (h : ModelCommitted cfg db requestId r now tx answer db') :
    AuthorityStep cfg presented db db' := by
  cases h with
  | intro operation row reservation cap db₁ db₂ db₃ db₄ db₅ db₆ there started active
      authorized reserved unsettled bytes resultRecorded artifactRecorded issued
      consumed charged event revised read answered =>
    simp only [InvocationResult.authorized, Bool.and_eq_true,
      decide_eq_true_eq] at authorized
    obtain ⟨⟨-, hallows⟩, hsubject⟩ := authorized
    have hissued : AuthorityStep cfg presented db db₃ :=
      (recordIfNew_authority resultRecorded).trans <|
        (recordIfNew_authority artifactRecorded).trans
          (issueDecision_authority issued)
    have hcharged := @updateBudget_authority cfg presented _ _ _ _ _ _ charged
    have hbacked := @consumeDecision_backs _ _ _ _ (.finalize requestId)
      (hreg.evolves hissued.book) _ _ _ _ _ consumed hpresented hallows
      ⟨congrArg DecisionSubject.kind hsubject, congrArg DecisionSubject.id hsubject⟩ rfl
    have hsucceeded : AuthorityStep cfg presented
        (db₅.withModelReservation requestId
          (·.paid r reservation.reservedTotalTokens now))
        ((db₅.withModelReservation requestId
          (·.paid r reservation.reservedTotalTokens now)).withSucceededModel cfg
            requestId r now) := by
      refine .of_tables rfl fun use digest hused => ?_
      rcases usedDecision_withSucceededModel hused with hbefore | ⟨rfl, rfl⟩
      · exact .inl hbefore
      · exact .inr (hbacked.evolves hcharged.book)
    exact hissued.trans <| (consumeDecision_authority consumed).trans <|
      hcharged.trans <|
      (hsucceeded.trans <| (withNonceResult_authority requestId _).trans <|
        (appendGeneratedEvent_authority event).trans
        (recordAuthorityRevisions_authority revised)).after_untouched rfl rfl rfl

end Uses

/-! ## Whole runs -/

def Call.decision? : Call → Option PolicyDecision
  | .prepareRepositoryRead r .. => some r.decision
  | .prepareModelInvocation r .. => some r.decision
  | .resumePreparedModelInvocation _ decision .. => some decision
  | .completeModelInvocation _ r .. => some r.finalizationDecision
  | _ => none

section Runs

variable {cfg : StoreConfig} {presented : PolicyDecision → Prop} {db db' : Db}

/-- **The step lemma.**  A committed transaction only issues decisions and
consumes open ones, and it backs the uses that it writes. -/
theorem exec_authority (hreg : Register db.book) {call : Call} {answer : Answer}
    (hpresented : ∀ decision, call.decision? = some decision → presented decision)
    (h : Call.exec cfg db call = .ok (db', answer)) :
    AuthorityStep cfg presented db db' := by
  cases call with
  | putRecord record tx => exact recordIfNew_authority (putRecord_ok h).2
  | startRun runId request cap tx => exact startRun_authority h
  | validateRun runId now cap tx =>
    rcases validateRun_ok h with rfl | ⟨run, request, -, -, hevent⟩
    · exact .refl _
    · exact appendGeneratedEvent_authority hevent
  | issuePlan plan decision cap runtimeCap tx => exact issuePlan_authority h
  | activatePlan plan decision nonce now cap tx => exact activatePlan_authority h
  | denyPlan plan decision nonce now cap tx => exact denyPlan_authority h
  | adapterEvent event runId now cap tx =>
    exact appendGeneratedEvent_authority (adapterEvent_ok h)
  | finishRun runId outcome now cap tx =>
    exact appendGeneratedEvent_authority (finishRun_ok h).2
  | createTerminalCheckpoint runId now cap tx =>
    exact createTerminalCheckpoint_authority h
  | issueDecision decision digest cap tx =>
    exact issueDecision_authority (issueDecisionCall_ok h)
  | consumeDecision decision subject nonce now digest cap tx =>
    exact consumeDecision_authority (consumeDecisionCall_ok h).2.2
  | rotateAuditKey transition now tx => exact rotateAuditKey_authority h
  | prepareRepositoryRead r ownerId leaseSeconds now policyCap brokerCap runtimeCap tx
      token =>
    rcases prepareRepositoryRead_ok h with rfl | hopened
    · exact .refl _
    · exact readOpened_authority hreg (hpresented _ rfl) hopened
  | claimOperation operationId ownerId leaseSeconds cap =>
    rw [claimOperation_ok h]
    exact .refl db
  | abortExpiredOperation operationId now cap epoch tx =>
    rcases abortExpiredOperation_ok h with rfl | hreleased
    · exact .refl _
    · exact readReleased_authority hreleased
  | completeRepositoryRead operationId token result proof now cap tx =>
    rcases completeRepositoryRead_ok h with rfl | hcommitted
    · exact .refl _
    · exact readCommitted_authority hcommitted
  | failRepositoryRead operationId token error outcome now cap tx =>
    rcases failRepositoryRead_ok h with rfl | hreleased
    · exact .refl _
    · exact readReleased_authority hreleased
  | prepareModelInvocation r proof key cost now policyCap runtimeCap adapterCap tx =>
    rcases prepareModelInvocation_ok h with ⟨rfl, -⟩ | ⟨hopened, -⟩
    · exact .refl _
    · exact modelOpened_authority hreg (hpresented _ rfl) hopened
  | startModelInvocation requestId now cap tx =>
    rcases startModelInvocation_ok h with ⟨rfl, -⟩ | hstarted
    · exact .refl _
    · exact modelStarted_authority hstarted
  | resumePreparedModelInvocation request decision now policyCap adapterCap tx =>
    rcases resumePreparedModelInvocation_ok h with ⟨rfl, -⟩ | hresumed
    · exact .refl _
    · exact modelResumed_authority hreg (hpresented _ rfl) hresumed
  | abortPreparedModelInvocation request reason now cap tx =>
    rcases abortPreparedModelInvocation_ok h with ⟨rfl, -⟩ | haborted
    · exact .refl _
    · exact modelAborted_authority haborted
  | completeModelInvocation requestId r proof now cap tx =>
    rcases completeModelInvocation_ok h with ⟨rfl, -⟩ | hcommitted
    · exact .refl _
    · exact modelCommitted_authority hreg (hpresented _ rfl) hcommitted
  | failModelInvocation requestId error now cap tx =>
    rcases failModelInvocation_ok h with ⟨rfl, -⟩ | hforfeited
    · exact .refl _
    · exact modelForfeited_authority hforfeited
  | resolveAmbiguousModelInvocation requestId observed now runtimeCap adapterCap tx =>
    rcases resolveAmbiguousModelInvocation_ok h with ⟨rfl, -⟩ | hforfeited
    · exact .refl _
    · exact modelForfeited_authority hforfeited

/-- What holds in every state of a run. -/
structure Spending (cfg : StoreConfig) (presented : PolicyDecision → Prop)
    (db : Db) : Prop where
  register : Register db.book
  backed : ∀ use digest, db.tables.usedDecision use = some digest →
    Backed cfg presented db.book use digest

theorem Spending.step (hspending : Spending cfg presented db)
    (h : AuthorityStep cfg presented db db') : Spending cfg presented db' := by
  refine ⟨hspending.register.evolves h.book, fun use digest hused => ?_⟩
  rcases h.uses use digest hused with hbefore | hbacked
  · exact (hspending.backed use digest hbefore).evolves h.book
  · exact hbacked

theorem spending_storeAfter (keyId : String) (calls : List Call) :
    Spending cfg (· ∈ calls.filterMap Call.decision?) (storeAfter cfg keyId calls) := by
  refine storeAfter_induction_of_mem cfg ?init calls ?step
  case init =>
    refine ⟨register_new keyId, fun use digest hused => ?_⟩
    cases use <;> cases hused
  case step =>
    intro db call hcall db' answer hspending h
    refine hspending.step (exec_authority hspending.register ?_ h)
    intro decision hdecision
    exact List.mem_filterMap.mpr ⟨call, hcall, hdecision⟩

theorem consumed_stays (keyId : String) (calls more : List Call) {id : String}
    {row : DecisionRow}
    (hrow : (storeAfter cfg keyId calls).book.decisions.get? id = some row)
    (hspent : row.consumedAt.isSome = true) :
    (storeAfter cfg keyId (calls ++ more)).book.decisions.get? id = some row := by
  induction more using List.reverseRecOn with
  | nil => rwa [List.append_nil]
  | append_singleton more call ih =>
    rw [← List.append_assoc, storeAfter_append]
    change (Db.call cfg _ call).book.decisions.get? id = some row
    have hreg := (@spending_storeAfter cfg keyId (calls ++ more)).register
    rcases call_cases cfg (storeAfter cfg keyId (calls ++ more)) call with
      hsame | ⟨answer, h⟩
    · rw [hsame]
      exact ih
    · exact (exec_authority hreg (fun _ _ => trivial)
        h).book.keeps ih hspent

/-- What a sequence of calls relies on of SHA-256: the decisions that it presents
do not collide, and none of them is about a request whose id is the nonce that its
own digest gives. -/
structure DigestsApart (cfg : StoreConfig) (calls : List Call) : Prop where
  injective : ∀ d ∈ calls.filterMap Call.decision?, ∀ d' ∈ calls.filterMap Call.decision?,
      cfg.recordDigest (.policyDecision d) = cfg.recordDigest (.policyDecision d') →
        d = d'
  resume : ∀ d ∈ calls.filterMap Call.decision?, d.subject.id ≠
    resumeNonce cfg d.subject.id (cfg.recordDigest (.policyDecision d))
  finalize : ∀ d ∈ calls.filterMap Call.decision?, d.subject.id ≠
    finalizeNonce cfg d.subject.id (cfg.recordDigest (.policyDecision d))

theorem resumeNonce_ne_finalizeNonce (id id' digest digest' : String) :
    resumeNonce cfg id digest ≠ finalizeNonce cfg id' digest' := by
  intro h
  have hlists := congrArg String.toList h
  simp [resumeNonce, finalizeNonce] at hlists

theorem backed_unique {calls : List Call} {book : Book} {use use' : Use}
    {digest : String} (hapart : DigestsApart cfg calls)
    (h : Backed cfg (· ∈ calls.filterMap Call.decision?) book use digest)
    (h' : Backed cfg (· ∈ calls.filterMap Call.decision?) book use' digest) :
    use = use' := by
  obtain ⟨d, row, h⟩ := h
  obtain ⟨d', row', h'⟩ := h'
  obtain rfl := hapart.injective d h.hpresented d' h'.hpresented
    (h.hdigest.trans h'.hdigest.symm)
  have hrow : row = row' := Option.some.inj (h.there.symm.trans h'.there)
  have hnonce : use.nonce cfg digest = use'.nonce cfg digest :=
    Option.some.inj (h.consumed.symm.trans ((congrArg _ hrow).trans h'.consumed))
  have hresume := hapart.resume d h.hpresented
  have hfinalize := hapart.finalize d h.hpresented
  rw [h.hdigest] at hresume hfinalize
  have hkind : ∀ id : String, d.subject.kind = .toolRequest →
      ¬ (d.subject.kind = .modelRequest ∧ d.subject.id = id) := by
    intro id hread hmodel
    rw [hread] at hmodel
    exact nomatch hmodel.1
  have hconcerns := h.concerns
  have hconcerns' := h'.concerns
  -- A read and an invocation differ in the kind of the subject; two uses by one
  -- invocation differ in the nonce.
  cases use <;> cases use' <;>
    simp only [Use.concerns, Use.nonce] at hconcerns hconcerns' hnonce
  case read.read => rw [hnonce]
  case read.prepare | read.resume | read.finalize =>
    exact absurd hconcerns' (hkind _ hconcerns)
  case prepare.read | resume.read | finalize.read =>
    exact absurd hconcerns (hkind _ hconcerns')
  case prepare.prepare | resume.resume | finalize.finalize =>
    rw [← hconcerns.2, ← hconcerns'.2]
  case prepare.resume =>
    rw [← hconcerns.2, ← hconcerns'.2] at hnonce
    exact absurd hnonce hresume
  case prepare.finalize =>
    rw [← hconcerns.2, ← hconcerns'.2] at hnonce
    exact absurd hnonce hfinalize
  case resume.prepare =>
    rw [← hconcerns.2, ← hconcerns'.2] at hnonce
    exact absurd hnonce.symm hresume
  case finalize.prepare =>
    rw [← hconcerns.2, ← hconcerns'.2] at hnonce
    exact absurd hnonce.symm hfinalize
  case resume.finalize =>
    exact absurd hnonce (resumeNonce_ne_finalizeNonce _ _ _ _)
  case finalize.resume =>
    exact absurd hnonce.symm (resumeNonce_ne_finalizeNonce _ _ _ _)

end Runs

/-! ## Refusals -/

/-- What a call presents to authorize an operation: the decision, the nonce that
would be spent on it, and the run and subject that it has to be about. -/
structure Presented where
  decision : PolicyDecision
  nonce : String
  now : Instant
  runId : String
  subject : DecisionSubject

/-- The authority of a prepare, resume or finalize.  The last two are about a row
of the store. -/
def Call.presented? (cfg : StoreConfig) (db : Db) : Call → Option Presented
  | .prepareRepositoryRead r _ _ now .. => some
      { decision := r.decision
        nonce := r.operationId
        now := now
        runId := r.runId
        subject := ⟨.toolRequest, r.toolRequest.metadata.id, r.requestDigest cfg⟩ }
  | .prepareModelInvocation r _ _ _ now .. => some
      { decision := r.decision
        nonce := r.requestId
        now := now
        runId := r.runId
        subject := ⟨.modelRequest, r.requestId, r.requestDigest cfg⟩ }
  | .resumePreparedModelInvocation request decision now .. =>
    (db.tables.modelOperations.get? request.metadata.id).map fun operation =>
      { decision := decision
        nonce := resumeNonce cfg request.metadata.id
          (cfg.recordDigest (.policyDecision decision))
        now := now
        runId := operation.runId
        subject := ⟨.modelRequest, request.metadata.id,
          cfg.recordDigest (.modelRequest request)⟩ }
  | .completeModelInvocation requestId r _ now .. =>
    (db.tables.modelOperations.get? requestId).map fun operation =>
      { decision := r.finalizationDecision
        nonce := finalizeNonce cfg requestId (r.decisionDigest cfg)
        now := now
        runId := operation.runId
        subject := ⟨.modelRequest, requestId, operation.requestDigest⟩ }
  | _ => none

namespace Presented

def digest (cfg : StoreConfig) (p : Presented) : String :=
  cfg.recordDigest (.policyDecision p.decision)

def expiry (cfg : StoreConfig) (db : Db) (p : Presented) : ℤ :=
  (db.book.decisions.get? p.decision.metadata.id).elim
    (cfg.epochUs p.decision.expiresAt.instant) (·.expiresAtEpochUs)

/-- Why a decision cannot be used: it is about something else, its id is taken by
another decision, it has expired, or it was consumed for something else. -/
inductive Refused (cfg : StoreConfig) (db : Db) (p : Presented) : Prop
  | mismatched (h : ¬ (p.decision.effect = .allow ∧
      p.decision.metadata.runId = p.runId ∧ p.decision.subject = p.subject))
  | rebound (row : DecisionRow)
      (there : db.book.decisions.get? p.decision.metadata.id = some row)
      (h : row.decisionDigest ≠ p.digest cfg)
  | expired (h : p.expiry cfg db ≤ cfg.instantEpochUs p.now)
  | consumed (row : DecisionRow)
      (there : db.book.decisions.get? p.decision.metadata.id = some row)
      (spent : row.consumedAt.isSome = true)
      (h : row.consumedNonce ≠ some p.nonce)

end Presented

section Refusals

variable {cfg : StoreConfig} {db db' : Db}

theorem issueDecision_row {decision : PolicyDecision} {tx : String}
    (h : db.issueDecision cfg decision tx = .ok db') :
    ∃ row, db'.book.decisions.get? decision.metadata.id = some row ∧
      (db.book.decisions.get? decision.metadata.id = some row ∨
        (db.book.decisions.get? decision.metadata.id = none ∧
          row.expiresAtEpochUs = cfg.epochUs decision.expiresAt.instant)) := by
  obtain ⟨-, inserted, db₁, -, hfound, rfl⟩ := issueDecision_ok h
  have hdecisions : (if inserted then
      db₁.auditRecord cfg tx (.policyDecision decision) .issued
        else db₁).book.decisions = db₁.book.decisions := by
    cases inserted <;> rfl
  have hbefore : (if inserted then db.withRecord cfg (.policyDecision decision)
      else db).book.decisions = db.book.decisions := by
    cases inserted <;> rfl
  rw [hdecisions]
  cases hfound with
  | there row hrow =>
    rw [hbefore] at hrow
    exact ⟨row, by rw [hbefore]; exact hrow, .inl hrow⟩
  | free hfree expiry hexpiry =>
    have hself : ((if inserted then db.withRecord cfg (.policyDecision decision)
        else db).withDecision cfg decision expiry).book.decisions.get?
          decision.metadata.id = some _ :=
      (Table.get?_insert hfree _).trans (if_pos rfl)
    rw [hbefore] at hfree
    refine ⟨_, hself, .inr ⟨hfree, ?_⟩⟩
    rw [parse_eq_ok.mp hexpiry]
    rfl

theorem consumeDecision_live {decision : PolicyDecision} {row : DecisionRow}
    {subject nonce tx : String} {now : Instant}
    (hrow : db.book.decisions.get? decision.metadata.id = some row)
    (h : db.consumeDecision cfg decision subject nonce tx now = .ok db') :
    cfg.instantEpochUs now < row.expiresAtEpochUs := by
  obtain ⟨row', hrow', h⟩ := bind_eq_ok.mp h
  obtain ⟨hchecks, -⟩ := require_bind_eq_ok.mp h
  cases hrow.symm.trans (expect_eq_ok.mp hrow')
  simpa using (hchecks _ (List.mem_cons_of_mem _ List.mem_cons_self))

/-- Where a decision is issued and consumed under the nonce of its use, nothing
speaks against it. -/
theorem not_refused {p : Presented} {db₁ db₂ db₃ : Db} {subject tx : String}
    (hdecisions : db₁.book.decisions = db.book.decisions)
    (hmatched : p.decision.effect = .allow ∧ p.decision.metadata.runId = p.runId ∧
      p.decision.subject = p.subject)
    (issued : db₁.issueDecision cfg p.decision tx = .ok db₂)
    (consumed : db₂.consumeDecision cfg p.decision subject p.nonce tx p.now =
      .ok db₃) : ¬ p.Refused cfg db := by
  obtain ⟨row, hrow, hbefore⟩ := issueDecision_row issued
  rw [hdecisions] at hbefore
  have hlive := consumeDecision_live hrow consumed
  obtain ⟨row', hrow', hdigest, hconsumed⟩ := consumeDecision_ok consumed
  cases hrow.symm.trans hrow'
  rintro (h | ⟨old, there, h⟩ | h | ⟨old, there, spent, h⟩)
  · exact h hmatched
  · rcases hbefore with hold | ⟨hnone, -⟩
    · cases hold.symm.trans there
      exact h hdigest
    · rw [hnone] at there
      cases there
  · refine absurd hlive (not_lt.mpr (le_trans (le_of_eq ?_) h))
    rcases hbefore with hold | ⟨hnone, hexpiry⟩
    · rw [Presented.expiry, hold]
      rfl
    · rw [Presented.expiry, hnone, hexpiry]
      rfl
  · rcases hbefore with hold | ⟨hnone, -⟩
    · cases hold.symm.trans there
      cases hconsumed with
      | again existing hnonce hrun hsubject hspent => exact h hspent
      | first hfree hopen => simp [hopen] at spent
    · rw [hnone] at there
      cases there

theorem recordIfNew_decisions {tx : String} {r : Record}
    (h : db.recordIfNew cfg tx r = .ok db') :
    db'.book.decisions = db.book.decisions := by
  obtain ⟨-, -, inserted, -, rfl⟩ := recordIfNew_ok h
  cases inserted <;> rfl

/-- **Refused calls change nothing.**  A prepare, resume or finalize whose decision
is already consumed, expired or mismatched leaves the store as it was. -/
theorem refused_unchanged {call : Call} {p : Presented}
    (hcall : call.presented? cfg db = some p) (hrefused : p.Refused cfg db) :
    Db.call cfg db call = db := by
  rcases call_cases cfg db call with hsame | ⟨answer, h⟩
  · exact hsame
  revert h
  generalize Db.call cfg db call = db'
  intro h
  cases call with
  | prepareRepositoryRead r ownerId leaseSeconds now policyCap brokerCap runtimeCap tx
      token =>
    cases hcall
    rcases prepareRepositoryRead_ok h with hsame | hopened
    · exact hsame
    cases hopened with
    | intro entry lease run policyCap runtimeCap db₁ db₂ db₃ db₄ db₅ db₆ checked known
        active running fresh issued consumed =>
      obtain ⟨hrun, hallows, hsubject⟩ := readCheck_authorizes checked
      exact absurd hrefused
        (not_refused rfl ⟨hallows, hrun, hsubject⟩ issued consumed)
  | prepareModelInvocation r proof key cost now policyCap runtimeCap adapterCap tx =>
    cases hcall
    rcases prepareModelInvocation_ok h with ⟨hsame, -⟩ | ⟨hopened, -⟩
    · exact hsame
    cases hopened with
    | intro proof validity run budget db₁ db₂ db₃ db₄ db₅ db₆ checked valid fresh
        known running active budgeted room issued consumed =>
      obtain ⟨hrun, hallows, hsubject⟩ := invocationCheck_authorizes checked
      exact absurd hrefused
        (not_refused rfl ⟨hallows, hrun, hsubject⟩ issued consumed)
  | resumePreparedModelInvocation request decision now policyCap adapterCap tx =>
    rcases resumePreparedModelInvocation_ok h with ⟨hsame, -⟩ | hresumed
    · exact hsame
    cases hresumed with
    | intro operation row db₁ db₂ there prepared sameRequest sameRun allows subject
        live issued consumed =>
      rw [Call.presented?, there] at hcall
      cases hcall
      exact absurd hrefused
        (not_refused rfl ⟨allows, sameRun, subject⟩ issued consumed)
  | completeModelInvocation requestId r proof now cap tx =>
    rcases completeModelInvocation_ok h with ⟨hsame, -⟩ | hcommitted
    · exact hsame
    cases hcommitted with
    | intro operation row reservation cap db₁ db₂ db₃ db₄ db₅ db₆ there started active
        authorized reserved unsettled bytes resultRecorded artifactRecorded issued
        consumed =>
      rw [Call.presented?, there] at hcall
      cases hcall
      simp only [InvocationResult.authorized, Bool.and_eq_true,
        decide_eq_true_eq] at authorized
      have hdecisions := (recordIfNew_decisions artifactRecorded).trans
        (recordIfNew_decisions resultRecorded)
      exact absurd hrefused (not_refused hdecisions
        ⟨authorized.1.2, authorized.1.1, authorized.2⟩ issued consumed)
  | _ => cases hcall

end Refusals

/-! ## The main result -/

/-- **Authorization is single-use.**  After every sequence of calls: a decision was
consumed at most once, and its row never changes again; the nonces are, one to one,
those of the consumed decisions; every use of a decision by a read or a model
invocation rests on an allowing decision that was consumed under the nonce of this
use, and no decision has two uses; and a call that raises, or whose decision is
already consumed, expired or mismatched, leaves every table as it was. -/
theorem decisions_single_use (cfg : StoreConfig) (keyId : String)
    (calls : List Call) (hapart : DigestsApart cfg calls) :
    let db := storeAfter cfg keyId calls
    (∀ id, db.book.consumptions id ≤ 1) ∧
    (∀ id row, db.book.decisions.get? id = some row →
      (db.book.consumptions id = 1 ↔ row.consumedAt.isSome = true) ∧
      (row.consumedAt.isSome = true ↔ row.consumedNonce.isSome = true)) ∧
    (∀ more id row, db.book.decisions.get? id = some row →
      row.consumedAt.isSome = true →
      (storeAfter cfg keyId (calls ++ more)).book.decisions.get? id = some row) ∧
    (∀ id row nonce, db.book.decisions.get? id = some row →
      row.consumedNonce = some nonce →
      (db.book.nonces.get? nonce).isSome = true) ∧
    (∀ nonce, (db.book.nonces.get? nonce).isSome = true →
      ∃! id, ∃ row, db.book.decisions.get? id = some row ∧
        row.consumedNonce = some nonce) ∧
    (∀ use digest, db.tables.usedDecision use = some digest →
      Backed cfg (· ∈ calls.filterMap Call.decision?) db.book use digest) ∧
    (∀ use use' digest, db.tables.usedDecision use = some digest →
      db.tables.usedDecision use' = some digest → use = use') ∧
    (∀ call err, Call.exec cfg db call = .error err → Db.call cfg db call = db) ∧
    (∀ call p, Call.presented? cfg db call = some p → p.Refused cfg db →
      Db.call cfg db call = db) := by
  intro db
  have hspending := @spending_storeAfter cfg keyId calls
  have hreg := hspending.register
  refine ⟨fun id => ?_, fun id row hrow => ⟨?_, hreg.marked id row hrow⟩,
    fun more id row => consumed_stays keyId calls more, hreg.nonce, fun nonce hnonce => ?_,
    hspending.backed, fun use use' digest hused hused' => ?_,
    fun call err => call_of_error cfg, fun call p => refused_unchanged⟩
  · rw [hreg.once]
    cases db.book.decisions.get? id with
    | none => exact Nat.zero_le 1
    | some row =>
      rw [Option.elim_some]
      split <;> decide
  · rw [hreg.once, hrow, Option.elim_some]
    split <;> simp_all
  · obtain ⟨id, row, hrow, hconsumed⟩ := hreg.decision nonce hnonce
    refine ⟨id, ⟨row, hrow, hconsumed⟩, ?_⟩
    rintro id' ⟨row', hrow', hconsumed'⟩
    exact hreg.unique id' id row' row nonce hrow' hrow hconsumed' hconsumed
  · exact backed_unique hapart (hspending.backed use digest hused)
      (hspending.backed use' digest hused')

theorem decisions_single_use_sample_run :
    DigestsApart sampleConfig sampleCalls ∧ ∀ use use' digest,
        (storeAfter sampleConfig "key" sampleCalls).tables.usedDecision use = some digest →
        (storeAfter sampleConfig "key" sampleCalls).tables.usedDecision use' =
          some digest → use = use' := by
  have hapart : DigestsApart sampleConfig sampleCalls := by
    constructor <;> decide
  exact ⟨hapart, (decisions_single_use sampleConfig "key" sampleCalls
    hapart).2.2.2.2.2.2.1⟩

end Ecosystem.Store
