import Ecosystem.Lib.HashChain
import Ecosystem.Teams.Authentication

/-!
# What stands in the way of `claim_next`

`claim_next` tries the pending tasks in order and goes on behind three kinds of refusal.
Every other refusal of a task ends the call (`Blocks`).  The state is verified before the
first try, and each try reads the clock anew; `Steady` says that no reading is refused.
-/

namespace Ecosystem.Teams

open Ecosystem.Lib

section Tries

variable {W E : Type} (prim : Primitives W E) (gates : Gates W E) (db : TeamDb)
  (runId : String) (worker : W) (now leaseSeconds : ℤ) (token : String)

def Session.atTry (ses : Session) (clock : ℕ → ℤ) : ℕ → Session
  | 0 => ses
  | k + 1 => { ses with lastObserved := clock k }

def tryAt (ses : Session) (clock : ℕ → ℤ) (k : ℕ) (taskId : String) :
    Except TeamError LeaseClaim :=
  (claimTask prim gates (ses.atTry clock k) db runId taskId worker now (clock k)
    leaseSeconds token).answer

def pendingIds (t : TeamTables) : List String :=
  ((t.tasks.select fun k row => k.1 = runId && row.status = .pending).map
    (·.1.2)).insertionSort (· ≤ ·)

variable {prim gates db runId worker now leaseSeconds token}

variable {t : TeamTables} {taskId : String} {ses : Session} {clock : ℤ}
  {claim : LeaseClaim} {us : ℤ}

theorem mem_pendingIds :
    taskId ∈ pendingIds runId t ↔
      ∃ row, t.tasks.get? (runId, taskId) = some row ∧ row.status = .pending := by
  rw [pendingIds, List.mem_insertionSort, List.mem_map]
  constructor
  · rintro ⟨⟨⟨r, id⟩, row⟩, hmem, rfl⟩
    obtain ⟨hentry, hmatch⟩ := List.mem_filter.mp hmem
    simp only [Bool.and_eq_true, decide_eq_true_eq] at hmatch
    obtain ⟨rfl, hpending⟩ := hmatch
    exact ⟨row, Table.mem_entries.mp hentry, hpending⟩
  · rintro ⟨row, hrow, hpending⟩
    refine ⟨((runId, taskId), row), List.mem_filter.mpr ⟨Table.mem_entries.mpr hrow, ?_⟩,
      rfl⟩
    simp [hpending]

/-! ## One try -/

structure Admits (prim : Primitives W E) (ses : Session) (db : TeamDb)
    (now leaseSeconds clock : ℤ) : Prop where
  rollback : ses.lastObserved ≤ clock
  ahead : now ≤ clock
  lease : 1 ≤ leaseSeconds ∧ leaseSeconds ≤ 3600
  verified : verifyState prim { ses with lastObserved := clock } db = .ok ()

/-- What `claim_task` raises before it looks at its task is not skipped. -/
theorem verifyState_not_skips {err : TeamError}
    (h : verifyState prim ses db = .error err) : err.skips = false := by
  unfold verifyState raised at h
  split at h
  · cases h
    decide
  · split at h
    · cases h
      decide
    · dsimp only at h
      split at h
      · cases h
        decide
      · split at h
        · cases h
          decide
        · cases h

theorem claimTask_admitted (h : Admits prim ses db now leaseSeconds clock) :
    (claimTask prim gates ses db runId taskId worker now clock leaseSeconds token).answer =
      (claimBody prim gates runId taskId worker clock leaseSeconds token
        db.tables).map Prod.fst := by
  have hobserved : observedTime ses now clock = .ok clock := by
    rw [observedTime, if_neg (not_lt.mpr h.rollback), if_neg (not_lt.mpr h.ahead)]
  rw [claimTask, timed, hobserved]
  dsimp only
  rw [if_neg (not_not.mpr h.lease), transaction, h.verified]
  dsimp only
  cases claimBody prim gates runId taskId worker clock leaseSeconds token
      db.tables with
  | error err => rfl
  | ok result =>
    obtain ⟨claim, tables⟩ := result
    cases tables <;> rfl

theorem claimBody_of_claimTask (h : Admits prim ses db now leaseSeconds clock)
    (hclaim : (claimTask prim gates ses db runId taskId worker now clock leaseSeconds
      token).answer = .ok claim) :
    ∃ tables, claimBody prim gates runId taskId worker clock leaseSeconds token
      db.tables = .ok (claim, tables) := by
  rw [claimTask_admitted h] at hclaim
  cases hbody : claimBody prim gates runId taskId worker clock leaseSeconds token
      db.tables with
  | error err =>
    rw [hbody] at hclaim
    cases hclaim
  | ok result =>
    rw [hbody] at hclaim
    cases hclaim
    exact ⟨result.2, rfl⟩

theorem claimTask_not_admitted (h : ¬ Admits prim ses db now leaseSeconds clock) :
    ∃ err, (claimTask prim gates ses db runId taskId worker now clock leaseSeconds
      token).answer = .error err ∧ err.skips = false := by
  rw [claimTask, timed, observedTime]
  split
  · next err hclock =>
      refine ⟨err, rfl, ?_⟩
      split at hclock
      · cases hclock
        decide
      · split at hclock
        · cases hclock
          decide
        · cases hclock
  · next observed hclock =>
      split at hclock
      · cases hclock
      next hrollback =>
      split at hclock
      · cases hclock
      next hahead =>
      cases hclock
      by_cases hlease : 1 ≤ leaseSeconds ∧ leaseSeconds ≤ 3600
      · rw [if_neg (not_not.mpr hlease), transaction]
        cases hverify : verifyState prim { ses with lastObserved := clock }
            db with
        | error err => exact ⟨err, rfl, verifyState_not_skips hverify⟩
        | ok _ =>
          exact absurd ⟨not_lt.mp hrollback, not_lt.mp hahead, hlease, hverify⟩ h
      · rw [if_pos hlease]
        exact ⟨_, rfl, by decide⟩

theorem claimTask_error {err : TeamError}
    (h : (claimTask prim gates ses db runId taskId worker now clock leaseSeconds
      token).answer = .error err) (hskips : err.skips = true) :
    (claimTask prim gates ses db runId taskId worker now clock leaseSeconds
        token).session = { ses with lastObserved := clock } ∧
      (claimTask prim gates ses db runId taskId worker now clock leaseSeconds
        token).db = db := by
  have hadmits : Admits prim ses db now leaseSeconds clock := by
    by_contra hnot
    have hrefused : ∃ err, (claimTask prim gates ses db runId taskId worker now clock
        leaseSeconds token).answer = .error err ∧ err.skips = false :=
      claimTask_not_admitted hnot
    obtain ⟨err', herr', hends⟩ := hrefused
    rw [h] at herr'
    cases herr'
    rw [hskips] at hends
    cases hends
  have hbody : (claimTask prim gates ses db runId taskId worker now clock leaseSeconds
      token).answer = (claimBody prim gates runId taskId worker clock leaseSeconds token
        db.tables).map (·.1) :=
    claimTask_admitted hadmits
  rw [h] at hbody
  have hobserved : observedTime ses now clock = .ok clock := by
    rw [observedTime, if_neg (not_lt.mpr hadmits.rollback),
      if_neg (not_lt.mpr hadmits.ahead)]
  rw [claimTask, timed, hobserved]
  dsimp only
  rw [if_neg (not_not.mpr hadmits.lease), transaction, hadmits.verified]
  dsimp only
  cases hresult : claimBody prim gates runId taskId worker clock leaseSeconds token
      db.tables with
  | error err => exact ⟨rfl, rfl⟩
  | ok result =>
    rw [hresult] at hbody
    cases hbody

/-! ## The loop -/

/-- **The loop of `claim_next`** returns at the first try that succeeds, if every try
before it was skipped. -/
theorem claimFirst_ok_iff {clock : ℕ → ℤ} (taskIds : List String) {last : TeamError} :
    (claimFirst prim gates ses db runId worker now clock leaseSeconds token last
        taskIds).answer = .ok claim ↔
      ∃ before taskId after, taskIds = before ++ taskId :: after ∧
        tryAt prim gates db runId worker now leaseSeconds token ses clock
          before.length taskId = .ok claim ∧
        ForallSplit (fun earlier other =>
          ∃ err, tryAt prim gates db runId worker now leaseSeconds token ses clock
            earlier.length other = .error err ∧ err.skips = true) before := by
  induction taskIds generalizing ses clock last with
  | nil =>
    constructor
    · intro h
      cases h
    · rintro ⟨before, taskId, after, hsplit, -⟩
      simp at hsplit
  | cons taskId taskIds ih =>
    rw [claimFirst, exists_split_cons]
    cases htry : (claimTask prim gates ses db runId taskId worker now (clock 0)
        leaseSeconds token).answer with
    | ok first =>
      dsimp only
      rw [htry]
      constructor
      · intro h
        exact .inl ⟨htry.trans h, forallSplit_nil⟩
      · rintro (⟨hok, -⟩ | ⟨before, id, after, rfl, hok, hbefore⟩)
        · exact htry.symm.trans hok
        · obtain ⟨err, herr, -⟩ := (forallSplit_cons.mp hbefore).1
          cases htry.symm.trans herr
    | error err =>
      dsimp only
      by_cases hskips : err.skips = true
      · obtain ⟨hsession, hdb⟩ := claimTask_error htry hskips
        rw [if_pos hskips, hsession, hdb, ih]
        have hshift : ∀ k, ({ ses with lastObserved := clock 0 } : Session).atTry
            (fun n => clock (n + 1)) k = ses.atTry clock (k + 1) := by
          intro k
          cases k <;> rfl
        constructor
        · rintro ⟨before, id, after, rfl, hok, hbefore⟩
          refine .inr ⟨before, id, after, rfl, ?_,
            forallSplit_cons.mpr ⟨⟨err, htry, hskips⟩, ?_⟩⟩
          · rw [tryAt, hshift] at hok
            exact hok
          · intro earlier other rest hsplit
            have h := hbefore earlier other rest hsplit
            simp only [tryAt, hshift] at h
            exact h
        · rintro (⟨hok, -⟩ | ⟨before, id, after, rfl, hok, hbefore⟩)
          · cases htry.symm.trans hok
          · refine ⟨before, id, after, rfl, ?_, ?_⟩
            · rw [tryAt, hshift]
              exact hok
            · intro earlier other' rest hrest
              have h := (forallSplit_cons.mp hbefore).2 earlier other' rest hrest
              simp only [tryAt, hshift]
              exact h
      · rw [if_neg hskips, htry]
        constructor
        · intro h
          cases h
        · rintro (⟨hok, -⟩ | ⟨before, id, after, -, -, hbefore⟩)
          · cases htry.symm.trans hok
          · obtain ⟨err', herr', hskips'⟩ := (forallSplit_cons.mp hbefore).1
            cases htry.symm.trans herr'
            exact absurd hskips' hskips

/-! ## What refuses a task for the whole call -/

variable (prim gates db runId worker now leaseSeconds token)

/-- `claim_task` would succeed for the task if it were called at this time. -/
def Claimable (ses : Session) (clock : ℤ) (taskId : String) : Prop :=
  ∃ claim, (claimTask prim gates ses db runId taskId worker now clock leaseSeconds
    token).answer = .ok claim

def overBudget (t : TeamTables) (run : RunRow) (task : TeamTask) : Prop :=
  run.maxTokens < usage t runId TaskRow.tokens + task.budget.maxTokens ∨
    run.maxCost < usage t runId TaskRow.cost + task.budget.maxCostMicrousd

/-- A pending task that ends the call when it is tried: it has expired, or its
dependencies are met and either the guard refuses it with a code of its own or its
budget does not fit. -/
def Blocks (clock : ℤ) (taskId : String) : Prop :=
  ∃ run manifest row, context db.tables runId = .ok (run, manifest) ∧
    db.tables.tasks.get? (runId, taskId) = some row ∧
    (row.document.notAfter.instant ≤ clock ∨
      (dependenciesReady (expireRows db.tables runId (prim.epoch clock))
          row.document = true ∧
        ((∃ err, gates.claimCurrent manifest row.document worker clock = .error err ∧
            err.skips = false) ∨
          ((∃ receipt,
              gates.claimCurrent manifest row.document worker clock = .ok receipt) ∧
            overBudget runId (expireRows db.tables runId (prim.epoch clock)) run
              row.document))))

/-- None of the readings up to a try is refused: the time that was observed last is
not behind the store, the clock goes forward, and each reading is neither behind the
store nor behind the time that the caller asserts. -/
def Steady (ses : Session) (clock : ℕ → ℤ) (k : ℕ) : Prop :=
  db.storeMeta.lastObservedUs ≤ prim.epoch ses.lastObserved ∧
    ∀ j ≤ k, (ses.atTry clock j).lastObserved ≤ clock j ∧ now ≤ clock j ∧
      db.storeMeta.lastObservedUs ≤ prim.epoch (clock j)

variable {prim gates db runId worker now leaseSeconds token}

theorem verifyState_of_verified {clock clock' : ℤ}
    (h : verifyState prim { ses with lastObserved := clock } db = .ok ())
    (hstored : db.storeMeta.lastObservedUs ≤ prim.epoch clock') :
    verifyState prim { ses with lastObserved := clock' } db = .ok () :=
  verifyState_eq_ok.mpr ⟨(verifyState_eq_ok.mp h).1.sameKey ⟨rfl, rfl⟩, hstored⟩

theorem atTry_observed (ses : Session) (clock : ℕ → ℤ) (k : ℕ) (us : ℤ) :
    ({ ses.atTry clock k with lastObserved := us } : Session) =
      { ses with lastObserved := us } := by
  cases k <;> rfl

/-- A claim that succeeds was admitted, and says nothing of the coordinator but
that. -/
theorem answer_of_admits {ses ses' : Session}
    (h : Admits prim ses db now leaseSeconds clock)
    (h' : Admits prim ses' db now leaseSeconds clock) :
    (claimTask prim gates ses db runId taskId worker now clock leaseSeconds token).answer =
      (claimTask prim gates ses' db runId taskId worker now clock leaseSeconds
        token).answer := by
  rw [claimTask_admitted h, claimTask_admitted h']

theorem admits_of_answer {answer : Except TeamError LeaseClaim}
    (h : (claimTask prim gates ses db runId taskId worker now clock leaseSeconds
      token).answer = answer) (hanswer : ∀ err, answer = .error err → err.skips = true) :
    Admits prim ses db now leaseSeconds clock := by
  by_contra hnot
  obtain ⟨err, herr, hends⟩ := claimTask_not_admitted hnot
  rw [herr] at h
  rw [hanswer err h.symm] at hends
  cases hends

theorem Claimable.admits
    (h : Claimable prim gates db runId worker now leaseSeconds token ses clock taskId) :
    Admits prim ses db now leaseSeconds clock := by
  obtain ⟨claim, hclaim⟩ := h
  exact admits_of_answer hclaim (fun err herr => nomatch herr)

theorem Steady.admits {clock : ℕ → ℤ} {k j : ℕ}
    (h : Steady prim db now ses clock k) (hj : j ≤ k)
    (hcall : Admits prim ses db now leaseSeconds us) :
    Admits prim (ses.atTry clock j) db now leaseSeconds (clock j) := by
  obtain ⟨hrollback, hahead, hstored⟩ := h.2 j hj
  refine ⟨hrollback, hahead, hcall.lease, ?_⟩
  rw [atTry_observed]
  exact verifyState_of_verified hcall.verified hstored

theorem get?_expireRows_pending {k : String × String}
    {row : TaskRow} (hrow : t.tasks.get? k = some row) (hpending : row.status = .pending) :
    (expireRows t runId us).tasks.get? k = some row := by
  have hexpire : row.expire us = row := by
    unfold TaskRow.expire
    rw [if_neg (by simp [hpending]), if_neg (by simp [hpending])]
  unfold expireRows TeamTables.updateRun
  rw [Table.get?_update, hrow]
  simp only [Option.map_some, hexpire, ite_self]

theorem context_of_claimBody {observed : ℤ} {tables : Option TeamTables}
    (h : claimBody prim gates runId taskId worker observed leaseSeconds token t =
      .ok (claim, tables)) :
    ∃ run manifest, context t runId = .ok (run, manifest) ∧ run.status = .active ∧
      run.cancellationRequested = false ∧ claim.taskId = taskId := by
  unfold claimBody raised at h
  split at h
  · cases h
  next run manifest hcontext =>
  dsimp only at h
  split at h
  · cases h
  next hopen =>
  simp only [ne_eq, not_or, not_not, Bool.not_eq_true] at hopen
  refine ⟨run, manifest, hcontext, hopen.1, hopen.2, ?_⟩
  split at h
  · cases h
  split at h
  · cases h
  split at h
  · cases h
  split at h
  · cases h
  split at h
  · cases h
  split at h
  · cases h
  cases h
  rfl

/-- **What a try of a pending task answers**: a claim, a refusal that is skipped, or,
exactly for a blocking task, a refusal that is not. -/
theorem claimBody_cases {taskId : String} {clock : ℤ} {run : RunRow}
    {manifest : AgentTeamManifest} {row : TaskRow}
    (hcontext : context db.tables runId = .ok (run, manifest))
    (hactive : run.status = .active) (hopen : run.cancellationRequested = false)
    (hrow : db.tables.tasks.get? (runId, taskId) = some row)
    (hpending : row.status = .pending) :
    ((∃ result, claimBody prim gates runId taskId worker clock leaseSeconds token
          db.tables = .ok result) ∧ ¬ Blocks prim gates db runId worker clock taskId) ∨
      ∃ err, claimBody prim gates runId taskId worker clock leaseSeconds token
          db.tables = .error err ∧
        (err.skips = false ↔ Blocks prim gates db runId worker clock taskId) := by
  have hread (P : RunRow → AgentTeamManifest → TaskRow → Prop) :
      (∃ run' manifest' row', context db.tables runId = .ok (run', manifest') ∧
        db.tables.tasks.get? (runId, taskId) = some row' ∧ P run' manifest' row') ↔
        P run manifest row := by
    constructor
    · rintro ⟨run', manifest', row', hcontext', hrow', h⟩
      rw [hcontext] at hcontext'
      cases hcontext'
      rw [hrow] at hrow'
      cases hrow'
      exact h
    · intro h
      exact ⟨run, manifest, row, hcontext, hrow, h⟩
  unfold Blocks
  rw [hread]
  unfold claimBody
  rw [hcontext]
  dsimp only
  rw [if_neg (by simp [hactive, hopen]), get?_expireRows_pending hrow hpending]
  dsimp only
  rw [if_neg (not_not.mpr hpending)]
  by_cases hexpired : row.document.notAfter.instant ≤ clock
  · rw [if_pos hexpired]
    exact .inr ⟨_, rfl, iff_of_true (by decide) (.inl hexpired)⟩
  · rw [if_neg hexpired]
    cases hready : dependenciesReady (expireRows db.tables runId (prim.epoch clock))
        row.document with
    | false =>
      refine .inr ⟨_, rfl, iff_of_false (by decide) ?_⟩
      rintro (h | ⟨h, -⟩)
      · exact hexpired h
      · cases h
    | true =>
      rw [if_neg (by decide)]
      cases hguard : gates.claimCurrent manifest row.document worker clock with
      | error err =>
        refine .inr ⟨err, rfl, ?_⟩
        constructor
        · intro h
          exact .inr ⟨rfl, .inl ⟨err, rfl, h⟩⟩
        · rintro (h | ⟨-, ⟨err', herr', h⟩ | ⟨⟨receipt, h⟩, -⟩⟩)
          · exact absurd h hexpired
          · cases herr'
            exact h
          · cases h
      | ok receipt =>
        dsimp only
        split
        · next hover =>
            exact .inr ⟨_, rfl, iff_of_true (by decide)
              (.inr ⟨rfl, .inr ⟨⟨receipt, rfl⟩, hover⟩⟩)⟩
        · next hover =>
          refine .inl ⟨⟨_, rfl⟩, ?_⟩
          rintro (h | ⟨-, ⟨err', herr', -⟩ | ⟨-, h⟩⟩)
          · exact hexpired h
          · cases herr'
          · exact hover h

/-! ## `claim_next` -/

theorem Steady.observed_le {clock : ℕ → ℤ} {k j : ℕ}
    (h : Steady prim db now ses clock k) (hj : j ≤ k) : ses.lastObserved ≤ clock j := by
  induction j with
  | zero => exact (h.2 0 hj).1
  | succ j ih => exact (ih (by omega)).trans (h.2 (j + 1) hj).1

/-- Up to a steady try, each try answers what `claim_task` would have answered in
front of the call. -/
theorem Steady.tryAt_eq {clock : ℕ → ℤ} {k j : ℕ}
    (h : Steady prim db now ses clock k) (hj : j ≤ k)
    (hcall : Admits prim ses db now leaseSeconds us) (taskId : String) :
    tryAt prim gates db runId worker now leaseSeconds token ses clock j taskId =
      (claimTask prim gates ses db runId taskId worker now (clock j) leaseSeconds
        token).answer := by
  obtain ⟨-, hahead, hstored⟩ := h.2 j hj
  exact answer_of_admits (h.admits hj hcall) ⟨h.observed_le hj, hahead, hcall.lease,
    verifyState_of_verified hcall.verified hstored⟩

theorem claimNext_ok_iff {clock : ℕ → ℤ} :
    (claimNext prim gates ses db runId worker now clock leaseSeconds
        token).answer = .ok claim ↔
      verifyState prim ses db = .ok () ∧
        ∃ before taskId after, pendingIds runId db.tables = before ++ taskId :: after ∧
          tryAt prim gates db runId worker now leaseSeconds token ses clock
            before.length taskId = .ok claim ∧
          ForallSplit (fun earlier other =>
            ∃ err, tryAt prim gates db runId worker now leaseSeconds token ses clock
              earlier.length other = .error err ∧ err.skips = true) before := by
  unfold claimNext
  cases hverify : verifyState prim ses db with
  | error err =>
    constructor
    · intro h
      cases h
    · rintro ⟨h, -⟩
      cases h
  | ok _ =>
    dsimp only
    rw [← claimFirst_ok_iff]
    constructor
    · intro h
      exact ⟨rfl, h⟩
    · rintro ⟨-, h⟩
      exact h

theorem steady_of_loop {clock : ℕ → ℤ} {before : List String}
    (hverify : verifyState prim ses db = .ok ())
    (htry : tryAt prim gates db runId worker now leaseSeconds token ses clock
      before.length taskId = .ok claim)
    (hskipped : ForallSplit (fun earlier other =>
      ∃ err, tryAt prim gates db runId worker now leaseSeconds token ses clock
        earlier.length other = .error err ∧ err.skips = true) before) :
    Steady prim db now ses clock before.length := by
  refine ⟨(verifyState_eq_ok.mp hverify).2, ?_⟩
  intro j hj
  have hadmits : Admits prim (ses.atTry clock j) db now leaseSeconds (clock j) := by
    rcases Nat.lt_or_eq_of_le hj with hlt | rfl
    · have hsplit : before = before.take j ++ before[j] :: before.drop (j + 1) := by
        rw [← List.drop_eq_getElem_cons hlt, List.take_append_drop]
      obtain ⟨err, herr, hskips⟩ := hskipped _ _ _ hsplit
      rw [List.length_take_of_le hj] at herr
      refine admits_of_answer herr ?_
      rintro _ ⟨⟩
      exact hskips
    · exact admits_of_answer htry (fun err herr => nomatch herr)
  refine ⟨hadmits.rollback, hadmits.ahead, ?_⟩
  exact (verifyState_eq_ok.mp hadmits.verified).2

theorem tryAt_cases {clock : ℕ → ℤ} {k j : ℕ}
    {taskId other : String} (hsteady : Steady prim db now ses clock k) (hj : j ≤ k)
    (hclaimable : Claimable prim gates db runId worker now leaseSeconds token ses us
      taskId) (hpending : other ∈ pendingIds runId db.tables) :
    (Claimable prim gates db runId worker now leaseSeconds token ses (clock j) other ∧
        ¬ Blocks prim gates db runId worker (clock j) other) ∨
      ∃ err, tryAt prim gates db runId worker now leaseSeconds token ses clock j
          other = .error err ∧
        (err.skips = false ↔ Blocks prim gates db runId worker (clock j) other) := by
  have hcall := hclaimable.admits
  have hadmits := hsteady.admits hj hcall
  obtain ⟨claim, hclaim⟩ := hclaimable
  obtain ⟨tables, hbody⟩ := claimBody_of_claimTask hcall hclaim
  obtain ⟨run, manifest, hcontext, hactive, hopen, -⟩ := context_of_claimBody hbody
  obtain ⟨row, hrow, hstatus⟩ := mem_pendingIds.mp hpending
  have hcases := @claimBody_cases W E prim gates db runId worker leaseSeconds token
    other (clock j) run manifest row hcontext hactive hopen hrow hstatus
  have htry : tryAt prim gates db runId worker now leaseSeconds token ses clock j
      other = (claimBody prim gates runId other worker (clock j) leaseSeconds token
        db.tables).map Prod.fst := claimTask_admitted hadmits
  rcases hcases with ⟨⟨result', hok⟩, hfree⟩ | ⟨err, herr, hblocks⟩
  · refine .inl ⟨⟨result'.1, ?_⟩, hfree⟩
    rw [← hsteady.tryAt_eq hj hcall, htry, hok]
    rfl
  · refine .inr ⟨err, ?_, hblocks⟩
    rw [htry, herr]
    rfl

variable (prim gates db runId worker now leaseSeconds token)

/-- **`claim_next` claims a task whenever one can be claimed, exactly when** no reading
up to the first such task is refused and no pending task in front of it blocks. -/
theorem claim_next_unblocked_iff (ses : Session) (clock : ℕ → ℤ) :
    ((∃ before taskId after, pendingIds runId db.tables = before ++ taskId :: after ∧
          Claimable prim gates db runId worker now leaseSeconds token ses
            (clock before.length) taskId) →
      ∃ claim before taskId after, pendingIds runId db.tables = before ++ taskId :: after ∧
          Claimable prim gates db runId worker now leaseSeconds token ses
            (clock before.length) taskId ∧
          claim.taskId = taskId ∧
          (claimNext prim gates ses db runId worker now clock leaseSeconds
            token).answer = .ok claim) ↔
      ∀ before taskId after, pendingIds runId db.tables = before ++ taskId :: after →
        Claimable prim gates db runId worker now leaseSeconds token ses
          (clock before.length) taskId →
        ForallSplit (fun earlier other =>
          ¬ Claimable prim gates db runId worker now leaseSeconds token ses
            (clock earlier.length) other) before →
        Steady prim db now ses clock before.length ∧
          ForallSplit (fun earlier other =>
            ¬ Blocks prim gates db runId worker (clock earlier.length) other)
            before := by
  constructor
  · intro h before taskId after hsplit hclaimable hfirst
    obtain ⟨claim, -, -, -, -, -, -, hok⟩ := h ⟨before, taskId, after, hsplit, hclaimable⟩
    obtain ⟨hverify, front, id, rest, hloop, htry, hskipped⟩ := claimNext_ok_iff.mp hok
    have hsteady := steady_of_loop hverify htry hskipped
    rw [hsplit] at hloop
    have hplace : front = before := by
      rcases List.append_eq_append_iff.mp hloop with ⟨gap, rfl, hgap⟩ |
        ⟨gap, rfl, hgap⟩
      · rcases gap with _ | ⟨other, gap⟩
        · exact List.append_nil _
        · -- the first claimable task would have been skipped
          simp only [List.cons_append, List.cons.injEq] at hgap
          obtain ⟨rfl, -⟩ := hgap
          obtain ⟨err, herr, -⟩ := hskipped before taskId gap rfl
          have hj : before.length ≤ (before ++ taskId :: gap).length := by simp
          rw [hsteady.tryAt_eq hj hclaimable.admits] at herr
          obtain ⟨claim', hclaim'⟩ := hclaimable
          rw [hclaim'] at herr
          cases herr
      · rcases gap with _ | ⟨other, gap⟩
        · exact (List.append_nil _).symm
        · -- a task in front of the first claimable one would have been claimed
          simp only [List.cons_append, List.cons.injEq] at hgap
          obtain ⟨rfl, -⟩ := hgap
          rw [hsteady.tryAt_eq le_rfl hclaimable.admits] at htry
          exact absurd ⟨claim, htry⟩ (hfirst front id gap rfl)
    subst hplace
    refine ⟨hsteady, ?_⟩
    intro earlier other later hearlier hblocks
    have hmem : other ∈ pendingIds runId db.tables := by
      rw [hsplit, hearlier]
      simp
    have hj : earlier.length ≤ front.length := by
      rw [hearlier]
      simp
    obtain ⟨err, herr, hskips⟩ := hskipped earlier other later hearlier
    rcases tryAt_cases hsteady hj hclaimable hmem with ⟨-, hfree⟩ | ⟨err', herr', hends⟩
    · exact hfree hblocks
    · rw [herr'] at herr
      cases herr
      rw [hends.mpr hblocks] at hskips
      cases hskips
  · intro h hexists
    obtain ⟨before, taskId, after, hsplit, hclaimable, hfirst⟩ :=
      exists_first_split hexists
    obtain ⟨hsteady, hfree⟩ := h before taskId after hsplit hclaimable hfirst
    have hcall := hclaimable.admits
    obtain ⟨claim, hclaim⟩ := hclaimable
    refine ⟨claim, before, taskId, after, hsplit, ⟨claim, hclaim⟩, ?_, ?_⟩
    · obtain ⟨tables, hbody⟩ := claimBody_of_claimTask hcall hclaim
      obtain ⟨-, -, -, -, -, htask⟩ := context_of_claimBody hbody
      exact htask
    · refine claimNext_ok_iff.mpr ⟨verifyState_eq_ok.mpr ⟨?_, hsteady.1⟩, before, taskId,
        after, hsplit, ?_, ?_⟩
      · exact (verifyState_eq_ok.mp hcall.verified).1.sameKey ⟨rfl, rfl⟩
      · rw [hsteady.tryAt_eq le_rfl hcall]
        exact hclaim
      · intro earlier other later hearlier
        have hmem : other ∈ pendingIds runId db.tables := by
          rw [hsplit, hearlier]
          simp
        have hj : earlier.length ≤ before.length := by
          rw [hearlier]
          simp
        rcases tryAt_cases hsteady hj ⟨claim, hclaim⟩ hmem with ⟨hother, -⟩ |
          ⟨err, herr, hends⟩
        · exact absurd hother (hfirst earlier other later hearlier)
        · refine ⟨err, herr, ?_⟩
          by_contra hskips
          rw [Bool.not_eq_true] at hskips
          exact hfree earlier other later hearlier (hends.mp hskips)

end Tries

/-! ## An expired task in front of another one -/

/-- Digests that tell the two tasks apart. -/
def queuePrimitives : Primitives Unit Unit :=
  { samplePrimitives with
    semanticDigest := fun record =>
      match record with
      | .task task =>
        if task.id = "task-2" then String.ofList (List.replicate 64 'b')
        else sampleDigest
      | _ => sampleDigest }

def queueManifest : AgentTeamManifest :=
  { sampleManifest with maxTasks := 2, maxTotalTokens := 20, maxCostMicrousd := 20 }

/-- The second task may be done for longer than the first. -/
def queueTask : TeamTask :=
  { sampleTask with
    id := "task-2"
    recordDigest := String.ofList (List.replicate 64 'b')
    notAfter := ⟨"", 90⟩ }

def queueSystem : TeamSystem Unit :=
  (initialSystem queuePrimitives sampleSession "store"
    fun _ => sampleSession).after queuePrimitives
      [.createRun () openGates (.manifest queueManifest) "run-1"
        [.task sampleTask, .task queueTask] 1 1]

/-- **The first task has expired and the second could be claimed**, but the call ends
at the first. -/
theorem expired_task_blocks_claim_next :
    ("task-2" ∈ pendingIds "run-1" queueSystem.db.tables ∧
      Claimable queuePrimitives openGates queueSystem.db "run-1" () 60 60 "token-1"
        (queueSystem.sessions ()) 60 "task-2") ∧
      (claimNext queuePrimitives openGates (queueSystem.sessions ()) queueSystem.db
          "run-1" () 60 (fun _ => 60) 60 "token-1").answer =
        .error (.runtime "ECO_TEAM_TASK_EXPIRED") := by
  have hrun : "task-2" ∈ pendingIds "run-1" queueSystem.db.tables ∧
      ((claimTask queuePrimitives openGates (queueSystem.sessions ()) queueSystem.db
        "run-1" "task-2" () 60 60 60 "token-1").answer.toOption).isSome = true ∧
      (claimNext queuePrimitives openGates (queueSystem.sessions ()) queueSystem.db
          "run-1" () 60 (fun _ => 60) 60 "token-1").answer =
        .error (.runtime "ECO_TEAM_TASK_EXPIRED") := by
    generalize hsystem : queueSystem = s
    delta queueSystem TeamSystem.after TeamSystem.step createRun
      admitManifest admitTasks checkTask TeamRecord.validate TeamRecord.schemaOk
      AgentTeamManifest.schemaOk TeamRole.schemaOk TeamTask.schemaOk TaskBudget.schemaOk
      Binding.schemaOk at hsystem
    rw [matchesId_eq, matchesDigest_eq] at hsystem
    subst hsystem
    decide +kernel
  refine ⟨⟨hrun.1, ?_⟩, hrun.2.2⟩
  cases hanswer : (claimTask queuePrimitives openGates (queueSystem.sessions ())
      queueSystem.db "run-1" "task-2" () 60 60 60 "token-1").answer with
  | error err =>
    rw [hanswer] at hrun
    cases hrun.2.1
  | ok claim => exact ⟨claim, hanswer⟩

end Ecosystem.Teams
