import Ecosystem.Teams.Fencing

/-!
# The authenticated state of a coordinator

`Sealed` says that the digest, the MAC and the chain of events of a database belong to its
tables under a key.  A transaction verifies that before its body and seals behind it.
`complete_effect` past the lease of its claim runs `expire_leases` in front.
-/

namespace Ecosystem.Teams

open Ecosystem.Lib Relation

section Seals

variable {W E : Type} (prim : Primitives W E)

/-! ## Sealed databases -/

/-- The authentication of the database belongs to its tables under the key of a
coordinator. -/
structure Sealed (ses : Session) (db : TeamDb) : Prop where
  keyId : db.storeMeta.keyId = ses.keyId
  schema : db.storeMeta.schemaVersion = 1
  digest : db.auth.stateDigest = prim.stateDigest db.tables db.storeMeta
  mac : db.auth.mac = prim.authMac ses.hmacKey ses.keyId db.auth.revision
    db.auth.stateDigest
  length : db.events.length = db.auth.revision + 1
  chain : chainOk prim ses 0 zeroDigest db.events = true
  head : db.events.getLast?.map (·.stateDigest) = some db.auth.stateDigest

def Session.SameKey (ses ses' : Session) : Prop :=
  ses'.hmacKey = ses.hmacKey ∧ ses'.keyId = ses.keyId

variable {prim}

theorem Session.SameKey.trans {a b c : Session} (h : a.SameKey b)
    (h' : b.SameKey c) : a.SameKey c :=
  ⟨h'.1.trans h.1, h'.2.trans h.2⟩

/-- The verifier accepts exactly the sealed databases whose last observed time
is not ahead of the coordinator. -/
theorem verifyState_eq_ok {ses : Session} {db : TeamDb} :
    verifyState prim ses db = .ok () ↔ Sealed prim ses db ∧
        db.storeMeta.lastObservedUs ≤ prim.epoch ses.lastObserved := by
  unfold verifyState
  constructor
  · intro h
    split at h
    · cases h
    next hmeta =>
    rw [not_or, not_not, not_not] at hmeta
    split at h
    · cases h
    next hclock =>
    dsimp only at h
    split at h
    · cases h
    next hauth =>
    rw [not_or, not_not, not_not] at hauth
    split at h
    · cases h
    next hchain =>
    rw [Bool.not_eq_true, Bool.not_eq_false', verifyEventChain,
      Bool.and_eq_true, Bool.and_eq_true, decide_eq_true_eq,
      decide_eq_true_eq] at hchain
    refine ⟨⟨hmeta.1, hmeta.2, hauth.1.symm, ?_, hchain.1.1,
      hchain.1.2, ?_⟩, not_lt.mp hclock⟩
    · rw [← hauth.1]
      exact hauth.2
    · rw [← hauth.1]
      exact hchain.2
  · rintro ⟨hs, hclock⟩
    have hmac := hs.mac
    have hhead := hs.head
    rw [hs.digest] at hmac hhead
    rw [if_neg (by rw [not_or, not_not, not_not]; exact ⟨hs.keyId, hs.schema⟩),
      if_neg (not_lt.mpr hclock)]
    dsimp only
    rw [if_neg (by rw [not_or, not_not, not_not]; exact ⟨hs.digest.symm, hmac⟩), if_neg]
    rw [Bool.not_eq_true, Bool.not_eq_false', verifyEventChain, Bool.and_eq_true,
      Bool.and_eq_true, decide_eq_true_eq, decide_eq_true_eq]
    exact ⟨⟨hs.length, hs.chain⟩, hhead⟩

theorem chainOk_sameKey {ses ses' : Session} (hkey : ses.SameKey ses')
    (events : List StateEvent) (revision : ℕ) (previous : String) :
    chainOk prim ses' revision previous events =
      chainOk prim ses revision previous events := by
  induction events generalizing revision previous with
  | nil => rfl
  | cons event events ih =>
    simp only [chainOk, hkey.1, hkey.2, ih]

theorem Sealed.sameKey {ses ses' : Session} {db : TeamDb}
    (hs : Sealed prim ses db) (hkey : ses.SameKey ses') :
    Sealed prim ses' db where
  keyId := by rw [hkey.2]; exact hs.keyId
  schema := hs.schema
  digest := hs.digest
  mac := by rw [hkey.1, hkey.2]; exact hs.mac
  length := hs.length
  chain := by rw [chainOk_sameKey hkey]; exact hs.chain
  head := hs.head

theorem Sealed.key_eq {ses ses' : Session} {db : TeamDb}
    (hmac : ∀ key key' keyId revision digest, prim.authMac key keyId revision digest =
        prim.authMac key' keyId revision digest → key = key')
    (hs : Sealed prim ses db) (hs' : Sealed prim ses' db) : ses.SameKey ses' := by
  have hid : ses'.keyId = ses.keyId := hs'.keyId.symm.trans hs.keyId
  refine ⟨hmac _ _ ses.keyId db.auth.revision db.auth.stateDigest ?_, hid⟩
  rw [← hs.mac, ← hid]
  exact hs'.mac.symm

/-! ## Sealing -/

theorem chainOk_concat {ses : Session} {events : List StateEvent}
    {event : StateEvent} {revision : ℕ} {previous : String}
    (hchain : chainOk prim ses revision previous events = true)
    (hevent : chainOk prim ses (revision + events.length)
      ((events.getLast?.map (·.eventDigest)).getD previous) [event] = true) :
    chainOk prim ses revision previous (events ++ [event]) = true := by
  induction events generalizing revision previous with
  | nil => exact hevent
  | cons first events ih =>
    rw [List.cons_append, chainOk, Bool.and_eq_true]
    rw [chainOk, Bool.and_eq_true] at hchain
    have hfirst : first.eventDigest =
        prim.eventDigest revision first.stateDigest previous := by
      simp only [Bool.and_eq_true, decide_eq_true_eq] at hchain
      exact hchain.1.1.2
    refine ⟨hchain.1, ih hchain.2 ?_⟩
    rw [List.length_cons, List.getLast?_cons] at hevent
    rw [show revision + 1 + events.length = revision + (events.length + 1) by
      omega]
    cases hlast : events.getLast? with
    | none =>
      rw [hlast, Option.getD_none, Option.map_some, Option.getD_some, hfirst] at hevent
      exact hevent
    | some last =>
      rw [hlast] at hevent
      exact hevent

/-- What `_write_state_auth_locked` writes behind a good chain is sealed. -/
theorem sealed_authenticate {ses : Session} {tables : TeamTables}
    {storeMeta : StoreMeta} {events : List StateEvent} {revision : ℕ}
    (hid : storeMeta.keyId = ses.keyId) (hschema : storeMeta.schemaVersion = 1)
    (hlength : events.length = revision)
    (hchain : chainOk prim ses 0 zeroDigest events = true) :
    Sealed prim ses (authenticate prim ses tables storeMeta events revision) where
  keyId := hid
  schema := hschema
  digest := rfl
  mac := rfl
  length := by simp [authenticate, hlength]
  chain := by
    refine chainOk_concat hchain ?_
    rw [hlength, Nat.zero_add]
    simp [chainOk]
  head := by simp [authenticate]

theorem sealed_newStore (maker : Session) (storeId : String) :
    Sealed prim maker (newStore prim maker storeId) :=
  sealed_authenticate rfl rfl rfl rfl

theorem sealed_writeStateAuth {ses : Session} {db : TeamDb}
    (hs : Sealed prim ses db) (tables : TeamTables) :
    Sealed prim ses (writeStateAuth prim ses db tables) := by
  refine sealed_authenticate ?_ ?_ hs.length hs.chain
  · unfold StoreMeta.observe
    split <;> exact hs.keyId
  · unfold StoreMeta.observe
    split <;> exact hs.schema

theorem verifyState_writeStateAuth {ses : Session} {db : TeamDb}
    (h : verifyState prim ses db = .ok ()) (tables : TeamTables) :
    verifyState prim ses (writeStateAuth prim ses db tables) = .ok () := by
  obtain ⟨hs, hclock⟩ := verifyState_eq_ok.mp h
  refine verifyState_eq_ok.mpr ⟨sealed_writeStateAuth hs tables, ?_⟩
  dsimp only [writeStateAuth, authenticate, StoreMeta.observe]
  rw [if_pos hclock]

/-! ## Commits -/

variable (prim) in
/-- A coordinator has verified a database and sealed what it wrote. -/
def Commits (ses : Session) (db db' : TeamDb) : Prop :=
  verifyState prim ses db = .ok () ∧
    ∃ tables, db' = writeStateAuth prim ses db tables

variable (prim) in
/-- The operation of a coordinator commits once, and then it answers; or it
leaves the database alone. -/
structure OneCommit {α : Type} (ses : Session) (db : TeamDb) (out : Outcome α) :
    Prop where
  key : ses.SameKey out.session
  commits : out.db = db ∨
    (∃ answer, out.answer = .ok answer) ∧ Commits prim out.session db out.db

variable {ses : Session} {db : TeamDb}

theorem oneCommit_idle {α : Type} {ses' : Session} {answer : Except TeamError α}
    (hkey : ses.SameKey ses') : OneCommit prim ses db ⟨answer, ses', db⟩ :=
  ⟨hkey, .inl rfl⟩

theorem OneCommit.db_of_error {α : Type} {out : Outcome α} {err : TeamError}
    (h : OneCommit prim ses db out) (herr : out.answer = .error err) :
    out.db = db := by
  rcases h.commits with hdb | ⟨⟨answer, hok⟩, -⟩
  · exact hdb
  · rw [hok] at herr
    cases herr

theorem oneCommit_transaction {α : Type}
    {body : TeamTables → Except TeamError (α × Option TeamTables)} :
    OneCommit prim ses db (transaction prim ses db body) := by
  unfold transaction
  split
  · exact oneCommit_idle ⟨rfl, rfl⟩
  · next hverified =>
      split
      · exact oneCommit_idle ⟨rfl, rfl⟩
      · exact oneCommit_idle ⟨rfl, rfl⟩
      · next answer tables _ =>
          exact ⟨⟨rfl, rfl⟩, .inr ⟨⟨answer, rfl⟩, hverified, tables, rfl⟩⟩

theorem oneCommit_timed {α : Type} {now clock : ℤ} {operation : Session → ℤ → Outcome α}
    (h : ∀ ses' : Session, ses.SameKey ses' →
      OneCommit prim ses' db (operation ses' clock)) :
    OneCommit prim ses db (timed ses db now clock operation) := by
  unfold timed
  split
  · exact oneCommit_idle ⟨rfl, rfl⟩
  · next observed hobserved =>
      rw [observedTime_eq hobserved]
      have hkey : ses.SameKey { ses with lastObserved := clock } := ⟨rfl, rfl⟩
      have hop := h _ hkey
      exact ⟨hkey.trans hop.key, hop.commits⟩

variable {claim : LeaseClaim} {gates : Gates W E} {runId : String} {worker : W}

theorem oneCommit_withTaskState {out : Outcome Unit} (h : OneCommit prim ses db out)
    (hrow : out.db = db ∨
      ∃ row, out.db.tables.tasks.get? (claim.runId, claim.taskId) = some row) :
    OneCommit prim ses db (withTaskState prim claim out) := by
  unfold withTaskState
  split
  · next err herr => exact ⟨h.key, .inl (h.db_of_error herr)⟩
  rcases h.commits with hdb | ⟨-, hverified, tables, hdb⟩
  · exact ⟨h.key, .inl hdb⟩
  · rcases hrow with hsame | ⟨row, hrow⟩
    · exact ⟨h.key, .inl hsame⟩
    · refine ⟨h.key, .inr ⟨⟨row, ?_⟩, hverified, tables, hdb⟩⟩
      have haccepts := verifyState_writeStateAuth hverified tables
      rw [← hdb] at haccepts
      simp only [taskState, haccepts, hrow]

/-! ## Every operation commits once -/

theorem createRun_oneCommit {manifest : TeamRecord}
    {tasks : List TeamRecord} {now clock : ℤ} :
    OneCommit prim ses db (createRun prim gates ses db manifest runId tasks now clock) := by
  refine oneCommit_timed fun ses' _ => ?_
  split
  · exact oneCommit_idle ⟨rfl, rfl⟩
  · split
    · exact oneCommit_idle ⟨rfl, rfl⟩
    · exact oneCommit_transaction

theorem claimTask_oneCommit {gates : Gates W E} {runId taskId : String}
    {worker : W} {now clock leaseSeconds : ℤ} {token : String} :
    OneCommit prim ses db
      (claimTask prim gates ses db runId taskId worker now clock leaseSeconds token) := by
  refine oneCommit_timed fun ses' _ => ?_
  split
  · exact oneCommit_idle ⟨rfl, rfl⟩
  · exact oneCommit_transaction

theorem claimFirst_oneCommit {now leaseSeconds : ℤ} {token : String} (taskIds : List String)
    {ses : Session} {db : TeamDb} {clock : ℕ → ℤ} {last : TeamError} :
    OneCommit prim ses db
      (claimFirst prim gates ses db runId worker now clock leaseSeconds token
        last taskIds) := by
  induction taskIds generalizing ses db clock last with
  | nil => exact oneCommit_idle ⟨rfl, rfl⟩
  | cons taskId taskIds ih =>
    have htry := @claimTask_oneCommit _ _ prim ses db gates runId taskId worker now
      (clock 0) leaseSeconds token
    simp only [claimFirst]
    split
    · exact htry
    next err herr =>
    split
    · have hrest := @ih (claimTask prim gates ses db runId taskId
        worker now (clock 0) leaseSeconds token).session
        db (fun n => clock (n + 1)) err
      rw [htry.db_of_error herr]
      exact ⟨htry.key.trans hrest.key, hrest.commits⟩
    · exact htry

theorem claimNext_oneCommit {now leaseSeconds : ℤ} {clock : ℕ → ℤ} {token : String} :
    OneCommit prim ses db
      (claimNext prim gates ses db runId worker now clock leaseSeconds token) := by
  unfold claimNext
  split
  · exact oneCommit_idle ⟨rfl, rfl⟩
  · exact claimFirst_oneCommit _

theorem authorizeEffect_oneCommit {evidence : E} {now clock : ℤ} :
    OneCommit prim ses db
      (authorizeEffect prim gates ses db claim worker evidence now clock) := by
  refine oneCommit_timed fun ses' _ => ?_
  split
  · exact oneCommit_idle ⟨rfl, rfl⟩
  · exact oneCommit_transaction

theorem startEffect_oneCommit {authorization : ExecutionAuthorization E} {now clock : ℤ} :
    OneCommit prim ses db
      (startEffect prim gates ses db claim authorization worker now clock) := by
  refine oneCommit_timed fun ses' _ => ?_
  split
  · exact oneCommit_idle ⟨rfl, rfl⟩
  · exact oneCommit_transaction

theorem expireLeases_oneCommit {now clock : ℤ} :
    OneCommit prim ses db (expireLeases prim ses db runId now clock) :=
  oneCommit_timed fun _ _ => oneCommit_transaction

theorem cancelRun_oneCommit {now clock : ℤ} :
    OneCommit prim ses db (cancelRun prim ses db runId now clock) :=
  oneCommit_timed fun _ _ => oneCommit_transaction

theorem acknowledgeCancellation_oneCommit {now clock : ℤ} :
    OneCommit prim ses db (acknowledgeCancellation prim ses db claim now clock) :=
  oneCommit_timed fun _ _ => oneCommit_transaction

theorem finalizeRun_oneCommit {runId resultId : String} {now clock : ℤ} :
    OneCommit prim ses db (finalizeRun prim ses db runId resultId now clock) :=
  oneCommit_timed fun _ _ => oneCommit_transaction

theorem recordHandoff_oneCommit {record : TeamRecord} :
    OneCommit prim ses db (recordHandoff prim ses db record) := by
  unfold recordHandoff
  split
  · exact oneCommit_idle ⟨rfl, rfl⟩
  · split
    · exact oneCommit_transaction
    · exact oneCommit_idle ⟨rfl, rfl⟩

theorem row_behind_transaction
    {body : TeamTables → Except TeamError (Unit × Option TeamTables)}
    (hbody : ∀ t', body db.tables = .ok ((), some t') →
      ∃ row f, db.tables.tasks.get? (claim.runId, claim.taskId) = some row ∧
        t' = db.tables.updateTask (claim.runId, claim.taskId) f) :
    (transaction prim ses db body).db = db ∨
      ∃ row, (transaction prim ses db body).db.tables.tasks.get?
        (claim.runId, claim.taskId) = some row := by
  rcases @transaction_cases _ _ _ _ _ _ body _ rfl with ⟨hdb, -⟩ | ⟨⟨⟩, t', ht', -, htables⟩
  · exact .inl hdb
  · obtain ⟨row, f, hrow, rfl⟩ := hbody t' ht'
    refine .inr ⟨f row, ?_⟩
    rw [htables, get?_updateTask, if_pos rfl, hrow]
    rfl

theorem settleEffect_oneCommit {result : TaskEffectResult} :
    OneCommit prim ses db (settleEffect prim ses db claim result) := by
  refine oneCommit_withTaskState oneCommit_transaction
    (row_behind_transaction fun t' h => ?_)
  unfold settleBody at h
  split at h
  · cases h
  next row hrow =>
  split at h
  · cases h
  split at h
  · split at h <;> cases h
  split at h
  · cases h
  split at h
  · cases h
  split at h
  · cases h
  cases h
  exact ⟨row, _, hrow, rfl⟩

theorem markAmbiguous_oneCommit {now clock : ℤ} :
    OneCommit prim ses db (markAmbiguous prim ses db claim now clock) := by
  refine oneCommit_timed fun ses' _ => oneCommit_withTaskState
    oneCommit_transaction (row_behind_transaction fun t' h => ?_)
  unfold chargeBody at h
  split at h
  · cases h
  next row hrow =>
  split at h
  · cases h
  cases h
  exact ⟨row, _, (assertClaim_eq_ok hrow).1, rfl⟩

theorem reopen_oneCommit {sealId : ℕ} {clock : ℤ} :
    OneCommit prim ses db (reopen prim ses db sealId clock) := by
  refine ⟨?_, .inl reopen_db⟩
  simp only [reopen]
  split
  · exact ⟨rfl, rfl⟩
  · split <;> exact ⟨rfl, rfl⟩

variable (prim) in
/-- What `complete_effect` does in front of its settlement: past the lease of
the claim it expires the leases of the run. -/
def fenceExpired (ses : Session) (db : TeamDb) (claim : LeaseClaim)
    (now clock clock' : ℤ) : Outcome ℕ :=
  timed ses db now clock fun ses observed =>
    if observed ≥ claim.leaseExpiresAt then
      expireLeases prim ses db claim.runId observed clock'
    else ⟨.ok 0, ses, db⟩

theorem fenceExpired_oneCommit {claim : LeaseClaim} {now clock clock' : ℤ} :
    OneCommit prim ses db (fenceExpired prim ses db claim now clock clock') := by
  refine oneCommit_timed fun ses' _ => ?_
  split
  · exact expireLeases_oneCommit
  · exact oneCommit_idle ⟨rfl, rfl⟩

theorem completeEffect_eq {result : TaskEffectResult} {now clock clock' : ℤ} :
    let fence := fenceExpired prim ses db claim now clock clock'
    completeEffect prim ses db claim result now clock clock' =
      match fence.answer with
      | .error err => ⟨.error err, fence.session, fence.db⟩
      | .ok _ => settleEffect prim fence.session fence.db claim result := by
  simp only [completeEffect, fenceExpired, timed]
  cases observedTime ses now clock with
  | error err => rfl
  | ok observed =>
    dsimp only
    split
    · rfl
    rfl

theorem completeEffect_oneCommit {claim : LeaseClaim} {result : TaskEffectResult}
    {now clock clock' : ℤ} :
    let fence := fenceExpired prim ses db claim now clock clock'
    OneCommit prim fence.session fence.db
      (completeEffect prim ses db claim result now clock clock') := by
  intro fence
  rw [completeEffect_eq]
  split
  · exact oneCommit_idle ⟨rfl, rfl⟩
  · exact settleEffect_oneCommit

end Seals

/-! ## Steps of the system -/

section Steps

variable {ι W E : Type} [DecidableEq ι] (prim : Primitives W E)

def TeamAction.actor : TeamAction ι W E → ι
  | .createRun i _ _ _ _ _ _ => i
  | .claimTask i _ _ _ _ _ _ _ _ => i
  | .claimNext i _ _ _ _ _ _ _ => i
  | .authorizeEffect i _ _ _ _ _ _ => i
  | .startEffect i _ _ _ _ _ _ => i
  | .completeEffect i _ _ _ _ _ => i
  | .settleEffect i _ _ => i
  | .markAmbiguous i _ _ _ => i
  | .expireLeases i _ _ _ => i
  | .cancelRun i _ _ _ => i
  | .acknowledgeCancellation i _ _ _ => i
  | .recordHandoff i _ => i
  | .finalizeRun i _ _ _ _ => i
  | .observe i _ _ => i
  | .reopen i _ _ => i

def Outcome.error? {α : Type} (out : Outcome α) : Option TeamError :=
  match out.answer with
  | .error err => some err
  | .ok _ => none

def TeamSystem.error? (s : TeamSystem ι) : TeamAction ι W E → Option TeamError
  | .createRun i gates manifest runId tasks now clock =>
    (createRun prim gates (s.sessions i) s.db manifest runId tasks now
      clock).error?
  | .claimTask i gates runId taskId worker now clock leaseSeconds token =>
    (claimTask prim gates (s.sessions i) s.db runId taskId worker now clock
      leaseSeconds token).error?
  | .claimNext i gates runId worker now clock leaseSeconds token =>
    (claimNext prim gates (s.sessions i) s.db runId worker now clock
      leaseSeconds token).error?
  | .authorizeEffect i gates claim worker evidence now clock =>
    (authorizeEffect prim gates (s.sessions i) s.db claim worker evidence now
      clock).error?
  | .startEffect i gates claim authorization worker now clock =>
    (startEffect prim gates (s.sessions i) s.db claim authorization worker now
      clock).error?
  | .completeEffect i claim result now clock clock' =>
    (completeEffect prim (s.sessions i) s.db claim result now clock
      clock').error?
  | .settleEffect i claim result =>
    (settleEffect prim (s.sessions i) s.db claim result).error?
  | .markAmbiguous i claim now clock =>
    (markAmbiguous prim (s.sessions i) s.db claim now clock).error?
  | .expireLeases i runId now clock =>
    (expireLeases prim (s.sessions i) s.db runId now clock).error?
  | .cancelRun i runId now clock =>
    (cancelRun prim (s.sessions i) s.db runId now clock).error?
  | .acknowledgeCancellation i claim now clock =>
    (acknowledgeCancellation prim (s.sessions i) s.db claim now clock).error?
  | .recordHandoff i handoff =>
    (recordHandoff prim (s.sessions i) s.db handoff).error?
  | .finalizeRun i runId resultId now clock =>
    (finalizeRun prim (s.sessions i) s.db runId resultId now clock).error?
  | .observe i now clock => (observe (s.sessions i) s.db now clock).error?
  | .reopen i sealId clock => (reopen prim (s.sessions i) s.db sealId clock).error?

/-- A call of `execute_claimed`: what the clock shows at each reading, what others do
while the operation runs, and its result, or `none` where it raises. -/
structure Execution (ι W E : Type) where
  i : ι
  gates : Gates W E
  claim : LeaseClaim
  authorization : ExecutionAuthorization E
  worker : W
  now : ℤ
  clock : ℤ
  clock₁ : ℤ
  clock₂ : ℤ
  clock₃ : ℤ
  meanwhile : List (TeamAction ι W E)
  result : Option TaskEffectResult

def Execution.start (x : Execution ι W E) : TeamAction ι W E :=
  .startEffect x.i x.gates x.claim x.authorization x.worker x.now x.clock

/-- The operation runs if the clock goes on. -/
def TeamSystem.outcome (s : TeamSystem ι) (x : Execution ι W E) : Option TaskEffectResult :=
  match s.error? prim (.observe x.i x.now x.clock₁ : TeamAction ι W E) with
  | some _ => none
  | none => x.result

def Execution.finish (x : Execution ι W E) : Option TaskEffectResult → TeamAction ι W E
  | some result => .completeEffect x.i x.claim result x.now x.clock₂ x.clock₃
  | none => .markAmbiguous x.i x.claim x.now x.clock₂

/-- The steps of a call behind its `start_effect`. -/
def TeamSystem.behindStart (s : TeamSystem ι) (x : Execution ι W E) : TeamSystem ι :=
  (s.step prim (.observe x.i x.now x.clock₁ : TeamAction ι W E)).after prim x.meanwhile

/-- `execute_claimed`: does it raise, and what does it leave? -/
def TeamSystem.executeClaimed (s : TeamSystem ι) (x : Execution ι W E) :
    Bool × TeamSystem ι :=
  let s₁ := s.step prim x.start
  if (s.error? prim x.start).isSome then (true, s₁)
  else
    let result := s₁.outcome prim x
    let s₂ := s₁.behindStart prim x
    (result.isNone || (s₂.error? prim (x.finish result)).isSome,
      s₂.step prim (x.finish result))

/-- The database in front of the last transaction of an action: only a
`complete_effect` runs another one before. -/
def TeamSystem.fenced (s : TeamSystem ι) : TeamAction ι W E → TeamDb
  | .completeEffect i claim _ now clock clock' =>
    (fenceExpired prim (s.sessions i) s.db claim now clock clock').db
  | _ => s.db

/-- What an action does to the database. -/
structure StepCommits (s : TeamSystem ι) (action : TeamAction ι W E) : Prop where
  key : ∀ i, (s.sessions i).SameKey ((s.step prim action).sessions i)
  fence : s.fenced prim action = s.db ∨
    ∃ ses, (s.sessions action.actor).SameKey ses ∧
      Commits prim ses s.db (s.fenced prim action)
  commits : (s.step prim action).db = s.fenced prim action ∨
    s.error? prim action = none ∧
      Commits prim ((s.step prim action).sessions action.actor)
        (s.fenced prim action) (s.step prim action).db

variable {prim}

theorem sameKey_update {sessions : ι → Session} {i : ι} {ses : Session}
    (h : (sessions i).SameKey ses) (j : ι) :
    (sessions j).SameKey (Function.update sessions i ses j) := by
  by_cases hj : j = i
  · subst hj
    rw [Function.update_self]
    exact h
  · rw [Function.update_of_ne hj]
    exact ⟨rfl, rfl⟩

omit [DecidableEq ι] in
theorem OneCommit.error?_eq_none {α : Type} {ses : Session} {db : TeamDb}
    {out : Outcome α} (h : OneCommit prim ses db out) :
    out.db = db ∨ out.error? = none ∧ Commits prim out.session db out.db := by
  refine h.commits.imp_right fun ⟨⟨answer, hok⟩, hcommits⟩ => ⟨?_, hcommits⟩
  rw [Outcome.error?, hok]

variable {s : TeamSystem ι} {r : String}

theorem stepCommits_of_oneCommit {α : Type} {action : TeamAction ι W E} {out : Outcome α}
    (hdb : (s.step prim action).db = out.db)
    (hsessions : (s.step prim action).sessions =
      Function.update s.sessions action.actor out.session)
    (herror : s.error? prim action = out.error?)
    (hfence : s.fenced prim action = s.db)
    (h : OneCommit prim (s.sessions action.actor) s.db out) :
    StepCommits prim s action where
  key := by
    rw [hsessions]
    exact sameKey_update h.key
  fence := .inl hfence
  commits := by
    rw [hdb, hsessions, herror, hfence, Function.update_self]
    exact h.error?_eq_none

theorem step_commits (s : TeamSystem ι) (action : TeamAction ι W E) :
    StepCommits prim s action := by
  cases action with
  | createRun i gates manifest runId tasks now clock =>
    exact stepCommits_of_oneCommit rfl rfl rfl rfl createRun_oneCommit
  | claimTask i gates runId taskId worker now clock leaseSeconds token =>
    exact stepCommits_of_oneCommit rfl rfl rfl rfl claimTask_oneCommit
  | claimNext i gates runId worker now clock leaseSeconds token =>
    exact stepCommits_of_oneCommit rfl rfl rfl rfl claimNext_oneCommit
  | authorizeEffect i gates claim worker evidence now clock =>
    exact stepCommits_of_oneCommit rfl rfl rfl rfl authorizeEffect_oneCommit
  | startEffect i gates claim authorization worker now clock =>
    refine stepCommits_of_oneCommit ?_ ?_ rfl rfl
      startEffect_oneCommit
    · dsimp only [TeamSystem.step, TeamSystem.leaveStarted]
      split <;> rfl
    · dsimp only [TeamSystem.step, TeamSystem.leaveStarted]
      split <;> rfl
  | completeEffect i claim result now clock clock' =>
    have hfence := @fenceExpired_oneCommit _ _ prim (s.sessions i) s.db claim now clock
      clock'
    have hsettle := @completeEffect_oneCommit _ _ prim (s.sessions i) s.db claim result
      now clock clock'
    refine ⟨sameKey_update (hfence.key.trans hsettle.key), ?_, ?_⟩
    · exact hfence.commits.imp_right fun hc => ⟨_, hfence.key, hc.2⟩
    · have hcommits := hsettle.error?_eq_none
      refine hcommits.imp_right fun hc => ⟨hc.1, ?_⟩
      simp only [TeamSystem.step, TeamSystem.leave, TeamAction.actor, Function.update_self]
      exact hc.2
  | settleEffect i claim result =>
    exact stepCommits_of_oneCommit rfl rfl rfl rfl settleEffect_oneCommit
  | markAmbiguous i claim now clock =>
    exact stepCommits_of_oneCommit rfl rfl rfl rfl markAmbiguous_oneCommit
  | expireLeases i runId now clock =>
    exact stepCommits_of_oneCommit rfl rfl rfl rfl expireLeases_oneCommit
  | cancelRun i runId now clock =>
    exact stepCommits_of_oneCommit rfl rfl rfl rfl cancelRun_oneCommit
  | acknowledgeCancellation i claim now clock =>
    exact stepCommits_of_oneCommit rfl rfl rfl rfl
      acknowledgeCancellation_oneCommit
  | recordHandoff i handoff =>
    exact stepCommits_of_oneCommit rfl rfl rfl rfl recordHandoff_oneCommit
  | finalizeRun i runId resultId now clock =>
    exact stepCommits_of_oneCommit rfl rfl rfl rfl finalizeRun_oneCommit
  | observe i now clock =>
    exact stepCommits_of_oneCommit rfl rfl rfl rfl
      (oneCommit_timed fun _ _ => oneCommit_idle ⟨rfl, rfl⟩)
  | reopen i sealId clock =>
    exact stepCommits_of_oneCommit rfl rfl rfl rfl reopen_oneCommit

omit [DecidableEq ι] in
theorem transaction_commits {α : Type} {ses : Session} {db : TeamDb} {out : Outcome α}
    {body : TeamTables → Except TeamError (α × Option TeamTables)}
    (hout : transaction prim ses db body = out) (hok : out.error? = none)
    (hbody : ∀ a, body db.tables ≠ .ok (a, none)) : Commits prim out.session db out.db := by
  subst hout
  unfold transaction at hok ⊢
  split at hok
  · cases hok
  next hverified =>
  split at hok
  · cases hok
  · next hnone => exact absurd hnone (hbody _)
  · exact ⟨hverified, _, rfl⟩

omit [DecidableEq ι] in
theorem startEffect_commits {gates : Gates W E} {ses : Session} {db : TeamDb}
    {claim : LeaseClaim} {authorization : ExecutionAuthorization E} {worker : W}
    {now clock : ℤ} {out : Outcome Unit}
    (hout : startEffect prim gates ses db claim authorization worker now clock = out)
    (hok : out.error? = none) : Commits prim out.session db out.db := by
  rcases timed_cases hout with ⟨-, err, herr⟩ | hout
  · rw [Outcome.error?, herr] at hok
    cases hok
  split at hout
  · rw [hout] at hok
    cases hok
  next hchecked =>
  push Not at hchecked
  refine transaction_commits hout.symm hok fun a hbody => ?_
  obtain ⟨_, _, hnone, -⟩ := startBody_moves (w := ⟨db.tables, [], []⟩)
    hchecked.2.2.2.2.2.2.2 hbody
  cases hnone

/-! ## Every reachable database is sealed -/

omit [DecidableEq ι] in
theorem Session.SameKey.symm {a b : Session} (h : a.SameKey b) : b.SameKey a :=
  ⟨h.1.symm, h.2.symm⟩

theorem sealed_commits {maker ses : Session} {db db' : TeamDb}
    (hmac : ∀ key key' keyId revision digest, prim.authMac key keyId revision digest =
        prim.authMac key' keyId revision digest → key = key')
    (hs : Sealed prim maker db) (h : Commits prim ses db db') :
    Sealed prim maker db' := by
  obtain ⟨hverified, tables, rfl⟩ := h
  have hses := (verifyState_eq_ok.mp hverified).1
  exact (sealed_writeStateAuth hses tables).sameKey (hs.key_eq hmac hses).symm

theorem sealed_after (hmac : ∀ key key' keyId revision digest,
      prim.authMac key keyId revision digest =
        prim.authMac key' keyId revision digest → key = key')
    {maker : Session} (actions : List (TeamAction ι W E))
    (hs : Sealed prim maker s.db) : Sealed prim maker (s.after prim actions).db := by
  induction actions generalizing s with
  | nil => exact hs
  | cons action actions ih =>
    have hstep := @step_commits _ _ _ _ prim s action
    have hfenced : Sealed prim maker (s.fenced prim action) := by
      rcases hstep.fence with hsame | ⟨ses, -, hcommits⟩
      · rw [hsame]
        exact hs
      · exact sealed_commits hmac hs hcommits
    refine ih ?_
    rcases hstep.commits with hsame | ⟨-, hcommits⟩
    · rw [hsame]
      exact hfenced
    · exact sealed_commits hmac hfenced hcommits

/-! ## Finalized runs -/

structure SameRun (r : String) (t t' : TeamTables) : Prop where
  run : t'.runs.get? r = t.runs.get? r
  tasks : ∀ k : String × String, k.1 = r → t'.tasks.get? k = t.tasks.get? k
  handoffs : ∀ k : String × String, k.1 = r →
    t'.handoffs.get? k = t.handoffs.get? k

omit [DecidableEq ι] in
theorem move_handoff_rows {w w' : World} (h : Move prim w w')
    (hclosed : ∀ k row, k.1 = r → w.tables.tasks.get? k = some row →
      row.status.isTerminal = true) {k : String × String} (hk : k.1 = r) :
    w'.tables.handoffs.get? k = w.tables.handoffs.get? k := by
  cases h with
  | create hmanifest _ htasks =>
    dsimp only
    rw [(insertTasks_spec htasks).frame, (insertManifest_spec hmanifest).1]
  | start _ _ hroute =>
    rw [(consumeRoute_spec hroute).1]
    rfl
  | @handoff handoff _ target _ _ htarget _ hpending _ _ _ hinsert =>
    rw [Table.get?_insert? hinsert, if_neg]
    rintro rfl
    have hterminal := hclosed (handoff.runId, handoff.toTaskId) target hk htarget
    rw [hpending] at hterminal
    cases hterminal
  | _ => rfl

omit [DecidableEq ι] in
theorem move_closed_run {w w' : World} (h : Move prim w w')
    {run : RunRow} (hrun : w.tables.runs.get? r = some run)
    (hfinal : run.resultDocument.isSome) (hstatus : run.status ≠ .active) :
    w'.tables.runs.get? r = some run := by
  cases h with
  | create hmanifest hinsert htasks =>
    dsimp only
    rw [(insertTasks_spec htasks).frame]
    refine Table.get?_insert?_of_some hinsert ?_
    rw [(insertManifest_spec hmanifest).1]
    exact hrun
  | start _ _ hroute =>
    rw [(consumeRoute_spec hroute).1]
    exact hrun
  | cancel hcancelled hactive hruns =>
    subst hruns
    dsimp only [TeamTables.updateRun]
    rw [Table.get?_modify_of_ne, hrun]
    rintro rfl
    rw [hrun] at hcancelled
    obtain rfl := Option.some.inj hcancelled
    exact hstatus hactive
  | finalize hopened hopen =>
    dsimp only
    rw [Table.get?_modify_of_ne, hrun]
    rintro rfl
    rw [hrun] at hopened
    obtain rfl := Option.some.inj hopened
    rw [hopen] at hfinal
    cases hfinal
  | _ => exact hrun

/-- A run has a result exactly when it is neither active nor cancelling. -/
def ResultsFinal (w : World) : Prop :=
  ∀ r run, w.tables.runs.get? r = some run →
    (run.resultDocument = none ↔ run.status = .active ∨ run.status = .cancelling)

theorem summaryStatus_final (statuses : List TaskStatus) :
    ¬ (summaryStatus statuses = .active ∨ summaryStatus statuses = .cancelling) := by
  unfold summaryStatus
  split_ifs <;> simp

omit [DecidableEq ι] in
theorem resultsFinal_move (w w' : World) (hi : ResultsFinal w)
    (h : Move prim w w') : ResultsFinal w' := by
  cases h with
  | create hmanifest hinsert htasks =>
    intro r run hrun
    dsimp only at hrun
    rw [(insertTasks_spec htasks).frame, Table.get?_insert? hinsert] at hrun
    split at hrun
    · obtain rfl := Option.some.inj hrun
      exact ⟨fun _ => .inl rfl, fun _ => rfl⟩
    · rw [(insertManifest_spec hmanifest).1] at hrun
      exact hi r run hrun
  | start _ _ hroute =>
    intro r run hrun
    rw [(consumeRoute_spec hroute).1] at hrun
    exact hi r run hrun
  | cancel hcancelled hactive hruns =>
    subst hruns
    intro r run hrun
    dsimp only [TeamTables.updateRun] at hrun
    rw [Table.get?_modify] at hrun
    split at hrun
    · next hr =>
        subst hr
        rw [hcancelled] at hrun
        obtain rfl := Option.some.inj hrun
        exact ⟨fun _ => .inr rfl, fun _ => (hi r _ hcancelled).mpr (.inl hactive)⟩
    · exact hi r run hrun
  | finalize hopened hopen _ _ hresult =>
    intro r run hrun
    dsimp only at hrun
    rw [Table.get?_modify] at hrun
    split at hrun
    · next hr =>
        subst hr
        rw [hopened] at hrun
        obtain rfl := Option.some.inj hrun
        refine ⟨fun hnone => (by cases hnone), fun hstatus => ?_⟩
        rw [hresult] at hstatus
        exact absurd hstatus (summaryStatus_final _)
    · exact hi r run hrun
  | _ => exact hi

theorem sameRun_after (hbudget : BudgetInv s.world)
    (hfinal : ResultsFinal s.world) {run : RunRow}
    (hrun : s.db.tables.runs.get? r = some run)
    (hresult : run.resultDocument.isSome) (more : List (TeamAction ι W E)) :
    SameRun r s.db.tables (s.after prim more).db.tables := by
  have hstatus : run.status ≠ .active := by
    intro hactive
    rw [(hfinal r run hrun).mpr (.inl hactive)] at hresult
    cases hresult
  have hkept : ∀ w w', (BudgetInv w ∧ SameRun r s.db.tables w.tables) →
      Move prim w w' → BudgetInv w' ∧ SameRun r s.db.tables w'.tables := by
    rintro w w' ⟨hi, hsame⟩ hmove
    have hrun' : w.tables.runs.get? r = some run := by rw [hsame.run, hrun]
    have hclosed : ∀ k row, k.1 = r → w.tables.tasks.get? k = some row →
        row.status.isTerminal = true := by
      rintro k row rfl hrow
      exact hi.results.terminal k row run hrow hrun' hresult
    refine ⟨budgetInv_move w w' hi hmove, ?_, ?_, ?_⟩
    · rw [move_closed_run hmove hrun' hresult hstatus, hrun]
    · intro k hk
      rw [move_closed_rows hmove hrun' hclosed hk, hsame.tasks k hk]
    · intro k hk
      rw [move_handoff_rows hmove hclosed hk, hsame.handoffs k hk]
  exact (after_induction hkept ⟨hbudget, rfl, fun _ _ => rfl, fun _ _ => rfl⟩
    more).2

/-! ## Authenticated histories -/

variable (prim) in
/-- One more revision, with an event of its own, that the verifier of the
coordinator accepts. -/
structure NextRevision (ses : Session) (db db' : TeamDb) : Prop where
  revision : db'.auth.revision = db.auth.revision + 1
  events : ∃ event, db'.events = db.events ++ [event]
  accepted : verifyState prim ses db' = .ok ()

omit [DecidableEq ι] in
theorem Commits.nextRevision {ses : Session} {db db' : TeamDb}
    (h : Commits prim ses db db') : NextRevision prim ses db db' := by
  obtain ⟨hverified, tables, rfl⟩ := h
  exact ⟨rfl, ⟨_, rfl⟩, verifyState_writeStateAuth hverified tables⟩

omit [DecidableEq ι] in
theorem fenced_eq {action : TeamAction ι W E} (h : ∀ i claim result now clock clock',
      action = .completeEffect i claim result now clock clock' →
        clock < claim.leaseExpiresAt) : s.fenced prim action = s.db := by
  cases action with
  | completeEffect i claim result now clock clock' =>
    have hbefore := h i claim result now clock clock' rfl
    simp only [TeamSystem.fenced, fenceExpired]
    rcases timed_cases
      rfl with ⟨hdb, -⟩ | hout
    · exact hdb
    · rw [hout, if_neg (not_le.mpr hbefore)]
  | _ => rfl

variable (prim) in
/-- What a call of `execute_claimed` leaves, which raises behind its `start_effect`
without a rollback of it. -/
structure Executed (s : TeamSystem ι) (x : Execution ι W E) : Prop where
  run : ∃ actions : List (TeamAction ι W E), (s.executeClaimed prim x).2 = s.after prim actions
  refused : s.error? prim x.start ≠ none →
    (s.executeClaimed prim x).1 = true ∧ (s.executeClaimed prim x).2.db = s.db
  started : s.error? prim x.start = none →
    NextRevision prim ((s.step prim x.start).sessions x.i) s.db (s.step prim x.start).db
  finished : s.error? prim x.start = none →
    let s₂ := (s.step prim x.start).behindStart prim x
    let s' := (s.executeClaimed prim x).2
    (x.meanwhile = [] → s₂.db = (s.step prim x.start).db) ∧
      ∃ before, (before = s₂.db ∨ ∃ ses, NextRevision prim ses s₂.db before) ∧
        (s'.db = before ∨ NextRevision prim (s'.sessions x.i) before s'.db)

theorem start_nextRevision {x : Execution ι W E} (h : s.error? prim x.start = none) :
    NextRevision prim ((s.step prim x.start).sessions x.i) s.db (s.step prim x.start).db := by
  have hleaves : ∀ out, startEffect prim x.gates (s.sessions x.i) s.db x.claim
      x.authorization x.worker x.now x.clock = out →
      (s.step prim x.start).db = out.db ∧ (s.step prim x.start).sessions x.i = out.session := by
    rintro _ rfl
    dsimp only [Execution.start, TeamSystem.step, TeamSystem.leaveStarted]
    split <;> exact ⟨rfl, Function.update_self ..⟩
  obtain ⟨hdb, hsession⟩ := hleaves _ rfl
  rw [hdb, hsession]
  exact (startEffect_commits rfl h).nextRevision

theorem executeClaimed_executed (s : TeamSystem ι) (x : Execution ι W E) :
    Executed prim s x := by
  by_cases hstart : s.error? prim x.start = none
  · have hexec : s.executeClaimed prim x = _ :=
      if_neg (by rw [hstart]; exact Bool.false_ne_true)
    refine ⟨⟨x.start :: .observe x.i x.now x.clock₁ :: (x.meanwhile ++
      [x.finish ((s.step prim x.start).outcome prim x)]), ?_⟩, fun h => absurd hstart h,
      fun _ => start_nextRevision hstart, fun _ => ⟨fun halone => ?_, ?_⟩⟩
    · rw [hexec]
      simp only [TeamSystem.after, List.foldl_cons, List.foldl_append, List.foldl_nil]
      rfl
    · rw [TeamSystem.behindStart, halone]
      let s₁ := s.step prim x.start
      have hobserve := @timed_cases _ (s₁.sessions x.i) s₁.db x.now x.clock₁
        (fun ses _ => ⟨.ok (), ses, s₁.db⟩) _ rfl
      rcases hobserve with ⟨hdb, -⟩ | hout
      · exact hdb
      · exact congrArg Outcome.db hout
    · rw [hexec]
      dsimp only
      generalize (s.step prim x.start).outcome prim x = result
      generalize (s.step prim x.start).behindStart prim x = s₂
      have hfinish := @step_commits _ _ _ _ prim s₂ (x.finish result)
      have hactor : (x.finish result).actor = x.i := by cases result <;> rfl
      refine ⟨s₂.fenced prim (x.finish result), ?_, ?_⟩
      · refine hfinish.fence.imp_right ?_
        rintro ⟨ses, -, hc⟩
        exact ⟨ses, hc.nextRevision⟩
      · rw [← hactor]
        exact hfinish.commits.imp_right fun hc => hc.2.nextRevision
  · have hexec : s.executeClaimed prim x = (true, s.step prim x.start) :=
      if_pos (Option.isSome_iff_ne_none.mpr hstart)
    refine ⟨⟨[x.start], by rw [hexec]; rfl⟩, fun _ => ?_, fun h => absurd h hstart,
      fun h => absurd h hstart⟩
    rw [hexec]
    exact ⟨rfl, (step_commits s x.start).commits.resolve_right fun hc => hstart hc.1⟩

/-- **Authenticated state.**  If a MAC tells keys apart then, whatever
coordinators with whatever keys and clocks do to a database: the verifier of any
coordinator that holds the key of the store, and whose time is not behind the one
stored, accepts it; an operation commits at most once, with the next revision, an
event and a state that its coordinator verifies, and then it does not raise; only a
`complete_effect` at or past the lease of its claim may commit the expiry of the
leases first, which stays when it raises, and an `execute_claimed` is a start and
its finish, of which the first stays when the second raises; and the rows of a run
that `finalize_run` has closed stay as they are. -/
theorem team_state_authenticated (hmac : ∀ key key' keyId revision digest,
      prim.authMac key keyId revision digest =
        prim.authMac key' keyId revision digest → key = key')
    (maker : Session) (storeId : String) (sessions : ι → Session)
    (actions : List (TeamAction ι W E)) :
    let s := (initialSystem prim maker storeId sessions).after prim actions
    (∀ ses : Session, maker.SameKey ses →
      s.db.storeMeta.lastObservedUs ≤ prim.epoch ses.lastObserved →
        verifyState prim ses s.db = .ok ()) ∧
    (∀ action : TeamAction ι W E,
      let before := s.fenced prim action
      let s' := s.step prim action
      (before = s.db ∨ ∃ ses, NextRevision prim ses s.db before) ∧
      (s'.db = before ∨ s.error? prim action = none ∧
        NextRevision prim (s'.sessions action.actor) before s'.db) ∧
      ((∀ i claim result now clock clock',
        action = .completeEffect i claim result now clock clock' →
          clock < claim.leaseExpiresAt) → before = s.db)) ∧
    (∀ x : Execution ι W E, Executed prim s x) ∧
    ∀ r run, s.db.tables.runs.get? r = some run → run.resultDocument.isSome →
      ∀ more : List (TeamAction ι W E),
        SameRun r s.db.tables (s.after prim more).db.tables := by
  intro s
  refine ⟨?_, ?_, executeClaimed_executed s, ?_⟩
  · intro ses hkey hclock
    have hs : Sealed prim maker s.db :=
      sealed_after hmac actions (sealed_newStore maker storeId)
    exact verifyState_eq_ok.mpr ⟨hs.sameKey hkey, hclock⟩
  · intro action
    have hstep := @step_commits _ _ _ _ prim s action
    refine ⟨?_, ?_, fenced_eq⟩
    · exact hstep.fence.imp_right fun ⟨ses, _, hc⟩ => ⟨ses, hc.nextRevision⟩
    · exact hstep.commits.imp_right fun ⟨hok, hc⟩ => ⟨hok, hc.nextRevision⟩
  · intro r run hrun hresult more
    refine sameRun_after (budgetInv_after prim maker storeId sessions actions)
      ?_ hrun hresult more
    exact after_induction resultsFinal_move
      (fun r run hrun => by cases hrun) actions

end Steps

/-! ## A completion past its lease -/

/-- MACs that show the key they were made with. -/
def keyedPrimitives : Primitives Unit Unit :=
  { samplePrimitives with authMac := fun key _ _ _ => key }

def startedSystem : TeamSystem Unit :=
  (initialSystem keyedPrimitives sampleSession "store"
    fun _ => sampleSession).after keyedPrimitives (sampleActions.take 3)

def claimedSystem : TeamSystem Unit :=
  (initialSystem keyedPrimitives sampleSession "store"
    fun _ => sampleSession).after keyedPrimitives (sampleActions.take 2)

def lateCompletion : TeamAction Unit Unit Unit :=
  .completeEffect () sampleClaim
    { succeeded := true
      outcomeDigest := sampleDigest
      usedTokens := 1
      usedCostMicrousd := 1
      outcome_ok := by decide } 60 60 60

/-- The start that leads there, with an operation that raises. -/
def failedExecution : Execution Unit Unit Unit where
  i := ()
  gates := openGates
  claim := sampleClaim
  authorization := sampleAuthorization
  worker := ()
  now := 3
  clock := 3
  clock₁ := 3
  clock₂ := 4
  clock₃ := 4
  meanwhile := []
  result := none

/-- The completion raises, and so does the execution, but the task has become
ambiguous and the revision has grown, by one and by two. -/
theorem late_completion_raises_and_commits :
    startedSystem.error? keyedPrimitives lateCompletion =
      some (.runtime "ECO_TEAM_CLAIM_INVALID") ∧
    (startedSystem.db.tables.tasks.get? sampleClaim.key).map (·.status) = some .started ∧
    ((startedSystem.step keyedPrimitives
      lateCompletion).db.tables.tasks.get? sampleClaim.key).map (·.status) =
        some .ambiguous ∧ startedSystem.db.auth.revision = 3 ∧
    (startedSystem.step keyedPrimitives lateCompletion).db.auth.revision = 4 ∧
    (claimedSystem.executeClaimed keyedPrimitives failedExecution).1 = true ∧
    ((claimedSystem.executeClaimed keyedPrimitives
      failedExecution).2.db.tables.tasks.get? sampleClaim.key).map (·.status) =
        some .ambiguous ∧ claimedSystem.db.auth.revision = 2 ∧
    (claimedSystem.executeClaimed keyedPrimitives failedExecution).2.db.auth.revision =
      4 := by
  generalize hsystem : startedSystem = s
  generalize hclaimed : claimedSystem = c
  delta startedSystem claimedSystem TeamSystem.after TeamSystem.step createRun
    admitManifest admitTasks checkTask TeamRecord.validate TeamRecord.schemaOk
    AgentTeamManifest.schemaOk TeamRole.schemaOk TeamTask.schemaOk TaskBudget.schemaOk
    Binding.schemaOk at hsystem hclaimed
  rw [matchesId_eq, matchesDigest_eq] at hsystem hclaimed
  subst hsystem hclaimed
  decide

theorem startedSystem_state : startedSystem.db.auth.revision = 3 ∧
    (startedSystem.db.tables.runs.get? "run-1").any (fun run =>
      run.status = .active && run.resultDocument.isNone) = true ∧
    startedSystem.db.tables.tasks.entries.all
      (fun e => e.2.leaseExpiresUs.all (· ≤ 60)) = true ∧
    (startedSystem.sessions ()).hmacKey = sampleSession.hmacKey ∧
    (startedSystem.sessions ()).keyId = sampleSession.keyId ∧
    (startedSystem.sessions ()).lastObserved ≤ 60 ∧
    startedSystem.db.storeMeta.lastObservedUs ≤
      keyedPrimitives.epoch (startedSystem.sessions ()).lastObserved := by
  generalize hsystem : startedSystem = s
  delta startedSystem TeamSystem.after TeamSystem.step createRun
    admitManifest admitTasks checkTask TeamRecord.validate TeamRecord.schemaOk
    AgentTeamManifest.schemaOk TeamRole.schemaOk TeamTask.schemaOk TaskBudget.schemaOk
    Binding.schemaOk at hsystem
  rw [matchesId_eq, matchesDigest_eq] at hsystem
  subst hsystem
  decide +kernel

theorem team_state_authenticated_started_run : (∀ key key' keyId revision digest,
      keyedPrimitives.authMac key keyId revision digest =
        keyedPrimitives.authMac key' keyId revision digest → key = key') ∧
    startedSystem.db.auth.revision = 3 ∧
    verifyState keyedPrimitives (startedSystem.sessions ()) startedSystem.db = .ok () := by
  have hmac : ∀ key key' keyId revision digest,
      keyedPrimitives.authMac key keyId revision digest =
        keyedPrimitives.authMac key' keyId revision digest → key = key' :=
    fun _ _ _ _ _ h => h
  obtain ⟨hrevision, -, -, hkey, hid, -, hobserved⟩ := startedSystem_state
  have hsystem : startedSystem = (initialSystem keyedPrimitives sampleSession "store"
      fun _ => sampleSession).after keyedPrimitives (sampleActions.take 3) := rfl
  rw [hsystem] at hrevision hkey hid hobserved ⊢
  refine ⟨hmac, hrevision, ?_⟩
  exact (team_state_authenticated hmac sampleSession "store"
    (fun _ => sampleSession) (sampleActions.take 3)).1 _ ⟨hkey, hid⟩ hobserved

end Ecosystem.Teams
