import Ecosystem.Teams.Budget

/-!
# At most one effect per task

Expired leases are reissued while stale claims are in the hands of other workers.  A
leased row carries the lease of the claim issued last (`FenceInv`), a started row is never
leased again, and a terminal row does not change any more.
-/

namespace Ecosystem.Teams

open Ecosystem.Lib Relation

/-! ## Claims and their tasks -/

def LeaseClaim.key (claim : LeaseClaim) : String × String :=
  (claim.runId, claim.taskId)

def lastIssued (issued : List LeaseClaim) (k : String × String) :
    Option LeaseClaim :=
  issued.reverse.find? fun claim => claim.key = k

theorem lastIssued_concat (issued : List LeaseClaim) (claim : LeaseClaim)
    (k : String × String) :
    lastIssued (issued ++ [claim]) k =
      if claim.key = k then some claim else lastIssued issued k := by
  rw [lastIssued, List.reverse_append, List.reverse_singleton,
    List.singleton_append, List.find?_cons]
  by_cases hk : claim.key = k
  · simp [hk]
  · simp [hk, lastIssued]

theorem lastIssued_mem {issued : List LeaseClaim} {k : String × String}
    {claim : LeaseClaim} (h : lastIssued issued k = some claim) :
    claim ∈ issued ∧ claim.key = k :=
  ⟨List.mem_reverse.mp (List.mem_of_find?_eq_some h), by simpa using List.find?_some h⟩

/-! ## Statuses of a row -/

def TaskRow.Begun (row : TaskRow) : Prop :=
  row.status = .started ∨ row.status.isTerminal = true

theorem RowStep.begun {row row' : TaskRow} (h : RowStep row row')
    (hbegun : row.Begun) : row'.Begun := by
  rcases hbegun with hstarted | hterminal
  · cases h with
    | same | flag => exact .inl hstarted
    | lease _ _ _ hpending => rw [hpending] at hstarted; cases hstarted
    | start hleased | release hleased => rw [hleased] at hstarted; cases hstarted
    | complete result => exact .inr result.status_terminal
    | charge _ hstatus =>
      refine .inr ?_
      rcases hstatus with rfl | rfl <;> rfl
    | cancel => exact .inr rfl
  · rw [h.terminal hterminal]
    exact .inr hterminal

theorem RowStep.leased {row row' : TaskRow} (h : RowStep row row')
    (hleased : row'.status = .leased) : row' = row ∨ row.status = .pending := by
  cases h with
  | same => exact .inl rfl
  | lease _ _ _ hpending => exact .inr hpending
  | start | release | cancel => cases hleased
  | complete result =>
    have hterminal := result.status_terminal
    rw [show result.status = .leased from hleased] at hterminal
    cases hterminal
  | charge _ hstatus =>
    have hstatus' : _ = TaskStatus.leased := hleased
    rcases hstatus with rfl | rfl <;> cases hstatus'
  | flag hstarted =>
    rw [show row.status = .leased from hleased] at hstarted
    cases hstarted

section Moves

variable {W E : Type} (prim : Primitives W E)

/-! ## The invariant -/

/-- The lease columns of the row are those of the claim issued last. -/
structure LeasedBy (w : World) (k : String × String) (row : TaskRow)
    (claim : LeaseClaim) : Prop where
  last : lastIssued w.issued k = some claim
  worker : row.workerDigest = some claim.workerDigest
  hash : row.leaseHash = some (prim.claimHash claim.leaseToken)
  expires : row.leaseExpiresUs = some (prim.epoch claim.leaseExpiresAt)
  attempt : row.attempt = claim.attempt
  digest : row.digest = claim.taskDigest
  notAfter : claim.leaseExpiresAt ≤ row.document.notAfter.instant
  deadline : ∃ run manifest, context w.tables k.1 = .ok (run, manifest) ∧
    claim.leaseExpiresAt ≤ manifest.deadline.instant

structure FenceInv (w : World) : Prop where
  digests : ∀ k row, w.tables.tasks.get? k = some row →
    row.digest = row.document.recordDigest
  leases : ∀ k row, w.tables.tasks.get? k = some row → row.status = .leased →
    ∃ claim, LeasedBy prim w k row claim
  started_once : (w.started.map fun x => x.claim.key).Nodup
  begun : ∀ x ∈ w.started, ∃ row, w.tables.tasks.get? x.claim.key = some row ∧
    row.Begun
  routes_once : (w.started.filterMap (·.route)).Nodup
  routes : ∀ x ∈ w.started, ∀ route, x.route = some route →
    ∃ row, w.tables.consumedRoutes.get? route = some row

variable {prim} {w w' : World}

theorem context_move (h : Move prim w w') {r : String} {run : RunRow}
    {manifest : AgentTeamManifest} (hcontext : context w.tables r = .ok (run, manifest)) :
    ∃ run', context w'.tables r = .ok (run', manifest) := by
  obtain ⟨hrun, row, hrow, rfl⟩ := context_eq_ok hcontext
  obtain ⟨run', hrun', -, -, hid⟩ := (move_runs h).kept r run hrun
  refine ⟨run', ?_⟩
  rw [context, hrun']
  dsimp only
  rw [hid, move_manifest h hrow]

theorem move_route (h : Move prim w w') {route : String} {row : RouteRow}
    (hrow : w.tables.consumedRoutes.get? route = some row) :
    w'.tables.consumedRoutes.get? route = some row := by
  cases h with
  | create hmanifest _ htasks =>
    obtain ⟨hframe, -, -⟩ := insertManifest_spec hmanifest
    dsimp only
    rw [(insertTasks_spec htasks).frame, hframe]
    exact hrow
  | start _ _ hroute => exact (consumeRoute_spec hroute).2.1 route row hrow
  | _ => exact hrow

variable {k : String × String} {row : TaskRow}

theorem LeasedBy.mono {claim : LeaseClaim}
    (hl : LeasedBy prim w k row claim) (h : Move prim w w')
    (hlast : lastIssued w'.issued k = lastIssued w.issued k) :
    LeasedBy prim w' k row claim := by
  obtain ⟨run, manifest, hcontext, hdeadline⟩ := hl.deadline
  obtain ⟨run', hcontext'⟩ := context_move h hcontext
  exact ⟨hlast.trans hl.last, hl.worker, hl.hash, hl.expires, hl.attempt,
    hl.digest, hl.notAfter, run', manifest, hcontext', hdeadline⟩

theorem leases_move (hi : FenceInv prim w) (h : Move prim w w')
    {k : String × String} {row' : TaskRow}
    (hrow' : w'.tables.tasks.get? k = some row') (hleased : row'.status = .leased) :
    ∃ claim, LeasedBy prim w' k row' claim := by
  have hquiet : w'.issued = w.issued → ∃ claim, LeasedBy prim w' k row' claim := by
    intro hissued
    rcases move_row_cases h hrow' with ⟨row, hrow, hmoved⟩ | ⟨-, -, task, rfl⟩
    · rcases hmoved.step.leased hleased with rfl | hpending
      · obtain ⟨claim, hl⟩ := hi.leases k row' hrow hleased
        exact ⟨claim, hl.mono h (by rw [hissued])⟩
      · exact absurd hleased (hmoved.unclaimed hissued hpending)
    · cases hleased
  have hmove := h
  cases h with
  | @claim run manifest row claim hcontext _ hrow hpending _ _ _ hdigest hattempt
      hnotAfter hdeadline =>
    rw [get?_updateTask] at hrow'
    split at hrow'
    · next hk =>
        subst hk
        rw [hrow] at hrow'
        obtain rfl := Option.some.inj hrow'
        obtain ⟨run', hcontext'⟩ := context_move hmove hcontext
        refine ⟨claim, ⟨?_, rfl, rfl, rfl, hattempt.symm, ?_, hnotAfter, run',
          manifest, hcontext', hdeadline⟩⟩
        · exact (lastIssued_concat _ _ _).trans (if_pos rfl)
        · exact (hi.digests _ row hrow).trans hdigest.symm
    · next hk =>
        obtain ⟨claim', hl⟩ := hi.leases k row' hrow' hleased
        refine ⟨claim', hl.mono hmove ?_⟩
        exact (lastIssued_concat _ _ _).trans (if_neg (Ne.symm hk))
  | _ => exact hquiet rfl

theorem fenceInv_move (w w' : World) (hi : FenceInv prim w) (h : Move prim w w') :
    FenceInv prim w' := by
  have hbegun : ∀ x ∈ w.started, ∃ row,
      w'.tables.tasks.get? x.claim.key = some row ∧ row.Begun := by
    intro x hx
    obtain ⟨row, hrow, hrowBegun⟩ := hi.begun x hx
    obtain ⟨row', hrow', hmoved⟩ := move_row h hrow
    exact ⟨row', hrow', hmoved.step.begun hrowBegun⟩
  have hroutes : ∀ x ∈ w.started, ∀ route, x.route = some route →
      ∃ row, w'.tables.consumedRoutes.get? route = some row := by
    intro x hx route hroute
    obtain ⟨row, hrow⟩ := hi.routes x hx route hroute
    exact ⟨row, move_route h hrow⟩
  have hdigests : ∀ k row', w'.tables.tasks.get? k = some row' →
      row'.digest = row'.document.recordDigest := by
    intro k row' hrow'
    rcases move_row_cases h hrow' with ⟨row, hrow, hmoved⟩ | ⟨-, -, task, rfl⟩
    · obtain ⟨hdocument, hdigest⟩ := hmoved.step.document
      rw [hdigest, hdocument]
      exact hi.digests k row hrow
    · rfl
  have hleases := fun k row' => @leases_move _ _ _ _ _ hi h k row'
  cases h with
  | @start claim row t₁ observed us hrow _ hroute _ =>
    obtain ⟨hget, -, -, -, -, -, hstatus⟩ := assertClaim_eq_ok hrow
    have hleased : row.status = .leased := by simpa using hstatus
    obtain ⟨-, -, hconsumed⟩ := consumeRoute_spec hroute
    refine ⟨hdigests, hleases, ?_, ?_, ?_, ?_⟩
    · rw [List.map_append]
      refine List.nodup_append.mpr ⟨hi.started_once, List.nodup_singleton _, ?_⟩
      rintro k hk k' hk' rfl
      obtain ⟨x, hx, rfl⟩ := List.mem_map.mp hk
      -- the row of an earlier start has begun, this one is leased
      obtain ⟨row', hrow', hbegun'⟩ := hi.begun x hx
      rw [show x.claim.key = claim.key by simpa using hk'] at hrow'
      obtain rfl : row = row' := Option.some.inj (hget.symm.trans hrow')
      rcases hbegun' with h | h <;> rw [hleased] at h <;> cases h
    · intro x hx
      rcases List.mem_append.mp hx with hx | hx
      · exact hbegun x hx
      · rw [List.mem_singleton.mp hx]
        refine ⟨row.start, ?_, .inl rfl⟩
        change (t₁.updateTask claim.key TaskRow.start).tasks.get? claim.key = _
        rw [get?_updateTask, if_pos rfl, (consumeRoute_spec hroute).1]
        exact congrArg (Option.map TaskRow.start) hget
    · rw [List.filterMap_append]
      refine List.nodup_append.mpr ⟨hi.routes_once, ?_, ?_⟩
      · cases row.document.routeDecision <;> simp
      · rintro route hold route' hnew rfl
        obtain ⟨x, hx, hxroute⟩ := List.mem_filterMap.mp hold
        obtain ⟨routeRow, hrouteRow⟩ := hi.routes x hx route hxroute
        obtain ⟨binding, hbinding, rfl⟩ : ∃ binding,
            row.document.routeDecision = some binding ∧
              binding.digest = route := by
          cases hdecision : row.document.routeDecision with
          | none => simp [hdecision] at hnew
          | some binding =>
            simp only [hdecision, Option.map_some, List.filterMap_cons,
              List.filterMap_nil, List.mem_singleton] at hnew
            exact ⟨binding, rfl, hnew.symm⟩
        rw [(hconsumed binding hbinding).1] at hrouteRow
        cases hrouteRow
    · intro x hx route hxroute
      rcases List.mem_append.mp hx with hx | hx
      · exact hroutes x hx route hxroute
      · rw [List.mem_singleton.mp hx] at hxroute
        obtain ⟨binding, hbinding, rfl⟩ := Option.map_eq_some_iff.mp hxroute
        exact ⟨_, (hconsumed binding hbinding).2⟩
  | _ => exact ⟨hdigests, hleases, hi.started_once, hbegun, hi.routes_once, hroutes⟩

theorem fenceInv_empty : FenceInv prim ⟨{}, [], []⟩ := by
  refine ⟨?_, ?_, List.nodup_nil, ?_, List.nodup_nil, ?_⟩
  · intro k row hrow; cases hrow
  · intro k row hrow; cases hrow
  · intro x hx; cases hx
  · intro x hx; cases hx

theorem terminal_moves (h : ReflTransGen (Move prim) w w')
    (hrow : w.tables.tasks.get? k = some row) (hterminal : row.status.isTerminal = true) :
    w'.tables.tasks.get? k = some row := by
  induction h with
  | refl => exact hrow
  | tail _ hlast ih =>
    obtain ⟨row', hrow', hmoved⟩ := move_row hlast ih
    rw [hrow', hmoved.step.terminal hterminal]

theorem begun_moves (h : ReflTransGen (Move prim) w w')
    (hrow : w.tables.tasks.get? k = some row) (hbegun : row.Begun) :
    ∃ row', w'.tables.tasks.get? k = some row' ∧ row'.Begun := by
  induction h with
  | refl => exact ⟨row, hrow, hbegun⟩
  | tail _ hlast ih =>
    obtain ⟨row₁, hrow₁, hbegun₁⟩ := ih
    obtain ⟨row', hrow', hmoved⟩ := move_row hlast hrow₁
    exact ⟨row', hrow', hmoved.step.begun hbegun₁⟩

end Moves

/-! ## Every interleaving -/

section Runs

variable {ι W E : Type} [DecidableEq ι] (prim : Primitives W E)

theorem fenceInv_after (maker : Session) (storeId : String)
    (sessions : ι → Session) (actions : List (TeamAction ι W E)) :
    FenceInv prim ((initialSystem prim maker storeId sessions).after prim actions).world :=
  after_induction (s := initialSystem prim maker storeId sessions) fenceInv_move
    fenceInv_empty actions

variable {prim}

theorem after_moves (s : TeamSystem ι) (actions : List (TeamAction ι W E)) :
    ReflTransGen (Move prim) s.world (s.after prim actions).world := by
  induction actions generalizing s with
  | nil => exact .refl
  | cons action actions ih => exact (step_moves s action).trans (ih _)

/-! ### Tokens -/

theorem step_issued (s : TeamSystem ι) (action : TeamAction ι W E) :
    ∃ new, (s.step prim action).issued = s.issued ++ new ∧
      (new.map (·.leaseToken)).Sublist action.token?.toList := by
  have hclaims : ∀ (out : Outcome LeaseClaim) (token : String),
      (∀ claim ∈ out.claims, claim.leaseToken = token) →
        (out.claims.map (·.leaseToken)).Sublist [token] := by
    intro out token htoken
    unfold Outcome.claims at htoken ⊢
    split
    · next claim hanswer =>
        simp only [hanswer, List.mem_singleton, forall_eq] at htoken
        simp [htoken]
    · simp
  have hnone : s.issued = s.issued ++ [] := (List.append_nil _).symm
  cases action with
  | claimTask i gates runId taskId worker now clock leaseSeconds token =>
    exact ⟨_, rfl, hclaims _ token (claimTask_moves (w := s.world) rfl rfl).1⟩
  | claimNext i gates runId worker now clock leaseSeconds token =>
    exact ⟨_, rfl, hclaims _ token (claimNext_moves (w := s.world) rfl rfl).1⟩
  | startEffect i gates claim authorization worker now clock =>
    refine ⟨[], ?_, by simp⟩
    dsimp only [TeamSystem.step, TeamSystem.leaveStarted]
    split <;> exact hnone
  | _ => exact ⟨[], hnone, by simp⟩

theorem after_issued (s : TeamSystem ι) (actions : List (TeamAction ι W E)) :
    ∃ new, (s.after prim actions).issued = s.issued ++ new ∧
      (new.map (·.leaseToken)).Sublist (actions.filterMap TeamAction.token?) := by
  induction actions generalizing s with
  | nil => exact ⟨[], (List.append_nil _).symm, List.nil_sublist _⟩
  | cons action actions ih =>
    obtain ⟨first, hfirst, hsub⟩ := step_issued s action
    obtain ⟨rest, hrest, hsub'⟩ := ih (s.step prim action)
    refine ⟨first ++ rest, ?_, ?_⟩
    · rw [← List.append_assoc, ← hfirst]
      exact hrest
    · rw [List.map_append, List.filterMap_cons]
      cases htoken : action.token? with
      | none =>
        rw [htoken] at hsub
        rw [List.sublist_nil.mp hsub]
        exact hsub'
      | some token =>
        rw [htoken] at hsub
        exact hsub.append hsub'

/-! ### Starts -/

def isStarted (s : TeamSystem ι) (k : String × String) : Bool :=
  (s.db.tables.tasks.get? k).any (·.status = .started)

variable (prim) in
def startSteps (k : String × String) : TeamSystem ι → List (TeamAction ι W E) → ℕ
  | _, [] => 0
  | s, action :: actions =>
    (if !isStarted s k && isStarted (s.step prim action) k then 1 else 0) +
      startSteps k (s.step prim action) actions

variable {s : TeamSystem ι}

omit [DecidableEq ι] in
theorem isStarted_iff {k : String × String} :
    isStarted s k = true ↔
      ∃ row, s.db.tables.tasks.get? k = some row ∧ row.status = .started := by
  unfold isStarted
  cases s.db.tables.tasks.get? k <;> simp

theorem startSteps_of_begun {k : String × String}
    (actions : List (TeamAction ι W E)) {row : TaskRow}
    (hrow : s.db.tables.tasks.get? k = some row) (hbegun : row.Begun) :
    startSteps prim k s actions = 0 := by
  induction actions generalizing s row with
  | nil => rfl
  | cons action actions ih =>
    have hmoves := @step_moves _ _ _ _ prim s action
    obtain ⟨row', hrow', hbegun'⟩ := begun_moves hmoves hrow hbegun
    rw [startSteps, ih hrow' hbegun', Nat.add_zero, if_neg]
    rw [Bool.and_eq_true, not_and]
    intro hnot hstarted
    rcases hbegun with h | hterminal
    · rw [isStarted_iff.mpr ⟨row, hrow, h⟩] at hnot
      cases hnot
    · obtain ⟨row₁, hrow₁, hstarted⟩ := isStarted_iff.mp hstarted
      have hsame := terminal_moves hmoves hrow hterminal
      obtain rfl : row = row₁ := Option.some.inj (hsame.symm.trans hrow₁)
      rw [hstarted] at hterminal
      cases hterminal

theorem startSteps_le_one (k : String × String) (s : TeamSystem ι)
    (actions : List (TeamAction ι W E)) : startSteps prim k s actions ≤ 1 := by
  induction actions generalizing s with
  | nil => exact Nat.zero_le _
  | cons action actions ih =>
    rw [startSteps]
    split
    · next hstart =>
        rw [Bool.and_eq_true] at hstart
        obtain ⟨row, hrow, hstarted⟩ := isStarted_iff.mp hstart.2
        rw [startSteps_of_begun actions hrow (.inl hstarted)]
    · rw [Nat.zero_add]
      exact ih _

/-! ### Fencing -/

variable (prim) in
structure StandsFor (claim latest : LeaseClaim) : Prop where
  key : claim.key = latest.key
  digest : claim.taskDigest = latest.taskDigest
  worker : claim.workerDigest = latest.workerDigest
  token : claim.leaseToken = latest.leaseToken
  attempt : claim.attempt = latest.attempt
  expires : prim.epoch claim.leaseExpiresAt = prim.epoch latest.leaseExpiresAt

variable (prim) in
/-- What `start_effect` lets begin: the claim issued last, in time. -/
structure StartFenced (s : TeamSystem ι) (claim : LeaseClaim) (clock : ℤ) :
    Prop where
  latest : ∃ latest, lastIssued s.issued claim.key = some latest ∧
    StandsFor prim claim latest
  beforeExpiry : clock < claim.leaseExpiresAt
  issued : claim ∈ s.issued → lastIssued s.issued claim.key = some claim ∧
    ∃ row run manifest, s.db.tables.tasks.get? claim.key = some row ∧
      context s.db.tables claim.runId = .ok (run, manifest) ∧
      clock < row.document.notAfter.instant ∧ clock < manifest.deadline.instant

omit [DecidableEq ι] in
theorem startFenced_of_inv (hi : FenceInv prim s.world)
    (hhash : Function.Injective prim.claimHash)
    (htokens : (s.issued.map (·.leaseToken)).Nodup) {ses : Session}
    {gates : Gates W E} {claim : LeaseClaim}
    {authorization : ExecutionAuthorization E} {worker : W} {now clock : ℤ}
    (h : (startEffect prim gates ses s.db claim authorization worker now
      clock).answer = .ok ()) : StartFenced prim s claim clock := by
  rcases startEffect_moves (w := s.world)
    rfl rfl with
    ⟨⟨err, herr⟩, -⟩ | ⟨-, hbefore, row, hrow, -⟩
  · rw [h] at herr
    cases herr
  · obtain ⟨hget, hdigest, hworker, hlease, hexpires, hattempt, hstatus⟩ :=
      assertClaim_eq_ok hrow
    obtain ⟨latest, hl⟩ := hi.leases claim.key row hget (by simpa using hstatus)
    have htoken : claim.leaseToken = latest.leaseToken :=
      hhash (Option.some.inj (hlease.symm.trans hl.hash))
    obtain ⟨hmem, hkey⟩ := lastIssued_mem hl.last
    refine ⟨⟨latest, hl.last, hkey.symm, hdigest.symm.trans hl.digest,
      Option.some.inj (hworker.symm.trans hl.worker), htoken,
      hattempt.symm.trans hl.attempt,
      Option.some.inj (hexpires.symm.trans hl.expires)⟩, hbefore, ?_⟩
    intro hissued
    obtain rfl : claim = latest :=
      List.inj_on_of_nodup_map htokens hissued hmem htoken
    obtain ⟨run, manifest, hcontext, hdeadline⟩ := hl.deadline
    exact ⟨hl.last, row, run, manifest, hget, hcontext,
      hbefore.trans_le hl.notAfter, hbefore.trans_le hdeadline⟩

/-- **At-most-once effects.**  If lease tokens are distinct and their hash is
injective then, in every interleaving of the coordinators' operations and
whatever claims and authorizations the workers still hold: a task becomes
started at most once; only the claim issued last for a task passes
`start_effect`, and only before its expiry, the end of the task and the deadline
of the manifest; a terminal task does not change any more; and a route is
consumed by at most one start. -/
theorem team_effects_fenced (hhash : Function.Injective prim.claimHash)
    (maker : Session) (storeId : String) (sessions : ι → Session)
    (actions : List (TeamAction ι W E))
    (htokens : (actions.filterMap TeamAction.token?).Nodup) :
    let s₀ := initialSystem prim maker storeId sessions
    let s := s₀.after prim actions
    (∀ k, startSteps prim k s₀ actions ≤ 1) ∧
    (s.started.map fun x => x.claim.key).Nodup ∧
    (s.started.filterMap (·.route)).Nodup ∧
    (∀ i gates claim authorization worker now clock,
      (startEffect prim gates (s.sessions i) s.db claim authorization worker now
        clock).answer = .ok () → StartFenced prim s claim clock) ∧
    ∀ k row, s.db.tables.tasks.get? k = some row →
      row.status.isTerminal = true → ∀ more : List (TeamAction ι W E),
        (s.after prim more).db.tables.tasks.get? k = some row := by
  intro s₀ s
  have hi : FenceInv prim s.world :=
    fenceInv_after prim maker storeId sessions actions
  have hissued : (s.issued.map (·.leaseToken)).Nodup := by
    obtain ⟨new, hnew, hsub⟩ := after_issued s₀ actions
    rw [show s.issued = new from hnew]
    exact hsub.nodup htokens
  refine ⟨fun k => startSteps_le_one k s₀ actions, hi.started_once, hi.routes_once, ?_, ?_⟩
  · intro i gates claim authorization worker now clock hok
    exact startFenced_of_inv hi hhash hissued hok
  · intro k row hrow hterminal more
    exact terminal_moves (after_moves s more) hrow hterminal

end Runs

theorem team_effects_fenced_sample_run :
    Function.Injective samplePrimitives.claimHash ∧
    (sampleActions.filterMap TeamAction.token?).Nodup ∧
    (sampleSystem.started.map fun x => x.claim.key) = [sampleClaim.key] ∧
    startSteps samplePrimitives sampleClaim.key
      (initialSystem samplePrimitives sampleSession "store" fun _ => sampleSession)
      sampleActions ≤ 1 :=
  have hhash : Function.Injective samplePrimitives.claimHash :=
    Function.injective_id
  have htokens : (sampleActions.filterMap TeamAction.token?).Nodup := by decide
  have hstarted : (sampleSystem.started.map fun x => x.claim.key) = [sampleClaim.key] := by
    generalize hsystem : sampleSystem = s
    delta sampleSystem TeamSystem.after TeamSystem.step createRun
      admitManifest admitTasks checkTask TeamRecord.validate TeamRecord.schemaOk
      AgentTeamManifest.schemaOk TeamRole.schemaOk TeamTask.schemaOk TaskBudget.schemaOk
      Binding.schemaOk at hsystem
    rw [matchesId_eq, matchesDigest_eq] at hsystem
    subst hsystem
    decide +kernel
  ⟨hhash, htokens, hstarted,
    (team_effects_fenced hhash sampleSession "store" (fun _ => sampleSession)
      sampleActions htokens).1 sampleClaim.key⟩

end Ecosystem.Teams
