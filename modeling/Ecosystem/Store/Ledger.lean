import Ecosystem.Store.Effects

/-!
# The budget ledger

Which plan is active for a run, the budget row of the run, and the reservations of its
reads and model invocations.  `Ledger.Balanced` is the conservation law of a budget row,
`Ledger.Within` its limits; `Ledger.Sound` says both and is kept by every move.
-/

namespace Ecosystem.Store

open Ecosystem.Lib

@[ext] structure Ledger where
  /-- The active plan of a run: its id and its digest. -/
  active : String → Option (String × Option String)
  budgets : Table String BudgetRow
  readRun : String → Option String
  reservations : Table String ReservationRow
  modelRun : String → Option String
  modelReservations : Table String ModelReservationRow

def Tables.ledger (t : Tables) : Ledger where
  active runId := (t.runs.get? runId).bind fun run =>
    run.activePlanId.map fun planId => (planId, run.activePlanDigest)
  budgets := t.budgets
  readRun id := (t.operations.get? id).map (·.runId)
  reservations := t.reservations
  modelRun id := (t.modelOperations.get? id).map (·.runId)
  modelReservations := t.modelReservations

/-! ## Amounts -/

def Ledger.reads (l : Ledger) (runId : String) (amount : ReservationRow → ℕ) : ℕ :=
  l.reservations.sumBy fun _ row => if row.runId = runId then amount row else 0

def Ledger.models (l : Ledger) (runId : String)
    (amount : ModelReservationRow → ℕ) : ℕ :=
  l.modelReservations.sumBy fun _ row =>
    if row.runId = runId then amount row else 0

def ReservationRow.held (row : ReservationRow) : ℕ :=
  if row.state = .reserved then row.reservedInputBytes else 0

def ReservationRow.spent (row : ReservationRow) : ℕ :=
  if row.state = .committed then row.actualInputBytes.getD 0 else 0

def ReservationRow.commit (now : Stamp) (row : ReservationRow) : ReservationRow :=
  { row with
    actualInputBytes := some row.reservedInputBytes
    state := .committed
    updatedAt := now }

def ReservationRow.release (now : Stamp) (row : ReservationRow) : ReservationRow :=
  { row with
    state := .released
    updatedAt := now }

namespace ModelReservationRow

/-- What an invocation still holds of an amount. -/
def held (amount : ModelReservationRow → ℕ) (row : ModelReservationRow) : ℕ :=
  if row.state = .reserved then amount row else 0

/-- What a settled invocation has been charged. -/
def charged (amount : ModelReservationRow → Option ℕ)
    (row : ModelReservationRow) : ℕ :=
  if row.state = .reserved then 0 else (amount row).getD 0

/-- A reservation is settled with these charges, each at most what it held. -/
structure Settles (row settled : ModelReservationRow) (output tokens cost : ℕ) :
    Prop where
  run : settled.runId = row.runId
  closed : settled.state ≠ .reserved
  outputCharged : settled.actualOutputBytes.getD 0 = output
  tokensCharged : settled.chargedTotalTokens.getD 0 = tokens
  costCharged : settled.chargedCostMicrousd.getD 0 = cost
  outputLe : output ≤ row.reservedOutputBytes
  tokensLe : tokens ≤ row.reservedTotalTokens
  costLe : cost ≤ row.reservedCostMicrousd

end ModelReservationRow

open ModelReservationRow in
/-- **Conservation.**  Every counter of a budget row is the sum over the
reservations of the run; the plan's own inputs are counted as spent. -/
structure Ledger.Balanced (l : Ledger) (runId : String) (initialInput : ℕ)
    (b : BudgetRow) : Prop where
  reserved : b.reservedInputBytes = l.reads runId (·.held)
  input : b.inputBytes = initialInput + l.reads runId (·.spent)
  toolRequests : b.toolRequests = l.reads runId fun _ => 1
  modelRequests : b.modelRequests = l.models runId fun _ => 1
  output : b.outputBytes = l.models runId (charged (·.actualOutputBytes))
  tokens : b.totalTokens = l.models runId (charged (·.chargedTotalTokens))
  cost : b.costMicrousd = l.models runId (charged (·.chargedCostMicrousd))

open ModelReservationRow in
/-- **Limits.**  What is spent and what is still held stays within the limits. -/
structure Ledger.Within (l : Ledger) (runId : String) (b : BudgetRow) : Prop where
  input : b.inputBytes + b.reservedInputBytes ≤ b.limits.maxInputBytes
  output : b.outputBytes + l.models runId (held (·.reservedOutputBytes)) ≤
    b.limits.maxOutputBytes
  tokens : b.totalTokens + l.models runId (held (·.reservedTotalTokens)) ≤
    b.limits.maxTotalTokens
  cost : b.costMicrousd + l.models runId (held (·.reservedCostMicrousd)) ≤
    b.limits.maxCostMicrousd
  toolRequests : b.toolRequests ≤ b.limits.maxToolRequests
  modelRequests : b.modelRequests ≤ b.limits.maxModelRequests

structure FreshBudget (plan : RunPlan) (planDigest : String) (b : BudgetRow) :
    Prop where
  planDigest : b.planDigest = planDigest
  limits : b.limits = plan.budget
  inputBytes : b.inputBytes = plan.initialInputBytes
  fits : plan.initialInputBytes ≤ plan.budget.maxInputBytes
  reservedInputBytes : b.reservedInputBytes = 0
  toolRequests : b.toolRequests = 0
  outputBytes : b.outputBytes = 0
  modelRequests : b.modelRequests = 0
  totalTokens : b.totalTokens = 0
  costMicrousd : b.costMicrousd = 0

inductive Ledger.Move (cfg : StoreConfig) (l : Ledger) : Ledger → Prop
  | activate (plan : RunPlan) (b : BudgetRow)
      (free : l.budgets.get? plan.metadata.runId = none)
      (fresh : FreshBudget plan (cfg.recordDigest (.runPlan plan)) b) :
      Move cfg l { l with
        active := Function.update l.active plan.metadata.runId
          (some (plan.metadata.id, some (cfg.recordDigest (.runPlan plan))))
        budgets := l.budgets.insert plan.metadata.runId b }
  | reserveRead (id : String) (row : ReservationRow) (b : BudgetRow) (now : Stamp)
      (budget : l.budgets.get? row.runId = some b)
      (free : l.reservations.get? id = none)
      (state : row.state = .reserved)
      (tools : b.toolRequests + 1 ≤ b.limits.maxToolRequests)
      (room : b.inputBytes + b.reservedInputBytes + row.reservedInputBytes ≤
        b.limits.maxInputBytes) :
      Move cfg l { l with
        budgets := l.budgets.modify row.runId fun b => { b with
          toolRequests := b.toolRequests + 1
          reservedInputBytes := b.reservedInputBytes + row.reservedInputBytes
          updatedAt := now }
        readRun := Function.update l.readRun id (some row.runId)
        reservations := l.reservations.insert id row }
  | commitRead (id : String) (row : ReservationRow) (now : Stamp)
      (there : l.reservations.get? id = some row) (state : row.state = .reserved) :
      Move cfg l { l with
        budgets := l.budgets.modify row.runId fun b => { b with
          reservedInputBytes := b.reservedInputBytes - row.reservedInputBytes
          inputBytes := b.inputBytes + row.reservedInputBytes
          updatedAt := now }
        reservations := l.reservations.modify id (.commit now) }
  | releaseRead (id : String) (row : ReservationRow) (now : Stamp)
      (there : l.reservations.get? id = some row) (state : row.state = .reserved) :
      Move cfg l { l with
        budgets := l.budgets.modify row.runId fun b => { b with
          reservedInputBytes := b.reservedInputBytes - row.reservedInputBytes
          updatedAt := now }
        reservations := l.reservations.modify id (.release now) }
  | openModel (id : String) (row : ModelReservationRow) (b : BudgetRow) (now : Stamp)
      (budget : l.budgets.get? row.runId = some b)
      (free : l.modelReservations.get? id = none)
      (state : row.state = .reserved)
      (requests : b.modelRequests + 1 ≤ b.limits.maxModelRequests)
      (output : b.outputBytes +
        l.models row.runId (ModelReservationRow.held (·.reservedOutputBytes)) +
        row.reservedOutputBytes ≤ b.limits.maxOutputBytes)
      (tokens : b.totalTokens +
        l.models row.runId (ModelReservationRow.held (·.reservedTotalTokens)) +
        row.reservedTotalTokens ≤ b.limits.maxTotalTokens)
      (cost : b.costMicrousd +
        l.models row.runId (ModelReservationRow.held (·.reservedCostMicrousd)) +
        row.reservedCostMicrousd ≤ b.limits.maxCostMicrousd) :
      Move cfg l { l with
        budgets := l.budgets.modify row.runId fun b => { b with
          modelRequests := b.modelRequests + 1
          updatedAt := now }
        modelRun := Function.update l.modelRun id (some row.runId)
        modelReservations := l.modelReservations.insert id row }
  | settleModel (id : String) (row : ModelReservationRow)
      (settle : ModelReservationRow → ModelReservationRow)
      (output tokens cost : ℕ) (now : Stamp)
      (there : l.modelReservations.get? id = some row)
      (state : row.state = .reserved)
      (settles : row.Settles (settle row) output tokens cost) :
      Move cfg l { l with
        budgets := l.budgets.modify row.runId fun b => { b with
          outputBytes := b.outputBytes + output
          totalTokens := b.totalTokens + tokens
          costMicrousd := b.costMicrousd + cost
          updatedAt := now }
        modelReservations := l.modelReservations.modify id settle }
  | waiveModel (id : String) (row : ModelReservationRow)
      (settle : ModelReservationRow → ModelReservationRow)
      (there : l.modelReservations.get? id = some row)
      (state : row.state = .reserved)
      (settles : row.Settles (settle row) 0 0 0) :
      Move cfg l { l with
        modelReservations := l.modelReservations.modify id settle }

theorem Ledger.Move.congr {cfg : StoreConfig} {l l₁ l₂ : Ledger}
    (move : l.Move cfg l₁) (h : l₂ = l₁) : l.Move cfg l₂ :=
  h ▸ move

/-! ## Soundness -/

structure Ledger.SoundRow (cfg : StoreConfig) (l : Ledger) (runId : String)
    (plan : RunPlan) (b : BudgetRow) : Prop where
  run : plan.metadata.runId = runId
  active : l.active runId = some (plan.metadata.id, some (cfg.recordDigest (.runPlan plan)))
  planDigest : b.planDigest = cfg.recordDigest (.runPlan plan)
  limits : b.limits = plan.budget
  balanced : l.Balanced runId plan.initialInputBytes b
  within : l.Within runId b

/-- What ties the tables together: an active plan and every reservation have a
budget, and an operation and its reservation belong to the same run. -/
structure Ledger.Tied (l : Ledger) : Prop where
  active : ∀ runId, (l.active runId).isSome → (l.budgets.get? runId).isSome
  readBudget : ∀ id row, l.reservations.get? id = some row →
    (l.budgets.get? row.runId).isSome
  modelBudget : ∀ id row, l.modelReservations.get? id = some row →
    (l.budgets.get? row.runId).isSome
  readRun : ∀ id, l.readRun id = (l.reservations.get? id).map (·.runId)
  modelRun : ∀ id, l.modelRun id = (l.modelReservations.get? id).map (·.runId)

def Ledger.SoundRows (cfg : StoreConfig) (l : Ledger) : Prop :=
  ∀ runId b, l.budgets.get? runId = some b → ∃ plan, l.SoundRow cfg runId plan b

structure Ledger.Sound (cfg : StoreConfig) (l : Ledger) : Prop extends l.Tied where
  rows : l.SoundRows cfg

namespace Ledger

variable {cfg : StoreConfig} {l l' : Ledger} {runId id : String}

/-! ### Sums over the reservations -/

variable {row : ReservationRow} {amount : ReservationRow → ℕ} {plan : RunPlan}
  {b : BudgetRow}

theorem reads_insert (free : l.reservations.get? id = none)
    (h : l'.reservations = l.reservations.insert id row) :
    l'.reads runId amount =
      l.reads runId amount + if row.runId = runId then amount row else 0 := by
  rw [reads, h, Table.sumBy_insert _ free]
  rfl

theorem reads_modify {f : ReservationRow → ReservationRow}
    (there : l.reservations.get? id = some row)
    (hrun : (f row).runId = row.runId)
    (h : l'.reservations = l.reservations.modify id f) :
    (l'.reads runId amount + if row.runId = runId then amount row else 0) =
      l.reads runId amount + if row.runId = runId then amount (f row) else 0 := by
  have := Table.sumBy_modify there f
    fun _ row => if row.runId = runId then amount row else 0
  rw [reads, h, reads]
  simp only [hrun] at this
  exact this

theorem models_insert {row : ModelReservationRow} {amount : ModelReservationRow → ℕ}
    (free : l.modelReservations.get? id = none)
    (h : l'.modelReservations = l.modelReservations.insert id row) :
    l'.models runId amount =
      l.models runId amount + if row.runId = runId then amount row else 0 := by
  rw [models, h, Table.sumBy_insert _ free]
  rfl

theorem models_modify {row : ModelReservationRow}
    {f : ModelReservationRow → ModelReservationRow}
    {amount : ModelReservationRow → ℕ}
    (there : l.modelReservations.get? id = some row)
    (hrun : (f row).runId = row.runId)
    (h : l'.modelReservations = l.modelReservations.modify id f) :
    (l'.models runId amount + if row.runId = runId then amount row else 0) =
      l.models runId amount + if row.runId = runId then amount (f row) else 0 := by
  have := Table.sumBy_modify there f
    fun _ row => if row.runId = runId then amount row else 0
  rw [models, h, models]
  simp only [hrun] at this
  exact this

theorem le_reads {row : ReservationRow} {amount : ReservationRow → ℕ}
    (there : l.reservations.get? id = some row) :
    amount row ≤ l.reads row.runId amount := by
  have := Table.le_sumBy there fun _ r =>
    if r.runId = row.runId then amount r else 0
  rw [if_pos rfl] at this
  exact this

theorem le_models {row : ModelReservationRow} {amount : ModelReservationRow → ℕ}
    (there : l.modelReservations.get? id = some row) :
    amount row ≤ l.models row.runId amount := by
  have := Table.le_sumBy there fun _ r =>
    if r.runId = row.runId then amount r else 0
  rw [if_pos rfl] at this
  exact this

theorem reads_eq_zero
    (h : ∀ id row, l.reservations.get? id = some row → row.runId ≠ runId) :
    l.reads runId amount = 0 := by
  refine (@Table.sumBy_congr _ _ _ _ .empty _ fun k => ?_).trans rfl
  cases hrow : l.reservations.get? k with
  | none => rfl
  | some row => exact if_neg (h k row hrow)

theorem models_eq_zero {amount : ModelReservationRow → ℕ}
    (h : ∀ id row, l.modelReservations.get? id = some row → row.runId ≠ runId) :
    l.models runId amount = 0 := by
  refine (@Table.sumBy_congr _ _ _ _ .empty _ fun k => ?_).trans rfl
  cases hrow : l.modelReservations.get? k with
  | none => rfl
  | some row => exact if_neg (h k row hrow)

/-! ### Every move keeps the ledger sound -/

theorem SoundRow.frame
    (h : l.SoundRow cfg runId plan b) (hactive : l'.active runId = l.active runId)
    (hreads : ∀ amount, l'.reads runId amount = l.reads runId amount)
    (hmodels : ∀ amount, l'.models runId amount = l.models runId amount) :
    l'.SoundRow cfg runId plan b where
  run := h.run
  active := hactive.trans h.active
  planDigest := h.planDigest
  limits := h.limits
  balanced :=
    { reserved := (hreads _).symm ▸ h.balanced.reserved
      input := (hreads _).symm ▸ h.balanced.input
      toolRequests := (hreads _).symm ▸ h.balanced.toolRequests
      modelRequests := (hmodels _).symm ▸ h.balanced.modelRequests
      output := (hmodels _).symm ▸ h.balanced.output
      tokens := (hmodels _).symm ▸ h.balanced.tokens
      cost := (hmodels _).symm ▸ h.balanced.cost }
  within :=
    { input := h.within.input
      output := (hmodels _).symm ▸ h.within.output
      tokens := (hmodels _).symm ▸ h.within.tokens
      cost := (hmodels _).symm ▸ h.within.cost
      toolRequests := h.within.toolRequests
      modelRequests := h.within.modelRequests }

theorem SoundRows.modify {r : String} {f : BudgetRow → BudgetRow}
    (h : l.SoundRows cfg) (hactive : l'.active = l.active)
    (hbudgets : ∀ runId, l'.budgets.get? runId =
      if runId = r then (l.budgets.get? runId).map f else l.budgets.get? runId)
    (hreads : ∀ runId, runId ≠ r → ∀ amount, l'.reads runId amount = l.reads runId amount)
    (hmodels : ∀ runId, runId ≠ r → ∀ amount,
      l'.models runId amount = l.models runId amount)
    (own : ∀ plan b, l.budgets.get? r = some b → l.SoundRow cfg r plan b →
      l'.SoundRow cfg r plan (f b)) : l'.SoundRows cfg := by
  intro runId b hb
  rw [hbudgets] at hb
  split at hb
  · next hr =>
      subst hr
      obtain ⟨old, hold, rfl⟩ := Option.map_eq_some_iff.mp hb
      obtain ⟨plan, hplan⟩ := h _ old hold
      exact ⟨plan, own plan old hold hplan⟩
  · next hr =>
      obtain ⟨plan, hplan⟩ := h _ b hb
      exact ⟨plan, hplan.frame (by rw [hactive]) (hreads _ hr) (hmodels _ hr)⟩

theorem SoundRows.activate (h : l.SoundRows cfg) (tied : l.Tied) (plan : RunPlan)
    (b : BudgetRow) (free : l.budgets.get? plan.metadata.runId = none)
    (fresh : FreshBudget plan (cfg.recordDigest (.runPlan plan)) b)
    (hactive : l'.active = Function.update l.active plan.metadata.runId
      (some (plan.metadata.id, some (cfg.recordDigest (.runPlan plan)))))
    (hbudgets : l'.budgets = l.budgets.insert plan.metadata.runId b)
    (hreservations : l'.reservations = l.reservations)
    (hmodels : l'.modelReservations = l.modelReservations) :
    l'.SoundRows cfg := by
  have hreads : ∀ runId amount, l'.reads runId amount = l.reads runId amount := by
    intro runId amount
    rw [reads, hreservations, reads]
  have hsums : ∀ runId amount, l'.models runId amount = l.models runId amount := by
    intro runId amount
    rw [models, hmodels, models]
  have hnoRead : ∀ amount, l'.reads plan.metadata.runId amount = 0 := by
    refine fun amount => (hreads _ _).trans (reads_eq_zero fun id row hrow hrun => ?_)
    have := tied.readBudget id row hrow
    rw [hrun, free] at this
    cases this
  have hnoModel : ∀ amount, l'.models plan.metadata.runId amount = 0 := by
    refine fun amount => (hsums _ _).trans
      (models_eq_zero fun id row hrow hrun => ?_)
    have := tied.modelBudget id row hrow
    rw [hrun, free] at this
    cases this
  intro runId b' hb'
  rw [hbudgets, Table.get?_insert free] at hb'
  split at hb'
  · next hr =>
      cases hb'
      subst hr
      refine ⟨plan, rfl, ?_, fresh.planDigest, fresh.limits, ?_, ?_⟩
      · rw [hactive, Function.update_self]
      · constructor <;> simp only [hnoRead, hnoModel, fresh.reservedInputBytes,
          fresh.inputBytes, fresh.toolRequests, fresh.modelRequests,
          fresh.outputBytes, fresh.totalTokens, fresh.costMicrousd, Nat.add_zero]
      · constructor <;> simp only [hnoModel, fresh.reservedInputBytes,
          fresh.inputBytes, fresh.toolRequests, fresh.modelRequests,
          fresh.outputBytes, fresh.totalTokens, fresh.costMicrousd, fresh.limits,
          Nat.add_zero, Nat.zero_le]
        exact fresh.fits
  · next hr =>
      obtain ⟨plan', hplan⟩ := h _ _ hb'
      refine ⟨plan', hplan.frame ?_ (hreads _) (hsums _)⟩
      rw [hactive, Function.update_of_ne hr]

/-- A change of one read reservation of run `r`: an amount goes from `before` to
`after`, and the budget of the run follows it. -/
theorem SoundRows.read {r : String} {before after : (ReservationRow → ℕ) → ℕ}
    {f : BudgetRow → BudgetRow} (h : l.SoundRows cfg)
    (hactive : l'.active = l.active)
    (hbudgets : ∀ runId, l'.budgets.get? runId =
      if runId = r then (l.budgets.get? runId).map f else l.budgets.get? runId)
    (hmodels : l'.modelReservations = l.modelReservations)
    (hreads : ∀ runId amount,
      (l'.reads runId amount + if r = runId then before amount else 0) =
        l.reads runId amount + if r = runId then after amount else 0)
    (own : ∀ plan b, l.budgets.get? r = some b → l.SoundRow cfg r plan b →
      (∀ amount, l'.reads r amount + before amount = l.reads r amount + after amount) →
      (∀ amount, l'.models r amount = l.models r amount) →
      l'.SoundRow cfg r plan (f b)) : l'.SoundRows cfg := by
  have hsums : ∀ runId amount, l'.models runId amount = l.models runId amount := by
    intro runId amount
    rw [models, hmodels, models]
  refine h.modify hactive hbudgets (fun runId hr amount => ?_)
    (fun runId _ => hsums runId)
    fun plan b hb hplan => own plan b hb hplan ?_ (hsums _)
  · have := hreads runId amount
    rw [if_neg hr.symm, if_neg hr.symm] at this
    exact this
  · intro amount
    have := hreads r amount
    rw [if_pos rfl, if_pos rfl] at this
    exact this

theorem SoundRows.model {r : String} {before after : (ModelReservationRow → ℕ) → ℕ}
    {f : BudgetRow → BudgetRow} (h : l.SoundRows cfg)
    (hactive : l'.active = l.active)
    (hbudgets : ∀ runId, l'.budgets.get? runId =
      if runId = r then (l.budgets.get? runId).map f else l.budgets.get? runId)
    (hreads : l'.reservations = l.reservations)
    (hmodels : ∀ runId amount,
      (l'.models runId amount + if r = runId then before amount else 0) =
        l.models runId amount + if r = runId then after amount else 0)
    (own : ∀ plan b, l.budgets.get? r = some b → l.SoundRow cfg r plan b →
      (∀ amount, l'.reads r amount = l.reads r amount) →
      (∀ amount, l'.models r amount + before amount = l.models r amount + after amount) →
      l'.SoundRow cfg r plan (f b)) : l'.SoundRows cfg := by
  have hsums : ∀ runId amount, l'.reads runId amount = l.reads runId amount := by
    intro runId amount
    rw [reads, hreads, reads]
  refine h.modify hactive hbudgets (fun runId _ => hsums runId)
    (fun runId hr amount => ?_)
    fun plan b hb hplan => own plan b hb hplan (hsums _) ?_
  · have := hmodels runId amount
    rw [if_neg hr.symm, if_neg hr.symm] at this
    exact this
  · intro amount
    have := hmodels r amount
    rw [if_pos rfl, if_pos rfl] at this
    exact this

theorem SoundRow.reserveRead {now : Stamp} (h : l.SoundRow cfg runId plan b)
    (hactive : l'.active = l.active) (state : row.state = .reserved)
    (tools : b.toolRequests + 1 ≤ b.limits.maxToolRequests)
    (room : b.inputBytes + b.reservedInputBytes + row.reservedInputBytes ≤
      b.limits.maxInputBytes)
    (hreads : ∀ amount, l'.reads runId amount + 0 = l.reads runId amount + amount row)
    (hmodels : ∀ amount, l'.models runId amount = l.models runId amount) :
    l'.SoundRow cfg runId plan { b with
      toolRequests := b.toolRequests + 1
      reservedInputBytes := b.reservedInputBytes + row.reservedInputBytes
      updatedAt := now } := by
  have hheld : row.held = row.reservedInputBytes := if_pos state
  have hspent : row.spent = 0 := if_neg (by rw [state]; decide)
  obtain ⟨hrun, hact, hdigest, hlimits, hbalanced, hwithin⟩ := h
  refine ⟨hrun, (congrFun hactive runId).trans hact, hdigest, hlimits, ?_, ?_⟩
  · have h₁ := hreads (·.held)
    have h₂ := hreads (·.spent)
    have h₃ := hreads fun _ => 1
    rw [hheld] at h₁
    rw [hspent] at h₂
    have := hbalanced.reserved
    have := hbalanced.input
    have := hbalanced.toolRequests
    exact
      { reserved := by simp only; omega
        input := by simp only; omega
        toolRequests := by simp only; omega
        modelRequests := hbalanced.modelRequests.trans (hmodels _).symm
        output := hbalanced.output.trans (hmodels _).symm
        tokens := hbalanced.tokens.trans (hmodels _).symm
        cost := hbalanced.cost.trans (hmodels _).symm }
  · exact
      { input := by simp only; omega
        output := (hmodels _).symm ▸ hwithin.output
        tokens := (hmodels _).symm ▸ hwithin.tokens
        cost := (hmodels _).symm ▸ hwithin.cost
        toolRequests := tools
        modelRequests := hwithin.modelRequests }

theorem SoundRow.settleRead {row row' : ReservationRow} {plan : RunPlan}
    {b : BudgetRow} {now : Stamp} {spent : ℕ} (h : l.SoundRow cfg runId plan b)
    (hactive : l'.active = l.active) (state : row.state = .reserved)
    (held : row.reservedInputBytes ≤ l.reads runId (·.held))
    (closed : row'.held = 0) (charged : row'.spent = spent)
    (fits : spent ≤ row.reservedInputBytes)
    (hreads : ∀ amount, l'.reads runId amount + amount row =
      l.reads runId amount + amount row')
    (hmodels : ∀ amount, l'.models runId amount = l.models runId amount) :
    l'.SoundRow cfg runId plan { b with
      reservedInputBytes := b.reservedInputBytes - row.reservedInputBytes
      inputBytes := b.inputBytes + spent
      updatedAt := now } := by
  have hheld : row.held = row.reservedInputBytes := if_pos state
  have hspent : row.spent = 0 := if_neg (by rw [state]; decide)
  obtain ⟨hrun, hact, hdigest, hlimits, hbalanced, hwithin⟩ := h
  have hreserved := hbalanced.reserved
  refine ⟨hrun, (congrFun hactive runId).trans hact, hdigest, hlimits, ?_, ?_⟩
  · have h₁ := hreads (·.held)
    have h₂ := hreads (·.spent)
    have h₃ := hreads fun _ => 1
    rw [hheld, closed] at h₁
    rw [hspent, charged] at h₂
    have := hbalanced.input
    have := hbalanced.toolRequests
    exact
      { reserved := by simp only; omega
        input := by simp only; omega
        toolRequests := by simp only; omega
        modelRequests := hbalanced.modelRequests.trans (hmodels _).symm
        output := hbalanced.output.trans (hmodels _).symm
        tokens := hbalanced.tokens.trans (hmodels _).symm
        cost := hbalanced.cost.trans (hmodels _).symm }
  · have := hwithin.input
    exact
      { input := by simp only; omega
        output := (hmodels _).symm ▸ hwithin.output
        tokens := (hmodels _).symm ▸ hwithin.tokens
        cost := (hmodels _).symm ▸ hwithin.cost
        toolRequests := hwithin.toolRequests
        modelRequests := hwithin.modelRequests }

open ModelReservationRow in
theorem SoundRow.openModel {row : ModelReservationRow}
    {now : Stamp} (h : l.SoundRow cfg runId plan b)
    (hactive : l'.active = l.active) (state : row.state = .reserved)
    (requests : b.modelRequests + 1 ≤ b.limits.maxModelRequests)
    (output : b.outputBytes + l.models runId (held (·.reservedOutputBytes)) +
      row.reservedOutputBytes ≤ b.limits.maxOutputBytes)
    (tokens : b.totalTokens + l.models runId (held (·.reservedTotalTokens)) +
      row.reservedTotalTokens ≤ b.limits.maxTotalTokens)
    (cost : b.costMicrousd + l.models runId (held (·.reservedCostMicrousd)) +
      row.reservedCostMicrousd ≤ b.limits.maxCostMicrousd)
    (hreads : ∀ amount, l'.reads runId amount = l.reads runId amount)
    (hmodels : ∀ amount, l'.models runId amount + 0 = l.models runId amount + amount row) :
    l'.SoundRow cfg runId plan { b with
      modelRequests := b.modelRequests + 1
      updatedAt := now } := by
  have hheld : ∀ amount, held amount row = amount row := fun _ => if_pos state
  have hcharged : ∀ amount, charged amount row = 0 := fun _ => if_pos state
  obtain ⟨hrun, hact, hdigest, hlimits, hbalanced, hwithin⟩ := h
  refine ⟨hrun, (congrFun hactive runId).trans hact, hdigest, hlimits, ?_, ?_⟩
  · have hone := hmodels fun _ => 1
    have := hbalanced.modelRequests
    have hsame : ∀ amount, l.models runId (charged amount) =
        l'.models runId (charged amount) := by
      intro amount
      have := hmodels (charged amount)
      rw [hcharged] at this
      exact this.symm
    exact
      { reserved := hbalanced.reserved.trans (hreads _).symm
        input := (hreads _).symm ▸ hbalanced.input
        toolRequests := hbalanced.toolRequests.trans (hreads _).symm
        modelRequests := by simp only; omega
        output := hbalanced.output.trans (hsame _)
        tokens := hbalanced.tokens.trans (hsame _)
        cost := hbalanced.cost.trans (hsame _) }
  · have hsum : ∀ amount, l'.models runId (held amount) =
        l.models runId (held amount) + amount row := by
      intro amount
      have := hmodels (held amount)
      rw [hheld] at this
      exact this
    exact
      { input := hwithin.input
        output := by rw [hsum, ← Nat.add_assoc]; exact output
        tokens := by rw [hsum, ← Nat.add_assoc]; exact tokens
        cost := by rw [hsum, ← Nat.add_assoc]; exact cost
        toolRequests := hwithin.toolRequests
        modelRequests := requests }

open ModelReservationRow in
theorem SoundRow.settleModel {row settled : ModelReservationRow} {plan : RunPlan}
    {b : BudgetRow} {output tokens cost : ℕ} {now : Stamp}
    (h : l.SoundRow cfg runId plan b) (hactive : l'.active = l.active)
    (state : row.state = .reserved) (settles : row.Settles settled output tokens cost)
    (hreads : ∀ amount, l'.reads runId amount = l.reads runId amount)
    (hmodels : ∀ amount, l'.models runId amount + amount row =
      l.models runId amount + amount settled) :
    l'.SoundRow cfg runId plan { b with
      outputBytes := b.outputBytes + output
      totalTokens := b.totalTokens + tokens
      costMicrousd := b.costMicrousd + cost
      updatedAt := now } := by
  obtain ⟨hrun, hact, hdigest, hlimits, hbalanced, hwithin⟩ := h
  have hcharge : ∀ amount, l'.models runId (charged amount) =
      l.models runId (charged amount) + (amount settled).getD 0 := by
    intro amount
    have := hmodels (charged amount)
    rw [show charged amount row = 0 from if_pos state,
      show charged amount settled = (amount settled).getD 0 from
        if_neg settles.closed] at this
    exact this
  have hrelease : ∀ amount, l'.models runId (held amount) + amount row =
      l.models runId (held amount) := by
    intro amount
    have := hmodels (held amount)
    rw [show held amount row = amount row from if_pos state,
      show held amount settled = 0 from if_neg settles.closed] at this
    exact this
  refine ⟨hrun, (congrFun hactive runId).trans hact, hdigest, hlimits, ?_, ?_⟩
  · have hone := hmodels fun _ => 1
    have := hbalanced.modelRequests
    exact
      { reserved := hbalanced.reserved.trans (hreads _).symm
        input := (hreads _).symm ▸ hbalanced.input
        toolRequests := hbalanced.toolRequests.trans (hreads _).symm
        modelRequests := by simp only; omega
        output := by rw [hcharge, settles.outputCharged, ← hbalanced.output]
        tokens := by rw [hcharge, settles.tokensCharged, ← hbalanced.tokens]
        cost := by rw [hcharge, settles.costCharged, ← hbalanced.cost] }
  · have h₁ := hrelease (·.reservedOutputBytes)
    have h₂ := hrelease (·.reservedTotalTokens)
    have h₃ := hrelease (·.reservedCostMicrousd)
    have := settles.outputLe
    have := settles.tokensLe
    have := settles.costLe
    have := hwithin.output
    have := hwithin.tokens
    have := hwithin.cost
    exact
      { input := hwithin.input
        output := by simp only; omega
        tokens := by simp only; omega
        cost := by simp only; omega
        toolRequests := hwithin.toolRequests
        modelRequests := hwithin.modelRequests }

theorem SoundRows.move (h : l.SoundRows cfg) (tied : l.Tied)
    (move : l.Move cfg l') : l'.SoundRows cfg := by
  cases move with
  | activate plan b free fresh =>
    exact h.activate tied plan b free fresh rfl rfl rfl rfl
  | reserveRead id row b now budget free state tools room =>
    refine @Ledger.SoundRows.read _ _ _ row.runId (fun _ => 0)
      (fun amount => amount row) _ h rfl (fun runId => Table.get?_modify _ _ _ _) rfl ?_
      ?_
    · intro runId amount
      rw [reads_insert free rfl, ite_self, Nat.add_zero]
    · intro plan b' hb' hplan hreads hmodels
      cases budget.symm.trans hb'
      exact hplan.reserveRead rfl state tools room hreads hmodels
  | commitRead id row now there state =>
    refine @Ledger.SoundRows.read _ _ _ row.runId (fun amount => amount row)
      (fun amount => amount (row.commit now)) _ h rfl
      (fun runId => Table.get?_modify _ _ _ _) rfl ?_ ?_
    · intro runId amount
      exact reads_modify (f := .commit now) there rfl rfl
    · intro plan b _ hplan hreads hmodels
      have hle := @Ledger.le_reads _ _ _ (·.held) there
      rw [show row.held = row.reservedInputBytes from if_pos state] at hle
      exact hplan.settleRead rfl state hle rfl rfl le_rfl hreads hmodels
  | releaseRead id row now there state =>
    refine @Ledger.SoundRows.read _ _ _ row.runId (fun amount => amount row)
      (fun amount => amount (row.release now)) _ h rfl
      (fun runId => Table.get?_modify _ _ _ _) rfl ?_ ?_
    · intro runId amount
      exact reads_modify (f := .release now) there rfl rfl
    · intro plan b _ hplan hreads hmodels
      have hle := @Ledger.le_reads _ _ _ (·.held) there
      rw [show row.held = row.reservedInputBytes from if_pos state] at hle
      exact @Ledger.SoundRow.settleRead _ _ _ _ _ _ _ _ _ 0 hplan rfl state hle rfl rfl
        (Nat.zero_le _) hreads hmodels
  | openModel id row b now budget free state requests output tokens cost =>
    refine @Ledger.SoundRows.model _ _ _ row.runId (fun _ => 0)
      (fun amount => amount row) _ h rfl (fun runId => Table.get?_modify _ _ _ _) rfl ?_
      ?_
    · intro runId amount
      rw [models_insert free rfl, ite_self, Nat.add_zero]
    · intro plan b' hb' hplan hreads hmodels
      cases budget.symm.trans hb'
      exact hplan.openModel rfl state requests output tokens cost hreads hmodels
  | settleModel id row settle output tokens cost now there state settles =>
    refine @Ledger.SoundRows.model _ _ _ row.runId (fun amount => amount row)
      (fun amount => amount (settle row)) _ h rfl
      (fun runId => Table.get?_modify _ _ _ _) rfl ?_ ?_
    · intro runId amount
      exact models_modify there settles.run rfl
    · intro plan b _ hplan hreads hmodels
      exact hplan.settleModel rfl state settles hreads hmodels
  | waiveModel id row settle there state settles =>
    refine @Ledger.SoundRows.model _ _ _ row.runId (fun amount => amount row)
      (fun amount => amount (settle row)) (fun b => b) h rfl ?_ rfl ?_ ?_
    · intro runId
      split
      · exact Option.map_id'.symm
      · rfl
    · intro runId amount
      exact models_modify there settles.run rfl
    · intro plan b _ hplan hreads hmodels
      exact @Ledger.SoundRow.settleModel _ _ { l with
          modelReservations := l.modelReservations.modify id settle } _ _ _ _ _ _ _ _ _
        hplan rfl state settles hreads hmodels

/-! ### The tables stay tied -/

theorem isSome_modify {budgets : Table String BudgetRow} {r : String}
    {f : BudgetRow → BudgetRow} (h : (budgets.get? runId).isSome) :
    ((budgets.modify r f).get? runId).isSome := by
  rw [Table.get?_modify]
  split
  · rwa [Option.isSome_map]
  · exact h

theorem run_of_modify {ρ : Type} {t : Table String ρ} {run : ρ → String}
    {k : String} {r row : ρ} {f : ρ → ρ} (there : t.get? k = some r)
    (hrun : run (f r) = run r) (h : (t.modify k f).get? id = some row) :
    ∃ old, t.get? id = some old ∧ run row = run old := by
  rw [Table.get?_modify] at h
  split at h
  · next hid =>
      subst hid
      rw [there, Option.map_some] at h
      cases h
      exact ⟨r, there, hrun⟩
  · exact ⟨row, h, rfl⟩

theorem map_run_modify {ρ : Type} {t : Table String ρ} {run : ρ → String}
    {k : String} {r : ρ} {f : ρ → ρ} (there : t.get? k = some r)
    (hrun : run (f r) = run r) :
    ((t.modify k f).get? id).map run = (t.get? id).map run := by
  rw [Table.get?_modify]
  split
  · next hid =>
      subst hid
      rw [there, Option.map_some, Option.map_some, Option.map_some, hrun]
  · rfl

theorem map_run_insert {ρ : Type} {t : Table String ρ} {run : ρ → String}
    {k : String} {r : ρ} {runs : String → Option String}
    (h : ∀ id, runs id = (t.get? id).map run) (free : t.get? k = none) :
    Function.update runs k (some (run r)) id = ((t.insert k r).get? id).map run := by
  rw [Table.get?_insert free, Function.update_apply]
  split
  · rfl
  exact h id

theorem Tied.move (h : l.Tied) (move : l.Move cfg l') : l'.Tied := by
  cases move with
  | activate plan b free fresh =>
    have hkeep : ∀ runId, (l.budgets.get? runId).isSome →
        ((l.budgets.insert plan.metadata.runId b).get? runId).isSome := by
      intro runId hsome
      rw [Table.get?_insert free]
      split
      · rfl
      exact hsome
    refine ⟨?_, fun id row hrow => hkeep _ (h.readBudget id row hrow),
      fun id row hrow => hkeep _ (h.modelBudget id row hrow), h.readRun, h.modelRun⟩
    intro runId hactive
    by_cases hr : runId = plan.metadata.runId
    · simp only [Table.get?_insert free, if_pos hr, Option.isSome_some]
    · simp only [Function.update_of_ne hr] at hactive
      exact hkeep runId (h.active runId hactive)
  | reserveRead id row b now budget free state tools room =>
    refine ⟨fun runId ha => isSome_modify (h.active runId ha), ?_,
      fun id row hrow => isSome_modify (h.modelBudget id row hrow),
      fun id => map_run_insert h.readRun free, h.modelRun⟩
    intro id' row' hrow'
    refine isSome_modify ?_
    simp only [Table.get?_insert free] at hrow'
    split at hrow'
    · cases hrow'
      rw [budget]
      rfl
    · exact h.readBudget id' row' hrow'
  | commitRead id row now there state | releaseRead id row now there state =>
    refine ⟨fun runId ha => isSome_modify (h.active runId ha), ?_,
      fun id row hrow => isSome_modify (h.modelBudget id row hrow),
      fun id => (h.readRun id).trans (map_run_modify there rfl).symm, h.modelRun⟩
    intro id' row' hrow'
    obtain ⟨old, hold, hrun⟩ := @Ledger.run_of_modify _ _ _ (·.runId) _ _ _ _ there rfl
      hrow'
    rw [hrun]
    exact isSome_modify (h.readBudget id' old hold)
  | openModel id row b now budget free state requests output tokens cost =>
    refine ⟨fun runId ha => isSome_modify (h.active runId ha),
      fun id row hrow => isSome_modify (h.readBudget id row hrow), ?_, h.readRun,
      fun id => map_run_insert h.modelRun free⟩
    intro id' row' hrow'
    refine isSome_modify ?_
    simp only [Table.get?_insert free] at hrow'
    split at hrow'
    · cases hrow'
      rw [budget]
      rfl
    · exact h.modelBudget id' row' hrow'
  | settleModel id row settle output tokens cost now there state settles =>
    refine ⟨fun runId ha => isSome_modify (h.active runId ha),
      fun id row hrow => isSome_modify (h.readBudget id row hrow), ?_, h.readRun,
      fun id => (h.modelRun id).trans (map_run_modify there settles.run).symm⟩
    intro id' row' hrow'
    obtain ⟨old, hold, hrun⟩ :=
      run_of_modify there settles.run hrow'
    rw [hrun]
    exact isSome_modify (h.modelBudget id' old hold)
  | waiveModel id row settle there state settles =>
    refine ⟨h.active, h.readBudget, ?_, h.readRun,
      fun id => (h.modelRun id).trans (map_run_modify there settles.run).symm⟩
    intro id' row' hrow'
    obtain ⟨old, hold, hrun⟩ :=
      run_of_modify there settles.run hrow'
    rw [hrun]
    exact h.modelBudget id' old hold

/-- **The step.**  Every move keeps the ledger sound. -/
theorem Sound.move (h : l.Sound cfg) (move : l.Move cfg l') : l'.Sound cfg where
  toTied := h.toTied.move move
  rows := h.rows.move h.toTied move

end Ledger

end Ecosystem.Store
