import Mathlib

/-!
# Loop contracts

The frozen records of `eco_loops/contracts.py` carry what their `__post_init__` checked.
A checkpoint is the bare record, because the SQLite journal holds its columns before any
check; `LoopCheckpoint.invalid` is the check of every construction.

The stagnation counter is an integer: `transition` takes it from its caller.
-/

namespace Ecosystem.Loops

/-! ## Patterns and errors -/

/-- `^[a-z][a-z0-9-]{0,63}$`, matched in full. -/
def matchesLoopId (s : String) : Bool :=
  match s.toList with
  | [] => false
  | c :: cs =>
    c.isLower && cs.length ≤ 63 &&
      cs.all fun c => c.isLower || c.isDigit || c == '-'

/-- `^ECO_[A-Z0-9_]{1,95}$`, matched in full. -/
def matchesCode (s : String) : Bool :=
  "ECO_".toList.isPrefixOf s.toList &&
    let rest := s.toList.drop 4
    1 ≤ rest.length && rest.length ≤ 95 &&
      rest.all fun c => c.isUpper || c.isDigit || c == '_'

/-- `^[0-9a-f]{64}$`, matched in full. -/
def matchesDigest (s : String) : Bool :=
  s.toList.length = 64 &&
    s.toList.all fun c => c.isDigit || ('a' ≤ c && c ≤ 'f')

inductive LoopError
  | contract (code message : String)
  | engine (code message : String)
  /-- an integer that SQLite cannot bind -/
  | overflow
  /-- a text that `sqlite3` cannot bind -/
  | unicodeEncode
  /-- an exception of the caller's clock -/
  | clock

/-! ## States -/

inductive LoopState
  | new | ready | running | gating | retryWait
  | succeeded | failed | exhausted | cancelled
deriving DecidableEq

/-- `TERMINAL_STATES`. -/
def LoopState.isTerminal : LoopState → Bool
  | .succeeded | .failed | .exhausted | .cancelled => true
  | _ => false

def transitions : LoopState → List LoopState
  | .new => [.ready, .cancelled]
  | .ready => [.running, .cancelled, .exhausted]
  | .running => [.gating, .retryWait, .failed, .cancelled, .exhausted]
  | .gating => [.succeeded, .retryWait, .failed, .cancelled, .exhausted]
  | .retryWait => [.running, .cancelled, .exhausted]
  | .succeeded | .failed | .exhausted | .cancelled => []

def transitionAllowed (current target : LoopState) : Bool :=
  target ∈ transitions current

theorem not_terminal_of_transitionAllowed {current target : LoopState}
    (h : transitionAllowed current target = true) :
    current.isTerminal = false := by
  cases current <;> first | rfl | simp [transitionAllowed, transitions] at h

/-! ## Definitions -/

structure LoopBudget where
  maxAttempts : ℕ
  maxIterations : ℕ
  deadline : ℤ
  maxTokens : ℕ
  maxCostMicrousd : ℕ
  maxStorageBytes : ℕ
  reserveTokensPerAttempt : ℕ := 0
  reserveCostMicrousdPerAttempt : ℕ := 0
  reserveStorageBytesPerAttempt : ℕ := 0
  attempts_pos : 1 ≤ maxAttempts
  iterations_pos : 1 ≤ maxIterations
  tokens_fit : reserveTokensPerAttempt ≤ maxTokens
  cost_fits : reserveCostMicrousdPerAttempt ≤ maxCostMicrousd
  storage_fits : reserveStorageBytesPerAttempt ≤ maxStorageBytes

structure RetryPolicy where
  allowedReasonCodes : Finset String := ∅
  maxStagnantIterations : ℕ := 2
  stagnant_pos : 1 ≤ maxStagnantIterations
  codes_safe : ∀ code ∈ allowedReasonCodes, matchesCode code = true

inductive SideEffectMode
  | noEffect | reportOnly

structure LoopDefinition where
  loopId : String
  version : String
  objectiveDigest : String
  gateDigest : String
  profile : String
  sideEffectMode : SideEffectMode
  deterministic : Bool
  executable : Bool
  budget : LoopBudget
  retry : RetryPolicy
  stateOutline : List LoopState :=
    [.ready, .running, .gating, .retryWait, .succeeded, .failed, .exhausted, .cancelled]
  loopId_ok : matchesLoopId loopId = true
  version_ok : version ≠ "" ∧ version.length ≤ 32
  digests_ok : matchesDigest objectiveDigest = true ∧
    matchesDigest gateDigest = true
  profile_ok : profile ≠ "" ∧ profile.length ≤ 128
  outline_ok : stateOutline.Nodup

/-! ## Results of an attempt and of a gate -/

inductive AttemptOutcome
  | candidate | retryableError | fatalError
deriving DecidableEq

structure AttemptResult where
  outcome : AttemptOutcome
  reasonCode : String
  candidateDigest : String
  evidenceDigest : String
  code_ok : matchesCode reasonCode = true
  digests_ok : matchesDigest candidateDigest = true ∧
    matchesDigest evidenceDigest = true
deriving DecidableEq

inductive GateVerdict
  | pass | fail
deriving DecidableEq

structure GateOutcome where
  outcome : GateVerdict
  reasonCode : String
  progressDigest : String
  evidenceDigest : String
  code_ok : matchesCode reasonCode = true
  digests_ok : matchesDigest progressDigest = true ∧
    matchesDigest evidenceDigest = true

/-! ## Usage and checkpoints -/

structure LoopUsage where
  attempts : ℕ := 0
  iterations : ℕ := 0
  tokens : ℕ := 0
  costMicrousd : ℕ := 0
  storageBytes : ℕ := 0
deriving DecidableEq

/-- No counter of the first usage exceeds that of the second. -/
structure LoopUsage.Le (a b : LoopUsage) : Prop where
  attempts : a.attempts ≤ b.attempts
  iterations : a.iterations ≤ b.iterations
  tokens : a.tokens ≤ b.tokens
  costMicrousd : a.costMicrousd ≤ b.costMicrousd
  storageBytes : a.storageBytes ≤ b.storageBytes

instance : LE LoopUsage := ⟨LoopUsage.Le⟩

theorem LoopUsage.le_refl (a : LoopUsage) : a ≤ a :=
  ⟨Nat.le_refl _, Nat.le_refl _, Nat.le_refl _, Nat.le_refl _, Nat.le_refl _⟩

theorem LoopUsage.le_trans {a b c : LoopUsage} (hab : a ≤ b) (hbc : b ≤ c) : a ≤ c :=
  ⟨hab.attempts.trans hbc.attempts, hab.iterations.trans hbc.iterations,
    hab.tokens.trans hbc.tokens, hab.costMicrousd.trans hbc.costMicrousd,
    hab.storageBytes.trans hbc.storageBytes⟩

instance (a b : LoopUsage) : Decidable (a ≤ b) :=
  decidable_of_iff
    (a.attempts ≤ b.attempts ∧ a.iterations ≤ b.iterations ∧
      a.tokens ≤ b.tokens ∧ a.costMicrousd ≤ b.costMicrousd ∧
      a.storageBytes ≤ b.storageBytes)
    ⟨fun ⟨h1, h2, h3, h4, h5⟩ => ⟨h1, h2, h3, h4, h5⟩,
      fun ⟨h1, h2, h3, h4, h5⟩ => ⟨h1, h2, h3, h4, h5⟩⟩

structure LoopCheckpoint where
  runId : String
  definitionDigest : String
  state : LoopState
  sequence : ℕ
  usage : LoopUsage
  lastProgressDigest : Option String := none
  stagnantIterations : ℤ := 0
  terminalReason : Option String := none
  headDigest : Option String := none
deriving DecidableEq

/-- `LoopCheckpoint.__post_init__`: the error of a record that may not exist. -/
def LoopCheckpoint.invalid (cp : LoopCheckpoint) : Option LoopError :=
  if !matchesLoopId cp.runId then
    some (.contract "ECO_LOOP_CHECKPOINT_INVALID" "run id is invalid")
  else if !matchesDigest cp.definitionDigest then
    some (.contract "ECO_LOOP_CHECKPOINT_INVALID" "definition digest is invalid")
  else if cp.stagnantIterations < 0 then
    some (.contract "ECO_LOOP_DEFINITION_INVALID"
      "stagnant_iterations must be a non-negative integer")
  else if !cp.lastProgressDigest.all matchesDigest then
    some (.contract "ECO_LOOP_CHECKPOINT_INVALID" "progress digest is invalid")
  else if !cp.terminalReason.all matchesCode then
    some (.contract "ECO_LOOP_CHECKPOINT_INVALID" "terminal reason is unsafe")
  else if !cp.headDigest.all matchesDigest then
    some (.contract "ECO_LOOP_CHECKPOINT_INVALID" "checkpoint head is invalid")
  else
    none

end Ecosystem.Loops
