import Ecosystem.Admission.Extraction
import Ecosystem.Lib.Checks
import Ecosystem.Lib.Json

/-!
# The evaluation harness

`harness.py`: a run first judges the grader of the calibration on a good and on a broken
output, and then grades the tasks, each with the grader that the task names itself.

A run reports the calls of graders that it made.  The digest of a suite leaves the
configurations and the outputs of the calibration out.  Digests, and the quotient of two
numbers as a float, are parameters.
-/

namespace Ecosystem.Evaluation

open Ecosystem.Lib Ecosystem.Lib.Checks

/-! ## Graders -/

inductive Failure
  /-- `EvalError`. -/
  | eval (code : String)
  | typeError
  | recursion

section Graders

variable {Φ : Type}

abbrev Config (Φ : Type) := List (String × Json Φ)

abbrev Grader (Φ : Type) := String → Config Φ → Except Failure Bool

def gradeExactMatch : Grader Φ := fun output config =>
  match config.lookup "expected" with
  | none => .ok (output = "")
  | some (.str expected) => .ok (output = expected)
  | some _ => .ok false

def gradeContains : Grader Φ := fun output config =>
  match config.lookup "substring" with
  | some (.str needle) =>
    .ok (needle ≠ "" && (cutFirst needle.toList output.toList).isSome)
  | _ => .ok false

def gradeNonEmpty : Grader Φ := fun output _ => .ok (strip output.toList ≠ [])

def codePoints (s : String) : CodePoints := s.toList.map Char.toNat

/-- `all(k in parsed for k in required)` over a list. -/
def allKeys (keys : List CodePoints) : List (Json Φ) → Except Failure Bool
  | [] => .ok true
  | .str k :: rest => if keys.contains (codePoints k) then allKeys keys rest else .ok false
  -- lists and dictionaries are not hashable
  | .arr _ :: _ => .error .typeError
  | .obj _ :: _ => .error .typeError
  | _ :: _ => .ok false

/-- `all(k in parsed for k in required)`: a text is iterated by character, a dictionary by
key. -/
def hasKeys (keys : List CodePoints) : Json Φ → Except Failure Bool
  | .arr required => allKeys keys required
  | .str required => .ok (required.toList.all fun c => keys.contains [c.toNat])
  | .obj required => .ok (required.all fun member => keys.contains (codePoints member.1))
  | _ => .error .typeError

def gradeJsonValid (recursionLimit : ℕ) : Grader Φ := fun output config =>
  match Admission.loads recursionLimit output.toList with
  | .error .value => .ok false
  | .error .recursion => .error .recursion
  | .ok parsed =>
    match config.lookup "requiredKeys" with
    | none | some .null => .ok true
    | some required =>
      match parsed with
      | .obj members => hasKeys (members.map Prod.fst) required
      | _ => .ok false

/-- `_grader`, of the graders in `_GRADERS`. -/
def grader (recursionLimit : ℕ) (graderId : String) : Except Failure (Grader Φ) :=
  if graderId = "exact-match" then .ok gradeExactMatch
  else if graderId = "contains" then .ok gradeContains
  else if graderId = "non-empty" then .ok gradeNonEmpty
  else if graderId = "json-valid" then .ok (gradeJsonValid recursionLimit)
  else .error (.eval "ECO_EVAL_GRADER_UNKNOWN")

end Graders

/-! ## Suites -/

/-- `_ID_RE`. -/
def isIdentifier (s : String) : Bool :=
  match s.toList with
  | [] => false
  | c :: rest => (c.isLower || c.isDigit) && rest.length ≤ 79 &&
      rest.all fun c => c.isLower || c.isDigit || ['.', '_', ':', '-'].contains c

/-- `_bounded_text`. -/
def isBounded (s : String) : Bool := s.utf8ByteSize ≤ 1000000

/-- `[0-9]+\.[0-9]+\.[0-9]+`. -/
def isVersion (s : String) : Bool :=
  let parts := s.toList.splitOn '.'
  parts.length = 3 && parts.all fun part => part ≠ [] && part.all Char.isDigit

structure EvalTask (Φ : Type) where
  id : String
  graderId : String
  inputText : String
  candidateOutput : String
  config : Config Φ
  valid : (isIdentifier id && isIdentifier graderId && isBounded inputText &&
    isBounded candidateOutput) = true

structure GraderCalibration (Φ : Type) where
  graderId : String
  goodOutput : String
  brokenOutput : String
  config : Config Φ
  valid : (isIdentifier graderId && isBounded goodOutput && isBounded brokenOutput) = true

structure EvalSuite (Φ : Type) where
  id : String
  version : String
  independence : ℕ
  threshold : ℚ
  calibration : GraderCalibration Φ
  tasks : List (EvalTask Φ)
  named : (isIdentifier id && isVersion version) = true
  votes : 1 ≤ independence ∧ independence ≤ 15
  share : 0 < threshold ∧ threshold ≤ 1
  size : 1 ≤ tasks.length ∧ tasks.length ≤ 256
  distinct : (tasks.map (·.id)).Nodup

structure TaskDocument where
  id : String
  graderId : String
  inputDigest : String

/-- What the digest of a suite is taken of. -/
structure SuiteDocument where
  id : String
  version : String
  independence : ℕ
  threshold : ℚ
  graderId : String
  tasks : List TaskDocument

/-- Digests, and `passed / total`. -/
structure Primitives (δ : Type) where
  textDigest : String → String
  suiteDigest : SuiteDocument → δ
  quotient : ℕ → ℕ → ℚ

section Runs

variable {Φ δ : Type} (recursionLimit : ℕ) (prims : Primitives δ)

def EvalTask.document (task : EvalTask Φ) : TaskDocument :=
  ⟨task.id, task.graderId, prims.textDigest task.inputText⟩

def EvalSuite.document (suite : EvalSuite Φ) : SuiteDocument where
  id := suite.id
  version := suite.version
  independence := suite.independence
  threshold := suite.threshold
  graderId := suite.calibration.graderId
  tasks := suite.tasks.map (·.document prims)

def EvalSuite.digest (suite : EvalSuite Φ) : δ := prims.suiteDigest (suite.document prims)

/-! ## `run_eval_suite` -/

inductive Purpose
  | good | broken
  | task (id : String)

structure GraderCall where
  graderId : String
  purpose : Purpose
  passed : Bool

def gradeWith (graderId output : String) (config : Config Φ) : Except Failure Bool := do
  let grade ← grader recursionLimit graderId
  grade output config

def EvalTask.grade (task : EvalTask Φ) : Except Failure Bool :=
  gradeWith recursionLimit task.graderId task.candidateOutput task.config

/-- `validate_judge`, with the calls that it made. -/
def GraderCalibration.validateJudge (c : GraderCalibration Φ) :
    Except Failure (List GraderCall) := do
  let good ← gradeWith recursionLimit c.graderId c.goodOutput c.config
  require good (.eval "ECO_EVAL_JUDGE_REJECTS_GOOD")
  let broken ← gradeWith recursionLimit c.graderId c.brokenOutput c.config
  require (!broken) (.eval "ECO_EVAL_JUDGE_ACCEPTS_BROKEN")
  return [⟨c.graderId, .good, good⟩, ⟨c.graderId, .broken, broken⟩]

structure TaskResult where
  id : String
  graderId : String
  inputDigest : String
  votesPass : ℕ
  votes : ℕ
  pass : Bool

structure EvalVerdict (δ : Type) where
  suiteId : String
  suiteDigest : δ
  judgeValidated : Bool
  passed : ℕ
  total : ℕ
  threshold : ℚ
  available : Bool
  taskResults : List TaskResult

/-- `[task.grade() for _ in range(independence)]`. -/
def EvalTask.vote (task : EvalTask Φ) (independence : ℕ) : Except Failure (List Bool) :=
  (List.replicate independence ()).mapM fun _ => task.grade recursionLimit

def taskResult (task : TaskDocument) (independence : ℕ) (votes : List Bool) : TaskResult where
  id := task.id
  graderId := task.graderId
  inputDigest := task.inputDigest
  votesPass := votes.count true
  votes := independence
  pass := votes.count true * 2 > independence

def verdictOf (document : SuiteDocument) (results : List TaskResult) : EvalVerdict δ :=
  let passed := results.countP (·.pass)
  { suiteId := document.id
    suiteDigest := prims.suiteDigest document
    judgeValidated := true
    passed := passed
    total := document.tasks.length
    threshold := document.threshold
    available := document.threshold ≤ prims.quotient passed document.tasks.length
    taskResults := results }

def gradedCalls (tasks : List (EvalTask Φ)) (ballots : List (List Bool)) : List GraderCall :=
  (List.zipWith (fun task votes => votes.map (GraderCall.mk task.graderId (.task task.id)))
    tasks ballots).flatten

def runEvalSuite (suite : EvalSuite Φ) :
    Except Failure (EvalVerdict δ × List GraderCall) := do
  let judged ← suite.calibration.validateJudge recursionLimit
  let ballots ← suite.tasks.mapM (·.vote recursionLimit suite.independence)
  let results := List.zipWith (fun task votes =>
    taskResult (task.document prims) suite.independence votes) suite.tasks ballots
  return (verdictOf prims (suite.document prims) results,
    judged ++ gradedCalls suite.tasks ballots)

def verdict (suite : EvalSuite Φ) : Except Failure (EvalVerdict δ) :=
  (runEvalSuite recursionLimit prims suite).map Prod.fst

def EvalSuite.grades (suite : EvalSuite Φ) : Except Failure (List Bool) := do
  let _ ← suite.calibration.validateJudge recursionLimit
  suite.tasks.mapM (·.grade recursionLimit)

/-! ## What a pair of suites depends on -/

/-- The judge raises, or else the first task that does. -/
def EvalSuite.Raises (suite : EvalSuite Φ) (err : Failure) : Prop :=
  suite.calibration.validateJudge recursionLimit = .error err ∨
    (∃ calls, suite.calibration.validateJudge recursionLimit = .ok calls) ∧
      ∃ before task after, suite.tasks = before ++ task :: after ∧
        (∀ t ∈ before, ∃ b, t.grade recursionLimit = .ok b) ∧
        task.grade recursionLimit = .error err

/-- The grader of a task says the same of its output under the configuration of another
task. -/
def SameDemand (task task' : EvalTask Φ) : Prop :=
  gradeWith recursionLimit task.graderId task.candidateOutput task.config =
    gradeWith recursionLimit task.graderId task.candidateOutput task'.config

/-- Both suites raise the same, or none of them raises and their configurations demand the
same of every output. -/
def Pinned (suite suite' : EvalSuite Φ) : Prop :=
  (∃ err, suite.Raises recursionLimit err ∧ suite'.Raises recursionLimit err) ∨
    (∀ err, ¬ suite.Raises recursionLimit err ∧ ¬ suite'.Raises recursionLimit err) ∧
      List.Forall₂ (SameDemand recursionLimit) suite.tasks suite'.tasks

end Runs

/-! ## What a run has shown -/

def Trusted (calls : List GraderCall) (graderId : String) : Prop :=
  ⟨graderId, .good, true⟩ ∈ calls ∧ ⟨graderId, .broken, false⟩ ∈ calls

section Shown

variable {Φ δ : Type} {recursionLimit : ℕ} {prims : Primitives δ}

theorem validateJudge_ok {c : GraderCalibration Φ} {calls : List GraderCall}
    (h : c.validateJudge recursionLimit = .ok calls) :
    calls = [⟨c.graderId, .good, true⟩, ⟨c.graderId, .broken, false⟩] := by
  obtain ⟨good, h⟩ := rest_ok h
  obtain ⟨hgood, h⟩ := require_bind_eq_ok.mp h
  obtain ⟨broken, h⟩ := rest_ok h
  obtain ⟨hbroken, h⟩ := require_bind_eq_ok.mp h
  have hfailed : broken = false := by simpa using hbroken
  rw [hgood, hfailed] at h
  exact (Except.ok.inj h).symm

theorem vote_eq {task : EvalTask Φ} {n : ℕ} (hn : 1 ≤ n) :
    task.vote recursionLimit n = (task.grade recursionLimit).map (List.replicate n) := by
  unfold EvalTask.vote
  cases hgrade : task.grade recursionLimit with
  | error err =>
    obtain ⟨m, rfl⟩ := Nat.exists_eq_add_of_le' hn
    rw [List.replicate_succ, List.mapM_cons, error_bind]
    rfl
  | ok b =>
    clear hn
    induction n with
    | zero => rfl
    | succ n ih =>
      rw [List.replicate_succ, List.mapM_cons, ok_bind, ih]
      rfl

theorem mem_gradedCalls {n : ℕ} (hn : 1 ≤ n) {tasks : List (EvalTask Φ)}
    {ballots : List (List Bool)}
    (h : tasks.mapM (·.vote recursionLimit n) = .ok ballots) (graderId : String) :
    (∃ call ∈ gradedCalls tasks ballots, call.graderId = graderId) ↔
      ∃ task ∈ tasks, task.graderId = graderId := by
  have hvotes := mapM_eq_ok.mp h
  clear h
  induction hvotes with
  | nil => simp [gradedCalls]
  | @cons task votes tasks ballots hvote _ ih =>
    rw [vote_eq hn] at hvote
    obtain ⟨b, hb⟩ : ∃ b, votes = List.replicate n b := by
      cases hgrade : task.grade recursionLimit with
      | error err =>
        rw [hgrade] at hvote
        cases hvote
      | ok b =>
        rw [hgrade] at hvote
        exact ⟨b, (Except.ok.inj hvote).symm⟩
    subst hb
    have hcall : (∃ call ∈ (List.replicate n b).map (GraderCall.mk task.graderId (.task task.id)),
        call.graderId = graderId) ↔ task.graderId = graderId := by
      rw [List.map_replicate]
      simp [List.mem_replicate]
      omega
    simp only [gradedCalls, List.zipWith_cons_cons, List.flatten_cons, List.mem_append,
      or_and_right, exists_or, List.mem_cons, exists_eq_left] at ih ⊢
    rw [hcall]
    exact or_congr Iff.rfl ih

theorem gradedCalls_purpose {tasks : List (EvalTask Φ)} {ballots : List (List Bool)}
    {call : GraderCall} (h : call ∈ gradedCalls tasks ballots) :
    ∃ id, call.purpose = .task id := by
  induction tasks generalizing ballots with
  | nil => simp [gradedCalls] at h
  | cons task tasks ih =>
    cases ballots with
    | nil => simp [gradedCalls] at h
    | cons votes ballots =>
      simp only [gradedCalls, List.zipWith_cons_cons, List.flatten_cons, List.mem_append] at h
      rcases h with h | h
      · obtain ⟨vote, -, rfl⟩ := List.mem_map.mp h
        exact ⟨task.id, rfl⟩
      · exact ih h

theorem trusted_iff {graderId : String} {c : GraderCalibration Φ} {judged : List GraderCall}
    {tasks : List (EvalTask Φ)} {ballots : List (List Bool)}
    (h : c.validateJudge recursionLimit = .ok judged) :
    Trusted (judged ++ gradedCalls tasks ballots) graderId ↔ graderId = c.graderId := by
  rw [validateJudge_ok h]
  constructor
  · rintro ⟨hgood, -⟩
    rcases List.mem_append.mp hgood with hgood | hgood
    · simpa using hgood
    · obtain ⟨id, hid⟩ := gradedCalls_purpose hgood
      cases hid
  · rintro rfl
    exact ⟨by simp, by simp⟩

/-- **The graders of the tasks are trusted exactly where they are the calibration's.** -/
theorem graded_trusted_iff {suite : EvalSuite Φ} {v : EvalVerdict δ} {calls : List GraderCall}
    (h : runEvalSuite recursionLimit prims suite = .ok (v, calls)) :
    (∀ call ∈ calls, ∀ id, call.purpose = .task id → Trusted calls call.graderId) ↔
      ∀ task ∈ suite.tasks, task.graderId = suite.calibration.graderId := by
  obtain ⟨judged, hjudged, h⟩ := bind_eq_ok.mp h
  obtain ⟨ballots, hballots, h⟩ := bind_eq_ok.mp h
  have hcalls : judged ++ gradedCalls suite.tasks ballots = calls :=
    congrArg Prod.snd (Except.ok.inj h)
  have hgraders := mem_gradedCalls suite.votes.1 hballots
  subst hcalls
  simp only [trusted_iff hjudged]
  constructor
  · intro hall task htask
    obtain ⟨call, hcall, heq⟩ := (hgraders task.graderId).mpr ⟨task, htask, rfl⟩
    obtain ⟨id, hid⟩ := gradedCalls_purpose hcall
    rw [← heq]
    exact hall call (List.mem_append_right _ hcall) id hid
  · intro hall call hcall id hid
    rcases List.mem_append.mp hcall with hcall | hcall
    · rw [validateJudge_ok hjudged] at hcall
      simp only [List.mem_cons, List.not_mem_nil, or_false] at hcall
      rcases hcall with rfl | rfl <;> cases hid
    · obtain ⟨task, htask, heq⟩ := (hgraders call.graderId).mp ⟨call, hcall, rfl⟩
      exact heq ▸ hall task htask

/-! ## What the digest pins -/

theorem mapM_map {α β γ ε : Type} {f : α → Except ε β} {g : β → γ} (xs : List α) :
    xs.mapM (fun x => (f x).map g) = (xs.mapM f).map (List.map g) := by
  induction xs with
  | nil => rfl
  | cons x xs ih =>
    rw [List.mapM_cons, List.mapM_cons, ih]
    cases f x with
    | error err => rfl
    | ok y => cases xs.mapM f <;> rfl

def verdictOfGrades (prims : Primitives δ) (document : SuiteDocument) (grades : List Bool) :
    EvalVerdict δ :=
  verdictOf prims document (List.zipWith (fun task grade =>
    taskResult task document.independence (List.replicate document.independence grade))
    document.tasks grades)

theorem verdict_eq (suite : EvalSuite Φ) : verdict recursionLimit prims suite =
    (suite.grades recursionLimit).map (verdictOfGrades prims (suite.document prims)) := by
  unfold verdict runEvalSuite EvalSuite.grades
  cases suite.calibration.validateJudge recursionLimit with
  | error err => rfl
  | ok judged =>
    rw [ok_bind, ok_bind]
    have hvotes : suite.tasks.mapM (·.vote recursionLimit suite.independence) =
        (suite.tasks.mapM fun task : EvalTask Φ => task.grade recursionLimit).map
          (List.map (List.replicate suite.independence)) := by
      rw [← mapM_map]
      congr 1
      exact funext fun task => vote_eq suite.votes.1
    rw [hvotes]
    cases suite.tasks.mapM fun task : EvalTask Φ => task.grade recursionLimit with
    | error err => rfl
    | ok grades =>
      show Except.ok (verdictOf prims _ _) = Except.ok (verdictOf prims _ _)
      congr 2
      show List.zipWith _ suite.tasks (grades.map _) =
        List.zipWith _ (suite.tasks.map _) grades
      rw [List.zipWith_map_left, List.zipWith_map_right]
      rfl

theorem grades_length {suite : EvalSuite Φ} {grades : List Bool}
    (h : suite.grades recursionLimit = .ok grades) : grades.length = suite.tasks.length := by
  obtain ⟨_, h⟩ := rest_ok h
  exact (mapM_eq_ok.mp h).length_eq.symm

theorem zipWith_snd {α β : Type} {xs : List α} {ys : List β} (h : ys.length = xs.length) :
    List.zipWith (fun _ y => y) xs ys = ys := by
  induction ys generalizing xs with
  | nil => exact List.zipWith_nil_right
  | cons y ys ih =>
    cases xs with
    | nil => cases h
    | cons x xs => exact congrArg (y :: ·) (ih (by simpa using h))

theorem verdictOfGrades_injective {document : SuiteDocument} {a b : List Bool}
    (hvotes : 1 ≤ document.independence) (ha : a.length = document.tasks.length)
    (hb : b.length = document.tasks.length)
    (h : verdictOfGrades prims document a = verdictOfGrades prims document b) : a = b := by
  have hpass (grade : Bool) (task : TaskDocument) : (taskResult task document.independence
      (List.replicate document.independence grade)).pass = grade := by
    cases grade
    · simp [taskResult, List.count_replicate]
    · simp [taskResult]
      omega
  have hgrades (grades : List Bool) (hlength : grades.length = document.tasks.length) :
      (verdictOfGrades prims document grades).taskResults.map (·.pass) = grades := by
    show (List.zipWith _ _ _).map _ = grades
    rw [List.map_zipWith]
    simp only [hpass]
    exact zipWith_snd hlength
  rw [← hgrades a ha, ← hgrades b hb, h]

theorem grades_eq_error {suite : EvalSuite Φ} {err : Failure} :
    suite.grades recursionLimit = .error err ↔ suite.Raises recursionLimit err := by
  unfold EvalSuite.grades EvalSuite.Raises
  cases suite.calibration.validateJudge recursionLimit with
  | error err' =>
    rw [error_bind]
    simp
  | ok calls =>
    rw [ok_bind, mapM_eq_error]
    simp

/-- Tasks with the same graders and outputs are graded alike exactly where their
configurations demand the same. -/
theorem sameDemand_iff {tasks tasks' : List (EvalTask Φ)} {grades grades' : List Bool}
    (hgraders : tasks.map (·.graderId) = tasks'.map (·.graderId))
    (houtputs : tasks.map (·.candidateOutput) = tasks'.map (·.candidateOutput))
    (h : tasks.mapM (·.grade recursionLimit) = .ok grades)
    (h' : tasks'.mapM (·.grade recursionLimit) = .ok grades') :
    List.Forall₂ (SameDemand recursionLimit) tasks tasks' ↔ grades = grades' := by
  rw [mapM_eq_ok] at h h'
  induction h generalizing tasks' grades' with
  | nil =>
    cases tasks' with
    | nil =>
      cases h'
      simp
    | cons task' tasks' => cases hgraders
  | @cons task b tasks bs htask _ ih =>
    cases h' with
    | nil => cases hgraders
    | @cons task' b' tasks' bs' htask' htasks' =>
      obtain ⟨hgrader, hgraders⟩ := List.cons.inj hgraders
      obtain ⟨houtput, houtputs⟩ := List.cons.inj houtputs
      have hsame : SameDemand recursionLimit task task' ↔ b = b' := by
        have hunder : gradeWith recursionLimit task.graderId task.candidateOutput
            task'.config = .ok b' := by
          rw [show task.graderId = task'.graderId from hgrader,
            show task.candidateOutput = task'.candidateOutput from houtput]
          exact htask'
        have hown : gradeWith recursionLimit task.graderId task.candidateOutput
            task.config = .ok b := htask
        rw [SameDemand, hown, hunder]
        exact ⟨Except.ok.inj, congrArg _⟩
      rw [List.forall₂_cons, List.cons.injEq, hsame, ih hgraders houtputs htasks']

/-- **What a verdict pins.**  Where digests are of one projection only: the graders of a
run that returned are trusted exactly where every task names the grader of the calibration,
and two suites of one digest, whose tasks have the same outputs, have equal verdicts exactly
where they are `Pinned`. -/
theorem verdict_pinned_iff (recursionLimit : ℕ) (prims : Primitives δ)
    (hinj : Function.Injective prims.suiteDigest) :
    (∀ (suite : EvalSuite Φ) (v : EvalVerdict δ) (calls : List GraderCall),
      runEvalSuite recursionLimit prims suite = .ok (v, calls) →
        ((∀ call ∈ calls, ∀ id, call.purpose = .task id → Trusted calls call.graderId) ↔
          ∀ task ∈ suite.tasks, task.graderId = suite.calibration.graderId)) ∧
    ∀ suite suite' : EvalSuite Φ, suite.digest prims = suite'.digest prims →
      suite.tasks.map (·.candidateOutput) = suite'.tasks.map (·.candidateOutput) →
        (verdict recursionLimit prims suite = verdict recursionLimit prims suite' ↔
          Pinned recursionLimit suite suite') := by
  refine ⟨fun suite v calls h => graded_trusted_iff h, fun suite suite' hdigest houtputs => ?_⟩
  have hdocument : suite'.document prims = suite.document prims := (hinj hdigest).symm
  have hgraders : suite.tasks.map (·.graderId) = suite'.tasks.map (·.graderId) := by
    have h := congrArg (fun d => d.tasks.map (·.graderId)) hdocument.symm
    simpa [EvalSuite.document, EvalTask.document, Function.comp_def] using h
  have htasks : suite'.tasks.length = suite.tasks.length := by
    simpa using (congrArg List.length houtputs).symm
  rw [verdict_eq, verdict_eq, hdocument, Pinned]
  simp only [← grades_eq_error]
  cases hgrades : suite.grades recursionLimit with
  | error err =>
    cases hgrades' : suite'.grades recursionLimit with
    | error err' =>
      simp only [Except.map, Except.error.injEq]
      constructor
      · rintro rfl
        exact .inl ⟨err, rfl, rfl⟩
      · rintro (⟨err'', rfl, rfl⟩ | ⟨hnone, -⟩)
        · rfl
        · exact absurd rfl (hnone err).1
    | ok grades' =>
      simp only [Except.map, reduceCtorEq, and_false, exists_false, false_or, false_iff]
      exact fun h => absurd rfl (h.1 err).1
  | ok grades =>
    cases hgrades' : suite'.grades recursionLimit with
    | error err' =>
      simp only [Except.map, reduceCtorEq, false_and, exists_false, false_or, false_iff]
      exact fun h => absurd rfl (h.1 err').2
    | ok grades' =>
      obtain ⟨_, hmap⟩ := rest_ok hgrades
      obtain ⟨_, hmap'⟩ := rest_ok hgrades'
      rw [sameDemand_iff hgraders houtputs hmap hmap']
      simp only [Except.map, Except.ok.injEq, reduceCtorEq, exists_false,
        not_false_eq_true, and_self, implies_true, true_and, false_or]
      constructor
      · have hlength : (suite.document prims).tasks.length = suite.tasks.length :=
          List.length_map _
        exact verdictOfGrades_injective suite.votes.1
          ((grades_length hgrades).trans hlength.symm)
          ((grades_length hgrades').trans (htasks.trans hlength.symm))
      · exact congrArg _

end Shown

/-! ## Two suites of one digest -/

def samplePrimitives : Primitives SuiteDocument where
  textDigest := id
  suiteDigest := id
  quotient passed total := passed / total

def sampleCalibration : GraderCalibration Empty where
  graderId := "exact-match"
  goodOutput := "yes"
  brokenOutput := "no"
  config := [("expected", .str "yes")]
  valid := by decide

def sampleTask (graderId : String) (expected : String)
    (valid : (isIdentifier "t" && isIdentifier graderId && isBounded "in" &&
      isBounded "a") = true) : EvalTask Empty where
  id := "t"
  graderId := graderId
  inputText := "in"
  candidateOutput := "a"
  config := [("expected", .str expected)]
  valid := valid

def sampleSuite (task : EvalTask Empty) : EvalSuite Empty where
  id := "s"
  version := "1.0.0"
  independence := 1
  threshold := 1
  calibration := sampleCalibration
  tasks := [task]
  named := by decide
  votes := by decide
  share := by decide
  size := ⟨Nat.le_refl 1, by simp⟩
  distinct := by simp

/-- The output `a` is expected. -/
def matchingSuite : EvalSuite Empty := sampleSuite (sampleTask "exact-match" "a" (by decide))

/-- Another output is expected. -/
def failingSuite : EvalSuite Empty := sampleSuite (sampleTask "exact-match" "b" (by decide))

/-- The task is graded by a grader that is not judged. -/
def unjudgedSuite : EvalSuite Empty := sampleSuite (sampleTask "non-empty" "a" (by decide))

/-- A text is looked for in the output. -/
def searchingSuite (substring : String) : EvalSuite Empty := sampleSuite
  { sampleTask "contains" "a" (by decide) with config := [("substring", .str substring)] }

/-- The output has neither of the texts. -/
theorem searchingSuite_pinned : Pinned 100 (searchingSuite "b") (searchingSuite "c") := by
  have hgrades : (searchingSuite "b").grades 100 = .ok [false] ∧
      (searchingSuite "c").grades 100 = .ok [false] := ⟨rfl, rfl⟩
  refine .inr ⟨fun err => ⟨fun h => ?_, fun h => ?_⟩, .cons rfl .nil⟩
  · rw [← grades_eq_error, hgrades.1] at h
    cases h
  · rw [← grades_eq_error, hgrades.2] at h
    cases h

theorem verdict_pinned_iff_sample :
    verdict 100 samplePrimitives (searchingSuite "b") =
      verdict 100 samplePrimitives (searchingSuite "c") :=
  ((verdict_pinned_iff 100 samplePrimitives Function.injective_id).2 (searchingSuite "b")
    (searchingSuite "c") rfl rfl).mpr searchingSuite_pinned

/-- **A digest does not pin the configurations, and a task brings in its own grader.** -/
theorem verdict_not_pinned :
    (matchingSuite.digest samplePrimitives = failingSuite.digest samplePrimitives ∧
      matchingSuite.tasks.map (·.candidateOutput) =
        failingSuite.tasks.map (·.candidateOutput) ∧
      verdict 100 samplePrimitives matchingSuite ≠ verdict 100 samplePrimitives failingSuite) ∧
    ∃ v calls, runEvalSuite 100 samplePrimitives unjudgedSuite = .ok (v, calls) ∧
      (⟨"non-empty", .task "t", true⟩ : GraderCall) ∈ calls ∧ ¬ Trusted calls "non-empty" := by
  constructor
  · refine ⟨rfl, rfl, fun h => ?_⟩
    have hmatching : (verdict 100 samplePrimitives matchingSuite).map (·.passed) = .ok 1 := rfl
    have hfailing : (verdict 100 samplePrimitives failingSuite).map (·.passed) = .ok 0 := rfl
    rw [h, hfailing] at hmatching
    cases hmatching
  · refine ⟨_, [⟨"exact-match", .good, true⟩, ⟨"exact-match", .broken, false⟩,
      ⟨"non-empty", .task "t", true⟩], rfl, by simp, ?_⟩
    rintro ⟨hgood, -⟩
    simp at hgood

end Ecosystem.Evaluation
