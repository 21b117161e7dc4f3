import Ecosystem.Loops.Tables

/-!
# What stays of a run

Only `create` and `transition` write a record of a run, so what these two keep holds
along every run of the system, over either journal.
-/

namespace Ecosystem.Loops

open Ecosystem.Lib

section Runs

variable {σ ι : Type} [DecidableEq ι] {ops : JournalOps σ}
  {definitionDigest : LoopDefinition → String} {semanticDigest : LoopEvent → String}
  (law : LawfulJournal ops definitionDigest semanticDigest)
  (definitions : ι → LoopDefinition)

/-- **The run rule of the records.** -/
theorem records_after (P : (String → Option LoopCheckpoint) → (String → List LoopEvent) → Prop)
    (fresh : ∀ {view history runId definition}, view runId = none → P view history →
      P (Function.update view runId
          (some (initialCheckpoint definitionDigest runId definition)))
        (Function.update history runId []))
    (commit : ∀ {view history} {req : TransitionRequest},
      view req.expected.runId = some req.expected →
      transitionAllowed req.expected.state req.target = true →
      req.expected.usage ≤ req.candidateUsage → P view history →
      P (Function.update view req.expected.runId (some (req.next semanticDigest)))
        (Function.update history req.expected.runId
          (history req.expected.runId ++ [req.event])))
    (actions : List (LoopAction ι)) {sys : LoopSystem σ ι}
    (h : P (law.view sys.journal) (law.history sys.journal)) :
    P (law.view (sys.after ops definitionDigest definitions semanticDigest actions).journal)
      (law.history
        (sys.after ops definitionDigest definitions semanticDigest actions).journal) := by
  induction actions generalizing sys with
  | nil => exact h
  | cons action actions ih =>
    apply ih
    have henter (e : ι) (runId : String) (pc : Pc) :
        (sys.enter e runId pc).journal = sys.journal := by
      unfold LoopSystem.enter
      split <;> rfl
    cases action with
    | callRun | callStart | callRecover =>
      simp only [LoopSystem.step, henter]
      exact h
    | crash => exact h
    | advance e answers =>
      show P (law.view (advancePc _ _ _ _ _ _).2) (law.history (advancePc _ _ _ _ _ _).2)
      cases advance_journalMove law (definitions e) sys.journal (sys.engines e) answers with
      | same hview hhist =>
        rw [hview, hhist]
        exact h
      | fresh hfree hview hhist =>
        rw [hview, hhist]
        exact fresh hfree h
      | commit req _ _ hcurrent hallowed husage hview hhist =>
        rw [hview, hhist]
        exact commit hcurrent hallowed husage h
    | requestCancel runId =>
      simp only [LoopSystem.step]
      cases hcancel : ops.requestCancel sys.journal runId with
      | error err => exact h
      | ok journal' =>
        obtain ⟨hview, hhist⟩ := law.cancel_ok _ _ _ hcancel
        rw [hview, hhist]
        exact h
    | setKillSwitch enabled =>
      obtain ⟨hview, hhist⟩ := law.kill_ok sys.journal enabled
      show P (law.view (ops.setKillSwitch _ _)) (law.history (ops.setKillSwitch _ _))
      rw [hview, hhist]
      exact h

/-- What was recorded of a run, and what is recorded later. -/
def Grows (events : List LoopEvent) (next : Option LoopCheckpoint)
    (events' : List LoopEvent) : Option LoopCheckpoint → Prop
  | none => True
  | some cp => ∃ cp' more, next = some cp' ∧ events' = events ++ more ∧ cp.usage ≤ cp'.usage ∧
      (cp.state.isTerminal = true → cp' = cp ∧ more = [])

theorem grows_after (actions : List (LoopAction ι)) (sys : LoopSystem σ ι) (r : String) :
    Grows (law.history sys.journal r)
      (law.view (sys.after ops definitionDigest definitions semanticDigest actions).journal r)
      (law.history (sys.after ops definitionDigest definitions semanticDigest actions).journal r)
      (law.view sys.journal r) := by
  cases hview : law.view sys.journal r with
  | none => trivial
  | some cp =>
    refine records_after law definitions (fun view history =>
      Grows (law.history sys.journal r) (view r) (history r) (some cp)) ?_ ?_ actions
      ⟨cp, [], hview, (List.append_nil _).symm, LoopUsage.le_refl _, fun _ => ⟨rfl, rfl⟩⟩
    · rintro view history runId definition hfree ⟨cp', more, hcp, hmore⟩
      have hr : r ≠ runId := by
        rintro rfl
        rw [hfree] at hcp
        cases hcp
      rw [Function.update_of_ne hr, Function.update_of_ne hr]
      exact ⟨cp', more, hcp, hmore⟩
    · rintro view history req hcurrent hallowed husage ⟨cp', more, hcp, hmore, hle, hend⟩
      by_cases hr : r = req.expected.runId
      · subst hr
        rw [Function.update_self, Function.update_self]
        obtain rfl := Option.some.inj (hcurrent.symm.trans hcp)
        refine ⟨_, more ++ [req.event], rfl, ?_, LoopUsage.le_trans hle husage, fun hterminal => ?_⟩
        · rw [hmore, List.append_assoc]
        · -- a terminal checkpoint is not the expected one of an allowed transition
          have hopen := not_terminal_of_transitionAllowed hallowed
          rw [(hend hterminal).1, hterminal] at hopen
          cases hopen
      · rw [Function.update_of_ne hr, Function.update_of_ne hr]
        exact ⟨cp', more, hcp, hmore, hle, hend⟩

end Runs

variable {ι : Type} [DecidableEq ι] (definitionDigest : LoopDefinition → String)
  (definitions : ι → LoopDefinition) (actions : List (LoopAction ι))

/-- **A record only grows, and its end is final.**  From any state of the system and over
either journal, events are appended behind those of a run, its usage does not go back, and
a terminal checkpoint stays as it is. -/
theorem record_grows (semanticDigest : LoopEvent → String)
    (mem : LoopSystem InMemoryLoopJournal ι) (db : LoopSystem SQLiteLoopJournal ι) (r : String) :
    (let later := (mem.after (inMemoryOps definitionDigest semanticDigest) definitionDigest
        definitions semanticDigest actions).journal
     Grows (mem.journal.history r) (later.view r) (later.history r) (mem.journal.view r)) ∧
    (let later := (db.after (sqliteOps definitionDigest semanticDigest) definitionDigest
        definitions semanticDigest actions).journal
     Grows (db.journal.history r) (later.view r) (later.history r) (db.journal.view r)) :=
  ⟨grows_after (inMemoryLawful definitionDigest semanticDigest) definitions actions mem r,
    grows_after (sqliteLawful definitionDigest semanticDigest) definitions actions db r⟩

/-- **Engines ask for their own transitions only**, each into a state and for a reason of
its kind, and with a reason that the records accept, in every interleaving over either
journal. -/
theorem engines_ask (semanticDigest : LoopEvent → String) (e : ι) :
    ((LoopSystem.after (inMemoryOps definitionDigest semanticDigest) definitionDigest
      definitions semanticDigest { journal := {} } actions).engines e).pc.Asks ∧
    ((LoopSystem.after (sqliteOps definitionDigest semanticDigest) definitionDigest
      definitions semanticDigest { journal := .empty } actions).engines e).pc.Asks :=
  ⟨asks_after (fun _ _ _ => stopReason_own_inMemory) actions (fun _ _ _ h => by cases h) e,
    asks_after (fun _ _ _ => stopReason_own_sqlite) actions (fun _ _ _ h => by cases h) e⟩

/-- **The typed journal refines its tables.**  Whatever the engines have done, the two
tables, whose rows hold the parsed value of each event, load as the journal does. -/
theorem load_refines {Φ : Type} (value : Φ → ℚ) (semanticDigest : Json Φ → String)
    (runId : String) :
    let journal := (LoopSystem.after
      (sqliteOps definitionDigest fun event => semanticDigest event.record) definitionDigest
      definitions (fun event => semanticDigest event.record) { journal := .empty }
      actions).journal
    (journal.tables : LoopTables Φ).load value semanticDigest runId =
      journal.load (fun event => semanticDigest event.record) runId := by
  intro journal
  have hwrite (cp : LoopCheckpoint) {view : String → Option LoopCheckpoint}
      (h : ∀ r cp, view r = some cp → cp.runId = r) :
      ∀ r cp', Function.update view cp.runId (some cp) r = some cp' → cp'.runId = r := by
    intro r cp' hcp
    rw [Function.update_apply] at hcp
    split at hcp
    · next hr =>
        cases hcp
        exact hr.symm
    · exact h r cp' hcp
  have hrun : ∀ r cp, journal.view r = some cp → cp.runId = r :=
    records_after (sqliteLawful definitionDigest fun event => semanticDigest event.record)
      definitions (fun view _ => ∀ r cp, view r = some cp → cp.runId = r)
      (fun _ h => hwrite (initialCheckpoint _ _ _) h)
      (fun {_ _ req} _ _ _ h => hwrite (req.next _) h) actions fun _ _ h => by cases h
  refine load_tables value semanticDigest journal fun row hrow => hrun runId _ ?_
  rw [SQLiteLoopJournal.view, hrow]
  rfl

end Ecosystem.Loops
