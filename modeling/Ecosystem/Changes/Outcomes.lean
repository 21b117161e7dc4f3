import Ecosystem.Changes.Executing

/-!
# Runs of controlled writes, and what they report

A run is a sequence of proposals, executions and recoveries, interrupted anywhere, and
of edits by others; `worldAfter` is the world that it leaves.

The broker installs the candidate that the availability proof names, and a human
approves the artifact record: only their storage references are compared.
-/

namespace Ecosystem.Changes

open Ecosystem.Lib

/-! ## Runs -/

inductive Activity
  | propose (input : ProposalInput) (script : List Circumstance)
  | execute (request : ExecuteRequest) (script : List Circumstance)
  | recover (operationId : String) (now : Instant) (script : List Circumstance)
  | edit (path : String) (entry : Option Entry)
  /-- Somebody else moves directories. -/
  | rearrange (refusal : String → Option String)

section Runs

variable (cfg : WriteConfig)

def Activity.after (w : World) : Activity → World
  | .propose input script => ((createProposal cfg input).run script w).2
  | .execute request script => ((Ecosystem.Changes.execute cfg request).run script w).2
  | .recover id now script => ((Ecosystem.Changes.recover cfg id now).run script w).2
  | .edit path entry => w.setFile path entry
  | .rearrange refusal => { w with refusal := refusal }

def World.initial (files : String → Option Entry) (refusal : String → Option String) :
    World where
  files := files
  refusal := refusal

def worldAfter (w : World) (activities : List Activity) : World :=
  activities.foldl (Activity.after cfg) w

theorem worldAfter_append (w : World) (activities more : List Activity) :
    worldAfter cfg w (activities ++ more) =
      worldAfter cfg (worldAfter cfg w activities) more :=
  List.foldl_append ..

/-- Nobody else touches the target of a calm operation: it is as expected when the
operation begins, and it is not edited while the operation is open. -/
def Activity.Respects (calm : String → Prop) (w : World) : Activity → Prop
  | .execute x _ => calm (x.operationId cfg) →
      w.db.operations.get? (x.operationId cfg) = none →
      w.files x.proposal.path = x.arguments.operation.before.map .regular
  | .edit path _ => ∀ id row, calm id → w.db.operations.get? id = some row →
      row.state.terminal = false → row.targetRefDigest ≠ cfg.pathReferenceDigest path
  | _ => True

def RunRespects (calm : String → Prop) (w : World) (activities : List Activity) : Prop :=
  ∀ before activity after, activities = before ++ activity :: after →
    activity.Respects cfg calm (worldAfter cfg w before)

end Runs

variable {cfg : WriteConfig} {calm : String → Prop} {w : World}

/-! ## The invariant along a run -/

theorem inv_initial (files : String → Option Entry) (refusal : String → Option String) :
    Inv cfg calm (World.initial files refusal) where
  sound := sound_empty
  columns := by
    intro k p h
    cases h
  covered := by
    intro id row h
    cases h
  landed := by
    intro pre path entry post h
    rcases pre with _ | ⟨_, _⟩ <;> cases h
  judged := by
    intro id verdict h
    cases h
  accepted := by
    intro id row h
    cases h

variable {input : ProposalInput}

theorem keeps_createProposal {J : World → Prop} (h : J w)
    (hregister : ∀ proposal now tx db',
      Call.exec cfg.changes w.db (.registerProposal proposal now tx) = .ok db' →
        J { w with db := db' }) :
    Keeps J (fun _ => J) (createProposal cfg input) w := by
  refine keeps_skip (keeps_storeCheck h fun _ => rfl) fun _ => ?_
  refine keeps_skip (keeps_requireActivePlan h rfl) fun _ => ?_
  refine keeps_skip (keeps_inspect h fun _ _ _ => rfl) fun _ => ?_
  refine keeps_skip (keeps_inspect h fun _ _ _ => rfl) fun _ => ?_
  refine keeps_skip (keeps_storeCheck h fun _ => rfl) fun _ => ?_
  refine keeps_skip (keeps_readTime h fun _ => rfl) fun decisionExpires => ?_
  cases hadd : input.now.addSeconds input.approvalTtlSeconds with
  | error e => exact h
  | ok approvalExpires =>
    refine keeps_skip rfl fun approvalExpires => ?_
    refine keeps_bind (fun _ => J) (keeps_authority h fun c db' a hok => ?_)
      fun _ _ h => h
    exact hregister _ _ _ db' (map_fst_eq_ok.mpr ⟨a, hok⟩)

theorem Inv.createProposal (h : Inv cfg calm w) :
    Keeps (Inv cfg calm) (fun _ => Inv cfg calm) (createProposal cfg input) w :=
  keeps_createProposal h fun _ _ _ _ hexec =>
    h.plain hexec rfl fun _ _ _ hcall => by cases hcall

theorem createProposal_files {script : List Circumstance} :
    ((createProposal cfg input).run script w).2.files = w.files := by
  have hkeeps : Keeps (fun w' => w'.files = w.files) (fun _ w' => w'.files = w.files)
      (createProposal cfg input) w :=
    keeps_createProposal rfl fun _ _ _ _ _ => rfl
  have hrun := @Prog.Safe.run _ _ _ _ _ _ _ _ hkeeps script fun _ _ => trivial
  cases hend : (createProposal cfg input).run script w with
  | mk ending w' =>
    rw [hend] at hrun
    cases ending with
    | _ => exact hrun

theorem Inv.edit (h : Inv cfg calm w) {path : String} {entry : Option Entry}
    (hrespects : (Activity.edit path entry).Respects cfg calm w) :
    Inv cfg calm (w.setFile path entry) where
  sound := h.sound
  columns := h.columns
  covered := by
    intro id row hrow hopen
    obtain ⟨b, hb, hsettled⟩ := h.covered id row hrow hopen
    refine ⟨b, hb.continues (.refl row) rfl fun _ _ hp => hp, fun hid => ?_⟩
    have hne : b.path ≠ path := by
      rintro rfl
      exact hrespects id row hid hrow hopen
        (hb.belongs.target.symm.trans hb.belongs.path.symm)
    have hsame : (w.setFile path entry).files b.path = w.files b.path := if_neg hne
    rw [RecoveryBundle.Settled, hsame]
    exact hsettled hid
  landed := h.landed
  judged := h.judged
  accepted := h.accepted

theorem Keeps.inv {α : Type} {p : WriteProg α} {Q : α → World → Prop}
    (h : Keeps (Inv cfg calm) (fun a w' => Inv cfg calm w' ∧ Q a w') p w)
    (script : List Circumstance) : Inv cfg calm (p.run script w).2 := by
  have hrun := @Prog.Safe.run _ _ _ _ _ _ _ _ h script fun _ _ => trivial
  cases hend : p.run script w with
  | mk ending w' =>
    rw [hend] at hrun
    cases ending with
    | returned a => exact hrun.1
    | raised e | crashed => exact hrun

theorem inv_after {activity : Activity} (h : Inv cfg calm w)
    (hrespects : activity.Respects cfg calm w) : Inv cfg calm (activity.after cfg w) := by
  cases activity with
  | propose input script =>
    exact Keeps.inv (Q := fun _ _ => True)
      (keeps_mono h.createProposal fun _ _ h => ⟨h, trivial⟩) script
  | execute x script => exact (keeps_execute h hrespects).inv script
  | recover id now script => exact (keeps_recover h).inv script
  | edit path entry => exact h.edit hrespects
  | rearrange refusal => exact h.of_eq rfl rfl rfl rfl

theorem inv_worldAfter (h : Inv cfg calm w) {activities : List Activity}
    (hrespects : RunRespects cfg calm w activities) :
    Inv cfg calm (worldAfter cfg w activities) := by
  induction activities using List.reverseRecOn with
  | nil => exact h
  | append_singleton activities activity ih =>
    rw [worldAfter_append]
    refine inv_after (ih ?_) (hrespects activities activity [] rfl)
    rintro before a after rfl
    exact hrespects before a (after ++ [activity]) (by simp)

theorem respects_none (w : World) (activities : List Activity) :
    RunRespects cfg (fun _ => False) w activities := by
  intro before activity after _
  cases activity with
  | execute x script => exact False.elim
  | edit path entry => exact fun _ _ h => h.elim
  | _ => trivial

/-! ## Outcomes -/

def ControlledWriteProposal.ContentBound (p : ControlledWriteProposal) : Prop :=
  p.candidateProof.sha256 = p.toolRequest.arguments.candidateArtifact.contentDigest ∧
    p.candidateProof.byteLength = p.toolRequest.arguments.candidateArtifact.byteLength

theorem contentBound_iff (p : ControlledWriteProposal) :
    p.ContentBound ↔ p.candidate = p.approved := by
  unfold ControlledWriteProposal.ContentBound ControlledWriteProposal.candidate
    ControlledWriteProposal.approved
  rw [File.mk.injEq]
  exact ⟨fun h => ⟨h.1, h.2, rfl⟩, fun h => ⟨h.1, h.2.1⟩⟩

/-- **Reported outcomes match the file.**  After any run, whatever was interrupted and
whatever failed: an execution that commits leaves the approved file exactly when the
proof of its candidate names the approved content; an execution or a recovery that
reports `failed` or `rolled_back` leaves the expected before-state, and a recovery
never commits; a candidate lands only behind a commit authority under a running lease
and the approved plan; and a committed operation has a verdict, and none that is not
`True`. -/
theorem write_outcomes_match (cfg : WriteConfig) (files : String → Option Entry)
    (refusal : String → Option String) (activities : List Activity) :
    (∀ x script answer w', (execute cfg x).run script
        (worldAfter cfg (World.initial files refusal) activities) = (.returned answer, w') →
      answer.replayed = false → (answer.state = .committed →
        (w'.files x.proposal.path = some (.regular x.proposal.approved) ↔
          x.proposal.ContentBound)) ∧ (answer.state = .failed ∨ answer.state = .rolledBack →
        w'.files x.proposal.path = x.arguments.operation.before.map .regular)) ∧
    (∀ id now script answer w' row, (recover cfg id now).run script
        (worldAfter cfg (World.initial files refusal) activities) = (.returned answer, w') →
      answer.replayed = false →
      (worldAfter cfg (World.initial files refusal) activities).db.operations.get? id =
        some row → row.state.terminal = false → answer.state ≠ .committed ∧
      (answer.state = .failed ∨ answer.state = .rolledBack →
        ∃ path before p, cfg.pathReferenceDigest path = row.targetRefDigest ∧
          (worldAfter cfg (World.initial files refusal) activities).db.proposals.get?
            row.proposalId = some p ∧
          p.record.proposal.rollbackDigest = cfg.digest (.expectedBefore before) ∧
          w'.files path = before.map .regular)) ∧ (∀ pre path entry post,
      (worldAfter cfg (World.initial files refusal) activities).trace =
        pre ++ .landed path entry :: post →
      ∃ event, pre.getLast? = some event ∧ Authorizes cfg
        (worldAfter cfg (World.initial files refusal) activities).db path entry event) ∧
    (∀ id row,
      (worldAfter cfg (World.initial files refusal) activities).db.operations.get? id =
        some row → row.state = .committed →
      Accepted id (worldAfter cfg (World.initial files refusal) activities).trace) := by
  have hinv := @inv_worldAfter cfg _ _ (inv_initial files refusal) _
    (respects_none _ activities)
  refine ⟨?_, ?_, hinv.landed, hinv.accepted⟩
  · intro x script answer w' hrun hfresh
    have hsafe := @Prog.Safe.run _ _ _ _ _ _ _ _ (keeps_execute (x := x) hinv False.elim)
      script
      fun _ _ => trivial
    rw [hrun] at hsafe
    obtain ⟨hcommitted, hclosed⟩ := hsafe.2 hfresh
    refine ⟨fun hstate => ?_, hclosed⟩
    rw [hcommitted hstate, contentBound_iff, Option.some.injEq, Entry.regular.injEq]
  · intro id now script answer w' row hrun hfresh hrow hopen
    have hsafe := @Prog.Safe.run _ _ _ _ _ _ _ _ (@keeps_recover _ _ _ id now hinv)
      script fun _ _ => trivial
    rw [hrun] at hsafe
    obtain ⟨b, hb, hcloses⟩ := hsafe.2 row hrow hopen
    obtain ⟨hcommitted, hclosed⟩ := hcloses hfresh
    refine ⟨hcommitted, fun hstate => ?_⟩
    obtain ⟨p, hp, -, -, hrollback⟩ := hb.approved
    exact ⟨b.path, b.operation.before, p, hb.belongs.path.trans hb.belongs.target, hp,
      hrollback, hclosed hstate⟩

/-! ## A sample write -/

def sampleDigit : WriteDocument → Fin 16
  | .plan _ => 0
  | .snapshot _ => 1
  | .toolRequest _ => 2
  | .policyDecision _ => 3
  | .artifact _ => 4
  | .availability _ => 5
  | .descriptor _ => 6
  | .expectedBefore _ => 7
  | .proposal _ => 8
  | .approvalRequest _ => 9
  | .proposalKey _ _ => 10
  | .operationKey _ _ => 11
  | .intent _ => 12
  | _ => 13

def sampleDocumentDigest (digit : Fin 16) : HexDigest :=
  ⟨String.ofList (List.replicate 64 ("0123456789abcdef".toList.getD digit '0')), by
    refine isHexDigest_replicate ?_
    revert digit
    decide⟩

def sampleWriteConfig : WriteConfig where
  changes := sampleConfig
  ownerId := "worker-1"
  leaseSeconds := 1
  rootIdentityDigest := sampleHex "e"
  pathReferenceDigest := fun _ => sampleHex "f"
  maximumFileBytes := 1024
  contentFault := fun _ => none
  semanticDigest := fun document => sampleDocumentDigest (sampleDigit document)
  recoveryArtifact := fun b => match b.phase with
    | .prepared => ⟨"artifact://recovery/prepared", sampleHex "0", 16, sampleHex "0"⟩
    | .rollbackReady => ⟨"artifact://recovery/ready", sampleHex "1", 16, sampleHex "1"⟩
  proofKeyId := "artifact-key"
  proofToken := fun _ sha256 _ => sha256

def samplePlan : WritePlan where
  runId := "run"
  projectId := "project"
  tools := [⟨"repository.write", sampleHex "0"⟩]
  maxToolRequests := 1
  repositorySnapshot := some ⟨"snapshot", sampleHex "1", sampleHex "e"⟩

def sampleBefore : File := ⟨sampleHex "0", 8, 0o644⟩

/-- An artifact record for one content with a proof for another one, both under the
same reference. -/
def sampleInput (proved : String) : ProposalInput where
  plan := samplePlan
  snapshot := ⟨"snapshot", sampleHex "e", ""⟩
  toolRequest :=
    { id := "request"
      planDigest := sampleHex "0"
      arguments :=
        { path := "README.md"
          operation := .replace sampleBefore
          candidateArtifact :=
            { artifactRecordDigest := sampleHex "4"
              contentDigest := sampleHex "a"
              byteLength := 4
              dataClass := "D1"
              trust := "P1"
              availabilityProofDigest := sampleHex "5"
              mode := 0o644 } } }
  policyDecision := ⟨"decision", true, .aware { instant := 1000 }, ""⟩
  candidateArtifact :=
    { runId := "run"
      sha256 := sampleHex "a"
      byteLength := 4
      dataClass := "D1"
      trust := "P1"
      storageRef := "artifact://runs/run/candidate" }
  candidateProof :=
    sampleWriteConfig.makeProof "artifact://runs/run/candidate" proved 4
  displayDigest := sampleHex "8"
  now := sampleInstant 0

/-- A run that goes on and a clock that stands still. -/
def sampleCircumstance : Circumstance where
  now := sampleInstant 5
  run := ⟨.running, some (sampleHex "0")⟩
  secret := "1"

def sampleScript : List Circumstance := List.replicate 60 sampleCircumstance

def sampleFiles (path : String) : Option Entry :=
  if path = "README.md" then some (.regular sampleBefore) else none

def sampleWorld (proved : String) : World :=
  worldAfter sampleWriteConfig (World.initial sampleFiles fun _ => none)
    [.propose (sampleInput proved) sampleScript]

def sampleRequest (proved : String) : ExecuteRequest where
  proposal := (sampleInput proved).result sampleWriteConfig
    ((sampleInput proved).document sampleWriteConfig (sampleInstant 1000)) (sampleHex "c")
  envelope := sampleEnvelope
  idempotencyKey := "key"
  now := sampleInstant 5

/-- `create_proposal` accepts the sample, `execute` commits it, and the target has a
content that nobody approved. -/
theorem commits_unapproved_content :
    ((createProposal sampleWriteConfig (sampleInput (sampleHex "b"))).run sampleScript
        (World.initial sampleFiles fun _ => none)).1 =
      .returned (sampleRequest (sampleHex "b")).proposal ∧
    ((execute sampleWriteConfig (sampleRequest (sampleHex "b"))).run sampleScript
        (sampleWorld (sampleHex "b"))).1 =
      .returned ⟨sampleWriteConfig.operationId "run" "key", .committed, false, none⟩ ∧
    ((execute sampleWriteConfig (sampleRequest (sampleHex "b"))).run sampleScript
        (sampleWorld (sampleHex "b"))).2.files "README.md" =
      some (.regular ⟨sampleHex "b", 4, 0o644⟩) ∧
    (sampleRequest (sampleHex "b")).proposal.approved = ⟨sampleHex "a", 4, 0o644⟩ ∧
    sampleHex "b" ≠ sampleHex "a" := by
  delta sampleWorld worldAfter Activity.after createProposal execute executeFresh
    applyAndCommit rollbackReady commitAuthority afterBrokerError undo
    Db.registerProposal Db.recordVerifiedGrant Db.prepareOperation Db.markRollbackReady
    Db.markApplying Db.markCommitReady Db.markApplied Db.markCommitted Db.transition
    validatedProposal approvalSubjectPayload ApprovalTrustStore.verify
    ApprovalTrustStore.verifySignature
  rw [changeDigest_eq, approvalDigest_eq]
  decide +kernel

end Ecosystem.Changes
