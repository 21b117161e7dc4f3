import Ecosystem.Artifacts.Opening

/-!
# Installing a file

Both installations of the store write a temporary name and its bytes, link the final
name and remove the temporary one.  Between the last two the disk is halfway.
-/

namespace Ecosystem.Artifacts

open Ecosystem.Lib

/-- The temporary name of a call has been linked to its target. -/
structure Linked (prims : Primitives) (keyId : Text) (contents : Set Bytes) (before : Disk)
    (token : Token) (target : Path) (bytes : Bytes) (disk : Disk) : Prop where
  underway : Underway prims keyId contents before disk
  temporary : Temporary before token disk
  but : SettledBut (tempPath token) disk
  stored : ∃ i, disk.lookup target = some (.file i) ∧ disk.data i = bytes

variable {prims : Primitives} {keyId : Text} {contents : Set Bytes}

variable {faulty : Prop} {before s : Disk} {raised : Disk → Prop}

variable {token : Token} {inode : ℕ} {bytes sofar : Bytes}

theorem Writing.underway (h : Writing prims keyId contents before token inode bytes s) :
    Underway prims keyId contents before s :=
  h.rest.underway

/-! ## The temporary file -/

theorem proper_temp (token : Token) (inode : ℕ) (disk : Disk) :
    Proper prims keyId contents disk (tempPath token) (.file inode) :=
  ⟨rfl, isTempName_tempName token⟩

theorem safe_createTemp {returned : ℕ → Disk → Prop} (h : Sound prims keyId contents s)
    (hdir : s.lookup temporaryPath = some .directory)
    (htaken : (s.lookup (tempPath token)).isSome → raised s)
    (hreturned : ∀ inode s', Writing prims keyId contents s token inode [] s' →
      returned inode s') :
    (createTemp token).Safe (Fair faulty) (post prims keyId contents s returned raised) s := by
  refine Prog.safe_act (AtRest.refl h).underway ?_ ?_
  · intro i inode s' _ heq
    cases hcreate : s.create (tempPath token) with
    | error e =>
      rw [hcreate] at heq
      cases (Prod.mk.inj heq).1
    | ok made =>
      obtain ⟨j, s''⟩ := made
      rw [hcreate] at heq
      obtain ⟨hj, rfl⟩ := Prod.mk.inj heq
      cases hj
      obtain ⟨hvacant, -, -, hlookup⟩ := FileSystem.create_eq_ok hcreate
      obtain ⟨hsound, hkept, hnew, hdata⟩ := h.create hcreate (proper_temp token _ _)
      refine hreturned _ s'' ⟨⟨hsound, hkept⟩, ⟨hvacant.1, fun name hname => ?_⟩, hnew, hdata⟩
      rw [hlookup, if_neg]
      intro heq
      exact hname (List.cons.inj (List.cons.inj heq).2).1
  · intro i e s' _ heq
    cases hcreate : s.create (tempPath token) with
    | ok made =>
      rw [hcreate] at heq
      cases (Prod.mk.inj heq).1
    | error e' =>
      rw [hcreate] at heq
      obtain ⟨-, rfl⟩ := Prod.mk.inj heq
      refine htaken ?_
      by_contra hnone
      rw [Option.not_isSome_iff_eq_none] at hnone
      obtain ⟨s', hok⟩ := FileSystem.create_vacant ⟨hnone, Or.inr hdir⟩
      rw [hok] at hcreate
      cases hcreate

variable {returned : Unit → Disk → Prop}

theorem safe_writeRounds {n : ℕ} (hn : bytes.length ≤ n)
    (h : Writing prims keyId contents before token inode sofar s)
    (hreturned : ∀ s', Writing prims keyId contents before token inode (sofar ++ bytes) s' →
      returned () s')
    (hraised : ∀ s' part, faulty → Writing prims keyId contents before token inode part s' →
      raised s') :
    (writeRounds inode n bytes).Safe (Fair faulty)
      (post prims keyId contents before returned raised) s := by
  induction n generalizing bytes sofar s with
  | zero =>
    obtain rfl := List.length_eq_zero_iff.mp (Nat.le_zero.mp hn)
    rw [List.append_nil] at hreturned
    exact hreturned s h
  | succ n ih =>
    unfold writeRounds
    by_cases hnil : bytes = []
    · rw [if_pos hnil]
      rw [hnil, List.append_nil] at hreturned
      exact hreturned s h
    · rw [if_neg hnil]
      have hpos := List.length_pos_of_ne_nil hnil
      -- what one write takes stands behind what was there
      have hstep : (writeSome inode bytes).Safe (Fair faulty)
          (post prims keyId contents before
            (fun written s' => (written = 0 → faulty) ∧
              Writing prims keyId contents before token inode
                (sofar ++ bytes.take written) s') raised) s := by
        refine Prog.safe_act h.underway ?_ ?_
        · intro i written s' hfair heq
          obtain ⟨hwritten, rfl⟩ := Prod.mk.inj heq
          cases hwritten
          have happend := h.rest.sound.append h.temp (bytes.take i.written)
          refine ⟨fun hzero => ?_, h.rest.next happend, ⟨h.temporary.fresh,
            h.temporary.others⟩, h.temp, ?_⟩
          · rcases hfair with hfaulty | hone
            · exact hfaulty
            · omega
          · rw [FileSystem.data_append, if_pos rfl, h.data]
            congr 1
            rw [List.take_eq_take_iff]
            omega
        · intro i e s' _ heq
          cases (Prod.mk.inj heq).1
      refine Prog.safe_bind hstep ?_
      rintro written s' ⟨hzero, hwriting⟩
      by_cases hw : written = 0
      · rw [if_pos hw]
        exact hraised s' _ (hzero hw) hwriting
      · rw [if_neg hw]
        refine ih ?_ hwriting ?_
        · rw [List.length_drop]
          omega
        · rw [List.append_assoc, List.take_append_drop]
          exact hreturned

/-! ## The final name -/

theorem Writing.link {target : Path} {s' : Disk}
    (h : Writing prims keyId contents before token inode bytes s) (hdurable : Durable target)
    (hlink : s.link (tempPath token) target = .ok s')
    (hproper : Kept s s' → s'.data inode = bytes →
      Proper prims keyId contents s' target (.file inode)) :
    Linked prims keyId contents before token target bytes s' := by
  obtain ⟨i, hi, hvacant, hdata, hlookup⟩ := FileSystem.link_eq_ok hlink
  rw [h.temp] at hi
  cases hi
  have hk : Kept s s' := Kept.insert hvacant.1 hlookup fun _ _ _ => by rw [hdata]
  have hother := other_of_insert hlookup
  have hself : s'.lookup target = some (.file inode) := by rw [hlookup, if_pos rfl]
  have htemp : s'.lookup (tempPath token) = some (.file inode) := by
    have hne : tempPath token ≠ target := (hdurable _).symm
    rw [hlookup, if_neg hne, h.temp]
  have hbytes : s'.data inode = bytes := by rw [hdata, h.data]
  have hintact : Intact prims keyId contents s' := by
    refine h.rest.sound.intact.change hk hother fun e he => ?_
    rw [hself] at he
    cases he
    exact hproper hk hbytes
  refine ⟨⟨hintact, Or.inr ⟨_, target, inode, hdurable _, htemp, hself⟩,
    h.rest.kept.trans hk⟩, ⟨h.temporary.fresh, fun name hname => ?_⟩, ?_, inode, hself, hbytes⟩
  · rw [hlookup, if_neg (hdurable name).symm, h.temporary.others name hname]
  intro p q j hp hq hpj hqj
  -- without the temporary name the target is the only new one
  have hshared : ∀ r, r ≠ tempPath token → r ≠ target →
      s'.lookup r = some (.file inode) → False := by
    intro r hr hrt hrj
    exact hr (h.rest.sound.settled _ _ inode (hother r _ hrt hrj) h.temp)
  have hof : s'.lookup target = some (.file j) → j = inode := by
    intro htj
    rw [hself] at htj
    cases htj
    rfl
  by_cases hpt : p = target
  · by_cases hqt : q = target
    · rw [hpt, hqt]
    · rw [hpt] at hpj
      rw [hof hpj] at hqj
      exact (hshared q hq hqt hqj).elim
  · by_cases hqt : q = target
    · rw [hqt] at hqj
      rw [hof hqj] at hpj
      exact (hshared p hp hpt hpj).elim
    · exact h.rest.sound.settled p q j (hother p _ hpt hpj) (hother q _ hqt hqj)

theorem safe_tryLink {target : Path} {returned : Bool → Disk → Prop}
    (h : Writing prims keyId contents before token inode bytes s) (hdurable : Durable target)
    (hparent : s.lookup target.dropLast = some .directory)
    (hproper : ∀ s', Kept s s' → s'.data inode = bytes →
      Proper prims keyId contents s' target (.file inode))
    (htrue : ∀ s', Linked prims keyId contents before token target bytes s' →
      returned true s') (hfalse : (s.lookup target).isSome → returned false s) :
    (tryLink token target).Safe (Fair faulty)
      (post prims keyId contents before returned raised) s := by
  cases htarget : s.lookup target with
  | some entry =>
    have hexists := FileSystem.link_fileExists h.temp (Option.isSome_of_eq_some htarget)
    refine Prog.safe_act h.underway ?_ ?_
    · intro i linked s' _ heq
      rw [hexists] at heq
      obtain ⟨hlinked, rfl⟩ := Prod.mk.inj heq
      cases hlinked
      exact hfalse (Option.isSome_of_eq_some htarget)
    · intro i e s' _ heq
      rw [hexists] at heq
      cases (Prod.mk.inj heq).1
  | none =>
    obtain ⟨s'', hlink⟩ := FileSystem.link_vacant h.temp ⟨htarget, Or.inr hparent⟩
    refine Prog.safe_act h.underway ?_ ?_
    · intro i linked s' _ heq
      rw [hlink] at heq
      obtain ⟨hlinked, rfl⟩ := Prod.mk.inj heq
      cases hlinked
      exact htrue _ (h.link hdurable hlink (hproper _))
    · intro i e s' _ heq
      rw [hlink] at heq
      cases (Prod.mk.inj heq).1

/-! ## The end -/

theorem safe_dropTemp
    (h : Underway prims keyId contents before s) (htemp : Temporary before token s)
    (hbut : SettledBut (tempPath token) s)
    (hreturned : ∀ s', AtRest prims keyId contents before s' → Kept s s' →
      (∀ name, s'.lookup [temporaryName, name] = before.lookup [temporaryName, name]) →
      returned () s') :
    (dropTemp token).Safe (Fair faulty)
      (post prims keyId contents before returned raised) s := by
  cases hlookup : s.lookup (tempPath token) with
  | none =>
    -- nothing was there: the disk is as it was
    have hsettled : Settled s := by
      intro p q i hp hq
      have hne : ∀ r, s.lookup r = some (.file i) → r ≠ tempPath token := by
        rintro _ hr rfl
        rw [hlookup] at hr
        cases hr
      exact hbut p q i (hne p hp) (hne q hq) hp hq
    refine safe_change_ok h ?_
      (hreturned s ⟨⟨h.intact, hsettled⟩, h.kept⟩ (Kept.refl s) fun name => ?_)
    · rw [FileSystem.unlink_none hlookup]
    · by_cases hname : name = tempName token
      · rw [hname]
        exact hlookup.trans htemp.fresh.symm
      · exact htemp.others name hname
  | some entry =>
    obtain ⟨-, i, rfl⟩ := h.intact.temporary hlookup
    obtain ⟨s', hunlink⟩ := FileSystem.unlink_file hlookup
    obtain ⟨hsound, hkept⟩ := hbut.unlink h.intact hunlink
    obtain ⟨-, -, hafter⟩ := FileSystem.unlink_eq_ok hunlink
    refine safe_change_ok h ?_
      (hreturned s' ⟨hsound, h.kept.trans hkept⟩ hkept fun name => ?_)
    · rw [hunlink]
    · by_cases hname : name = tempName token
      · rw [hname, hafter]
        exact (if_pos rfl).trans htemp.fresh.symm
      · rw [hafter, if_neg, htemp.others name hname]
        intro heq
        exact hname (List.cons.inj (List.cons.inj heq).2).1

end Ecosystem.Artifacts
