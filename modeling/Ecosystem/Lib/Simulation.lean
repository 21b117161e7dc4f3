import Ecosystem.Lib.HashChain

/-!
# Two machines in lockstep

A machine answers an input and moves on.  Two machines over the same inputs are compared
along a relation; an input that meets its condition keeps it, and behind one that does
not nothing is said.  So whole runs of answers are compared at once.
-/

namespace Ecosystem.Lib

variable {σ τ ι ο ο' : Type}

/-- The state behind a sequence of inputs. -/
def runMachine (step : σ → ι → ο × σ) (s : σ) (inputs : List ι) : σ :=
  inputs.foldl (fun s i => (step s i).2) s

/-- **The lockstep rule.**  `meets` is what an input needs for its answers to be as
`Q` says, and it is enough for the relation to be kept. -/
theorem lockstep_iff {step : σ → ι → ο × σ} {step' : τ → ι → ο' × τ}
    {R : σ → τ → Prop} {admitted : ι → Prop} {Q : σ → τ → ι → Prop} {meets : σ → ι → Prop}
    (hanswer : ∀ s t i, R s t → admitted i → (Q s t i ↔ meets s i))
    (hstep : ∀ s t i, R s t → admitted i → meets s i → R (step s i).2 (step' t i).2)
    {s : σ} {t : τ} (hst : R s t) {inputs : List ι} (hinputs : ∀ i ∈ inputs, admitted i) :
    ForallSplit (fun before i => Q (runMachine step s before) (runMachine step' t before) i)
        inputs ↔
      ForallSplit (fun before i => meets (runMachine step s before) i) inputs := by
  induction inputs generalizing s t with
  | nil => exact ⟨fun _ => forallSplit_nil, fun _ => forallSplit_nil⟩
  | cons i inputs ih =>
    have hi := hinputs i (List.mem_cons_self ..)
    have hrest : meets s i → _ := fun hmeets =>
      ih (hstep s t i hst hi hmeets) fun j hj => hinputs j (List.mem_cons_of_mem i hj)
    rw [forallSplit_cons, forallSplit_cons]
    exact (and_congr_left' (hanswer s t i hst hi)).trans (and_congr_right hrest)

end Ecosystem.Lib
