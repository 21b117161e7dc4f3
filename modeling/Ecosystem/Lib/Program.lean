/-!
# Programs that can be interrupted

A program is a tree of steps: a step commits a change to the state, reads an input of
its surroundings and goes on.  Where the inputs end before the program, it has crashed.

`Prog.Safe` is the weakest precondition for three postconditions: between any two
steps, on return and on a raise.
-/

namespace Ecosystem.Lib

inductive Prog (ι σ ε α : Type) where
  | done (value : α)
  | fail (error : ε)
  | step (commit : ι → σ → σ) (next : ι → σ → Prog ι σ ε α)

inductive Ending (ε α : Type)
  | returned (value : α)
  | raised (error : ε)
  | crashed
deriving DecidableEq

def Ending.isReturned {ε α : Type} : Ending ε α → Bool
  | .returned _ => true
  | _ => false

namespace Prog

variable {ι σ ε α β : Type}

/-! ## Constructs -/

def bind : Prog ι σ ε α → (α → Prog ι σ ε β) → Prog ι σ ε β
  | done a, k => k a
  | fail e, _ => fail e
  | step commit next, k => step commit fun i s => (next i s).bind k

instance : Monad (Prog ι σ ε) where
  pure := done
  bind := bind

/-- `try … except`. -/
def catch_ : Prog ι σ ε α → (ε → Prog ι σ ε α) → Prog ι σ ε α
  | done a, _ => done a
  | fail e, handler => handler e
  | step commit next, handler => step commit fun i s => (next i s).catch_ handler

/-- A `finally` block that has something to do only when the program raises. -/
def onFail (p : Prog ι σ ε α) (cleanup : Prog ι σ ε Unit) : Prog ι σ ε α :=
  p.catch_ fun e => cleanup.bind fun _ => fail e

/-- A `finally` block. -/
def andFinally (p : Prog ι σ ε α) (cleanup : Prog ι σ ε Unit) : Prog ι σ ε α :=
  (p.onFail cleanup).bind fun a => cleanup.bind fun _ => done a

def ofExcept : Except ε α → Prog ι σ ε α
  | .ok a => done a
  | .error e => fail e

/-- One step that answers or raises. -/
def act (f : ι → σ → Except ε α × σ) : Prog ι σ ε α :=
  step (fun i s => (f i s).2) fun i s => ofExcept (f i s).1

/-! ## Runs -/

/-- A run that may be cut short. -/
def run : Prog ι σ ε α → List ι → σ → Ending ε α × σ
  | done a, _, s => (.returned a, s)
  | fail e, _, s => (.raised e, s)
  | step _ _, [], s => (.crashed, s)
  | step commit next, i :: script, s => (next i s).run script (commit i s)

/-- A run that comes to an end. -/
def complete : Prog ι σ ε α → (Nat → ι) → σ → Except ε α × σ
  | done a, _, s => (.ok a, s)
  | fail e, _, s => (.error e, s)
  | step commit next, inputs, s =>
    (next (inputs 0) s).complete (fun n => inputs (n + 1)) (commit (inputs 0) s)

/-- A run that returns without a fault is one that comes to an end. -/
theorem complete_of_run {p : Prog ι σ ε α} {i : ι} {n : Nat} {s s' : σ} {a : α}
    (h : p.run (List.replicate n i) s = (.returned a, s')) :
    p.complete (fun _ => i) s = (.ok a, s') := by
  induction p generalizing n s with
  | done _ =>
    cases h
    rfl
  | fail _ => cases h
  | step commit next ih =>
    cases n with
    | zero => cases h
    | succ n => exact ih i s h

/-! ## Safety -/

/-- What is asked of a program at its end and on the way. -/
structure Post (σ ε α : Type) where
  between : σ → Prop
  returned : α → σ → Prop
  raised : ε → σ → Prop

/-- The weakest precondition, for surroundings that are admissible. -/
def Safe (admissible : ι → Prop) (post : Post σ ε α) : Prog ι σ ε α → σ → Prop
  | done a, s => post.returned a s
  | fail e, s => post.raised e s
  | step commit next, s => post.between s ∧
      ∀ i, admissible i → (next i s).Safe admissible post (commit i s)

/-- What a run has come to. -/
def Post.holds (post : Post σ ε α) : Ending ε α × σ → Prop
  | (.returned a, s) => post.returned a s
  | (.raised e, s) => post.raised e s
  | (.crashed, s) => post.between s

variable {admissible : ι → Prop} {post : Post σ ε α} {p : Prog ι σ ε α} {s : σ}

/-- **A safe program keeps its postconditions wherever it is interrupted.** -/
theorem Safe.run (h : p.Safe admissible post s) {script : List ι}
    (hscript : ∀ i ∈ script, admissible i) : post.holds (p.run script s) := by
  induction p generalizing script s with
  | done a | fail e => exact h
  | step commit next ih =>
    cases script with
    | nil => exact h.1
    | cons i script =>
      exact ih i s (h.2 i (hscript i (by simp)))
        fun j hj => hscript j (List.mem_cons_of_mem i hj)

theorem Safe.complete (h : p.Safe admissible post s) {inputs : Nat → ι}
    (hinputs : ∀ n, admissible (inputs n)) :
    match p.complete inputs s with
    | (.ok a, s') => post.returned a s'
    | (.error e, s') => post.raised e s' := by
  induction p generalizing inputs s with
  | done a | fail e => exact h
  | step commit next ih =>
    exact ih (inputs 0) s (h.2 _ (hinputs 0)) fun n => hinputs (n + 1)

/-- The rule of consequence. -/
theorem Safe.mono {post' : Post σ ε α} (h : p.Safe admissible post s)
    (hbetween : ∀ s, post.between s → post'.between s)
    (hreturned : ∀ a s, post.returned a s → post'.returned a s)
    (hraised : ∀ e s, post.raised e s → post'.raised e s) :
    p.Safe admissible post' s := by
  induction p generalizing s with
  | done a => exact hreturned a s h
  | fail e => exact hraised e s h
  | step commit next ih => exact ⟨hbetween s h.1, fun i hi => ih i s (h.2 i hi)⟩

theorem Safe.and {post' : Post σ ε α} (h : p.Safe admissible post s)
    (h' : p.Safe admissible post' s) :
    p.Safe admissible
      { between := fun s => post.between s ∧ post'.between s
        returned := fun a s => post.returned a s ∧ post'.returned a s
        raised := fun e s => post.raised e s ∧ post'.raised e s } s := by
  induction p generalizing s with
  | done a | fail e => exact ⟨h, h'⟩
  | step commit next ih =>
    exact ⟨⟨h.1, h'.1⟩, fun i hi => ih i s (h.2 i hi) (h'.2 i hi)⟩

theorem Safe.of_forall (hbetween : ∀ s, post.between s)
    (hreturned : ∀ a s, post.returned a s) (hraised : ∀ e s, post.raised e s) :
    p.Safe admissible post s := by
  induction p generalizing s with
  | done a => exact hreturned a s
  | fail e => exact hraised e s
  | step commit next ih => exact ⟨hbetween s, fun i _ => ih i s⟩

@[simp] theorem safe_pure {a : α} :
    (pure a : Prog ι σ ε α).Safe admissible post s ↔ post.returned a s :=
  Iff.rfl

@[simp] theorem safe_fail {e : ε} :
    (fail e : Prog ι σ ε α).Safe admissible post s ↔ post.raised e s :=
  Iff.rfl

/-- The rule of sequence. -/
theorem safe_bind {k : α → Prog ι σ ε β} {post : Post σ ε β}
    {middle : α → σ → Prop}
    (h : p.Safe admissible { post with returned := middle } s)
    (hk : ∀ a s, middle a s → (k a).Safe admissible post s) :
    (p >>= k).Safe admissible post s := by
  induction p generalizing s with
  | done a => exact hk a s h
  | fail e => exact h
  | step commit next ih => exact ⟨h.1, fun i hi => ih i s (h.2 i hi)⟩

/-- The rule of exceptions. -/
theorem safe_catch {handler : ε → Prog ι σ ε α} {middle : ε → σ → Prop}
    (h : p.Safe admissible { post with raised := middle } s)
    (hhandler : ∀ e s, middle e s → (handler e).Safe admissible post s) :
    (p.catch_ handler).Safe admissible post s := by
  induction p generalizing s with
  | done a => exact h
  | fail e => exact hhandler e s h
  | step commit next ih => exact ⟨h.1, fun i hi => ih i s (h.2 i hi)⟩

theorem safe_onFail {cleanup : Prog ι σ ε Unit} {middle : ε → σ → Prop}
    (h : p.Safe admissible { post with raised := middle } s)
    (hcleanup : ∀ e s, middle e s → cleanup.Safe admissible
      { post with returned := fun _ s => post.raised e s } s) :
    (p.onFail cleanup).Safe admissible post s :=
  safe_catch h fun e s' he => safe_bind (hcleanup e s' he) fun _ _ hs => hs

theorem safe_andFinally {cleanup : Prog ι σ ε Unit} {failed : ε → σ → Prop}
    {middle : α → σ → Prop}
    (h : p.Safe admissible ⟨post.between, middle, failed⟩ s)
    (hfailed : ∀ e s, failed e s → cleanup.Safe admissible
      { post with returned := fun _ s => post.raised e s } s)
    (hreturned : ∀ a s, middle a s → cleanup.Safe admissible
      { post with returned := fun _ s => post.returned a s } s) :
    (p.andFinally cleanup).Safe admissible post s := by
  have hbody : (p.onFail cleanup).Safe admissible ⟨post.between, middle, post.raised⟩ s :=
    safe_onFail h hfailed
  exact safe_bind hbody fun a s' ha => safe_bind (hreturned a s' ha) fun _ _ hs => hs

theorem safe_ofExcept {x : Except ε α} (hok : ∀ a, x = .ok a → post.returned a s)
    (herror : ∀ e, x = .error e → post.raised e s) :
    (ofExcept x : Prog ι σ ε α).Safe admissible post s := by
  cases x with
  | ok a => exact hok a rfl
  | error e => exact herror e rfl

/-- The rule of one step. -/
theorem safe_act {f : ι → σ → Except ε α × σ} (hbetween : post.between s)
    (hok : ∀ i a s', admissible i → f i s = (.ok a, s') → post.returned a s')
    (herror : ∀ i e s', admissible i → f i s = (.error e, s') → post.raised e s') :
    (act f).Safe admissible post s :=
  ⟨hbetween, fun i hi => safe_ofExcept
    (fun a ha => hok i a _ hi (Prod.ext ha rfl))
    fun e he => herror i e _ hi (Prod.ext he rfl)⟩

end Prog

end Ecosystem.Lib
