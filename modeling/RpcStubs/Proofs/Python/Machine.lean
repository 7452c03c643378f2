import Mathlib.Tactic.Common

/-! # Machines

A machine takes its input one item at a time.  Each item may complete some output, leaves the machine
in a new state, or is not accepted at all.  Python source is read by two of them: one tells strings
from code, one puts words together.

`Machine.Runs.append` is what makes them usable on generated text.  A text is read piece by piece,
and all that passes from one piece to the next is the state, so each piece of a template needs one
lemma about itself and none about what stands before or behind it.
-/

namespace RpcStubs.Python

variable {σ ι ο : Type}

/-- What one item completes, and the state after it. -/
abbrev Machine (σ ι ο : Type) : Type :=
  σ → ι → Option (List ο × σ)

namespace Machine

/-- The output over a whole input, and the state at the end of it. -/
def run (machine : Machine σ ι ο) : σ → List ι → Option (List ο × σ)
  | state, [] => some ([], state)
  | state, item :: rest =>
    match machine state item with
    | none => none
    | some (here, next) =>
      match run machine next rest with
      | none => none
      | some (others, last) => some (here ++ others, last)

/-- The machine gets from one state to another over an input, with the given output. -/
def Runs (machine : Machine σ ι ο) (state : σ) (input : List ι) (output : List ο) (last : σ) :
    Prop :=
  machine.run state input = some (output, last)

instance [DecidableEq σ] [DecidableEq ο] (machine : Machine σ ι ο) (state : σ) (input : List ι)
    (output : List ο) (last : σ) : Decidable (machine.Runs state input output last) :=
  inferInstanceAs (Decidable (_ = _))

namespace Runs

variable {machine : Machine σ ι ο} {state next last : σ} {item : ι} {input rest : List ι}
  {output others : List ο}

theorem nil (state : σ) : machine.Runs state [] [] state :=
  rfl

theorem cons {here : List ο} (stepped : machine state item = some (here, next))
    (runs : machine.Runs next rest others last) :
    machine.Runs state (item :: rest) (here ++ others) last := by
  unfold Runs at runs ⊢
  rw [run, stepped]
  simp only [runs]

theorem skip (stepped : machine state item = some ([], next))
    (runs : machine.Runs next rest others last) : machine.Runs state (item :: rest) others last :=
  cons stepped runs

/-- Two states that the first item makes no difference between are as good as each other. -/
theorem congr_step {other : σ} (same : machine state item = machine other item)
    (runs : machine.Runs other (item :: rest) output last) :
    machine.Runs state (item :: rest) output last := by
  unfold Runs at runs ⊢
  rw [run] at runs ⊢
  rw [same]
  exact runs

theorem append (first : machine.Runs state input output next)
    (second : machine.Runs next rest others last) :
    machine.Runs state (input ++ rest) (output ++ others) last := by
  -- the output of the first piece is cut where its first item leaves off
  induction input generalizing state output with
  | nil =>
    cases first
    exact second
  | cons item input inductionHypothesis =>
    unfold Runs at first
    rw [run] at first
    cases stepped : machine state item with
    | none => simp [stepped] at first
    | some result =>
      obtain ⟨here, middle⟩ := result
      simp only [stepped] at first
      cases remaining : machine.run middle input with
      | none => simp [remaining] at first
      | some outcome =>
        obtain ⟨more, reached⟩ := outcome
        simp only [remaining, Option.some.injEq, Prod.mk.injEq] at first
        obtain ⟨rfl, rfl⟩ := first
        rw [List.cons_append, List.append_assoc]
        exact cons stepped (inductionHypothesis remaining)

/-- Pieces of the same kind are read one by one, from a state back to it. -/
theorem flatMap {α : Type} {piece : α → List ι} {result : α → List ο} {items : List α}
    (runs : ∀ a ∈ items, machine.Runs state (piece a) (result a) state) :
    machine.Runs state (items.flatMap piece) (items.flatMap result) state := by
  induction items with
  | nil => exact nil state
  | cons a others inductionHypothesis =>
    rw [List.flatMap_cons, List.flatMap_cons]
    exact (runs a (by simp)).append
      (inductionHypothesis fun b member => runs b (List.mem_cons_of_mem _ member))

end Runs

end Machine

end RpcStubs.Python
