import Mathlib.Data.List.Forall2
import Mathlib.Tactic.Common

/-! # Results with failures

How a chain of steps that may fail comes to an end: with the first failure, or with all results.
The list versions are what the passes over a whole document are taken apart with.
-/

namespace RpcStubs

variable {ε δ α β : Type}

theorem bind_eq_ok_iff {first : Except ε α} {next : α → Except ε β} {b : β} :
    first >>= next = .ok b ↔ ∃ a, first = .ok a ∧ next a = .ok b := by
  cases first <;> simp [bind, Except.bind]

theorem bind_eq_error_iff {first : Except ε α} {next : α → Except ε β} {e : ε} :
    first >>= next = .error e ↔ first = .error e ∨ ∃ a, first = .ok a ∧ next a = .error e := by
  cases first <;> simp [bind, Except.bind]

theorem mapError_eq_ok_iff {f : ε → δ} {result : Except ε α} {a : α} :
    result.mapError f = .ok a ↔ result = .ok a := by
  cases result <;> simp [Except.mapError]

theorem mapError_eq_error_iff {f : ε → δ} {result : Except ε α} {e : δ} :
    result.mapError f = .error e ↔ ∃ e', result = .error e' ∧ f e' = e := by
  cases result <;> simp [Except.mapError]

theorem eq_ok_of_toOption {result : Except ε α} {a : α} (same : result.toOption = some a) :
    result = .ok a := by
  cases result with
  | error e => cases same
  | ok b =>
    cases same
    rfl

theorem exists_ok_of_isSome {result : Except ε α} (isSome : result.toOption.isSome = true) :
    ∃ a, result = .ok a := by
  cases result with
  | error e => cases isSome
  | ok a => exact ⟨a, rfl⟩

theorem mapM_eq_ok_iff {f : α → Except ε β} {items : List α} {results : List β} :
    items.mapM f = .ok results ↔ List.Forall₂ (fun a b => f a = .ok b) items results := by
  induction items generalizing results with
  | nil => simp [pure, Except.pure, eq_comm]
  | cons a rest inductionHypothesis =>
    rw [List.mapM_cons, List.forall₂_cons_left_iff]
    simp only [bind_eq_ok_iff, inductionHypothesis, pure, Except.pure, Except.ok.injEq]
    constructor
    · rintro ⟨b, here, others, there, rfl⟩
      exact ⟨b, others, here, there, rfl⟩
    · rintro ⟨b, others, here, there, rfl⟩
      exact ⟨b, here, others, there, rfl⟩

/-- A pass over a list fails as its first failing item does. -/
theorem mapM_eq_error_iff {f : α → Except ε β} {items : List α} {e : ε} :
    items.mapM f = .error e ↔ ∃ before a after, items = before ++ a :: after ∧
      (∀ x ∈ before, ∃ b, f x = .ok b) ∧ f a = .error e := by
  induction items with
  | nil => simp [pure, Except.pure]
  | cons a rest inductionHypothesis =>
    rw [List.mapM_cons, bind_eq_error_iff]
    simp only [bind_eq_error_iff, inductionHypothesis, pure, Except.pure, reduceCtorEq, and_false,
      exists_false, or_false]
    constructor
    · rintro (failed | ⟨b, passed, before, x, after, rfl, fine, failed⟩)
      · exact ⟨[], a, rest, rfl, by simp, failed⟩
      · refine ⟨a :: before, x, after, rfl, ?_, failed⟩
        intro y member
        rcases List.mem_cons.1 member with rfl | member
        · exact ⟨b, passed⟩
        · exact fine y member
    · rintro ⟨before, x, after, split, fine, failed⟩
      cases before with
      | nil =>
        obtain ⟨rfl, rfl⟩ := List.cons.inj split
        exact .inl failed
      | cons y before =>
        obtain ⟨rfl, rfl⟩ := List.cons.inj split
        obtain ⟨b, passed⟩ := fine a (by simp)
        exact .inr ⟨b, passed, before, x, after, rfl, fun z member => fine z (by simp [member]),
          failed⟩

end RpcStubs
