import RpcStubs.Stub
import Mathlib.Tactic.Common

/-! # Valid names

The names that a generated module may bind, said without the checks that decide them: an ASCII
letter or an underscore, then letters, digits and underscores, and no hard keyword.  A module path
is one or more of these between points.

The checks decide exactly these two notions (`isValid_iff`, `isModulePath_iff`).  The second rests
on the fact that no valid name has a point in it, so that cutting a path at its points gives back
the names that it was made of.
-/

namespace RpcStubs.Identifier

/-! ## Names -/

def IsLetter (c : Char) : Prop :=
  ('A' ≤ c ∧ c ≤ 'Z') ∨ ('a' ≤ c ∧ c ≤ 'z')

def IsDigit (c : Char) : Prop :=
  '0' ≤ c ∧ c ≤ '9'

/-- A name that a module may bind: `[A-Za-z_][A-Za-z0-9_]*`, and not a keyword. -/
structure ValidName (name : String) : Prop where
  form : ∃ first rest, name.toList = first :: rest ∧ (IsLetter first ∨ first = '_') ∧
    ∀ c ∈ rest, IsLetter c ∨ IsDigit c ∨ c = '_'
  notKeyword : name ∉ keywords

theorem isAlpha_iff (c : Char) : c.isAlpha = true ↔ IsLetter c := by
  change (decide ('A' ≤ c ∧ c ≤ 'Z') || decide ('a' ≤ c) && decide (c ≤ 'z')) = true ↔ _
  simp only [IsLetter, Bool.or_eq_true, Bool.and_eq_true, decide_eq_true_eq]

theorem isDigit_iff (c : Char) : c.isDigit = true ↔ IsDigit c := by
  change (decide ('0' ≤ c) && decide (c ≤ '9')) = true ↔ _
  simp only [IsDigit, Bool.and_eq_true, decide_eq_true_eq]

theorem isStart_iff (c : Char) : isStart c = true ↔ IsLetter c ∨ c = '_' := by
  simp only [isStart, Bool.or_eq_true, isAlpha_iff, decide_eq_true_eq]

theorem isContinue_iff (c : Char) : isContinue c = true ↔ IsLetter c ∨ IsDigit c ∨ c = '_' := by
  simp only [isContinue, Char.isAlphanum, Bool.or_eq_true, isAlpha_iff, isDigit_iff,
    decide_eq_true_eq, or_assoc]

theorem isContinue_of_isStart {c : Char} (start : isStart c = true) : isContinue c = true := by
  rw [isStart_iff] at start
  rw [isContinue_iff]
  exact start.elim .inl (fun underscore => .inr (.inr underscore))

theorem isValid_iff (name : String) : isValid name = true ↔ ValidName name := by
  simp only [isValid, Bool.and_eq_true, Bool.not_eq_true', List.contains_eq_mem,
    decide_eq_false_iff_not]
  constructor
  -- an empty name has no form, so both ways there is a first character
  · rintro ⟨form, notKeyword⟩
    refine ⟨?_, notKeyword⟩
    cases letters : name.toList with
    | nil => simp [letters, hasForm] at form
    | cons first rest =>
      simp only [letters, hasForm, Bool.and_eq_true, List.all_eq_true, isStart_iff,
        isContinue_iff] at form
      exact ⟨first, rest, rfl, form.1, form.2⟩
  · rintro ⟨⟨first, rest, letters, start, more⟩, notKeyword⟩
    refine ⟨?_, notKeyword⟩
    simp only [letters, hasForm, Bool.and_eq_true, List.all_eq_true, isStart_iff, isContinue_iff]
    exact ⟨start, more⟩

theorem isValid_eq_false_iff (name : String) : isValid name = false ↔ ¬ ValidName name := by
  rw [← isValid_iff, Bool.not_eq_true]

theorem ValidName.isContinue_of_mem {name : String} (valid : ValidName name) {c : Char}
    (member : c ∈ name.toList) : isContinue c = true := by
  obtain ⟨first, rest, letters, start, more⟩ := valid.form
  rw [letters, List.mem_cons] at member
  rcases member with rfl | member
  · exact isContinue_of_isStart ((isStart_iff c).2 start)
  · exact (isContinue_iff c).2 (more c member)

theorem ValidName.toList_ne_nil {name : String} (valid : ValidName name) : name.toList ≠ [] := by
  obtain ⟨first, rest, letters, -⟩ := valid.form
  simp [letters]

/-- A character that no name goes on with stands in no valid name. -/
theorem ValidName.not_mem {name : String} (valid : ValidName name) {c : Char}
    (outside : isContinue c = false) : c ∉ name.toList := by
  intro member
  simp [valid.isContinue_of_mem member] at outside

end RpcStubs.Identifier

namespace RpcStubs

open Identifier

/-! ## Module paths -/

theorem Text.pieces_eq_splitOn (separator : Char) (cs : List Char) :
    Text.pieces (· = separator) cs = cs.splitOn separator := by
  induction cs with
  | nil => rfl
  | cons c rest inductionHypothesis =>
    rw [List.splitOn_cons_eq_if_modifyHead, ← inductionHypothesis, Text.pieces]
    have nonempty := Text.pieces_ne_nil (· = separator) rest
    by_cases here : c = separator
    · simp [here]
    · cases found : Text.pieces (· = separator) rest with
      | nil => exact absurd found nonempty
      | cons piece others => simp [here]

/-- What stands in texts with a separator between each two stands in one of them, or in the separator.
-/
theorem Text.mem_intercalate {α : Type} {separator : List α} {texts : List (List α)} {a : α}
    (member : a ∈ separator.intercalate texts) : a ∈ separator ∨ ∃ text ∈ texts, a ∈ text := by
  induction texts with
  | nil => simp at member
  | cons text others inductionHypothesis =>
    cases others with
    | nil => exact .inr ⟨text, by simp, by simpa using member⟩
    | cons second more =>
      rw [List.intercalate_cons_cons, List.mem_append, List.mem_append] at member
      rcases member with (member | member) | member
      · exact .inr ⟨text, by simp, member⟩
      · exact .inl member
      · refine (inductionHypothesis member).imp_right ?_
        rintro ⟨other, among, member⟩
        exact ⟨other, List.mem_cons_of_mem _ among, member⟩

/-- A path of a Python module: valid names, at least one, with points between them. -/
def ModulePath (path : String) : Prop :=
  ∃ names : List String, names ≠ [] ∧ path = String.intercalate "." names ∧
    ∀ name ∈ names, ValidName name

theorem isModulePath_iff (path : String) : isModulePath path = true ↔ ModulePath path := by
  simp only [isModulePath, Text.pieces_eq_splitOn, List.all_eq_true, isValid_iff]
  constructor
  · intro valid
    refine ⟨(path.toList.splitOn '.').map String.ofList, by simp, ?_, ?_⟩
    · apply String.toList_injective
      simp [String.toList_intercalate]
    · intro name member
      obtain ⟨piece, cut, rfl⟩ := List.mem_map.1 member
      exact valid piece cut
  · rintro ⟨names, nonempty, rfl, valid⟩ piece cut
    have whole : (String.intercalate "." names).toList.splitOn '.' = names.map String.toList := by
      rw [String.toList_intercalate]
      apply List.splitOn_intercalate
      · intro letters member
        obtain ⟨name, named, rfl⟩ := List.mem_map.1 member
        exact (valid name named).not_mem (by decide)
      · simpa using nonempty
    rw [whole] at cut
    obtain ⟨name, named, rfl⟩ := List.mem_map.1 cut
    simpa using valid name named

/-- A character that no name goes on with, and other than the point, stands in no module path. -/
theorem ModulePath.not_mem {path : String} (isPath : ModulePath path) {c : Char} (noPoint : c ≠ '.')
    (outside : isContinue c = false) : c ∉ path.toList := by
  obtain ⟨names, -, rfl, valid⟩ := isPath
  intro member
  rw [String.toList_intercalate] at member
  rcases Text.mem_intercalate member with point | ⟨letters, among, member⟩
  · exact noPoint (by simpa using point)
  · obtain ⟨name, named, rfl⟩ := List.mem_map.1 among
    exact (valid name named).not_mem outside member

end RpcStubs
