import RpcStubs.Proofs.Names.Identifier
import RpcStubs.Proofs.Python.Docstring
import RpcStubs.Proofs.Python.Literal

/-! # Source text as code and strings

What a whole piece of source text reads as: its code, and the values of its strings.  A piece begins
and ends in code, so pieces can be put together.  Texts that come from outside enter a piece in one of
three ways: as names within code, as the value of a literal, or somewhere in a docstring.
-/

namespace RpcStubs.Python

open Identifier PythonText Machine.Runs

/-- What source text reads as once comments are left out.  A literal has no value if there is an
escape in it that stands for nothing.  What a docstring says is left out too. -/
inductive Reading where
  | code (c : Char)
  | literal (value : Option String)
  | docstring
  deriving DecidableEq, Repr

def Symbol.reading : Symbol → Reading
  | .code c => .code c
  | .string .line body => .literal ((unescape body).map String.ofList)
  | .string .triple _ => .docstring

def Reading.isString : Reading → Bool
  | .code _ => false
  | .literal _ | .docstring => true

def asCode (text : String) : List Reading :=
  text.toList.map .code

@[simp]
theorem asCode_append (first second : String) :
    asCode (first ++ second) = asCode first ++ asCode second := by
  simp [asCode]

theorem asCode_join (texts : List String) : asCode (String.join texts) = texts.flatMap asCode := by
  unfold asCode
  rw [String.toList_join, List.map_flatMap]

@[simp]
theorem filter_asCode (text : String) : (asCode text).filter Reading.isString = [] := by
  simp [asCode, Reading.isString]

/-- A text that begins and ends in code reads as the given code and strings. -/
def Reads (text : String) (readings : List Reading) : Prop :=
  ∃ symbols, Scans .code text.toList symbols .code ∧ symbols.map Symbol.reading = readings

/-! ## Plain code -/

/-- Code in which neither a comment nor a string begins. -/
def Plain (text : String) : Prop :=
  ∀ c ∈ text.toList, c ≠ '#' ∧ c ≠ '"'

instance (text : String) : Decidable (Plain text) :=
  List.decidableBAll _ text.toList

namespace Plain

theorem append {first second : String} (before : Plain first) (behind : Plain second) :
    Plain (first ++ second) := by
  intro c member
  rw [String.toList_append, List.mem_append] at member
  exact member.elim (before c) (behind c)

theorem join {texts : List String} (plain : ∀ text ∈ texts, Plain text) :
    Plain (String.join texts) := by
  intro c member
  rw [String.toList_join, List.mem_flatMap] at member
  obtain ⟨text, among, member⟩ := member
  exact plain text among c member

theorem intercalate {separator : String} (between : Plain separator) {texts : List String}
    (plain : ∀ text ∈ texts, Plain text) : Plain (String.intercalate separator texts) := by
  intro c member
  rw [String.toList_intercalate] at member
  rcases Text.mem_intercalate member with member | ⟨letters, among, member⟩
  · exact between c member
  · obtain ⟨text, named, rfl⟩ := List.mem_map.1 among
    exact plain text named c member

theorem ofValidName {name : String} (valid : ValidName name) : Plain name := by
  intro c member
  constructor <;> rintro rfl
  · exact valid.not_mem (by decide) member
  · exact valid.not_mem (by decide) member

theorem ofModulePath {path : String} (isPath : ModulePath path) : Plain path := by
  intro c member
  constructor <;> rintro rfl
  · exact isPath.not_mem (by decide) (by decide) member
  · exact isPath.not_mem (by decide) (by decide) member

theorem ofNat (n : Nat) : Plain (toString n) := by
  intro c member
  have digits : c ∈ Nat.toDigits 10 n := by simpa using member
  have digit : c.isDigit = true := Nat.isDigit_of_mem_toDigits (by decide) (by decide) digits
  constructor <;> rintro rfl <;> simp [Char.isDigit] at digit

end Plain

/-! ## Pieces -/

namespace Reads

theorem congr {text text' : String} {readings readings' : List Reading} (reads : Reads text readings)
    (sameText : text' = text) (same : readings' = readings) : Reads text' readings' := by
  rw [sameText, same]
  exact reads

theorem append {first second : String} {readings others : List Reading}
    (before : Reads first readings) (behind : Reads second others) :
    Reads (first ++ second) (readings ++ others) := by
  obtain ⟨symbols, scans, rfl⟩ := before
  obtain ⟨more, scansMore, rfl⟩ := behind
  refine ⟨symbols ++ more, ?_, List.map_append⟩
  rw [String.toList_append]
  exact Machine.Runs.append scans scansMore

theorem code {text : String} (plain : Plain text) : Reads text (asCode text) :=
  ⟨_, Scans.code plain, by simp [asCode, Symbol.reading]⟩

theorem comment {text : String} (oneLine : '\n' ∉ text.toList) :
    Reads ("#" ++ text ++ "\n") (asCode "\n") := by
  refine ⟨[.code '\n'], ?_, rfl⟩
  simpa using Scans.comment oneLine

/-- A literal at the end of a line reads as its text. -/
theorem literal (text : String) :
    Reads (PythonText.literal text ++ "\n") (.literal (some text) :: asCode "\n") := by
  refine ⟨[.string .line (text.toList.flatMap literalChar), .code '\n'], ?_, ?_⟩
  · have scans := Scans.literal text.toList (c := '\n') (by decide)
    simpa [PythonText.literal] using scans
  · simp [Symbol.reading, unescape_literalChars, asCode]

/-- A sealed text that goes on with a harmless character reads as a docstring between its quotes. -/
theorem docstring {text : String} {c : Char} (isSealed : Sealed 0 text.toList)
    (plain : c ≠ '\\' ∧ c ≠ '"') :
    Reads ("\"\"\"" ++ (text ++ String.singleton c) ++ "\"\"\"") [.docstring] := by
  refine ⟨[.string .triple (text.toList ++ [c])], ?_, rfl⟩
  simpa using Scans.tripleQuoted isSealed plain

theorem join {α : Type} {text : α → String} {readings : α → List Reading} {items : List α}
    (reads : ∀ a ∈ items, Reads (text a) (readings a)) :
    Reads (String.join (items.map text)) (items.flatMap readings) := by
  induction items with
  | nil => exact ⟨[], nil _, rfl⟩
  | cons a others inductionHypothesis =>
    rw [List.map_cons, String.join_cons, List.flatMap_cons]
    exact (reads a (by simp)).append
      (inductionHypothesis fun b member => reads b (List.mem_cons_of_mem _ member))

end Reads

end RpcStubs.Python
