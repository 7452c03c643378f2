import RpcStubs.Proofs.Python.Reading

/-! # Tokens

The words, numbers and marks of Python source.  Blanks and line ends are tokens too, since both mean
something: a line end ends a statement unless a bracket is open, and the blanks before a statement
tell which block it is in.

The machine that finds tokens passes on no more than the word that it is in and the number of open
brackets.  Between the pieces of a template there is no such word, so the fixed pieces are evaluated
and only names and numbers need an argument.
-/

namespace RpcStubs.Python

open Identifier Machine.Runs

inductive Token where
  | name (text : String)
  | keyword (text : String)
  | number (value : Nat)
  | text (value : String)
  | docstring
  | mark (c : Char)
  | blank
  | newline
  deriving DecidableEq, Repr

/-- Where the reading of tokens stands: within a word, and within a number of brackets. -/
structure Place where
  word : List Char
  depth : Nat
  deriving DecidableEq, Repr

/-! ## The machine -/

/-- What a word is.  There may be no word, and a number has no zeros at its beginning. -/
def wordTokens (word : List Char) : Option (List Token) :=
  if word = [] then some []
  else if hasForm word then
    let text := String.ofList word
    some [if keywords.contains text then .keyword text else .name text]
  else
    let value := Nat.ofDigitChars 10 word 0
    if Nat.toDigits 10 value = word then some [.number value] else none

/-- What a character outside words is, and the number of open brackets behind it. -/
def markTokens (depth : Nat) (c : Char) : Option (List Token × Nat) :=
  if c = ' ' then some ([.blank], depth)
  else if c = '\n' then some (if depth = 0 then [.newline] else [], depth)
  else if c = '(' ∨ c = '[' then some ([.mark c], depth + 1)
  else if c = ')' ∨ c = ']' then if depth = 0 then none else some ([.mark c], depth - 1)
  else if c = ',' ∨ c = '=' ∨ c = ':' ∨ c = '.' then some ([.mark c], depth)
  else none

/-- One more character or string.  A word right before a string would be a prefix of it, and strings
with prefixes are not read here. -/
def lexStep : Machine Place Reading Token
  | place, .code c =>
    if isContinue c then some ([], ⟨place.word ++ [c], place.depth⟩)
    else
      match wordTokens place.word, markTokens place.depth c with
      | some word, some (marks, depth) => some (word ++ marks, ⟨[], depth⟩)
      | _, _ => none
  | ⟨[], depth⟩, .literal (some value) => some ([.text value], ⟨[], depth⟩)
  | ⟨[], depth⟩, .docstring => some ([.docstring], ⟨[], depth⟩)
  -- an escape that stands for nothing, or a string right behind a word
  | _, _ => none

theorem lexStep_within {word : List Char} {c : Char} (inside : isContinue c = true) (depth : Nat) :
    lexStep ⟨word, depth⟩ (.code c) = some ([], ⟨word ++ [c], depth⟩) :=
  if_pos inside

theorem lexStep_outside {word : List Char} {depth last : Nat} {c : Char} {found marks : List Token}
    (outside : isContinue c = false) (isWord : wordTokens word = some found)
    (marked : markTokens depth c = some (marks, last)) :
    lexStep ⟨word, depth⟩ (.code c) = some (found ++ marks, ⟨[], last⟩) := by
  refine (if_neg (by simp [outside])).trans ?_
  rw [isWord, marked]

def tokens? (text : List Char) : Option (List Token) :=
  match Machine.run step .code text with
  | some (symbols, .code) =>
    match Machine.run lexStep ⟨[], 0⟩ (symbols.map Symbol.reading) with
    | some (tokens, ⟨[], 0⟩) => some tokens
    | _ => none
  | _ => none

/-- From one number of open brackets to another, outside words at both ends. -/
abbrev Lexes (depth : Nat) (readings : List Reading) (tokens : List Token) (last : Nat) : Prop :=
  Machine.Runs lexStep ⟨[], depth⟩ readings tokens ⟨[], last⟩

theorem tokens?_eq {text : String} {readings : List Reading} {tokens : List Token}
    (reads : Reads text readings) (lexes : Lexes 0 readings tokens 0) :
    tokens? text.toList = some tokens := by
  obtain ⟨symbols, scans, rfl⟩ := reads
  have scanned : Machine.run step .code text.toList = some (symbols, .code) := scans
  have lexed : Machine.run lexStep ⟨[], 0⟩ (symbols.map Symbol.reading) =
      some (tokens, ⟨[], 0⟩) := lexes
  simp only [tokens?, scanned, lexed]

/-! ## Words -/

theorem isStart_eq_false_of_isDigit {c : Char} (digit : c.isDigit = true) : isStart c = false := by
  simp only [Char.isDigit, Bool.and_eq_true, decide_eq_true_eq, UInt32.le_iff_toNat_le] at digit
  obtain ⟨-, atMost⟩ := digit
  rw [Bool.eq_false_iff, Ne, isStart_iff]
  rintro ((upper | lower) | rfl)
  · have atLeast := UInt32.le_iff_toNat_le.1 upper.1
    exact absurd (Nat.le_trans atLeast atMost) (by decide)
  · have atLeast := UInt32.le_iff_toNat_le.1 lower.1
    exact absurd (Nat.le_trans atLeast atMost) (by decide)
  · exact absurd atMost (by decide)

namespace Lexes

variable {depth last : Nat} {c : Char} {marks : List Token}

theorem characters {word more : List Char} (within : ∀ c ∈ more, isContinue c = true) :
    Machine.Runs lexStep ⟨word, depth⟩ (more.map .code) [] ⟨word ++ more, depth⟩ := by
  induction more generalizing word with
  | nil => simpa using nil _
  | cons c rest inductionHypothesis =>
    have here : lexStep ⟨word, depth⟩ (.code c) = some ([], ⟨word ++ [c], depth⟩) :=
      lexStep_within (within c (by simp)) depth
    have others : Machine.Runs lexStep ⟨word ++ [c], depth⟩ (rest.map .code) []
        ⟨word ++ [c] ++ rest, depth⟩ :=
      inductionHypothesis fun d member => within d (List.mem_cons_of_mem _ member)
    rw [List.append_assoc] at others
    exact skip here others

/-- A word ends at the first character that cannot belong to it. -/
theorem word {text : String} {word : List Token} (within : ∀ c ∈ text.toList, isContinue c = true)
    (isWord : wordTokens text.toList = some word) {ending : String}
    (single : ending = String.singleton c) (outside : isContinue c = false)
    (marked : markTokens depth c = some (marks, last)) :
    Lexes depth (asCode (text ++ ending)) (word ++ marks) last := by
  subst single
  have ended : lexStep ⟨text.toList, depth⟩ (.code c) = some (word ++ marks, ⟨[], last⟩) :=
    lexStep_outside outside isWord marked
  have kept : Machine.Runs lexStep ⟨[], depth⟩ (text.toList.map .code) [] ⟨text.toList, depth⟩ :=
    characters within
  simpa [asCode] using kept.append (cons ended (nil _))

theorem name {name ending : String} (valid : ValidName name) (single : ending = String.singleton c)
    (outside : isContinue c = false) (marked : markTokens depth c = some (marks, last)) :
    Lexes depth (asCode (name ++ ending)) (.name name :: marks) last := by
  have form : hasForm name.toList = true ∧ name ∉ keywords := by
    have checked := (isValid_iff name).2 valid
    simpa [isValid] using checked
  have isWord : wordTokens name.toList = some [.name name] := by
    simp [wordTokens, valid.toList_ne_nil, form]
  exact word (fun c member => valid.isContinue_of_mem member) isWord single outside marked

/-- A name with a comma and a blank behind it, within brackets or not. -/
theorem comma {name : String} (valid : ValidName name) :
    Lexes depth (asCode (name ++ ", ")) [.name name, .mark ',', .blank] depth := by
  have ended : Lexes depth (asCode (name ++ ",")) [.name name, .mark ','] depth :=
    Lexes.name (c := ',') valid rfl (by decide) rfl
  have blank : Lexes depth (asCode " ") [.blank] depth := rfl
  have separator : ", " = "," ++ " " := rfl
  rw [separator, ← String.append_assoc, asCode_append]
  exact ended.append blank

theorem number (n : Nat) {ending : String} (single : ending = String.singleton c)
    (outside : isContinue c = false) (marked : markTokens depth c = some (marks, last)) :
    Lexes depth (asCode (toString n ++ ending)) (.number n :: marks) last := by
  have digits : ∀ c ∈ Nat.toDigits 10 n, c.isDigit = true := fun c member =>
    Nat.isDigit_of_mem_toDigits (by decide) (by decide) member
  have form : hasForm (Nat.toDigits 10 n) = false := by
    cases written : Nat.toDigits 10 n with
    | nil => rfl
    | cons first rest =>
      have digit := digits first (by simp [written])
      simp [hasForm, isStart_eq_false_of_isDigit digit]
  have isWord : wordTokens (toString n).toList = some [.number n] := by
    simp [wordTokens, form, Nat.toDigits_ne_nil]
  refine word (fun c member => ?_) isWord single outside marked
  have digit := digits c (by simpa using member)
  simp [isContinue, Char.isAlphanum, digit]

theorem literal (value : String) : Lexes depth [.literal (some value)] [.text value] depth :=
  rfl

/-- Names with the same code between each two, and some other code behind the last. -/
theorem intercalate {separator ending : String} {between behind : List Token} {names : List String}
    (nonempty : names ≠ []) (valid : ∀ name ∈ names, ValidName name)
    (inner : ∀ name, ValidName name →
      Lexes depth (asCode (name ++ separator)) (.name name :: between) depth)
    (outer : ∀ name, ValidName name →
      Lexes depth (asCode (name ++ ending)) (.name name :: behind) last) :
    Lexes depth (asCode (String.intercalate separator names ++ ending))
      (between.intercalate (names.map fun name => [.name name]) ++ behind) last := by
  induction names with
  | nil => exact absurd rfl nonempty
  | cons name others inductionHypothesis =>
    by_cases final : others = []
    · subst others
      simpa using outer name (valid name (by simp))
    · have rest := inductionHypothesis final
        fun other member => valid other (List.mem_cons_of_mem _ member)
      have here := (inner name (valid name (by simp))).append rest
      obtain ⟨second, more, rfl⟩ := List.exists_cons_of_ne_nil final
      rw [String.intercalate_cons_of_ne_nil final]
      simpa using here

end Lexes

end RpcStubs.Python
