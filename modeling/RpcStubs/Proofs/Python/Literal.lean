import RpcStubs.PythonText
import RpcStubs.Proofs.Python.Scanner

/-! # Literals

A text that is written as a literal is one string on one line to the scanner, and undoing the escapes
between its quotes gives the text back.  The first half needs a character behind the literal: behind
an empty literal the scanner has seen two quotes, and only the next character tells that they do not
open a triple-quoted string.
-/

namespace RpcStubs.Python

open PythonText Machine.Runs

/-! ## Undoing escapes -/

def escaped? (c : Char) : Option Char :=
  if c = '\\' then some '\\'
  else if c = '"' then some '"'
  else if c = 'n' then some '\n'
  else if c = 'r' then some '\r'
  else if c = 't' then some '\t'
  else none

/-- The value of a literal, from what stands between its quotes. -/
def unescape : List Char → Option (List Char)
  | [] => some []
  | ['\\'] => none
  | '\\' :: c :: rest =>
    match escaped? c, unescape rest with
    | some value, some values => some (value :: values)
    | _, _ => none
  | c :: rest => (unescape rest).map (c :: ·)

theorem unescape_escape {c value : Char} (known : escaped? c = some value) (rest : List Char) :
    unescape ('\\' :: c :: rest) = (unescape rest).map (value :: ·) := by
  rw [unescape, known]
  cases unescape rest <;> rfl

theorem unescape_cons {c : Char} (plain : c ≠ '\\') (rest : List Char) :
    unescape (c :: rest) = (unescape rest).map (c :: ·) := by
  rw [unescape]
  · intro escape
    exact absurd escape plain
  · intro d others escape
    exact absurd escape plain

/-- A character is written as an escape that stands for it, or as itself if it needs none. -/
theorem literalChar_cases (c : Char) :
    (∃ d, escaped? d = some c ∧ literalChar c = ['\\', d]) ∨
      (literalChar c = [c] ∧ c ≠ '\\' ∧ c ≠ '"' ∧ c ≠ '\n') := by
  unfold literalChar
  by_cases backslash : c = '\\'
  · exact .inl ⟨'\\', by simp [escaped?, backslash], by simp [backslash]⟩
  by_cases quote : c = '"'
  · exact .inl ⟨'"', by simp [escaped?, quote], by simp [quote]⟩
  by_cases lineFeed : c = '\n'
  · exact .inl ⟨'n', by simp [escaped?, lineFeed], by simp [lineFeed]⟩
  by_cases carriageReturn : c = '\r'
  · exact .inl ⟨'r', by simp [escaped?, carriageReturn], by simp [carriageReturn]⟩
  by_cases tab : c = '\t'
  · exact .inl ⟨'t', by simp [escaped?, tab], by simp [tab]⟩
  · exact .inr ⟨by simp [backslash, quote, lineFeed, carriageReturn, tab], backslash, quote, lineFeed⟩

/-- Undoing the escapes of a literal gives back its text. -/
theorem unescape_literalChars (text : List Char) :
    unescape (text.flatMap literalChar) = some text := by
  induction text with
  | nil => rfl
  | cons c rest inductionHypothesis =>
    rw [List.flatMap_cons]
    rcases literalChar_cases c with ⟨d, known, written⟩ | ⟨written, plain, -, -⟩
    · rw [written, List.cons_append, List.cons_append, List.nil_append, unescape_escape known,
        inductionHypothesis]
      rfl
    · rw [written, List.cons_append, List.nil_append, unescape_cons plain, inductionHypothesis]
      rfl

/-! ## Scanning -/

namespace Scans

theorem literalChars (body text : List Char) :
    Scans (.line body) (text.flatMap literalChar) [] (.line (body ++ text.flatMap literalChar)) := by
  induction text generalizing body with
  | nil => simpa using nil _
  | cons c rest inductionHypothesis =>
    rw [List.flatMap_cons]
    rcases literalChar_cases c with ⟨d, -, written⟩ | ⟨written, backslash, quote, lineFeed⟩
    · have opened : step (.line body) '\\' = some ([], .lineEscape body) := rfl
      have taken : step (.lineEscape body) d = some ([], .line (body ++ ['\\', d])) := rfl
      have others := inductionHypothesis (body ++ ['\\', d])
      rw [List.append_assoc] at others
      rw [written]
      exact skip opened (skip taken others)
    · have stepped : step (.line body) c = some ([], .line (body ++ [c])) := by
        simp [step, lineStep, backslash, quote, lineFeed]
      have others := inductionHypothesis (body ++ [c])
      rw [List.append_assoc] at others
      rw [written]
      exact skip stepped others

/-- After one quote the machine is in a string unless another quote follows. -/
theorem begun {c : Char} {rest : List Char} {symbols : List Symbol} {last : Mode} (other : c ≠ '"')
    (scans : Scans (.line []) (c :: rest) symbols last) : Scans .quote (c :: rest) symbols last := by
  have same : step .quote c = step (.line []) c := by simp [step, other]
  exact congr_step same scans

/-- A literal with a character of code behind it is one string. -/
theorem literal (text : List Char) {c : Char} (code : c ≠ '#' ∧ c ≠ '"') :
    Scans .code ('"' :: text.flatMap literalChar ++ ['"', c])
      [.string .line (text.flatMap literalChar), .code c] .code := by
  have opened : step .code '"' = some ([], .quote) := rfl
  refine skip opened ?_
  -- two quotes could be the beginning of three, so the empty literal ends one character later
  cases text with
  | nil =>
    have closed : step .quote '"' = some ([], .twoQuotes) := rfl
    have behind : step .twoQuotes c = some ([.string .line [], .code c], .code) := by
      simp [step, codeStep, code]
    exact skip closed (cons behind (nil _))
  | cons d rest =>
    have body : Scans (.line []) ((d :: rest).flatMap literalChar) []
        (.line ((d :: rest).flatMap literalChar)) := literalChars [] (d :: rest)
    have closed : step (.line ((d :: rest).flatMap literalChar)) '"' =
        some ([.string .line ((d :: rest).flatMap literalChar)], .code) := rfl
    have behind : step .code c = some ([.code c], .code) := by simp [step, codeStep, code]
    have whole := body.append (cons closed (cons behind (nil _)))
    -- what the first character is written as does not begin with a quote
    rw [List.flatMap_cons] at whole ⊢
    rcases literalChar_cases d with ⟨e, -, written⟩ | ⟨written, -, quote, -⟩
    · rw [written] at whole ⊢
      exact begun (by decide) whole
    · rw [written] at whole ⊢
      exact begun quote whole

end Scans

end RpcStubs.Python
