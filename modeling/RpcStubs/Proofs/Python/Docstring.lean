import RpcStubs.PythonText
import RpcStubs.Proofs.Python.Scanner
import Mathlib.Data.List.TakeWhile

/-! # Docstrings

Whatever text is laid out for a docstring cannot end it.  The reason is a property of the characters
alone: a text is *sealed* after a number of bare quotes if each backslash in it stands before a
backslash or a quote, and bare quotes never come to three in a row.

Escaping seals any text (`sealed_escaped`).  What happens after it keeps the seal: cutting into lines,
dropping blanks at their ends, indenting and joining.  A line cannot be cut within an escape, since
neither a backslash nor a quote is a blank or a line end, and a line end between two lines sets the
count of quotes back to none.
-/

namespace RpcStubs.Python

open Text PythonText

/-- A text that does not end a triple-quoted string after as many bare quotes as `quotes`. -/
inductive Sealed : Nat → List Char → Prop where
  | nil {quotes : Nat} : Sealed quotes []
  | escape {quotes : Nat} {c : Char} {rest : List Char} : c = '\\' ∨ c = '"' → Sealed 0 rest →
      Sealed quotes ('\\' :: c :: rest)
  | quote {quotes : Nat} {rest : List Char} : quotes < 2 → Sealed (quotes + 1) rest →
      Sealed quotes ('"' :: rest)
  | plain {quotes : Nat} {c : Char} {rest : List Char} : c ≠ '\\' → c ≠ '"' → Sealed 0 rest →
      Sealed quotes (c :: rest)

/-- Characters none of which means anything within a string. -/
def Harmless (text : List Char) : Prop :=
  ∀ c ∈ text, c ≠ '\\' ∧ c ≠ '"'

instance (text : List Char) : Decidable (Harmless text) :=
  List.decidableBAll _ text

namespace Sealed

/-! ## Closure -/

/-- A sealed text may be followed by one that is sealed after any number of quotes. -/
theorem append {quotes : Nat} {first second : List Char} (before : Sealed quotes first)
    (behind : ∀ quotes, Sealed quotes second) : Sealed quotes (first ++ second) := by
  induction before with
  | nil => exact behind _
  | escape taken _ inductionHypothesis => exact .escape taken inductionHypothesis
  | quote bound _ inductionHypothesis => exact .quote bound inductionHypothesis
  | plain backslash quote _ inductionHypothesis => exact .plain backslash quote inductionHypothesis

/-- Characters that are neither quotes nor backslashes seal off what is before them. -/
theorem plain_append {quotes : Nat} {first second : List Char} (nonempty : first ≠ [])
    (harmless : Harmless first) (behind : Sealed 0 second) :
    Sealed quotes (first ++ second) := by
  induction first generalizing quotes with
  | nil => exact absurd rfl nonempty
  | cons c rest inductionHypothesis =>
    obtain ⟨backslash, quote⟩ := harmless c (by simp)
    by_cases last : rest = []
    · subst rest
      exact .plain backslash quote behind
    · exact .plain backslash quote
        (inductionHypothesis last fun d member => harmless d (List.mem_cons_of_mem _ member))

/-- What is left of a sealed text without blanks at its end is sealed. -/
theorem of_append_blanks {quotes : Nat} {first blanks : List Char}
    (sealed_ : Sealed quotes (first ++ blanks)) (blank : ∀ c ∈ blanks, isBlank c = true) :
    Sealed quotes first := by
  generalize whole : first ++ blanks = text at sealed_
  induction sealed_ generalizing first with
  | nil =>
    rw [(List.append_eq_nil_iff.1 whole).1]
    exact .nil
  | @escape quotes c rest taken _ inductionHypothesis =>
    match first with
    | [] => exact .nil
    | [d] =>
      -- the cut would be within the escape, but the character it takes is no blank
      simp only [List.cons_append, List.nil_append, List.cons.injEq] at whole
      have noBlank := blank c (by simp [whole.2])
      rcases taken with rfl | rfl <;> exact absurd noBlank (by decide)
    | d :: e :: more =>
      simp only [List.cons_append, List.cons.injEq] at whole
      obtain ⟨rfl, rfl, whole⟩ := whole
      exact .escape taken (inductionHypothesis whole)
  | quote bound _ inductionHypothesis =>
    cases first with
    | nil => exact .nil
    | cons d more =>
      obtain ⟨rfl, others⟩ := List.cons.inj whole
      exact .quote bound (inductionHypothesis others)
  | plain backslash quote _ inductionHypothesis =>
    cases first with
    | nil => exact .nil
    | cons d more =>
      obtain ⟨rfl, others⟩ := List.cons.inj whole
      exact .plain backslash quote (inductionHypothesis others)

end Sealed

/-! ## Escaping -/

def leadingQuotes : List Char → Nat
  | '"' :: rest => leadingQuotes rest + 1
  | _ => 0

theorem leadingQuotes_cons {c : Char} (other : c ≠ '"') (rest : List Char) :
    leadingQuotes (c :: rest) = 0 := by
  rw [leadingQuotes]
  intro more same
  exact other (List.cons.inj same).1

theorem eq_quotes_of_leadingQuotes {text : List Char} (two : 2 ≤ leadingQuotes text) :
    ∃ rest, text = '"' :: '"' :: rest := by
  match text with
  | [] => simp [leadingQuotes] at two
  | [c] =>
    by_cases quote : c = '"'
    · simp [quote, leadingQuotes] at two
    · simp [leadingQuotes_cons quote] at two
  | c :: d :: rest =>
    by_cases quote : c = '"'
    · by_cases quote' : d = '"'
      · exact ⟨rest, by rw [quote, quote']⟩
      · simp [quote, leadingQuotes, leadingQuotes_cons quote'] at two
    · simp [leadingQuotes_cons quote] at two

theorem doubleBackslashes_cons {c : Char} (other : c ≠ '\\') (rest : List Char) :
    doubleBackslashes (c :: rest) = c :: doubleBackslashes rest := by
  simp [doubleBackslashes, other]

theorem leadingQuotes_doubleBackslashes (text : List Char) :
    leadingQuotes (doubleBackslashes text) = leadingQuotes text := by
  induction text with
  | nil => rfl
  | cons c rest inductionHypothesis =>
    by_cases backslash : c = '\\'
    · rw [leadingQuotes_cons (by rw [backslash]; decide), backslash]
      exact leadingQuotes_cons (by decide) _
    · rw [doubleBackslashes_cons backslash]
      by_cases quote : c = '"'
      · rw [quote, leadingQuotes, leadingQuotes, inductionHypothesis]
      · rw [leadingQuotes_cons quote, leadingQuotes_cons quote]

theorem breakTripleQuotes_cons {c : Char} {rest : List Char}
    (few : c ≠ '"' ∨ leadingQuotes rest < 2) :
    breakTripleQuotes (c :: rest) = c :: breakTripleQuotes rest := by
  rw [breakTripleQuotes]
  rintro more rfl rfl
  rcases few with other | few
  · exact other rfl
  · simp only [leadingQuotes] at few
    omega

/-- Escaping seals any text, also after bare quotes as long as no three of them come together. -/
theorem sealed_escaped (text : List Char) (quotes : Nat)
    (few : quotes = 0 ∨ quotes + leadingQuotes text < 3) :
    Sealed quotes (breakTripleQuotes (doubleBackslashes text)) := by
  -- three quotes are escaped together, so this is no induction on the single characters
  match text with
  | [] => exact .nil
  | c :: rest =>
    by_cases backslash : c = '\\'
    · subst c
      have doubled : doubleBackslashes ('\\' :: rest) = '\\' :: '\\' :: doubleBackslashes rest := rfl
      rw [doubled, breakTripleQuotes_cons (.inl (by decide)),
        breakTripleQuotes_cons (.inl (by decide))]
      exact .escape (.inl rfl) (sealed_escaped rest 0 (.inl rfl))
    by_cases quote : c = '"'
    · subst c
      by_cases three : 2 ≤ leadingQuotes rest
      · obtain ⟨more, rfl⟩ := eq_quotes_of_leadingQuotes three
        rw [doubleBackslashes_cons (by decide), doubleBackslashes_cons (by decide),
          doubleBackslashes_cons (by decide), breakTripleQuotes]
        exact .escape (.inr rfl) (.escape (.inr rfl) (.escape (.inr rfl)
          (sealed_escaped more 0 (.inl rfl))))
      -- one or two quotes stay bare, and are counted
      · rw [doubleBackslashes_cons (by decide),
          breakTripleQuotes_cons (.inr (by rw [leadingQuotes_doubleBackslashes]; omega))]
        rw [leadingQuotes] at few
        exact .quote (by omega) (sealed_escaped rest (quotes + 1) (by omega))
    · rw [doubleBackslashes_cons backslash, breakTripleQuotes_cons (.inl quote)]
      exact .plain backslash quote (sealed_escaped rest 0 (.inl rfl))
termination_by text.length

/-! ## Layout -/

theorem lines_cons {c : Char} (noLineFeed : c ≠ '\n') {rest : List Char}
    (noLineEnd : c ≠ '\r' ∨ rest.head? ≠ some '\n') :
    lines (c :: rest) = (c :: (lines rest).headD []) :: (lines rest).tail := by
  rw [lines]
  · cases lines rest <;> rfl
  · exact noLineFeed
  · rintro more rfl rfl
    rcases noLineEnd with other | other <;> simp at other

/-- The lines of a sealed text are sealed: the first one where the text is, the others anywhere. -/
theorem Sealed.lines {quotes : Nat} {text : List Char} (sealed_ : Sealed quotes text) :
    Sealed quotes ((Text.lines text).headD []) ∧ ∀ line ∈ (Text.lines text).tail, Sealed 0 line := by
  induction sealed_ with
  | nil => exact ⟨.nil, by simp [Text.lines]⟩
  | @escape quotes c rest taken _ inductionHypothesis =>
    -- neither half of an escape ends a line
    have other : c ≠ '\n' ∧ c ≠ '\r' := by rcases taken with rfl | rfl <;> decide
    rw [lines_cons (by decide) (.inl (by decide)), lines_cons other.1 (.inl other.2)]
    exact ⟨.escape taken inductionHypothesis.1, inductionHypothesis.2⟩
  | quote bound _ inductionHypothesis =>
    rw [lines_cons (by decide) (.inl (by decide))]
    exact ⟨.quote bound inductionHypothesis.1, inductionHypothesis.2⟩
  | @plain quotes c rest backslash quote _ inductionHypothesis =>
    have all : ∀ line ∈ Text.lines rest, Sealed 0 line := by
      cases found : Text.lines rest with
      | nil => simp
      | cons first others =>
        rw [found] at inductionHypothesis
        exact List.forall_mem_cons.2 inductionHypothesis
    by_cases lineFeed : c = '\n'
    · subst c
      exact ⟨.nil, all⟩
    -- a carriage return before a line feed goes with it, and is in none of the lines
    by_cases lineEnd : c = '\r' ∧ rest.head? = some '\n'
    · obtain ⟨rfl, next⟩ := lineEnd
      obtain ⟨more, rfl⟩ : ∃ more, rest = '\n' :: more := by
        cases rest with
        | nil => cases next
        | cons d more =>
          cases next
          exact ⟨more, rfl⟩
      exact ⟨.nil, fun line member => all line (List.mem_cons_of_mem _ member)⟩
    · rw [lines_cons lineFeed (by tauto)]
      exact ⟨.plain backslash quote inductionHypothesis.1, inductionHypothesis.2⟩

theorem Sealed.trimEnd {quotes : Nat} {text : List Char} (sealed_ : Sealed quotes text) :
    Sealed quotes (Text.trimEnd text) := by
  have whole : Text.trimEnd text ++ (text.reverse.takeWhile isBlank).reverse = text := by
    rw [Text.trimEnd, ← List.reverse_append, List.takeWhile_append_dropWhile, List.reverse_reverse]
  rw [← whole] at sealed_
  refine sealed_.of_append_blanks fun c member => ?_
  rw [List.mem_reverse] at member
  exact List.mem_takeWhile_imp member

theorem Sealed.furtherLine {line : List Char} (sealed_ : Sealed 0 line) :
    Sealed 0 (PythonText.furtherLine line) := by
  unfold PythonText.furtherLine
  split
  · exact sealed_.trimEnd
  · exact plain_append (by decide) (by decide) sealed_.trimEnd

/-- Joining with line feeds keeps texts sealed: each line feed sets the count of quotes back. -/
theorem Sealed.joinWith {quotes : Nat} {first : List Char} {others : List (List Char)}
    (before : Sealed quotes first) (behind : ∀ line ∈ others, Sealed 0 line) :
    Sealed quotes (Text.joinWith ['\n'] (first :: others)) := by
  induction others generalizing quotes first with
  | nil => exact before
  | cons second others inductionHypothesis =>
    have rest := inductionHypothesis (behind second (by simp))
      fun line member => behind line (List.mem_cons_of_mem _ member)
    rw [Text.joinWith, List.append_assoc]
    · exact before.append fun _ => .plain (by decide) (by decide) rest
    · simp

/-- Whatever the text, its form in a docstring is sealed. -/
theorem sealed_docstringChars (text : List Char) : Sealed 0 (docstringChars text) := by
  have cut := (sealed_escaped text 0 (.inl rfl)).lines
  unfold docstringChars
  cases found : lines (breakTripleQuotes (doubleBackslashes text)) with
  | nil => exact .nil
  | cons first others =>
    rw [found] at cut
    refine Sealed.joinWith cut.1.trimEnd fun line member => ?_
    obtain ⟨raw, fromRaw, rfl⟩ := List.mem_map.1 member
    exact (cut.2 raw fromRaw).furtherLine

/-- A text in a docstring may be followed by anything that is sealed after any number of quotes. -/
theorem Sealed.docstring_append (text : String) {rest : List Char}
    (behind : ∀ quotes, Sealed quotes rest) :
    Sealed 0 ((PythonText.docstring text).toList ++ rest) := by
  rw [PythonText.docstring, String.toList_ofList]
  exact (sealed_docstringChars text.toList).append behind

/-! ## Scanning -/

namespace Scans

open Machine.Runs

/-- Within a triple-quoted string a sealed text only adds to its body. -/
theorem sealed_ {quotes : Nat} {text : List Char} (isSealed : Sealed quotes text)
    (body : List Char) :
    ∃ body' quotes', Scans (.triple body quotes) text [] (.triple body' quotes') ∧
      body' ++ List.replicate quotes' '"' = body ++ List.replicate quotes '"' ++ text := by
  induction isSealed generalizing body with
  | nil => exact ⟨body, _, nil _, by simp⟩
  | @escape quotes c rest _ _ inductionHypothesis =>
    obtain ⟨body', quotes', scans, same⟩ :=
      inductionHypothesis (body ++ List.replicate quotes '"' ++ ['\\', c])
    have opened : step (.triple body quotes) '\\' =
        some ([], .tripleEscape (body ++ List.replicate quotes '"')) := rfl
    have taken : step (.tripleEscape (body ++ List.replicate quotes '"')) c =
        some ([], .triple (body ++ List.replicate quotes '"' ++ ['\\', c]) 0) := rfl
    exact ⟨body', quotes', skip opened (skip taken scans), by simpa using same⟩
  | @quote quotes rest bound _ inductionHypothesis =>
    obtain ⟨body', quotes', scans, same⟩ := inductionHypothesis body
    have counted : step (.triple body quotes) '"' = some ([], .triple body (quotes + 1)) := by
      simp [step, tripleStep, Nat.ne_of_lt bound]
    exact ⟨body', quotes', skip counted scans, by simpa [List.replicate_succ'] using same⟩
  | @plain quotes c rest backslash quote _ inductionHypothesis =>
    obtain ⟨body', quotes', scans, same⟩ :=
      inductionHypothesis (body ++ List.replicate quotes '"' ++ [c])
    have stepped : step (.triple body quotes) c =
        some ([], .triple (body ++ List.replicate quotes '"' ++ [c]) 0) := by
      simp [step, tripleStep, backslash, quote]
    exact ⟨body', quotes', skip stepped scans, by simpa using same⟩

/-- A sealed text between three quotes at each end is one string, unless a quote or a backslash is
the last character of it. -/
theorem tripleQuoted {text : List Char} {c : Char} (isSealed : Sealed 0 text)
    (plain : c ≠ '\\' ∧ c ≠ '"') :
    Scans .code ('"' :: '"' :: '"' :: (text ++ [c]) ++ ['"', '"', '"'])
      [.string .triple (text ++ [c])] .code := by
  -- the machine may still hold back quotes at the end of the sealed text; `c` settles them
  obtain ⟨body, quotes, scans, same⟩ := sealed_ isSealed []
  have last : step (.triple body quotes) c = some ([], .triple (text ++ [c]) 0) := by
    simp [step, tripleStep, plain, same]
  have opened : Scans .code ['"', '"', '"'] [] (.triple [] 0) := rfl
  have closed : Scans (.triple (text ++ [c]) 0) ['"', '"', '"']
      [.string .triple (text ++ [c])] .code := rfl
  have whole := opened.append (scans.append (skip last closed))
  simpa using whole

end Scans

end RpcStubs.Python
