import RpcStubs.Proofs.Python.Docstring

/-! # The lines of a docstring

A free text goes into a docstring escaped, cut into lines and indented.  Escaping goes line by line
(`lines_escaped`), so the lines that it has in the docstring can be told from its own lines
(`docstringLines`): none of them has a line feed in it, the first one stands where the text is put, and
each of the others is empty or indented.

What is put behind a text stands behind its last line.  If that line is empty, there is nothing to
indent what stands there (`tidy_framed`).
-/

namespace RpcStubs.PythonText

open Text Python

/-! ## Escaping line by line -/

/-- A text with its backslashes and triple quotes escaped. -/
def escaped (text : List Char) : List Char :=
  breakTripleQuotes (doubleBackslashes text)

theorem leadingQuotes_firstLine (text : List Char) :
    leadingQuotes ((lines text).headD []) = leadingQuotes text := by
  induction text with
  | nil => rfl
  | cons c rest inductionHypothesis =>
    by_cases quote : c = '"'
    · subst c
      rw [lines_cons (by decide) (.inl (by decide)), List.headD_cons, leadingQuotes, leadingQuotes,
        inductionHypothesis]
    · -- whatever the line begins with then, it is no quote
      rw [leadingQuotes_cons quote]
      by_cases feed : c = '\n'
      · rw [feed]
        rfl
      by_cases lineEnd : c = '\r' ∧ rest.head? = some '\n'
      · obtain ⟨rfl, next⟩ := lineEnd
        obtain ⟨more, rfl⟩ := List.head?_eq_some_iff.1 next
        rfl
      · rw [lines_cons feed (by tauto), List.headD_cons, leadingQuotes_cons quote]

theorem escaped_backslash (rest : List Char) :
    escaped ('\\' :: rest) = '\\' :: '\\' :: escaped rest := by
  unfold escaped
  have doubled : doubleBackslashes ('\\' :: rest) = '\\' :: '\\' :: doubleBackslashes rest := rfl
  rw [doubled, breakTripleQuotes_cons (.inl (by decide)), breakTripleQuotes_cons (.inl (by decide))]

theorem escaped_threeQuotes (rest : List Char) :
    escaped ('"' :: '"' :: '"' :: rest) =
      '\\' :: '"' :: '\\' :: '"' :: '\\' :: '"' :: escaped rest := by
  unfold escaped
  rw [doubleBackslashes_cons (by decide), doubleBackslashes_cons (by decide),
    doubleBackslashes_cons (by decide), breakTripleQuotes]
  rfl

/-- A character stays as it is if it is no backslash, and no quote that two more come after. -/
theorem escaped_cons {c : Char} {rest : List Char} (notBackslash : c ≠ '\\')
    (few : c ≠ '"' ∨ leadingQuotes rest < 2) : escaped (c :: rest) = c :: escaped rest := by
  unfold escaped
  rw [doubleBackslashes_cons notBackslash, breakTripleQuotes_cons]
  rwa [leadingQuotes_doubleBackslashes]

/-- Escaping takes a text apart at backslashes and at three quotes in a row; all else it passes over
one character at a time. -/
@[elab_as_elim]
theorem escaped_induction {motive : List Char → Prop} (nil : motive [])
    (backslash : ∀ rest, motive rest → motive ('\\' :: rest))
    (threeQuotes : ∀ rest, motive rest → motive ('"' :: '"' :: '"' :: rest))
    (plain : ∀ c rest, c ≠ '\\' → (c ≠ '"' ∨ leadingQuotes rest < 2) → motive rest →
      motive (c :: rest)) (text : List Char) : motive text := by
  match text with
  | [] => exact nil
  | c :: rest =>
    by_cases isBackslash : c = '\\'
    · rw [isBackslash]
      exact backslash rest (escaped_induction nil backslash threeQuotes plain rest)
    by_cases few : c ≠ '"' ∨ leadingQuotes rest < 2
    · exact plain c rest isBackslash few (escaped_induction nil backslash threeQuotes plain rest)
    · simp only [not_or, not_not, Nat.not_lt] at few
      obtain ⟨rfl, two⟩ := few
      obtain ⟨more, rfl⟩ := eq_quotes_of_leadingQuotes two
      exact threeQuotes more (escaped_induction nil backslash threeQuotes plain more)
termination_by text.length

theorem headD_map_escaped (lines : List (List Char)) :
    (lines.map escaped).headD [] = escaped (lines.headD []) := by
  cases lines with
  | nil => rfl
  | cons line others => rfl

/-- A line feed in front is neither escaped nor the escape of anything else. -/
theorem head?_escaped {text : List Char} (feed : (escaped text).head? = some '\n') :
    text.head? = some '\n' := by
  induction text using escaped_induction with
  | nil => cases feed
  | backslash rest =>
    rw [escaped_backslash] at feed
    cases feed
  | threeQuotes rest =>
    rw [escaped_threeQuotes] at feed
    cases feed
  | plain c rest notBackslash few =>
    rwa [escaped_cons notBackslash few] at feed

/-- Escaping goes line by line. -/
theorem lines_escaped (text : List Char) : lines (escaped text) = (lines text).map escaped := by
  -- three quotes are escaped together and a carriage return goes with the line feed after it, so
  -- this is no induction on the single characters
  match text with
  | [] => rfl
  | c :: rest =>
    by_cases feed : c = '\n'
    · subst c
      rw [escaped_cons (by decide) (.inl (by decide))]
      simp only [lines, lines_escaped rest, List.map_cons]
      rfl
    by_cases lineEnd : c = '\r' ∧ rest.head? = some '\n'
    · obtain ⟨rfl, next⟩ := lineEnd
      obtain ⟨more, rfl⟩ := List.head?_eq_some_iff.1 next
      rw [escaped_cons (by decide) (.inl (by decide)), escaped_cons (by decide) (.inl (by decide))]
      simp only [lines, lines_escaped more, List.map_cons]
      rfl
    have whole : c ≠ '\r' ∨ rest.head? ≠ some '\n' := by tauto
    rw [lines_cons feed whole, List.map_cons]
    by_cases backslash : c = '\\'
    · subst c
      rw [escaped_backslash, escaped_backslash, lines_cons (by decide) (.inl (by decide)),
        lines_cons (by decide) (.inl (by decide)), lines_escaped rest, headD_map_escaped,
        ← List.map_tail]
      rfl
    by_cases few : c ≠ '"' ∨ leadingQuotes rest < 2
    · have fewInLine : c ≠ '"' ∨ leadingQuotes ((lines rest).headD []) < 2 := by
        rwa [leadingQuotes_firstLine]
      rw [escaped_cons backslash few, escaped_cons backslash fewInLine,
        lines_cons feed (whole.imp_right fun other feed => other (head?_escaped feed)),
        lines_escaped rest, headD_map_escaped, ← List.map_tail]
    · simp only [not_or, not_not, Nat.not_lt] at few
      obtain ⟨rfl, two⟩ := few
      obtain ⟨more, rfl⟩ := eq_quotes_of_leadingQuotes two
      have plain : ∀ d : Char, d = '"' ∨ d = '\\' → ∀ after, lines (d :: after) =
          (d :: (lines after).headD []) :: (lines after).tail := by
        intro d mark after
        rcases mark with rfl | rfl
        · exact lines_cons (by decide) (.inl (by decide))
        · exact lines_cons (by decide) (.inl (by decide))
      simp only [escaped_threeQuotes, plain, true_or, or_true, List.headD_cons, List.tail_cons,
        lines_escaped more, headD_map_escaped, List.map_tail]
termination_by text.length

/-! ## Blank lines -/

def IsBlankLine (line : List Char) : Prop :=
  ∀ c ∈ line, isBlank c = true

theorem trimEnd_eq_nil_iff {line : List Char} : trimEnd line = [] ↔ IsBlankLine line := by
  rw [trimEnd, List.reverse_eq_nil_iff, List.dropWhile_eq_nil_iff]
  simp [IsBlankLine]

theorem trim_eq_nil_iff {line : List Char} : trim line = [] ↔ IsBlankLine line := by
  rw [trim, trimEnd_eq_nil_iff]
  constructor
  · intro blank c member
    rw [← List.takeWhile_append_dropWhile (p := isBlank) (l := line), List.mem_append] at member
    rcases member with leading | member
    · exact List.mem_takeWhile_imp leading
    · exact blank c member
  · intro blank c member
    exact blank c ((List.dropWhile_sublist isBlank).mem member)

theorem isBlankLine_escaped {line : List Char} : IsBlankLine (escaped line) ↔ IsBlankLine line := by
  induction line using escaped_induction with
  | nil => rfl
  | backslash rest => simp [escaped_backslash, IsBlankLine, isBlank]
  | threeQuotes rest => simp [escaped_threeQuotes, IsBlankLine, isBlank]
  | plain c rest notBackslash few inductionHypothesis =>
    rw [escaped_cons notBackslash few]
    simp only [IsBlankLine, List.forall_mem_cons]
    exact and_congr_right fun _ => inductionHypothesis

instance (line : List Char) : Decidable (IsBlankLine line) :=
  List.decidableBAll (isBlank · = true) line

/-- Of several lines, the last one is not blank. -/
def LastLineFilled (text : List Char) : Prop :=
  ∀ line ∈ (lines text).tail.getLast?, ¬ IsBlankLine line

instance (text : List Char) : Decidable (LastLineFilled text) :=
  inferInstanceAs (Decidable (∀ line ∈ (lines text).tail.getLast?, ¬ IsBlankLine line))

/-! ## The lines of a docstring -/

/-- A line that is empty or indented. -/
def Tidy (line : List Char) : Prop :=
  line = [] ∨ indentation <+: line

instance (line : List Char) : Decidable (Tidy line) :=
  inferInstanceAs (Decidable (line = [] ∨ indentation <+: line))

theorem furtherLine_eq_nil {line : List Char} (blank : IsBlankLine line) : furtherLine line = [] := by
  rw [furtherLine, trim_eq_nil_iff.2 blank, trimEnd_eq_nil_iff.2 blank]
  rfl

theorem furtherLine_of_filled {line : List Char} (filled : ¬ IsBlankLine line) :
    furtherLine line = indentation ++ trimEnd line := by
  rw [← trim_eq_nil_iff, ← List.isEmpty_iff, Bool.not_eq_true] at filled
  rw [furtherLine, filled]
  rfl

theorem indentation_prefix_furtherLine {line : List Char} (filled : ¬ IsBlankLine line) :
    indentation <+: furtherLine line := by
  rw [furtherLine_of_filled filled]
  exact List.prefix_append _ _

/-- The lines that a text has in a docstring; an empty text has an empty one. -/
def docstringLines (text : List Char) : List (List Char) :=
  match lines text with
  | [] => [[]]
  | first :: others => trimEnd (escaped first) :: others.map fun line => furtherLine (escaped line)

theorem docstringChars_eq (text : List Char) :
    docstringChars text = joinWith ['\n'] (docstringLines text) := by
  have cut : lines (breakTripleQuotes (doubleBackslashes text)) = (lines text).map escaped :=
    lines_escaped text
  rw [docstringChars, docstringLines, cut]
  cases lines text with
  | nil => rfl
  | cons first others => simp [layOut, Function.comp_def]

/-- Lines with a text in front of the first of them and one behind the last. -/
def framed (front back : List Char) : List (List Char) → List (List Char)
  | [] => [front ++ back]
  | [line] => [front ++ line ++ back]
  | line :: others => (front ++ line) :: framed [] back others

theorem joinWith_cons_of_ne_nil {lines : List (List Char)} (some : lines ≠ []) (line : List Char) :
    joinWith ['\n'] (line :: lines) = line ++ '\n' :: joinWith ['\n'] lines := by
  rw [joinWith, List.append_assoc, List.singleton_append]
  exact some

theorem framed_ne_nil (front back : List Char) (lines : List (List Char)) :
    framed front back lines ≠ [] := by
  unfold framed
  split <;> exact List.cons_ne_nil _ _

theorem framed_cons_of_ne_nil (front back : List Char) {lines : List (List Char)} (some : lines ≠ [])
    (line : List Char) : framed front back (line :: lines) = (front ++ line) :: framed [] back lines := by
  rw [framed]
  exact some

theorem joinWith_framed (front back : List Char) (lines : List (List Char)) :
    joinWith ['\n'] (framed front back lines) = front ++ joinWith ['\n'] lines ++ back := by
  induction lines generalizing front with
  | nil => simp [framed, joinWith]
  | cons line others inductionHypothesis =>
    by_cases last : others = []
    · simp [last, framed, joinWith]
    · rw [framed_cons_of_ne_nil front back last, joinWith_cons_of_ne_nil (framed_ne_nil _ _ _),
        joinWith_cons_of_ne_nil last, inductionHypothesis]
      simp

/-- A character in none of the texts is in none of the framed lines. -/
theorem not_mem_framed {c : Char} {front back : List Char} {lines : List (List Char)}
    (inFront : c ∉ front) (inBack : c ∉ back) (inLines : ∀ line ∈ lines, c ∉ line) :
    ∀ line ∈ framed front back lines, c ∉ line := by
  induction lines generalizing front with
  | nil => simp [framed, inFront, inBack]
  | cons line others inductionHypothesis =>
    obtain ⟨here, there⟩ := List.forall_mem_cons.1 inLines
    by_cases last : others = []
    · simp [last, framed, inFront, inBack, here]
    · rw [framed_cons_of_ne_nil front back last, List.forall_mem_cons]
      exact ⟨by simp [inFront, here], inductionHypothesis List.not_mem_nil there⟩

/-- Lines after a first one are tidy in a frame, but for the last one if it is blank: there is nothing
to indent what stands behind it. -/
theorem tidy_framed (back : List Char) {others : List (List Char)} (some : others ≠ []) :
    (∀ line ∈ framed [] back (others.map furtherLine), Tidy line ∨ line = back) ∧
      ((∀ line ∈ framed [] back (others.map furtherLine), Tidy line) ↔
        (∀ line ∈ others.getLast?, ¬ IsBlankLine line) ∨ Tidy back) := by
  have tidy (line : List Char) : Tidy (furtherLine line) := by
    by_cases blank : IsBlankLine line
    · exact .inl (furtherLine_eq_nil blank)
    · exact .inr (indentation_prefix_furtherLine blank)
  induction others with
  | nil => exact absurd rfl some
  | cons line others inductionHypothesis =>
    by_cases last : others = []
    · subst last
      by_cases blank : IsBlankLine line
      · simp [framed, furtherLine_eq_nil blank, blank]
      · have filled : Tidy (furtherLine line ++ back) :=
          .inr ((indentation_prefix_furtherLine blank).trans (List.prefix_append _ _))
        simp [framed, blank, filled]
    · obtain ⟨each, all⟩ := inductionHypothesis last
      have more : others.map furtherLine ≠ [] := by simpa using last
      rw [List.map_cons, framed_cons_of_ne_nil _ _ more, List.getLast?_cons_of_ne_nil last]
      simp only [List.nil_append, List.forall_mem_cons, all, tidy line, true_and, true_or]
      exact ⟨each, trivial⟩

/-! ## No line feed in a line -/

theorem feed_not_mem_lines (text : List Char) : ∀ line ∈ lines text, '\n' ∉ line := by
  induction text using lines.induct with
  | case1 => simp [lines]
  | case2 rest inductionHypothesis => simpa [lines] using inductionHypothesis
  | case3 rest inductionHypothesis => simpa [lines] using inductionHypothesis
  | case4 c rest feed lineEnd none => simpa [lines, none, eq_comm] using feed
  | case5 c rest feed lineEnd line others cut inductionHypothesis =>
    rw [cut, List.forall_mem_cons] at inductionHypothesis
    have longer : lines (c :: rest) = (c :: line) :: others := by simp only [lines, cut]
    rw [longer, List.forall_mem_cons, List.mem_cons, not_or]
    exact ⟨⟨Ne.symm feed, inductionHypothesis.1⟩, inductionHypothesis.2⟩

theorem mem_of_mem_trimEnd {c : Char} {line : List Char} (member : c ∈ trimEnd line) : c ∈ line := by
  rw [trimEnd, List.mem_reverse] at member
  exact List.mem_reverse.1 ((List.dropWhile_sublist isBlank).mem member)

theorem feed_not_mem_docstringLines (text : List Char) : ∀ line ∈ docstringLines text, '\n' ∉ line := by
  have inLines := feed_not_mem_lines (escaped text)
  rw [lines_escaped] at inLines
  unfold docstringLines
  cases cut : lines text with
  | nil => simp
  | cons first others =>
    rw [cut, List.map_cons, List.forall_mem_cons, List.forall_mem_map] at inLines
    rw [List.forall_mem_cons, List.forall_mem_map]
    refine ⟨fun feed => inLines.1 (mem_of_mem_trimEnd feed), ?_⟩
    intro line member feed
    apply inLines.2 line member
    unfold furtherLine at feed
    split at feed
    · exact mem_of_mem_trimEnd feed
    · rcases List.mem_append.1 feed with blank | feed
      · simp [indentation] at blank
      · exact mem_of_mem_trimEnd feed

/-- A text put into a docstring behind an indentation is tidy, whatever its lines are, but for what
stands behind it if the last of several lines is blank. -/
theorem framed_docstringLines (text : List Char) {front : List Char} (back : List Char)
    (indented : indentation <+: front) :
    (∀ line ∈ framed front back (docstringLines text), Tidy line ∨ line = back) ∧
      ((∀ line ∈ framed front back (docstringLines text), Tidy line) ↔
        LastLineFilled text ∨ Tidy back) := by
  have tidy (rest : List Char) : Tidy (front ++ rest) := .inr (indented.trans (List.prefix_append _ _))
  unfold docstringLines LastLineFilled
  cases cut : lines text with
  | nil => simp [framed, tidy]
  | cons first others =>
    by_cases one : others = []
    · simp [one, framed, tidy]
    · have escapedOthers : others.map escaped ≠ [] := by simpa using one
      have further : (others.map fun line => furtherLine (escaped line)) =
          (others.map escaped).map furtherLine := by simp
      obtain ⟨each, all⟩ := tidy_framed back escapedOthers
      have last : (∀ line ∈ (others.map escaped).getLast?, ¬ IsBlankLine line) ↔
          ∀ line ∈ others.getLast?, ¬ IsBlankLine line := by
        simp [isBlankLine_escaped]
      dsimp only
      rw [further, framed_cons_of_ne_nil front back (by simpa using one), List.tail_cons, ← last]
      simp only [List.forall_mem_cons, tidy, true_and, true_or]
      exact ⟨each, all⟩

end RpcStubs.PythonText
