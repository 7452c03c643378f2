import RpcStubs.Proofs.Python.DocstringLines
import RpcStubs.Proofs.Text.Lines
import Mathlib.Data.List.Forall2

/-! # The text of a docstring

What a docstring says is the text that was put into it.  Each backslash in it stands before a
backslash or a quote, and once these are read as the characters they stand for, what is left is the
text laid out plainly: its lines without the blanks at their ends, indented but for the first
(`undoEscapes_docstring_iff`).  The plain layout is said without the functions that make docstrings.

The ingredient is that escaping commutes with every step of the layout.  It goes line by line
(`lines_escaped`), and it passes over blanks at the end of a line, indentation and the line feeds
between lines, since three quotes are never brought together by any of these.  So the whole docstring
is one escaped text (`docstringChars_eq_escaped`), and escapes are undone as they were made.
-/

namespace RpcStubs.PythonText

open Text Python

/-! ## Undoing escapes -/

/-- A text with its escapes undone.  A backslash stands for the backslash or the quote behind it, and
may stand before nothing else. -/
def undoEscapes : List Char → Option (List Char)
  | [] => some []
  | '\\' :: '\\' :: rest => (undoEscapes rest).map ('\\' :: ·)
  | '\\' :: '"' :: rest => (undoEscapes rest).map ('"' :: ·)
  | '\\' :: _ => none
  | c :: rest => (undoEscapes rest).map (c :: ·)

theorem undoEscapes_cons {c : Char} (plain : c ≠ '\\') (rest : List Char) :
    undoEscapes (c :: rest) = (undoEscapes rest).map (c :: ·) := by
  rw [undoEscapes]
  · exact fun _ escape => absurd escape plain
  · exact fun _ escape => absurd escape plain
  · exact fun escape => absurd escape plain

theorem undoEscapes_escaped (text : List Char) : undoEscapes (escaped text) = some text := by
  induction text using escaped_induction with
  | nil => rfl
  | backslash rest inductionHypothesis =>
    rw [escaped_backslash, undoEscapes, inductionHypothesis, Option.map_some]
  | threeQuotes rest inductionHypothesis =>
    simp only [escaped_threeQuotes, undoEscapes, inductionHypothesis, Option.map_some]
  | plain c rest notBackslash few inductionHypothesis =>
    rw [escaped_cons notBackslash few, undoEscapes_cons notBackslash, inductionHypothesis,
      Option.map_some]

/-! ## Escaping texts one after the other -/

theorem leadingQuotes_append {first second : List Char} (apart : second.head? ≠ some '"') :
    leadingQuotes (first ++ second) = leadingQuotes first := by
  induction first with
  | nil =>
    cases second with
    | nil => rfl
    | cons c rest => exact leadingQuotes_cons (fun quote => apart (by rw [quote, List.head?_cons])) rest
  | cons c rest inductionHypothesis =>
    by_cases quote : c = '"'
    · rw [quote, List.cons_append, leadingQuotes, leadingQuotes, inductionHypothesis]
    · rw [List.cons_append, leadingQuotes_cons quote, leadingQuotes_cons quote]

/-- Two texts are escaped one by one unless quotes could meet where they do. -/
theorem escaped_append {first second : List Char} (apart : second.head? ≠ some '"') :
    escaped (first ++ second) = escaped first ++ escaped second := by
  induction first using escaped_induction with
  | nil => rfl
  | backslash rest inductionHypothesis =>
    simp only [List.cons_append, escaped_backslash, inductionHypothesis]
  | threeQuotes rest inductionHypothesis =>
    simp only [List.cons_append, escaped_threeQuotes, inductionHypothesis]
  | plain c rest notBackslash few inductionHypothesis =>
    have fewInBoth : c ≠ '"' ∨ leadingQuotes (rest ++ second) < 2 := by
      rwa [leadingQuotes_append apart]
    rw [List.cons_append, escaped_cons notBackslash fewInBoth, escaped_cons notBackslash few,
      inductionHypothesis, List.cons_append]

theorem escaped_eq_self {text : List Char} (harmless : Harmless text) : escaped text = text := by
  induction text with
  | nil => rfl
  | cons c rest inductionHypothesis =>
    obtain ⟨here, there⟩ := List.forall_mem_cons.1 harmless
    rw [escaped_cons here.1 (.inl here.2), inductionHypothesis there]

theorem IsBlankLine.harmless {line : List Char} (blank : IsBlankLine line) : Harmless line := by
  intro c member
  have isBlank := blank c member
  constructor
  · rintro rfl
    cases isBlank
  · rintro rfl
    cases isBlank

theorem IsBlankLine.head?_ne_quote {line : List Char} (blank : IsBlankLine line) :
    line.head? ≠ some '"' := by
  intro quote
  exact (blank.harmless '"' (List.mem_of_head? quote)).2 rfl

/-- The last character of a text is never one that escaping adds. -/
theorem getLast?_escaped (text : List Char) : (escaped text).getLast? = text.getLast? := by
  induction text using escaped_induction with
  | nil => rfl
  | backslash rest inductionHypothesis =>
    simp [escaped_backslash, List.getLast?_cons, inductionHypothesis]
  | threeQuotes rest inductionHypothesis =>
    simp [escaped_threeQuotes, List.getLast?_cons, inductionHypothesis]
  | plain c rest notBackslash few inductionHypothesis =>
    simp [escaped_cons notBackslash few, List.getLast?_cons, inductionHypothesis]

/-! ## Blanks at the end of a line -/

/-- A line without the blanks at its end. -/
structure Trimmed (line kept : List Char) : Prop where
  split : ∃ blanks, line = kept ++ blanks ∧ IsBlankLine blanks
  filled : ∀ c ∈ kept.getLast?, isBlank c = false

theorem trimmed_trimEnd (line : List Char) : Trimmed line (trimEnd line) where
  split := by
    refine ⟨(line.reverse.takeWhile isBlank).reverse, ?_, ?_⟩
    · rw [trimEnd, ← List.reverse_append, List.takeWhile_append_dropWhile, List.reverse_reverse]
    · intro c member
      exact List.mem_takeWhile_imp (List.mem_reverse.1 member)
  filled := by
    intro c last
    have stopped := List.head?_dropWhile_not isBlank line.reverse
    rw [trimEnd, List.getLast?_reverse, Option.mem_def] at last
    rwa [last] at stopped

theorem Trimmed.eq_trimEnd {line kept : List Char} (trimmed : Trimmed line kept) :
    kept = trimEnd line := by
  obtain ⟨⟨blanks, rfl, blank⟩, filled⟩ := trimmed
  have dropped : (kept ++ blanks).reverse.dropWhile isBlank = kept.reverse.dropWhile isBlank := by
    rw [List.reverse_append]
    exact List.dropWhile_append_of_pos fun c member => blank c (List.mem_reverse.1 member)
  have stays : kept.reverse.dropWhile isBlank = kept.reverse := by
    cases last : kept.reverse with
    | nil => rfl
    | cons c rest =>
      have noBlank : isBlank c = false := filled c (by rw [← List.head?_reverse, last]; rfl)
      exact List.dropWhile_cons_of_neg (by simp [noBlank])
  rw [trimEnd, dropped, stays, List.reverse_reverse]

/-! ## Escaping commutes with the layout -/

theorem trimEnd_escaped (line : List Char) : trimEnd (escaped line) = escaped (trimEnd line) := by
  obtain ⟨⟨blanks, split, blank⟩, filled⟩ := trimmed_trimEnd line
  have trimmed : Trimmed (escaped line) (escaped (trimEnd line)) := by
    refine ⟨⟨blanks, ?_, blank⟩, by rwa [getLast?_escaped]⟩
    calc escaped line = escaped (trimEnd line ++ blanks) := by rw [← split]
      _ = escaped (trimEnd line) ++ escaped blanks := escaped_append blank.head?_ne_quote
      _ = escaped (trimEnd line) ++ blanks := by rw [escaped_eq_self blank.harmless]
  exact trimmed.eq_trimEnd.symm

theorem escaped_indented (line : List Char) :
    escaped (indentation ++ line) = indentation ++ escaped line := by
  simp [indentation, escaped_cons]

theorem furtherLine_escaped (line : List Char) :
    furtherLine (escaped line) = escaped (furtherLine line) := by
  by_cases blank : IsBlankLine line
  · rw [furtherLine_eq_nil blank, furtherLine_eq_nil (isBlankLine_escaped.2 blank)]
    rfl
  · rw [furtherLine_of_filled blank, furtherLine_of_filled (isBlankLine_escaped.not.2 blank),
      trimEnd_escaped, escaped_indented]

theorem joinWith_escaped (lines : List (List Char)) :
    joinWith ['\n'] (lines.map escaped) = escaped (joinWith ['\n'] lines) := by
  induction lines with
  | nil => rfl
  | cons line others inductionHypothesis =>
    by_cases last : others = []
    · rw [last]
      rfl
    · rw [List.map_cons, joinWith_cons_of_ne_nil (by simpa using last), joinWith_cons_of_ne_nil last,
        inductionHypothesis, escaped_append (by simp), escaped_cons (by decide) (.inl (by decide))]

theorem layOut_escaped (lines : List (List Char)) :
    layOut (lines.map escaped) = escaped (layOut lines) := by
  cases lines with
  | nil => rfl
  | cons first others =>
    have each : trimEnd (escaped first) :: (others.map escaped).map furtherLine =
        (trimEnd first :: others.map furtherLine).map escaped := by
      simp [trimEnd_escaped, furtherLine_escaped]
    rw [List.map_cons, layOut, layOut, each, joinWith_escaped]

/-- A docstring is its text laid out, and then escaped. -/
theorem docstringChars_eq_escaped (text : List Char) :
    docstringChars text = escaped (layOut (lines text)) := by
  calc docstringChars text = layOut (lines (escaped text)) := rfl
    _ = layOut ((lines text).map escaped) := by rw [lines_escaped]
    _ = escaped (layOut (lines text)) := layOut_escaped _

/-! ## Plain layout -/

/-- What a line after the first is laid out as: nothing if it is blank, else four spaces and the line
without the blanks at its end. -/
inductive FurtherLaid (line : List Char) : List Char → Prop where
  | blank : IsBlankLine line → FurtherLaid line []
  | filled {kept : List Char} : ¬ IsBlankLine line → Trimmed line kept →
      FurtherLaid line ([' ', ' ', ' ', ' '] ++ kept)

/-- What the lines of a text are laid out as: the first of them where the text stands, the others below.
-/
inductive LaidOut : List (List Char) → List (List Char) → Prop where
  | none : LaidOut [] []
  | some {first kept : List Char} {others further : List (List Char)} : Trimmed first kept →
      List.Forall₂ FurtherLaid others further → LaidOut (first :: others) (kept :: further)

/-- A text laid out without any escapes: its lines, none of them with blanks at its end, the blank ones
empty and the others indented but for the first, with single line feeds between them. -/
def PlainLayout (text plain : List Char) : Prop :=
  ∃ cut laid, IsCut text cut ∧ LaidOut cut laid ∧ plain = ['\n'].intercalate laid

theorem furtherLaid_iff {line laid : List Char} : FurtherLaid line laid ↔ laid = furtherLine line := by
  constructor
  · intro further
    cases further with
    | blank blank => rw [furtherLine_eq_nil blank]
    | filled filled trimmed =>
      rw [furtherLine_of_filled filled, trimmed.eq_trimEnd]
      rfl
  · rintro rfl
    by_cases blank : IsBlankLine line
    · rw [furtherLine_eq_nil blank]
      exact .blank blank
    · rw [furtherLine_of_filled blank]
      exact .filled blank (trimmed_trimEnd line)

theorem forall₂_furtherLaid_iff {others further : List (List Char)} :
    List.Forall₂ FurtherLaid others further ↔ further = others.map furtherLine := by
  have graph : FurtherLaid = fun line laid => furtherLine line = laid := by
    ext line laid
    rw [furtherLaid_iff, eq_comm]
  rw [graph, ← List.forall₂_map_left_iff (R := (· = ·)), List.forall₂_eq_eq_eq, eq_comm]

theorem joinWith_eq_intercalate (separator : List Char) (lines : List (List Char)) :
    joinWith separator lines = separator.intercalate lines := by
  induction lines with
  | nil => rfl
  | cons line others inductionHypothesis =>
    cases others with
    | nil => simp [joinWith]
    | cons second more =>
      rw [joinWith, inductionHypothesis, List.intercalate_cons_cons]
      exact List.cons_ne_nil second more

theorem LaidOut.join_eq {cut laid : List (List Char)} (laidOut : LaidOut cut laid) :
    ['\n'].intercalate laid = layOut cut := by
  cases laidOut with
  | none => rfl
  | some trimmed further =>
    rw [layOut, joinWith_eq_intercalate, trimmed.eq_trimEnd, forall₂_furtherLaid_iff.1 further]

theorem exists_laidOut (cut : List (List Char)) : ∃ laid, LaidOut cut laid := by
  cases cut with
  | nil => exact ⟨[], .none⟩
  | cons first others =>
    exact ⟨_, .some (trimmed_trimEnd first) (forall₂_furtherLaid_iff.2 rfl)⟩

/-- A text has one plain layout. -/
theorem plainLayout_iff {text plain : List Char} :
    PlainLayout text plain ↔ plain = layOut (lines text) := by
  constructor
  · rintro ⟨cut, laid, isCut, laidOut, rfl⟩
    rw [laidOut.join_eq, isCut.eq_lines]
  · rintro rfl
    obtain ⟨laid, laidOut⟩ := exists_laidOut (lines text)
    exact ⟨lines text, laid, isCut_lines text, laidOut, laidOut.join_eq.symm⟩

/-- Whatever text is put into a docstring, undoing the escapes there gives the plain layout of the text
and nothing else. -/
theorem undoEscapes_docstring_iff (text : String) (plain : List Char) :
    undoEscapes (docstring text).toList = some plain ↔ PlainLayout text.toList plain := by
  rw [docstring, String.toList_ofList, docstringChars_eq_escaped, undoEscapes_escaped,
    plainLayout_iff, Option.some.injEq, eq_comm]

end RpcStubs.PythonText
