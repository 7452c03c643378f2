import RpcStubs.Proofs.Python.Docstring

/-! # Lines

What it means to cut a text into lines, said without the function that does it.  `IsCut` takes a text
apart at its line ends, and `lines` gives the one cut there is (`isCut_lines`, `IsCut.eq_lines`): the
next line feed ends a line, and the carriage return before it, if there is one, always goes with it.
-/

namespace RpcStubs.Text

open Python (lines_cons)

/-- A text and its lines.  A line ends at a line feed, and a carriage return directly before it belongs
to the line end; what follows the last line end is a line unless it is empty. -/
inductive IsCut : List Char → List (List Char) → Prop where
  | nothing : IsCut [] []
  | unended {line : List Char} : line ≠ [] → '\n' ∉ line → IsCut line [line]
  | feed {line rest : List Char} {others : List (List Char)} : '\n' ∉ line →
      line.getLast? ≠ some '\r' → IsCut rest others → IsCut (line ++ '\n' :: rest) (line :: others)
  | returnFeed {line rest : List Char} {others : List (List Char)} : '\n' ∉ line →
      IsCut rest others → IsCut (line ++ '\r' :: '\n' :: rest) (line :: others)

/-- Characters in front of a text, none of which ends a line there, join its first line. -/
theorem lines_append {line tail first : List Char} {others : List (List Char)} (noFeed : '\n' ∉ line)
    (apart : line.getLast? = some '\r' → tail.head? ≠ some '\n')
    (cut : lines tail = first :: others) : lines (line ++ tail) = (line ++ first) :: others := by
  induction line with
  | nil => exact cut
  | cons c more inductionHypothesis =>
    rw [List.mem_cons, not_or] at noFeed
    have noLineEnd : c ≠ '\r' ∨ (more ++ tail).head? ≠ some '\n' := by
      cases more with
      | nil => simpa [or_iff_not_imp_left] using apart
      | cons d rest =>
        right
        rw [List.mem_cons, not_or] at noFeed
        simpa [eq_comm] using noFeed.2.1
    have apartMore : more.getLast? = some '\r' → tail.head? ≠ some '\n' := by
      intro last
      exact apart (by rw [List.getLast?_cons, last]; rfl)
    rw [List.cons_append, lines_cons (Ne.symm noFeed.1) noLineEnd,
      inductionHypothesis noFeed.2 apartMore]
    rfl

theorem lines_unended {line : List Char} (nonempty : line ≠ []) (noFeed : '\n' ∉ line) :
    lines line = [line] := by
  have split : line.dropLast ++ [line.getLast nonempty] = line := List.dropLast_concat_getLast nonempty
  have other : line.getLast nonempty ≠ '\n' := by
    intro feed
    exact noFeed (feed ▸ List.getLast_mem nonempty)
  have last : lines [line.getLast nonempty] = [[line.getLast nonempty]] :=
    lines_cons other (.inr (by simp))
  have front : '\n' ∉ line.dropLast := fun member => noFeed (List.dropLast_subset line member)
  have whole := lines_append front (fun _ => by simpa using other) last
  rwa [split] at whole

theorem IsCut.eq_lines {text : List Char} {cut : List (List Char)} (isCut : IsCut text cut) :
    cut = lines text := by
  induction isCut with
  | nothing => rfl
  | unended nonempty noFeed => exact (lines_unended nonempty noFeed).symm
  | @feed line rest others noFeed noReturn _ inductionHypothesis =>
    have ended : lines ('\n' :: rest) = [] :: lines rest := by rw [lines]
    rw [lines_append noFeed (fun last => absurd last noReturn) ended, List.append_nil,
      inductionHypothesis]
  | @returnFeed line rest others noFeed _ inductionHypothesis =>
    have ended : lines ('\r' :: '\n' :: rest) = [] :: lines rest := by rw [lines]
    rw [lines_append noFeed (by simp) ended, List.append_nil, inductionHypothesis]

/-- One more character in front of a text joins its first line, unless it ends a line there. -/
theorem IsCut.cons {c : Char} {rest line : List Char} {others : List (List Char)} (noFeed : c ≠ '\n')
    (noLineEnd : c ≠ '\r' ∨ rest.head? ≠ some '\n') (isCut : IsCut rest (line :: others)) :
    IsCut (c :: rest) ((c :: line) :: others) := by
  have noFeedInBoth {text : List Char} (noFeed' : '\n' ∉ text) : '\n' ∉ c :: text := by
    simp [Ne.symm noFeed, noFeed']
  cases isCut with
  | unended _ noFeed' => exact .unended (List.cons_ne_nil c _) (noFeedInBoth noFeed')
  | @feed _ rest _ noFeed' noReturn isCut =>
    have noReturnAtEnd : (c :: line).getLast? ≠ some '\r' := by
      cases line with
      | nil => simpa using noLineEnd
      | cons d more => simpa [List.getLast?_cons] using noReturn
    have longer : IsCut ((c :: line) ++ '\n' :: rest) ((c :: line) :: others) :=
      .feed (noFeedInBoth noFeed') noReturnAtEnd isCut
    exact longer
  | @returnFeed _ rest _ noFeed' isCut =>
    have longer : IsCut ((c :: line) ++ '\r' :: '\n' :: rest) ((c :: line) :: others) :=
      .returnFeed (noFeedInBoth noFeed') isCut
    exact longer

theorem isCut_lines (text : List Char) : IsCut text (lines text) := by
  induction text using lines.induct with
  | case1 => exact .nothing
  | case2 rest inductionHypothesis =>
    rw [lines]
    exact IsCut.feed List.not_mem_nil (by simp) inductionHypothesis
  | case3 rest inductionHypothesis =>
    rw [lines]
    exact IsCut.returnFeed List.not_mem_nil inductionHypothesis
  | case4 c rest noFeed noLineEnd none inductionHypothesis =>
    rw [none] at inductionHypothesis
    cases inductionHypothesis
    have single : lines [c] = [[c]] := by simp only [lines]
    rw [single]
    exact .unended (List.cons_ne_nil c []) (by simpa [eq_comm] using noFeed)
  | case5 c rest noFeed noLineEnd line others cut inductionHypothesis =>
    have apart : c ≠ '\r' ∨ rest.head? ≠ some '\n' := by
      by_contra lineEnd
      simp only [not_or, not_not] at lineEnd
      obtain ⟨more, next⟩ := List.head?_eq_some_iff.1 lineEnd.2
      exact noLineEnd more lineEnd.1 next
    rw [cut] at inductionHypothesis
    rw [lines_cons noFeed apart, cut]
    exact inductionHypothesis.cons noFeed apart

end RpcStubs.Text
