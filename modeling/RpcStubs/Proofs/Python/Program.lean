import RpcStubs.Proofs.Python.Token

/-! # Programs

The part of Python that generated modules are written in, and how source text is read as a program of
it.  Text outside this part is not read at all.

Reading goes from the outside to the inside: tokens are cut into lines, lines are gathered into blocks
by their indentation, and the tokens of a block's first line say what it is.  A list between brackets
is cut at its commas, of which one more may stand at the end.
-/

namespace RpcStubs.Python

/-! ## Syntax -/

inductive Atom where
  | name (text : String)
  | text (value : String)
  | number (value : Nat)
  deriving DecidableEq, Repr

inductive Expression where
  | atom (atom : Atom)
  | list (items : List Atom)
  | call (function : String) (positional : List Atom) (keywords : List (String × Atom))
  | entry (dictionary : Atom) (key : Atom)
  deriving DecidableEq, Repr

inductive Simple where
  | docstring
  | assign (target : String) (value : Expression)
  | return (value : Expression)
  | raise (error cause : Expression)
  deriving DecidableEq, Repr

inductive Statement where
  | simple (statement : Simple)
  | tryExcept (tried : List Simple) (caught bound : String) (handler : List Simple)
  deriving DecidableEq, Repr

/-- A function.  Parameters may have defaults. -/
structure Definition where
  name : String
  parameters : List (String × Option Atom)
  body : List Statement
  deriving DecidableEq, Repr

inductive Item where
  | importFrom (path : String) (names : List String)
  | assign (target : String) (value : Atom)
  | define (definition : Definition)
  deriving DecidableEq, Repr

/-! ## Lines and blocks -/

structure Line where
  indent : Nat
  tokens : List Token
  deriving DecidableEq, Repr

/-- A line and the lines behind it that are indented further. -/
structure Block where
  first : List Token
  nested : List Line
  deriving DecidableEq, Repr

/-- The tokens of a line with their indentation, if there are any. -/
def line? (tokens : List Token) : Option Line :=
  match tokens.filter (· ≠ .blank) with
  | [] => none
  | found => some ⟨(tokens.takeWhile (· = .blank)).length, found⟩

def linesOf (tokens : List Token) : List Line :=
  (tokens.splitOn .newline).filterMap line?

/-- Lines as blocks, and before the first block the lines that belong to a block before them. -/
def gather (indent : Nat) : List Line → Option (List Line × List Block)
  | [] => some ([], [])
  | line :: rest =>
    match gather indent rest with
    | none => none
    | some (pending, blocks) =>
      -- what was pending is nested in this line
      if line.indent = indent then some ([], ⟨line.tokens, pending⟩ :: blocks)
      else if indent < line.indent then some (line :: pending, blocks)
      else none

def blocks? (indent : Nat) (lines : List Line) : Option (List Block) :=
  match gather indent lines with
  | some ([], blocks) => some blocks
  | _ => none

/-- Nested lines as blocks.  The first one says how far they are indented. -/
def nestedBlocks? : List Line → Option (List Block)
  | [] => none
  | line :: rest => blocks? line.indent (line :: rest)

/-! ## Reading -/

def atom? : List Token → Option Atom
  | [.name text] => some (.name text)
  | [.text value] => some (.text value)
  | [.number value] => some (.number value)
  | _ => none

def name? : List Token → Option String
  | [.name text] => some text
  | _ => none

/-- What stands between commas.  There may be one more comma at the end. -/
def commaPieces (tokens : List Token) : List (List Token) :=
  let pieces := tokens.splitOn (.mark ',')
  if pieces.getLast? = some [] then pieces.dropLast else pieces

def enclosed? (opening closing : Char) : List Token → Option (List Token)
  | [] => none
  | first :: rest =>
    if first = .mark opening ∧ rest.getLast? = some (.mark closing) then some rest.dropLast
    else none

/-- The arguments of a call.  After a keyword there are only keywords. -/
def arguments? : List (List Token) → Option (List Atom × List (String × Atom))
  | [] => some ([], [])
  | piece :: rest =>
    match piece, arguments? rest with
    -- nothing but keywords may come behind a keyword
    | .name keyword :: .mark '=' :: value, some ([], keywords) =>
      (atom? value).map fun atom => ([], (keyword, atom) :: keywords)
    | _, some (positional, keywords) =>
      (atom? piece).map fun atom => (atom :: positional, keywords)
    | _, none => none

def expression? (tokens : List Token) : Option Expression :=
  match atom? tokens, enclosed? '[' ']' tokens, tokens with
  | some atom, _, _ => some (.atom atom)
  | none, some inner, _ => ((commaPieces inner).mapM atom?).map .list
  | none, none, .name text :: rest =>
    match enclosed? '(' ')' rest, enclosed? '[' ']' rest with
    | some inner, _ =>
      (arguments? (commaPieces inner)).map fun (positional, keywords) =>
        .call text positional keywords
    | none, some inner => (atom? inner).map (.entry (.name text))
    | none, none => none
  | _, _, _ => none

def simple? : List Token → Option Simple
  | [.docstring] => some .docstring
  | .name target :: .mark '=' :: value => (expression? value).map (.assign target)
  | .keyword "return" :: value => (expression? value).map .return
  | .keyword "raise" :: rest =>
    match rest.splitOn (.keyword "from") with
    | [error, cause] =>
      match expression? error, expression? cause with
      | some error, some cause => some (.raise error cause)
      | _, _ => none
    | _ => none
  | _ => none

def suite? (lines : List Line) : Option (List Simple) :=
  match nestedBlocks? lines with
  | none => none
  | some blocks => blocks.mapM fun block => if block.nested = [] then simple? block.first else none

def statements? : List Block → Option (List Statement)
  | [] => some []
  -- a handler is a block of its own, right behind the one that it is for
  | ⟨[.keyword "try", .mark ':'], tried⟩ ::
      ⟨[.keyword "except", .name caught, .keyword "as", .name bound, .mark ':'], handler⟩ ::
      rest =>
    match suite? tried, suite? handler, statements? rest with
    | some tried, some handler, some others =>
      some (.tryExcept tried caught bound handler :: others)
    | _, _, _ => none
  | ⟨first, []⟩ :: rest =>
    match simple? first, statements? rest with
    | some statement, some others => some (.simple statement :: others)
    | _, _ => none
  | _ => none

def parameter? : List Token → Option (String × Option Atom)
  | [.name text] => some (text, none)
  | .name text :: .mark '=' :: value => (atom? value).map fun atom => (text, some atom)
  | _ => none

/-- The names behind an import, which may stand between brackets. -/
def importedNames? (tokens : List Token) : Option (List String) :=
  match enclosed? '(' ')' tokens with
  | some inner => (commaPieces inner).mapM name?
  | none => (tokens.splitOn (.mark ',')).mapM name?

def item? (block : Block) : Option Item :=
  match block.first with
  | .keyword "from" :: rest =>
    match block.nested, rest.splitOn (.keyword "import") with
    | [], [path, names] =>
      match (path.splitOn (.mark '.')).mapM name?, importedNames? names with
      | some path, some names => some (.importFrom (String.intercalate "." path) names)
      | _, _ => none
    | _, _ => none
  | .keyword "def" :: .name name :: rest =>
    match rest.getLast?, enclosed? '(' ')' rest.dropLast, nestedBlocks? block.nested with
    | some (.mark ':'), some inner, some body =>
      match (commaPieces inner).mapM parameter?, statements? body with
      | some parameters, some body => some (.define ⟨name, parameters, body⟩)
      | _, _ => none
    | _, _, _ => none
  | .name target :: .mark '=' :: value =>
    if block.nested = [] then (atom? value).map (.assign target) else none
  | _ => none

/-- The program that a source text is, if it is one of this part of Python. -/
def program? (text : List Char) : Option (List Item) :=
  match tokens? text with
  | none => none
  | some tokens =>
    match blocks? 0 (linesOf tokens) with
    | none => none
    | some blocks => blocks.mapM item?

/-! ## Reading piece by piece -/

theorem line?_eq {first : Token} {rest found : List Token} (indent : Nat) (notBlank : first ≠ .blank)
    (filtered : rest.filter (· ≠ .blank) = found) :
    line? (List.replicate indent .blank ++ first :: rest) = some ⟨indent, first :: found⟩ := by
  have none : (List.replicate indent Token.blank).filter (· ≠ .blank) = [] := by simp
  have kept : (List.replicate indent Token.blank ++ first :: rest).filter (· ≠ .blank) =
      first :: found := by
    rw [List.filter_append, none, List.nil_append, List.filter_cons_of_pos (by simpa using notBlank),
      filtered]
  have indented : (List.replicate indent Token.blank ++ first :: rest).takeWhile (· = .blank) =
      List.replicate indent .blank := by
    rw [List.takeWhile_append_of_pos (by simp)]
    simp [notBlank]
  simp only [line?, kept, indented, List.length_replicate]

/-- Whole lines of source text: what is read behind them does not depend on them. -/
def ReadsLines (readings : List Reading) (lines : List Line) : Prop :=
  ∃ tokens, Lexes 0 readings tokens 0 ∧ ∀ rest, linesOf (tokens ++ rest) = lines ++ linesOf rest

/-- The lines of code that ends with a whole line. -/
def wholeLines? (readings : List Reading) : Option (List Line) :=
  match Machine.run lexStep ⟨[], 0⟩ readings with
  | some (tokens, ⟨[], 0⟩) =>
    if tokens.getLast? = some .newline then some (linesOf tokens.dropLast) else none
  | _ => none

namespace ReadsLines

theorem nil : ReadsLines [] [] :=
  ⟨[], Machine.Runs.nil _, fun _ => rfl⟩

theorem append {readings others : List Reading} {lines more : List Line}
    (first : ReadsLines readings lines) (second : ReadsLines others more) :
    ReadsLines (readings ++ others) (lines ++ more) := by
  obtain ⟨tokens, lexes, found⟩ := first
  obtain ⟨tokens', lexes', found'⟩ := second
  refine ⟨tokens ++ tokens', lexes.append lexes', fun rest => ?_⟩
  rw [List.append_assoc, found, found', List.append_assoc]

theorem flatMap {α : Type} {readings : α → List Reading} {lines : α → List Line} {items : List α}
    (reads : ∀ a ∈ items, ReadsLines (readings a) (lines a)) :
    ReadsLines (items.flatMap readings) (items.flatMap lines) := by
  induction items with
  | nil => exact nil
  | cons a others inductionHypothesis =>
    rw [List.flatMap_cons, List.flatMap_cons]
    exact (reads a (by simp)).append
      (inductionHypothesis fun b member => reads b (List.mem_cons_of_mem _ member))

theorem ofLexes {readings : List Reading} {tokens : List Token} {lines : List Line}
    (lexes : Lexes 0 readings (tokens ++ [.newline]) 0) (found : linesOf tokens = lines) :
    ReadsLines readings lines := by
  refine ⟨tokens ++ [.newline], lexes, fun rest => ?_⟩
  have cut : (tokens ++ .newline :: rest).splitOn .newline =
      tokens.splitOn .newline ++ rest.splitOn .newline :=
    List.splitOn_append_cons_self tokens rest
  rw [List.append_assoc, List.singleton_append, linesOf, cut, List.filterMap_append, ← found]
  rfl

/-- Tokens up to the first line end are one line. -/
theorem ofLine {readings : List Reading} {first : Token} {rest found : List Token} (indent : Nat)
    (lexes : Lexes 0 readings (List.replicate indent .blank ++ first :: (rest ++ [.newline])) 0)
    (notBlank : first ≠ .blank) (oneLine : .newline ∉ first :: rest)
    (filtered : rest.filter (· ≠ .blank) = found) :
    ReadsLines readings [⟨indent, first :: found⟩] := by
  have whole : .newline ∉ List.replicate indent .blank ++ first :: rest := by
    rw [List.mem_append, not_or]
    exact ⟨by simp, oneLine⟩
  rw [← List.cons_append, ← List.append_assoc] at lexes
  refine ofLexes lexes ?_
  rw [linesOf, List.splitOn_eq_singleton whole, List.filterMap_cons,
    line?_eq indent notBlank filtered]
  rfl

/-- Code that ends with its last line, found by running the machine on it. -/
theorem ofRun {readings : List Reading} {lines : List Line}
    (found : wholeLines? readings = some lines) : ReadsLines readings lines := by
  unfold wholeLines? at found
  split at found
  next tokens run =>
    obtain ⟨ending, last⟩ : tokens.getLast? = some .newline ∧ linesOf tokens.dropLast = lines := by
      simpa using found
    obtain ⟨before, rfl⟩ := List.getLast?_eq_some_iff.1 ending
    rw [List.dropLast_concat] at last
    exact ofLexes run last
  next => cases found

theorem tokens?_eq {text : String} {readings : List Reading} {lines : List Line}
    (reads : Reads text readings) (readsLines : ReadsLines readings lines) :
    ∃ tokens, tokens? text.toList = some tokens ∧ linesOf tokens = lines := by
  obtain ⟨tokens, lexes, found⟩ := readsLines
  refine ⟨tokens, Python.tokens?_eq reads lexes, ?_⟩
  have whole := found []
  rw [List.append_nil] at whole
  rw [whole]
  exact List.append_nil lines

end ReadsLines

/-! ## Blocks -/

theorem gather_nested {indent : Nat} {nested rest : List Line} {blocks : List Block}
    (deeper : ∀ line ∈ nested, indent < line.indent)
    (gathered : gather indent rest = some ([], blocks)) :
    gather indent (nested ++ rest) = some (nested, blocks) := by
  induction nested with
  | nil => exact gathered
  | cons line others inductionHypothesis =>
    have here := deeper line (by simp)
    have behind := inductionHypothesis fun other member => deeper other (List.mem_cons_of_mem _ member)
    rw [List.cons_append, gather]
    simp only [behind, if_neg (Nat.ne_of_gt here), if_pos here]

/-- A line with the lines nested in it is a block, whatever blocks come behind. -/
theorem gather_block {indent : Nat} {first : List Token} {nested rest : List Line}
    {blocks : List Block} (deeper : ∀ line ∈ nested, indent < line.indent)
    (gathered : gather indent rest = some ([], blocks)) :
    gather indent (⟨indent, first⟩ :: nested ++ rest) = some ([], ⟨first, nested⟩ :: blocks) := by
  have behind := gather_nested deeper gathered
  rw [List.cons_append, gather]
  simp only [behind, if_true]

theorem statements?_simple {first : List Token} {rest : List Block} {statement : Simple}
    {others : List Statement} (read : simple? first = some statement)
    (behind : statements? rest = some others) :
    statements? (⟨first, []⟩ :: rest) = some (.simple statement :: others) := by
  rw [statements?]
  · simp only [read, behind]
  -- a block that begins with `try` is no simple statement
  · rintro caught bound handler more - rfl
    cases read

/-! ## Lists between brackets -/

theorem intercalate_cons_eq {α : Type} (separator first : List α) (others : List (List α)) :
    separator.intercalate (first :: others) = first ++ others.flatMap (separator ++ ·) := by
  induction others generalizing first with
  | nil => simp
  | cons second more inductionHypothesis =>
    rw [List.intercalate_cons_cons, inductionHypothesis, List.flatMap_cons, List.append_assoc,
      List.append_assoc]

/-- Names with one mark between each two are made of nothing but names and that mark. -/
theorem of_mem_intercalate {c : Char} {names : List String} {token : Token}
    (member : token ∈ [.mark c].intercalate (names.map fun name => [.name name])) :
    token = .mark c ∨ ∃ name, token = .name name := by
  rcases Text.mem_intercalate member with mark | ⟨piece, among, member⟩
  · exact .inl (List.mem_singleton.1 mark)
  · obtain ⟨name, -, rfl⟩ := List.mem_map.1 among
    exact .inr ⟨name, List.mem_singleton.1 member⟩

theorem commaPieces_intercalate {pieces : List (List Token)} (nonempty : [] ∉ pieces)
    (noComma : ∀ piece ∈ pieces, .mark ',' ∉ piece) :
    commaPieces ([.mark ','].intercalate pieces) = pieces := by
  by_cases none : pieces = []
  · subst pieces
    rfl
  -- the last piece is not empty, so none is taken for a comma at the end
  · have last : pieces.getLast? ≠ some [] := fun empty =>
      nonempty (List.mem_of_getLast? empty)
    rw [commaPieces, List.splitOn_intercalate _ noComma none]
    exact if_neg last

@[simp]
theorem enclosed?_eq (opening closing : Char) (inner : List Token) :
    enclosed? opening closing (.mark opening :: (inner ++ [.mark closing])) = some inner := by
  simp [enclosed?]

theorem mapM_map_eq_some {α β γ : Type} {f : β → Option γ} {g : α → β} {h : α → γ} {items : List α}
    (each : ∀ a ∈ items, f (g a) = some (h a)) : (items.map g).mapM f = some (items.map h) := by
  induction items with
  | nil => rfl
  | cons a others inductionHypothesis =>
    have rest := inductionHypothesis fun b member => each b (List.mem_cons_of_mem _ member)
    rw [List.map_cons, List.mapM_cons, each a (by simp), rest]
    rfl

end RpcStubs.Python
