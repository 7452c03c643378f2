import RpcStubs.Proofs.Python.Program
import RpcStubs.Proofs.Strings

/-! # The program of a generated module

A generated module is a program: two imports, two defaults, and one definition for each method, all
of the same body.  The parameters come from two places in the text, the line that begins a function
and the list that it sends, and both read back as the parameters of the heading.

What a module reads as is known from `Module.reads_of_generate`; here its lines are put together, and
from them the program.
-/

namespace RpcStubs

open Python Identifier

/-! ## The program -/

def Settings.items (settings : Settings) : List Item :=
  [.importFrom settings.transportModule ["rpc_request"],
    .importFrom settings.exceptionsModule ["TxConfirmationTimedoutError", "InvalidReplyError"],
    .assign "_default_endpoint" (.text settings.endpoint),
    .assign "_default_timeout" (.number settings.timeout.toNat)]

namespace Heading

def signature (heading : Heading) : List (String × Option Atom) :=
  heading.parameters.map (fun name => (name, none))
    ++ [("endpoint", some (.name "_default_endpoint")), ("timeout", some (.name "_default_timeout"))]

def translation : Statement :=
  .tryExcept [.return (.entry (.name "_reply") (.text "result"))] "KeyError" "_err"
    [.raise (.call "InvalidReplyError" [.name "_method", .name "endpoint"] []) (.atom (.name "_err"))]

def body (heading : Heading) : List Statement :=
  [.simple .docstring,
    .simple (.assign "_method" (.atom (.text heading.method))),
    .simple (.assign "_params" (.list (heading.parameters.map .name))),
    .simple (.assign "_reply" (.call "rpc_request" [.name "_method"]
      [("params", .name "_params"), ("endpoint", .name "endpoint"), ("timeout", .name "timeout")])),
    translation]

def definition (heading : Heading) : Definition :=
  ⟨heading.functionName, heading.signature, heading.body⟩

end Heading

def Module.program (settings : Settings) (headings : List Heading) : List Item :=
  settings.items ++ headings.map fun heading => .define heading.definition

/-! ## Lines -/

theorem readsLines_text {code target : String} (indent : Nat)
    (lexes : Lexes 0 (asCode code)
      (List.replicate indent .blank ++ [.name target, .blank, .mark '=', .blank]) 0) (text : String) :
    ReadsLines (asCode code ++ .literal (some text) :: asCode "\n")
      [⟨indent, [.name target, .mark '=', .text text]⟩] := by
  have ending : Lexes 0 (asCode "\n") [.newline] 0 := by decide +kernel
  have line := (lexes.append (Lexes.literal text)).append ending
  rw [List.append_assoc (asCode _), List.append_assoc (List.replicate _ _),
    List.append_assoc (List.replicate _ _)] at line
  exact .ofLine indent line (by simp) (by simp) (by simp)

namespace Heading

/-- The parameters of a function as they stand between the commas. -/
def signaturePieces (heading : Heading) : List (List Token) :=
  heading.parameters.map (fun name => [.name name])
    ++ [[.name "endpoint", .mark '=', .name "_default_endpoint"],
      [.name "timeout", .mark '=', .name "_default_timeout"]]

def firstLine (heading : Heading) : List Token :=
  .keyword "def" :: .name heading.functionName :: .mark '('
    :: ([.mark ','].intercalate heading.signaturePieces ++ [.mark ')', .mark ':'])

def lastLines : List Line :=
  [⟨4, [.name "_reply", .mark '=', .name "rpc_request", .mark '(', .name "_method", .mark ',',
      .name "params", .mark '=', .name "_params", .mark ',',
      .name "endpoint", .mark '=', .name "endpoint", .mark ',',
      .name "timeout", .mark '=', .name "timeout", .mark ')']⟩,
    ⟨4, [.keyword "try", .mark ':']⟩,
    ⟨8, [.keyword "return", .name "_reply", .mark '[', .text "result", .mark ']']⟩,
    ⟨4, [.keyword "except", .name "KeyError", .keyword "as", .name "_err", .mark ':']⟩,
    ⟨8, [.keyword "raise", .name "InvalidReplyError", .mark '(', .name "_method", .mark ',',
      .name "endpoint", .mark ')', .keyword "from", .name "_err"]⟩]

def nestedLines (heading : Heading) : List Line :=
  [⟨4, [.docstring]⟩,
    ⟨4, [.name "_method", .mark '=', .text heading.method]⟩,
    ⟨4, .name "_params" :: .mark '=' :: .mark '['
      :: ([.mark ','].intercalate (heading.parameters.map fun name => [.name name]) ++ [.mark ']'])⟩]
    ++ lastLines

/-- Pieces with a comma behind each, and others with commas between them. -/
theorem flatMap_append_intercalate {names : List String} {pieces : List (List Token)}
    (nonempty : pieces ≠ []) :
    (names.flatMap fun name => [.name name, .mark ',']) ++ [.mark ','].intercalate pieces =
      [.mark ','].intercalate (names.map (fun name => [.name name]) ++ pieces) := by
  induction names with
  | nil => rfl
  | cons name others inductionHypothesis =>
    have more : others.map (fun name => [Token.name name]) ++ pieces ≠ [] := by simp [nonempty]
    rw [List.flatMap_cons, List.append_assoc, inductionHypothesis]
    simp only [List.map_cons, List.cons_append, List.intercalate_cons_of_ne_nil more,
      List.nil_append]

/-- The first line of a function stands on the left, whatever its parameters. -/
theorem readsLines_opening {heading : Heading} (wellNamed : heading.WellNamed) :
    ReadsLines (asCode heading.opening) [⟨0, heading.firstLine⟩] := by
  have emptyLines : ReadsLines (asCode "\n\n") [] := .ofRun (by decide +kernel)
  have defines : Lexes 0 (asCode "def ") [.keyword "def", .blank] 0 := by decide +kernel
  have named : Lexes 0 (asCode (heading.functionName ++ "("))
      [.name heading.functionName, .mark '('] 1 :=
    Lexes.name (c := '(') wellNamed.function.valid rfl (by decide) (by decide)
  have listed : Lexes 1 (heading.parameters.flatMap fun name => asCode (name ++ ", "))
      (heading.parameters.flatMap fun name => [.name name, .mark ',', .blank]) 1 :=
    .flatMap fun name member => Lexes.comma (wellNamed.parameters name member).valid
  have defaults : Lexes 1 (asCode "endpoint=_default_endpoint, timeout=_default_timeout):\n")
      ([.name "endpoint", .mark '=', .name "_default_endpoint", .mark ',', .blank,
        .name "timeout", .mark '=', .name "_default_timeout", .mark ')', .mark ':'] ++ [.newline]) 0 := by
    decide +kernel
  have line := ((defines.append named).append listed).append defaults
  rw [← List.append_assoc] at line
  have same : asCode heading.opening = asCode "\n\n" ++ (asCode "def "
      ++ asCode (heading.functionName ++ "(")
      ++ (heading.parameters.flatMap fun name => asCode (name ++ ", "))
      ++ asCode "endpoint=_default_endpoint, timeout=_default_timeout):\n") := by
    simp only [opening, asCode_append, asCode_join, List.flatMap_map, List.append_assoc]
  rw [same]
  refine emptyLines.append (.ofLine 0 line (by simp) (by simp) ?_)
  simp [signaturePieces, ← flatMap_append_intercalate, List.filter_flatMap]

theorem lexes_list {names : List String} (valid : ∀ name ∈ names, ValidName name) :
    Lexes 1 (asCode (String.intercalate ", " names ++ "]"))
      ([.mark ',', .blank].intercalate (names.map fun name => [.name name]) ++ [.mark ']']) 0 := by
  by_cases none : names = []
  · subst names
    decide +kernel
  · exact Lexes.intercalate none valid (fun name valid => Lexes.comma valid) fun name valid =>
      Lexes.name (c := ']') valid rfl (by decide) (by decide)

/-- The names of a list on one line, without the blanks. -/
theorem filter_list (names : List String) :
    .newline ∉ [Token.mark ',', .blank].intercalate (names.map fun name => [.name name]) ∧
      ([Token.mark ',', .blank].intercalate (names.map fun name => [.name name])).filter
          (· ≠ .blank) =
        [.mark ','].intercalate (names.map fun name => [.name name]) := by
  cases names with
  | nil => simp
  | cons name others =>
    simp [intercalate_cons_eq, List.flatMap_map, List.filter_flatMap]

/-- The parameters are sent in the order that they are declared in. -/
theorem readsLines_params {heading : Heading} (wellNamed : heading.WellNamed) :
    ReadsLines (asCode ("    _params = [" ++ String.intercalate ", " heading.parameters ++ "]\n"))
      [⟨4, .name "_params" :: .mark '=' :: .mark '[' :: ([.mark ','].intercalate
        (heading.parameters.map fun name => [.name name]) ++ [.mark ']'])⟩] := by
  have target : Lexes 0 (asCode "    _params = [")
      (List.replicate 4 .blank ++ [.name "_params", .blank, .mark '=', .blank, .mark '[']) 1 := by
    decide +kernel
  have ending : Lexes 0 (asCode "\n") [.newline] 0 := by decide +kernel
  have list := lexes_list fun name member => (wellNamed.parameters name member).valid
  have line := (target.append list).append ending
  have same : asCode ("    _params = [" ++ String.intercalate ", " heading.parameters ++ "]\n") =
      asCode "    _params = [" ++ asCode (String.intercalate ", " heading.parameters ++ "]")
        ++ asCode "\n" := by
    have bracket : "]\n" = "]" ++ "\n" := rfl
    simp only [bracket, asCode_append, List.append_assoc]
  rw [same]
  obtain ⟨oneLine, kept⟩ := filter_list heading.parameters
  have closed : ([Token.mark ',', .blank].intercalate
      (heading.parameters.map fun name => [.name name]) ++ [Token.mark ']']).filter (· ≠ Token.blank) =
        [.mark ','].intercalate (heading.parameters.map fun name => [.name name]) ++ [.mark ']'] := by
    rw [List.filter_append, kept]
    rfl
  exact .ofLine 4 line (by simp) (by simpa using oneLine)
    (congrArg ([Token.mark '=', Token.mark '['] ++ ·) closed)

/-- The lines of a function, after its name and its parameters. -/
theorem readsLines {heading : Heading} (wellNamed : heading.WellNamed) :
    ReadsLines heading.readings (⟨0, heading.firstLine⟩ :: heading.nestedLines) := by
  have docstring : ReadsLines (asCode "    " ++ .docstring :: asCode "\n") [⟨4, [.docstring]⟩] :=
    .ofRun (by decide +kernel)
  have rest : ReadsLines
      (asCode ("    _reply = rpc_request(_method, params=_params, endpoint=endpoint, timeout=timeout)\n"
        ++ "    try:\n" ++ "        return _reply[") ++ .literal (some "result") :: asCode "]"
        ++ asCode handler) lastLines :=
    .ofRun (by decide +kernel)
  have target : Lexes 0 (asCode "    _method = ")
      (List.replicate 4 .blank ++ [.name "_method", .blank, .mark '=', .blank]) 0 := by
    decide +kernel
  have whole := (((readsLines_opening wellNamed).append docstring).append
    (readsLines_text 4 target heading.method)).append ((readsLines_params wellNamed).append rest)
  unfold readings request
  simp only [asCode_append, List.append_assoc] at whole ⊢
  exact whole

/-! ## Definitions -/

theorem list_read {γ : Type} (read : List Token → Option γ) {result : String → γ}
    (each : ∀ name, read [.name name] = some (result name)) (names : List String) :
    (commaPieces ([.mark ','].intercalate (names.map fun name => [.name name]))).mapM read =
      some (names.map result) := by
  rw [commaPieces_intercalate (by simp) (by simp)]
  exact mapM_map_eq_some fun name _ => each name

/-- The parameters in the first line are those of the heading, and then the two with defaults. -/
theorem signature_read (heading : Heading) :
    (commaPieces ([.mark ','].intercalate heading.signaturePieces)).mapM parameter? =
      some heading.signature := by
  have named : (heading.parameters.map fun name => [Token.name name]).mapM parameter? =
      some (heading.parameters.map fun name => (name, none)) :=
    mapM_map_eq_some fun _ _ => rfl
  have nonempty : [] ∉ heading.signaturePieces := by simp [signaturePieces]
  have noComma : ∀ piece ∈ heading.signaturePieces, .mark ',' ∉ piece := by
    intro piece member
    simp only [signaturePieces, List.mem_append, List.mem_map, List.mem_cons, List.not_mem_nil,
      or_false] at member
    obtain ⟨name, -, rfl⟩ | rfl | rfl := member <;> simp
  rw [commaPieces_intercalate nonempty noComma, signaturePieces, List.mapM_append, named]
  rfl

/-- The list that a function sends has the names of its parameters, in order. -/
theorem params_read (heading : Heading) :
    simple? (.name "_params" :: .mark '=' :: .mark '[' ::
        ([.mark ','].intercalate (heading.parameters.map fun name => [.name name]) ++ [.mark ']'])) =
      some (.assign "_params" (.list (heading.parameters.map .name))) := by
  have items := list_read atom? (fun _ => rfl) heading.parameters
  -- a list is read after everything that it could be mistaken for
  have noAtom : ∀ rest, atom? (.mark '[' :: rest) = none := by
    intro rest
    cases rest <;> rfl
  simp only [simple?, expression?, noAtom, enclosed?_eq, items, Option.map_some]

/-- The lines of a function as blocks.  Only the last two have lines nested in them. -/
theorem blocks_read (heading : Heading) :
    ∃ blocks, nestedBlocks? heading.nestedLines = some
        (⟨[.docstring], []⟩ :: ⟨[.name "_method", .mark '=', .text heading.method], []⟩
          :: ⟨.name "_params" :: .mark '=' :: .mark '[' :: ([.mark ','].intercalate
            (heading.parameters.map fun name => [.name name]) ++ [.mark ']']), []⟩ :: blocks) ∧
      statements? blocks = some
        [.simple (.assign "_reply" (.call "rpc_request" [.name "_method"] [("params", .name "_params"),
            ("endpoint", .name "endpoint"), ("timeout", .name "timeout")])),
          translation] :=
  ⟨_, rfl, by decide +kernel⟩

theorem body_read (heading : Heading) :
    ∃ blocks, nestedBlocks? heading.nestedLines = some blocks ∧
      statements? blocks = some heading.body := by
  obtain ⟨last, blocks, read⟩ := blocks_read heading
  exact ⟨_, blocks, statements?_simple rfl
    (statements?_simple rfl (statements?_simple (params_read heading) read))⟩

theorem item?_eq (heading : Heading) :
    item? ⟨heading.firstLine, heading.nestedLines⟩ = some (.define heading.definition) := by
  obtain ⟨blocks, nested, body⟩ := body_read heading
  have split : Token.mark '(' :: ([.mark ','].intercalate heading.signaturePieces
      ++ [.mark ')', .mark ':']) =
        .mark '(' :: ([.mark ','].intercalate heading.signaturePieces ++ [.mark ')']) ++ [.mark ':'] := by
    simp
  simp only [item?, firstLine, split, List.getLast?_concat, List.dropLast_concat, enclosed?_eq, nested,
    signature_read, body, definition]

end Heading

/-! ## Imports and defaults -/

/-- A path between the two words of an import is read as it is. -/
theorem readsLines_import {path : String} (isPath : ModulePath path) (code : String)
    (tokens : List Token) {found : List Token} (names : List String)
    (behind : Lexes 0 (asCode code) (tokens ++ [.newline]) 0)
    (oneLine : .newline ∉ tokens) (kept : tokens.filter (· ≠ .blank) = .keyword "import" :: found)
    (once : .keyword "import" ∉ found) (imported : importedNames? found = some names) :
    ∃ first, ReadsLines (asCode ("from " ++ path ++ " " ++ code)) [⟨0, first⟩] ∧
      item? ⟨first, []⟩ = some (.importFrom path names) := by
  obtain ⟨segments, nonempty, rfl, valid⟩ := isPath
  have start : Lexes 0 (asCode "from ") [.keyword "from", .blank] 0 := by decide +kernel
  have point : ∀ name, ValidName name → Lexes 0 (asCode (name ++ ".")) [.name name, .mark '.'] 0 :=
    fun name valid => Lexes.name (c := '.') valid rfl (by decide) (by decide)
  have blank : ∀ name, ValidName name → Lexes 0 (asCode (name ++ " ")) [.name name, .blank] 0 :=
    fun name valid => Lexes.name (c := ' ') valid rfl (by decide) (by decide)
  have line := (start.append (Lexes.intercalate nonempty valid point blank)).append behind
  have same : asCode ("from " ++ String.intercalate "." segments ++ " " ++ code) =
      asCode "from " ++ asCode (String.intercalate "." segments ++ " ") ++ asCode code := by
    simp only [asCode_append, List.append_assoc]
  rw [same]
  generalize written :
    [Token.mark '.'].intercalate (segments.map fun name => [.name name]) = path at line
  -- nothing in a path ends the line or begins the list of names
  have only : ∀ token ∈ path, token = .mark '.' ∨ ∃ name, token = .name name := by
    rw [← written]
    exact fun _ => of_mem_intercalate
  have without : ∀ {token : Token}, token ≠ .mark '.' → (∀ name, token ≠ .name name) →
      token ∉ path := by
    intro token noPoint noName member
    obtain rfl | ⟨name, rfl⟩ := only token member
    · exact noPoint rfl
    · exact noName name rfl
  have noNewline : .newline ∉ path := without (by simp) (by simp)
  have noBlank : path.filter (· ≠ .blank) = path := by
    rw [List.filter_eq_self]
    rintro token member
    obtain rfl | ⟨name, rfl⟩ := only token member <;> rfl
  refine ⟨.keyword "from" :: (path ++ .keyword "import" :: found), ?_, ?_⟩
  · rw [← List.append_assoc _ tokens] at line
    refine .ofLine 0 line (by simp) (by simp [noNewline, oneLine]) ?_
    change ((path ++ [Token.blank]) ++ tokens).filter (· ≠ .blank) = _
    rw [List.filter_append, List.filter_append, noBlank, kept]
    simp
  · have cut : (path ++ .keyword "import" :: found).splitOn (.keyword "import") = [path, found] := by
      rw [List.splitOn_append_cons_self_of_not_mem (without (by simp) (by simp)),
        List.splitOn_eq_singleton once]
    have names : (path.splitOn (.mark '.')).mapM name? = some segments := by
      rw [← written, List.splitOn_intercalate _ (by simp) (by simpa using nonempty)]
      simpa using mapM_map_eq_some fun (name : String) (_ : name ∈ segments) =>
        (rfl : name? [.name name] = some name)
    simp only [item?, cut, names, imported]

theorem readsLines_timeout (n : Nat) :
    ReadsLines (asCode ("_default_timeout = " ++ toString n ++ "\n"))
      [⟨0, [.name "_default_timeout", .mark '=', .number n]⟩] := by
  have target : Lexes 0 (asCode "_default_timeout = ")
      [.name "_default_timeout", .blank, .mark '=', .blank] 0 := by decide +kernel
  have value : Lexes 0 (asCode (toString n ++ "\n")) ([.number n] ++ [.newline]) 0 :=
    Lexes.number (c := '\n') n rfl (by decide) (by decide)
  have line := target.append value
  rw [← asCode_append, ← String.append_assoc, ← List.append_assoc] at line
  exact .ofLine 0 line (by simp) (by simp) (by simp)

namespace Settings

/-- The lines of a preamble begin on the left, and each of them reads as one item. -/
theorem readsLines {settings : Settings} (transport : ModulePath settings.transportModule)
    (exceptions : ModulePath settings.exceptionsModule) :
    ∃ firsts : List (List Token), ReadsLines settings.readings (firsts.map fun first => ⟨0, first⟩) ∧
      firsts.mapM (fun first => item? ⟨first, []⟩) = some settings.items := by
  obtain ⟨first, lines, read⟩ := readsLines_import transport "import rpc_request\n"
    [.keyword "import", .blank, .name "rpc_request"] ["rpc_request"] (by decide +kernel) (by simp) rfl
    (by simp) rfl
  obtain ⟨second, lines', read'⟩ := readsLines_import exceptions
    "import (\n    TxConfirmationTimedoutError,\n    InvalidReplyError,\n)\n"
    [.keyword "import", .blank, .mark '(', .blank, .blank, .blank, .blank,
      .name "TxConfirmationTimedoutError", .mark ',', .blank, .blank, .blank, .blank,
      .name "InvalidReplyError", .mark ',', .mark ')']
    ["TxConfirmationTimedoutError", "InvalidReplyError"] (by decide +kernel) (by simp) rfl (by simp) rfl
  have emptyLine : ReadsLines (asCode "\n") [] := .ofRun (by decide +kernel)
  have endpoint : ReadsLines
      (asCode "_default_endpoint = " ++ .literal (some settings.endpoint) :: asCode "\n")
      [⟨0, [.name "_default_endpoint", .mark '=', .text settings.endpoint]⟩] :=
    readsLines_text 0 (by decide +kernel) settings.endpoint
  have whole := (emptyLine.append ((emptyLine.append (lines.append lines')).append
    (emptyLine.append endpoint))).append (readsLines_timeout settings.timeout.toNat)
  refine ⟨[first, second, [.name "_default_endpoint", .mark '=', .text settings.endpoint],
    [.name "_default_timeout", .mark '=', .number settings.timeout.toNat]], ?_, ?_⟩
  · have importing : asCode " import rpc_request\n" = asCode " " ++ asCode "import rpc_request\n" := by
      decide +kernel
    have errors : asCode " import (\n    TxConfirmationTimedoutError,\n    InvalidReplyError,\n)\n" =
        asCode " "
          ++ asCode "import (\n    TxConfirmationTimedoutError,\n    InvalidReplyError,\n)\n" := by
      decide +kernel
    unfold readings imports
    simp only [asCode_append, importing, errors, List.append_assoc, List.cons_append, List.nil_append]
      at whole ⊢
    exact whole
  · have endpoint : item? ⟨[.name "_default_endpoint", .mark '=', .text settings.endpoint], []⟩ =
        some (.assign "_default_endpoint" (.text settings.endpoint)) := rfl
    have timeout : item? ⟨[.name "_default_timeout", .mark '=', .number settings.timeout.toNat], []⟩ =
        some (.assign "_default_timeout" (.number settings.timeout.toNat)) := rfl
    simp only [List.mapM_cons, List.mapM_nil, read, read', endpoint, timeout]
    rfl

end Settings

/-! ## Modules -/

namespace Module

theorem gather_functions (headings : List Heading) :
    gather 0 (headings.flatMap fun heading => ⟨0, heading.firstLine⟩ :: heading.nestedLines) =
      some ([], headings.map fun heading => ⟨heading.firstLine, heading.nestedLines⟩) := by
  induction headings with
  | nil => rfl
  | cons heading others inductionHypothesis =>
    have deeper : ∀ line ∈ heading.nestedLines, 0 < line.indent := by
      simp [Heading.nestedLines, Heading.lastLines]
    exact gather_block deeper inductionHypothesis

theorem gather_firsts (firsts : List (List Token)) {rest : List Line} {blocks : List Block}
    (gathered : gather 0 rest = some ([], blocks)) :
    gather 0 (firsts.map (fun first => ⟨0, first⟩) ++ rest) =
      some ([], firsts.map (fun first => ⟨first, []⟩) ++ blocks) := by
  induction firsts with
  | nil => exact gathered
  | cons first others inductionHypothesis =>
    have deeper : ∀ line ∈ ([] : List Line), 0 < line.indent := by simp
    exact gather_block deeper inductionHypothesis

/-- The text of a generated module reads as the program of its document. -/
theorem program?_eq {settings : Settings} {document : Schema.Document} {text : String}
    (generated : generate settings document = .ok text) :
    program? text.toList =
      some (program settings (document.methods.map (·.heading settings.snakeCase))) := by
  obtain ⟨transport, exceptions, accepted, -⟩ := stubs_of_generate generated
  obtain ⟨firsts, preamble, items⟩ := Settings.readsLines transport exceptions
  generalize listed : document.methods.map (·.heading settings.snakeCase) = headings at accepted ⊢
  have functions : ReadsLines (headings.flatMap Heading.readings)
      (headings.flatMap fun heading => ⟨0, heading.firstLine⟩ :: heading.nestedLines) :=
    .flatMap fun heading member => Heading.readsLines (accepted.wellNamed heading member)
  have reads : Reads text (settings.readings ++ headings.flatMap Heading.readings) := by
    rw [← listed, List.flatMap_map]
    exact reads_of_generate generated
  obtain ⟨tokens, found, lines⟩ := (preamble.append functions).tokens?_eq reads
  have blocks := gather_firsts firsts (gather_functions headings)
  have definitions : (headings.map fun heading =>
      (⟨heading.firstLine, heading.nestedLines⟩ : Block)).mapM item? =
        some (headings.map fun heading => .define heading.definition) :=
    mapM_map_eq_some fun heading _ => heading.item?_eq
  have whole : (firsts.map fun first => (⟨first, []⟩ : Block)).mapM item? = some settings.items := by
    rw [List.mapM_map]
    exact items
  simp only [program?, found, lines, blocks?, blocks, List.mapM_append, whole, definitions]
  rfl

end Module

end RpcStubs
