import RpcStubs.Proofs.Composition
import RpcStubs.Proofs.Python.DocstringLines
import RpcStubs.Proofs.Python.Literal

/-! # The lines of a generated module

A generated module is looked at as lines, cut at its line feeds.  The lines that begin with `def ` are
those that begin the functions, one for each method; all others behind the preamble are empty or
indented, but for one case: behind a type whose last of several lines is blank, the closing quote of the
type stands alone at the margin (`Module.functions_at_margin`).

A text that ends with a line feed is a number of whole lines (`Prints`), and whole lines can be put
together.  So the lines of a module are found piece by piece, and `Laid` says of a piece what is to be
known of its lines.
-/

namespace RpcStubs

open Identifier PythonText Python Schema

/-! ## Whole lines -/

/-- The lines of a text, cut at its line feeds. -/
def sourceLines (text : String) : List (List Char) :=
  text.toList.splitOn '\n'

/-- A text of whole lines, with a line feed after each. -/
structure Prints (text : String) (lines : List (List Char)) : Prop where
  text_eq : text.toList = lines.flatMap (· ++ ['\n'])
  noFeed : ∀ line ∈ lines, '\n' ∉ line

theorem flatMap_feed_eq {lines : List (List Char)} (some : lines ≠ []) :
    lines.flatMap (· ++ ['\n']) = Text.joinWith ['\n'] lines ++ ['\n'] := by
  induction lines with
  | nil => exact absurd rfl some
  | cons line others inductionHypothesis =>
    by_cases last : others = []
    · simp [last, Text.joinWith]
    · rw [joinWith_cons_of_ne_nil last, List.flatMap_cons, inductionHypothesis last]
      simp

namespace Prints

variable {first second : String} {lines more : List (List Char)}

/-- Cutting a text of whole lines gives the lines back, and then the lines of what stands behind it. -/
theorem sourceLines_append (prints : Prints first lines) (rest : String) :
    sourceLines (first ++ rest) = lines ++ sourceLines rest := by
  obtain ⟨text_eq, noFeed⟩ := prints
  unfold sourceLines
  rw [String.toList_append, text_eq]
  clear text_eq
  induction lines with
  | nil => rfl
  | cons line others inductionHypothesis =>
    obtain ⟨here, there⟩ := List.forall_mem_cons.1 noFeed
    rw [List.flatMap_cons, List.append_assoc, List.append_assoc, List.singleton_append,
      List.splitOn_append_cons_self, List.splitOn_eq_singleton here, inductionHypothesis there]
    rfl

theorem sourceLines_eq (prints : Prints first lines) : sourceLines first = lines ++ [[]] := by
  have whole := prints.sourceLines_append ""
  rwa [String.append_empty] at whole

theorem append (before : Prints first lines) (behind : Prints second more) :
    Prints (first ++ second) (lines ++ more) where
  text_eq := by rw [String.toList_append, before.text_eq, behind.text_eq, List.flatMap_append]
  noFeed := List.forall_mem_append.2 ⟨before.noFeed, behind.noFeed⟩

/-- A text without line feeds, and one after it, is a line. -/
theorem line {text : String} (noFeed : '\n' ∉ text.toList) : Prints (text ++ "\n") [text.toList] where
  text_eq := by simp
  noFeed := by simpa using noFeed

theorem empty : Prints "\n" [[]] :=
  ⟨rfl, by simp⟩

/-- A free text in a docstring is as many lines as it has, with what stands before and behind it. -/
theorem docstring {front back : String} (inFront : '\n' ∉ front.toList) (inBack : '\n' ∉ back.toList)
    (text : String) :
    Prints (front ++ PythonText.docstring text ++ back ++ "\n")
      (framed front.toList back.toList (docstringLines text.toList)) where
  text_eq := by
    rw [flatMap_feed_eq (framed_ne_nil _ _ _), joinWith_framed, ← docstringChars_eq]
    simp [PythonText.docstring]
  noFeed := not_mem_framed inFront inBack (feed_not_mem_docstringLines text.toList)

end Prints

/-! ## What is known of a piece -/

def opensFunction (line : List Char) : Bool :=
  "def ".toList.isPrefixOf line

/-- A line that begins the function of a name. -/
def Opens (name : String) (line : List Char) : Prop :=
  ("def " ++ name ++ "(").toList <+: line

/-- Whole lines that begin the functions of the given names, in order, and no others.  The other lines
are all tidy just if the condition holds. -/
def Laid (text : String) (names : List String) (condition : Prop) : Prop :=
  ∃ lines, Prints text lines ∧ List.Forall₂ Opens names (lines.filter opensFunction) ∧
    ((∀ line ∈ lines, opensFunction line = false → Tidy line) ↔ condition)

theorem opensFunction_of_tidy {line : List Char} (tidy : Tidy line) : opensFunction line = false := by
  rcases tidy with rfl | ⟨rest, rfl⟩
  · rfl
  · rfl

/-- A line with its line feed, given by its characters: a text is not to be decoded to see that it is
one. -/
def IsLine (chars : List Char) : Prop :=
  chars.getLast? = some '\n' ∧ '\n' ∉ chars.dropLast

instance (chars : List Char) : Decidable (IsLine chars) :=
  inferInstanceAs (Decidable (chars.getLast? = some '\n' ∧ '\n' ∉ chars.dropLast))

theorem IsLine.eq_concat {chars : List Char} (isLine : IsLine chars) :
    chars = chars.dropLast ++ ['\n'] := by
  obtain ⟨line, rfl⟩ := List.getLast?_eq_some_iff.1 isLine.1
  rw [List.dropLast_concat]

namespace Laid

variable {first second text : String} {names others : List String} {condition other : Prop}

theorem congr (laid : Laid text names condition) (sameNames : names = others)
    (same : condition ↔ other) : Laid text others other := by
  rwa [propext same, sameNames] at laid

theorem append (before : Laid first names condition) (behind : Laid second others other) :
    Laid (first ++ second) (names ++ others) (condition ∧ other) := by
  obtain ⟨lines, prints, opened, all⟩ := before
  obtain ⟨more, printsMore, openedMore, allMore⟩ := behind
  refine ⟨lines ++ more, prints.append printsMore, ?_, ?_⟩
  · rw [List.filter_append]
    exact List.rel_append opened openedMore
  · rw [List.forall_mem_append, all, allMore]

theorem join {α : Type} {text : α → String} {names : α → List String} {condition : α → Prop}
    {items : List α} (laid : ∀ a ∈ items, Laid (text a) (names a) (condition a)) :
    Laid (String.join (items.map text)) (items.flatMap names) (∀ a ∈ items, condition a) := by
  induction items with
  | nil => exact ⟨[], ⟨rfl, by simp⟩, .nil, by simp⟩
  | cons a others inductionHypothesis =>
    obtain ⟨here, there⟩ := List.forall_mem_cons.1 laid
    rw [List.map_cons, String.join_cons, List.flatMap_cons]
    exact (here.append (inductionHypothesis there)).congr rfl List.forall_mem_cons.symm

/-- Lines none of which begins a function. -/
theorem plain {lines : List (List Char)} (prints : Prints text lines)
    (none : ∀ line ∈ lines, opensFunction line = false) :
    Laid text [] (∀ line ∈ lines, Tidy line) := by
  have filtered : lines.filter opensFunction = [] := by
    rw [List.filter_eq_nil_iff]
    intro line member
    simp [none line member]
  refine ⟨lines, prints, by simp [filtered], ?_⟩
  constructor
  · intro each line member
    exact each line member (none line member)
  · intro each line member _
    exact each line member

theorem tidy {lines : List (List Char)} (prints : Prints text lines)
    (each : ∀ line ∈ lines, Tidy line) : Laid text [] True :=
  (plain prints fun line member => opensFunction_of_tidy (each line member)).congr rfl (by simpa using each)

/-- A fixed line. -/
theorem fixed {chars : List Char} (line : IsLine chars ∧ Tidy chars.dropLast) :
    Laid (String.ofList chars) [] True := by
  have prints : Prints (String.ofList chars) [chars.dropLast] :=
    ⟨by simpa using line.1.eq_concat, by simpa using line.1.2⟩
  exact tidy prints (by simpa using line.2)

/-- Behind an indentation a line is tidy, whatever text without line feeds is written there. -/
theorem indented {front back : List Char} {text : String}
    (begins : indentation <+: front ∧ '\n' ∉ front) (noFeed : '\n' ∉ text.toList)
    (isLine : IsLine back) :
    Laid (String.ofList front ++ text ++ String.ofList back) [] True := by
  have prints : Prints (String.ofList front ++ text ++ String.ofList back)
      [front ++ text.toList ++ back.dropLast] :=
    ⟨by simpa using isLine.eq_concat, by simpa [begins.2, noFeed] using isLine.2⟩
  refine tidy prints ?_
  rw [List.forall_mem_singleton, List.append_assoc]
  exact .inr (begins.1.trans (List.prefix_append _ _))

/-- A line that begins a function is the only one that is not asked to be tidy. -/
theorem opening {name rest : String} (inName : '\n' ∉ name.toList) (inRest : '\n' ∉ rest.toList) :
    Laid ("def " ++ name ++ "(" ++ rest ++ "\n") [name] True := by
  have prints : Prints ("def " ++ name ++ "(" ++ rest ++ "\n")
      [("def " ++ name ++ "(" ++ rest).toList] :=
    .line (by simp [inName, inRest])
  have opens : opensFunction ("def " ++ name ++ "(" ++ rest).toList = true := by
    simp [opensFunction]
  have begun : Opens name ("def " ++ name ++ "(" ++ rest).toList := by
    rw [Opens, String.toList_append (s := "def " ++ name ++ "(")]
    exact List.prefix_append _ _
  refine ⟨_, prints, ?_, ?_⟩
  · rw [List.filter_cons_of_pos opens]
    exact .cons begun .nil
  · rw [List.forall_mem_singleton, opens]
    simp

/-- A free text in a docstring begins no function, and what stands behind it is tidy but for its last
line. -/
theorem docstring {front back : String} (inFront : '\n' ∉ front.toList) (inBack : '\n' ∉ back.toList)
    (indented : indentation <+: front.toList) (opensNone : opensFunction back.toList = false)
    (text : String) :
    Laid (front ++ PythonText.docstring text ++ back ++ "\n") []
      (LastLineFilled text.toList ∨ Tidy back.toList) := by
  obtain ⟨each, all⟩ := framed_docstringLines text.toList back.toList indented
  refine (plain (Prints.docstring inFront inBack text) ?_).congr rfl all
  intro line member
  rcases each line member with tidy | rfl
  · exact opensFunction_of_tidy tidy
  · exact opensNone

end Laid

/-! ## The lines of a function -/

theorem feed_not_mem_literal (text : String) : '\n' ∉ (literal text).toList := by
  simp only [literal, String.toList_ofList, List.cons_append, List.mem_cons, List.mem_append,
    List.mem_flatMap]
  rintro (quote | ⟨c, -, feed⟩ | quote)
  · cases quote
  · rcases literalChar_cases c with ⟨d, known, written⟩ | ⟨written, -, -, plain⟩
    · rw [written] at feed
      simp only [List.mem_cons, List.not_mem_nil, or_false] at feed
      rcases feed with backslash | rfl
      · cases backslash
      · cases known
    · rw [written, List.mem_singleton] at feed
      exact plain feed.symm
  · simp at quote

namespace Stub

theorem laid_parameterLine {doc : ParameterDoc} (valid : ValidName doc.name) :
    Laid (parameterLine doc) [] (LastLineFilled doc.type.toList) := by
  have noFeed : '\n' ∉ doc.name.toList := valid.not_mem rfl
  unfold parameterLine
  by_cases untyped : doc.type = ""
  · rw [if_pos untyped]
    have line : Laid ("    " ++ doc.name ++ ": :obj:\n") [] True :=
      .indented (by decide) noFeed (by decide)
    have filled : LastLineFilled doc.type.toList := by simp [untyped, LastLineFilled, Text.lines]
    exact line.congr rfl (by simp [filled])
  · rw [if_neg untyped]
    have lines : Laid ("    " ++ doc.name ++ ": :obj:`" ++ docstring doc.type ++ "`" ++ "\n") []
        (LastLineFilled doc.type.toList ∨ Tidy "`".toList) :=
      .docstring (by simp [noFeed]) (by simp) (by simp [indentation]) rfl doc.type
    -- nothing indents the closing quote behind an empty line
    have atMargin : ¬ Tidy "`".toList := by decide
    rw [String.append_assoc] at lines
    exact lines.congr rfl (or_iff_left atMargin)

/-- A docstring begins no function.  Its lines are tidy if those of the types are, whatever the
description, the result and the reference are. -/
theorem laid_docstringText (docLink : String) {stub : Stub}
    (valid : ∀ doc ∈ stub.parameterDocs, ValidName doc.name) :
    Laid (stub.docstringText docLink) []
      (∀ doc ∈ stub.parameterDocs, LastLineFilled doc.type.toList) := by
  have free (text : String) : Laid ("    " ++ (docstring text ++ "\n")) [] True := by
    have lines : Laid ("    " ++ docstring text ++ "" ++ "\n") []
        (LastLineFilled text.toList ∨ Tidy "".toList) :=
      .docstring (by simp) (by simp) (by simp [indentation]) rfl text
    rw [String.append_empty, String.append_assoc] at lines
    exact lines.congr rfl (by simp [Tidy])
  have quotes : Laid "    \"\"\"\n" [] True := .fixed (by decide)
  have empty : Laid "\n" [] True := .fixed (by decide)
  have parameters : Laid ("    Parameters\n" ++ "    ----------\n") _ _ :=
    .append (.fixed (by decide)) (.fixed (by decide))
  have types := Laid.join fun doc member => laid_parameterLine (valid doc member)
  have endpoint : Laid ("    " ++ endpointArgument ++ ": :obj:`str`, optional\n"
      ++ "        Endpoint to send request to\n") _ _ :=
    .append (.indented (by decide) (by decide) (by decide))
      (.fixed (by decide))
  have timeout : Laid ("    " ++ timeoutArgument ++ ": :obj:`int`, optional\n"
      ++ "        Timeout in seconds\n") _ _ :=
    .append (.indented (by decide) (by decide) (by decide))
      (.fixed (by decide))
  have returns : Laid ("    Returns\n" ++ "    -------\n") _ _ :=
    .append (.fixed (by decide)) (.fixed (by decide))
  have raises : Laid ("    Raises\n" ++ "    ------\n" ++ ("    " ++ invalidReplyError ++ "\n")
      ++ "        If received unknown result from endpoint\n") _ _ :=
    .append (.append (.append (.fixed (by decide)) (.fixed (by decide)))
      (.indented (by decide) (by decide) (by decide))) (.fixed (by decide))
  have reference : Laid ("    API Reference\n" ++ "    -------------\n") _ _ :=
    .append (.fixed (by decide)) (.fixed (by decide))
  have whole := quotes.append <| (free stub.description).append <| empty.append <|
    parameters.append <| types.append <| endpoint.append <| timeout.append <| empty.append <|
    returns.append <| (free stub.result).append <| empty.append <| raises.append <|
    empty.append <| reference.append <| (free docLink).append quotes
  unfold docstringText
  simp only [String.append_assoc] at whole ⊢
  exact whole.congr (by simp) (by simp)

theorem feed_not_mem_positional {stub : Stub} (valid : ∀ name ∈ stub.parameters, ValidName name) :
    '\n' ∉ stub.positional.toList := by
  intro feed
  rw [positional, String.toList_intercalate] at feed
  rcases Text.mem_intercalate feed with between | ⟨letters, among, feed⟩
  · simp at between
  · obtain ⟨name, named, rfl⟩ := List.mem_map.1 among
    exact (valid name named).not_mem rfl feed

theorem laid_bodyText {stub : Stub} (valid : ∀ name ∈ stub.parameters, ValidName name) :
    Laid stub.bodyText [] True := by
  have method : Laid ("    _method = " ++ literal stub.method ++ "\n") [] True :=
    .indented (by decide) (feed_not_mem_literal _) (by decide)
  have params : Laid ("    _params = [" ++ stub.positional ++ "]\n") [] True :=
    .indented (by decide) (feed_not_mem_positional valid) (by decide)
  have reply : Laid ("    _reply = " ++ (transportFunction ++ "(_method, params=_params, "
      ++ endpointArgument ++ "=" ++ endpointArgument ++ ", "
      ++ timeoutArgument ++ "=" ++ timeoutArgument) ++ ")\n") [] True :=
    .indented (by decide) (by decide +kernel) (by decide)
  have result : Laid ("    try:\n" ++ "        return _reply[\"result\"]\n"
      ++ "    except KeyError as _err:\n") _ _ :=
    .append (.append (.fixed (by decide)) (.fixed (by decide)))
      (.fixed (by decide))
  have error : Laid ("        raise " ++ (invalidReplyError ++ "(_method, " ++ endpointArgument)
      ++ ") from _err\n") [] True :=
    .indented (by decide) (by decide +kernel) (by decide)
  have whole := method.append <| params.append <| reply.append <| result.append error
  unfold bodyText
  simp only [String.append_assoc] at whole ⊢
  exact whole.congr (by simp) (by simp)

theorem feed_not_mem_leading {stub : Stub} (valid : ∀ name ∈ stub.parameters, ValidName name) :
    '\n' ∉ stub.leading.toList := by
  have inPositional := feed_not_mem_positional valid
  unfold leading
  split
  · simp
  · simp [inPositional]

/-- The signature is one line, which begins the function, after two empty ones. -/
theorem laid_signatureText {stub : Stub} (function : ValidName stub.functionName)
    (valid : ∀ name ∈ stub.parameters, ValidName name) :
    Laid ("\n\n" ++ stub.signatureText) [stub.functionName] True := by
  have inDefaults : '\n' ∉ (endpointArgument ++ "=" ++ defaultEndpoint ++ ", " ++ timeoutArgument
      ++ "=" ++ defaultTimeout ++ "):").toList := by
    decide +kernel
  have line : Laid ("def " ++ stub.functionName ++ "(" ++ (stub.leading ++ (endpointArgument ++ "="
      ++ defaultEndpoint ++ ", " ++ timeoutArgument ++ "=" ++ defaultTimeout ++ "):")) ++ "\n")
      [stub.functionName] True := by
    refine .opening (function.not_mem rfl) ?_
    rw [String.toList_append, List.mem_append]
    exact not_or.2 ⟨feed_not_mem_leading valid, inDefaults⟩
  have empty : Laid ("\n" ++ "\n") _ _ :=
    .append (.fixed (by decide)) (.fixed (by decide))
  have whole := empty.append line
  have begins : "\n\n" = "\n" ++ "\n" := rfl
  have ends : "):\n" = "):" ++ "\n" := rfl
  unfold signatureText
  simp only [begins, ends, String.append_assoc] at whole ⊢
  exact whole.congr rfl (by simp)

/-- The text of a function begins that function only. -/
theorem laid_text (docLink : String) {stub : Stub} (wellNamed : stub.heading.WellNamed)
    (documented : stub.parameterDocs.map (·.name) = stub.parameters) :
    Laid (stub.text docLink) [stub.functionName]
      (∀ doc ∈ stub.parameterDocs, LastLineFilled doc.type.toList) := by
  have valid : ∀ name ∈ stub.parameters, ValidName name := fun name member =>
    (wellNamed.parameters name member).valid
  have validDocs : ∀ doc ∈ stub.parameterDocs, ValidName doc.name := by
    intro doc member
    exact valid doc.name (documented ▸ List.mem_map_of_mem member)
  have signature := laid_signatureText wellNamed.function.valid valid
  have whole := (signature.append (laid_docstringText docLink validDocs)).append (laid_bodyText valid)
  exact whole.congr rfl (by simp)

end Stub

/-! ## The lines of a preamble -/

/-- The lines in front of the functions. -/
def Settings.preambleLines (settings : Settings) : List (List Char) :=
  ["# This code was automatically generated by rpcgen. Do not edit manually.".toList,
    [],
    ("from " ++ settings.transportModule ++ " import " ++ transportFunction).toList,
    ("from " ++ settings.exceptionsModule ++ " import (").toList,
    ("    " ++ timeoutError ++ ",").toList,
    ("    " ++ invalidReplyError ++ ",").toList,
    ")".toList,
    [],
    (defaultEndpoint ++ " = " ++ literal settings.endpoint).toList,
    (defaultTimeout ++ " = " ++ toString settings.timeout.toNat).toList]

theorem Settings.prints_preamble {settings : Settings} (transport : ModulePath settings.transportModule)
    (exceptions : ModulePath settings.exceptionsModule) :
    Prints settings.preamble settings.preambleLines := by
  have inTransport := transport.not_mem (c := '\n') (by decide) rfl
  have inExceptions := exceptions.not_mem (c := '\n') (by decide) rfl
  have inTimeout : '\n' ∉ Nat.toDigits 10 settings.timeout.toNat := by
    intro feed
    have digit : '\n'.isDigit = true := Nat.isDigit_of_mem_toDigits (by decide) (by decide) feed
    cases digit
  have notice : Prints ("# This code was automatically generated by rpcgen. Do not edit manually."
      ++ "\n") _ := .line (by decide +kernel)
  have transportLine : Prints ("from " ++ settings.transportModule ++ " import " ++ transportFunction
      ++ "\n") _ := .line (by simp [inTransport, transportFunction])
  have exceptionsLine : Prints ("from " ++ settings.exceptionsModule ++ " import (" ++ "\n") _ :=
    .line (by simp [inExceptions])
  have timeoutErrorLine : Prints ("    " ++ timeoutError ++ "," ++ "\n") _ := .line (by decide +kernel)
  have replyErrorLine : Prints ("    " ++ invalidReplyError ++ "," ++ "\n") _ :=
    .line (by decide +kernel)
  have closing : Prints (")" ++ "\n") _ := .line (by decide)
  have endpointLine : Prints (defaultEndpoint ++ " = " ++ literal settings.endpoint ++ "\n") _ :=
    .line (by simp [defaultEndpoint, feed_not_mem_literal])
  have timeoutLine : Prints (defaultTimeout ++ " = " ++ toString settings.timeout.toNat ++ "\n") _ :=
    .line (by simp [defaultTimeout, inTimeout])
  have whole := notice.append <| Prints.empty.append <| transportLine.append <|
    exceptionsLine.append <| timeoutErrorLine.append <| replyErrorLine.append <|
    closing.append <| Prints.empty.append <| endpointLine.append timeoutLine
  have title : "# This code was automatically generated by rpcgen. Do not edit manually.\n" =
      "# This code was automatically generated by rpcgen. Do not edit manually." ++ "\n" := rfl
  have importing : " import (\n" = " import (" ++ "\n" := rfl
  have comma : ",\n" = "," ++ "\n" := rfl
  have closed : ")\n" = ")" ++ "\n" := rfl
  unfold preamble preambleLines
  simp only [title, importing, comma, closed, String.append_assoc, List.cons_append,
    List.nil_append] at whole ⊢
  exact whole

theorem Settings.opensNone_preamble (settings : Settings) :
    settings.preambleLines.filter opensFunction = [] := by
  simp [preambleLines, opensFunction, defaultEndpoint, defaultTimeout]

/-! ## The lines of a module -/

/-- No parameter has a type whose last of several lines is blank. -/
def Schema.Method.TypesFilled (method : Method) : Prop :=
  ∀ parameter ∈ method.params.getD [], LastLineFilled parameter.typeText.toList

instance (method : Method) : Decidable method.TypesFilled :=
  List.decidableBAll _ _

theorem Schema.Method.laid_functionText {snakeCase : Bool} (docLink : String) {method : Method}
    (complete : method.Complete) (wellNamed : (method.heading snakeCase).WellNamed) :
    Laid (method.functionText snakeCase docLink) [Stub.functionNameOf snakeCase method.name]
      method.TypesFilled := by
  obtain ⟨stub, built⟩ := Stub.exists_ofMethod snakeCase complete
  have heading := (Stub.heading_of_ofMethod built).1
  have laid := Stub.laid_text docLink (heading ▸ wellNamed) (Stub.documented_of_ofMethod built)
  have function : stub.functionName = Stub.functionNameOf snakeCase method.name :=
    congrArg Heading.functionName heading
  rw [functionText, built]
  refine laid.congr (by rw [function]) ?_
  rw [Stub.parameterDocs_of_ofMethod built, List.forall_mem_map]
  rfl

namespace Module

variable {settings : Settings} {document : Document} {text : String}

/-- What is known of the lines of a module. -/
structure LaidOut (settings : Settings) (document : Document) (text : String) : Prop where
  /-- The lines that begin a function: one for each method, in order, with the name that is derived
  from that of the method. -/
  functions : List.Forall₂ Opens
    (document.methods.map fun method => Stub.functionNameOf settings.snakeCase method.name)
    ((sourceLines text).filter opensFunction)
  /-- Behind the preamble, every other line is empty or indented just if no type ends blank. -/
  others : ∃ body, sourceLines settings.preamble = settings.preambleLines ++ [[]] ∧
    sourceLines text = settings.preambleLines ++ body ∧
    ((∀ line ∈ body, opensFunction line = false → Tidy line) ↔
      ∀ method ∈ document.methods, method.TypesFilled)

theorem laid_functionTexts (accepted : Accepted settings document) :
    Laid (functionTexts settings document.methods)
      (document.methods.map fun method => Stub.functionNameOf settings.snakeCase method.name)
      (∀ method ∈ document.methods, method.TypesFilled) := by
  rw [List.map_eq_flatMap]
  refine Laid.join fun method member => ?_
  apply method.laid_functionText settings.docLink (accepted.complete method member)
  exact accepted.headings.wellNamed _ (List.mem_map_of_mem member)

/-- The lines of a module are those of the preamble and, behind them, those of the functions. -/
theorem exists_body (generated : generate settings document = .ok text) :
    ∃ body, sourceLines settings.preamble = settings.preambleLines ++ [[]] ∧
      sourceLines text = settings.preambleLines ++ body ∧
      List.Forall₂ Opens
        (document.methods.map fun method => Stub.functionNameOf settings.snakeCase method.name)
        (body.filter opensFunction) ∧
      ((∀ line ∈ body, opensFunction line = false → Tidy line) ↔
        ∀ method ∈ document.methods, method.TypesFilled) := by
  obtain ⟨accepted, rfl⟩ := generate_eq_ok_iff_accepted.1 generated
  have preamble := Settings.prints_preamble accepted.transport accepted.exceptions
  obtain ⟨body, prints, opened, tidy⟩ := laid_functionTexts accepted
  have whole : sourceLines (settings.preamble ++ functionTexts settings document.methods) =
      settings.preambleLines ++ (body ++ [[]]) := by
    rw [preamble.sourceLines_append, prints.sourceLines_eq]
  -- what stands behind the last line feed is empty
  refine ⟨body ++ [[]], preamble.sourceLines_eq, whole, ?_, ?_⟩
  · rw [List.filter_append]
    simpa [opensFunction] using opened
  · rw [List.forall_mem_append, tidy]
    simp [Tidy]

/-- The functions of a module begin at the margin, one for each method, and nothing else does behind
the preamble, whatever the descriptions, the results and the reference are.  Only of the types is
something asked: that the last of several lines is not blank. -/
theorem functions_at_margin (generated : generate settings document = .ok text) :
    LaidOut settings document text := by
  obtain ⟨body, preamble, whole, opened, tidy⟩ := exists_body generated
  refine ⟨?_, body, preamble, whole, tidy⟩
  rw [whole, List.filter_append, Settings.opensNone_preamble]
  exact opened

/-- A method whose texts do what they can to begin a function: lines that read like one, behind line
feeds, carriage returns and blank lines. -/
def posing : Method where
  name := "sui_getItem"
  description := some "Gets it.\n\ndef sneaky():\r\n\n \n\r\ndef again():\n"
  params := some [⟨"item", some ⟨some (.single "u8\n\r\ndef typed():")⟩⟩]
  result := some ⟨"\n\ndef result():\n"⟩

/-- Settings whose reference does the same. -/
def posingLink : Settings :=
  { Settings.default with docLink := "\ndef link():\n\n" }

theorem functions_at_margin_posing :
    ∃ text, generate posingLink ⟨[posing, .complete "sui_ping" [] "u64"]⟩ = .ok text ∧
      List.Forall₂ Opens ["get_item", "ping"] ((sourceLines text).filter opensFunction) ∧
      ∃ body, sourceLines text = posingLink.preambleLines ++ body ∧
        ∀ line ∈ body, opensFunction line = false → Tidy line := by
  obtain ⟨text, generated⟩ : ∃ text,
      generate posingLink ⟨[posing, .complete "sui_ping" [] "u64"]⟩ = .ok text :=
    exists_ok_of_isSome (by decide +kernel)
  obtain ⟨functions, body, -, whole, tidy⟩ := functions_at_margin generated
  have names : ([posing, .complete "sui_ping" [] "u64"].map fun (method : Method) =>
      Stub.functionNameOf posingLink.snakeCase method.name) = ["get_item", "ping"] := by
    decide +kernel
  have filled : ∀ method ∈ [posing, .complete "sui_ping" [] "u64"], method.TypesFilled := by
    decide +kernel
  rw [names] at functions
  exact ⟨text, generated, functions, body, whole, tidy.2 filled⟩

/-- A method whose parameter has a type that ends with an empty line. -/
def blankEnded : Method where
  name := "sui_getItem"
  description := none
  params := some [.typed "item" "a\n\n"]
  result := some ⟨"R"⟩

/-- It is accepted all the same, and a line of its function, that of the closing quote, is neither empty
nor indented. -/
theorem closing_quote_at_margin :
    ∃ text body, generate .default ⟨[blankEnded]⟩ = .ok text ∧
      sourceLines text = Settings.default.preambleLines ++ body ∧
      ∃ line ∈ body, opensFunction line = false ∧ ¬ Tidy line := by
  obtain ⟨text, generated⟩ : ∃ text, generate .default ⟨[blankEnded]⟩ = .ok text :=
    exists_ok_of_isSome (by decide +kernel)
  obtain ⟨body, -, whole, -, tidy⟩ := exists_body generated
  have notFilled : ¬ ∀ method ∈ [blankEnded], method.TypesFilled := by decide +kernel
  rw [← tidy] at notFilled
  push Not at notFilled
  exact ⟨text, body, generated, whole, notFilled⟩

end Module

end RpcStubs
