import RpcStubs.Proofs.Composition
import RpcStubs.Proofs.Names.Title
import RpcStubs.Proofs.Strings

/-! # Free texts in a generated module

The template of a module, the names in it and the escapes are written in printable ASCII and line
feeds.  Of the other characters those that are blanks may be trimmed away.  The rest, called foreign
here, pass from the free texts into the module as they are, and there are no others of them in it.

That a text *draws* on others says so of its foreign characters.  Like the lines of a module this is
found piece by piece (`Module.draws_generated`).

NUL is a foreign character, and no Python source may have it anywhere.  A module is free of it exactly if
its free texts are (`Module.nul_mem_generated_iff`).
-/

namespace RpcStubs

open Identifier PythonText Text Python

/-! ## Foreign characters -/

/-- A character that the template is written with: a line feed or printable ASCII. -/
def IsBasic (c : Char) : Prop :=
  c = '\n' ∨ (' ' ≤ c ∧ c ≤ '~')

instance (c : Char) : Decidable (IsBasic c) :=
  inferInstanceAs (Decidable (_ ∨ _))

def BasicText (text : String) : Prop :=
  ∀ c ∈ text.toList, IsBasic c

instance (text : String) : Decidable (BasicText text) :=
  List.decidableBAll _ _

theorem basicText_append_iff {first second : String} :
    BasicText (first ++ second) ↔ BasicText first ∧ BasicText second := by
  rw [BasicText, String.toList_append, List.forall_mem_append]
  rfl

theorem isBasic_of_isContinue {c : Char} (continues : isContinue c = true) : IsBasic c := by
  rcases (isContinue_iff c).1 continues with (⟨low, high⟩ | ⟨low, high⟩) | ⟨low, high⟩ | rfl
  · exact .inr ⟨Char.le_trans (by decide) low, Char.le_trans high (by decide)⟩
  · exact .inr ⟨Char.le_trans (by decide) low, Char.le_trans high (by decide)⟩
  · exact .inr ⟨Char.le_trans (by decide) low, Char.le_trans high (by decide)⟩
  · decide

theorem ne_of_isBlank {c d : Char} (notBlank : isBlank c = false) (blank : isBlank d = true) :
    c ≠ d := by
  rintro rfl
  simp [notBlank] at blank

/-- A character that is neither of the template nor a blank. -/
structure IsForeign (c : Char) : Prop where
  notBasic : ¬ IsBasic c
  notBlank : isBlank c = false

namespace IsForeign

variable {c d : Char}

theorem ne (foreign : IsForeign c) (basic : IsBasic d) : c ≠ d := by
  rintro rfl
  exact foreign.notBasic basic

theorem isContinue_eq_false (foreign : IsForeign c) : isContinue c = false := by
  rw [← Bool.not_eq_true]
  exact fun continues => foreign.notBasic (isBasic_of_isContinue continues)

end IsForeign

theorem isForeign_nul : IsForeign '\x00' :=
  ⟨by decide, by decide⟩

/-! ## Escaping and trimming -/

section Layout

variable {c : Char} {cs : List Char}

theorem mem_dropWhile_iff {p : Char → Bool} (stays : p c = false) : c ∈ cs.dropWhile p ↔ c ∈ cs := by
  refine ⟨fun member => (List.dropWhile_sublist p).mem member, fun member => ?_⟩
  rw [← List.takeWhile_append_dropWhile (p := p) (l := cs), List.mem_append] at member
  refine member.resolve_left fun taken => ?_
  simp [List.mem_takeWhile_imp taken] at stays

theorem mem_trimEnd_iff (notBlank : isBlank c = false) : c ∈ trimEnd cs ↔ c ∈ cs := by
  rw [trimEnd, List.mem_reverse, mem_dropWhile_iff notBlank, List.mem_reverse]

theorem mem_trim_iff (notBlank : isBlank c = false) : c ∈ trim cs ↔ c ∈ cs := by
  rw [trim, mem_trimEnd_iff notBlank, trimStart, mem_dropWhile_iff notBlank]

theorem mem_escaped_iff (notBackslash : c ≠ '\\') : c ∈ escaped cs ↔ c ∈ cs := by
  induction cs using escaped_induction with
  | nil => rfl
  | backslash rest inductionHypothesis =>
    simp [escaped_backslash, notBackslash, inductionHypothesis]
  | threeQuotes rest inductionHypothesis =>
    simp [escaped_threeQuotes, notBackslash, inductionHypothesis]
  | plain d rest plain few inductionHypothesis =>
    rw [escaped_cons plain few, List.mem_cons, List.mem_cons, inductionHypothesis]

/-- What is no line end stands in a line of its text. -/
theorem exists_mem_lines_iff (noFeed : c ≠ '\n') (noReturn : c ≠ '\r') :
    (∃ line ∈ lines cs, c ∈ line) ↔ c ∈ cs := by
  induction cs using lines.induct with
  | case1 => simp [lines]
  | case2 rest inductionHypothesis => simpa [lines, noFeed] using inductionHypothesis
  | case3 rest inductionHypothesis => simpa [lines, noFeed, noReturn] using inductionHypothesis
  -- the last character of the text is a line of its own, any other goes in front of a line
  | case4 d rest feed lineEnd none inductionHypothesis =>
    have outside : c ∉ rest := by simpa [none] using inductionHypothesis
    simp [lines, none, outside]
  | case5 d rest feed lineEnd line others cut inductionHypothesis =>
    have longer : lines (d :: rest) = (d :: line) :: others := by simp only [lines, cut]
    rw [cut, List.exists_mem_cons_iff] at inductionHypothesis
    rw [longer, List.exists_mem_cons_iff, List.mem_cons, List.mem_cons, or_assoc,
      inductionHypothesis]

theorem mem_furtherLine_iff (notBlank : isBlank c = false) : c ∈ furtherLine cs ↔ c ∈ cs := by
  have notIndented : c ∉ indentation := by
    intro indented
    have blank : IsBlankLine indentation := by decide
    simp [blank c indented] at notBlank
  unfold furtherLine
  split
  · exact mem_trimEnd_iff notBlank
  · rw [List.mem_append, mem_trimEnd_iff notBlank, or_iff_right notIndented]

theorem mem_intercalate_iff {separator : List Char} (outside : c ∉ separator)
    {texts : List (List Char)} : c ∈ separator.intercalate texts ↔ ∃ text ∈ texts, c ∈ text := by
  constructor
  · exact fun member => (mem_intercalate member).resolve_left outside
  · rintro ⟨text, among, member⟩
    exact mem_intercalate_of_mem among member

theorem mem_layOut_iff (notBlank : isBlank c = false) {cut : List (List Char)} :
    c ∈ layOut cut ↔ ∃ line ∈ cut, c ∈ line := by
  have noFeed : c ∉ ['\n'] := List.mem_singleton.not.2 (ne_of_isBlank notBlank (by decide))
  cases cut with
  | nil => simp [layOut]
  | cons first others =>
    rw [layOut, joinWith_eq_intercalate, mem_intercalate_iff noFeed]
    simp [mem_trimEnd_iff notBlank, mem_furtherLine_iff notBlank]

/-- A docstring has every character of its text but some of the blanks, and besides those only
backslashes and blanks. -/
theorem mem_docstring_iff (notBackslash : c ≠ '\\') (notBlank : isBlank c = false) {text : String} :
    c ∈ (docstring text).toList ↔ c ∈ text.toList := by
  have noFeed : c ≠ '\n' := ne_of_isBlank notBlank (by decide)
  have noReturn : c ≠ '\r' := ne_of_isBlank notBlank (by decide)
  rw [docstring, String.toList_ofList, docstringChars_eq_escaped, mem_escaped_iff notBackslash,
    mem_layOut_iff notBlank, exists_mem_lines_iff noFeed noReturn]

end Layout

theorem isBasic_of_escaped? {letter c : Char} (known : escaped? letter = some c) :
    IsBasic letter ∧ (IsBasic c ∨ isBlank c = true) := by
  unfold escaped? at known
  split_ifs at known <;> cases known <;> subst_vars <;> decide

/-- Neither the escapes of a literal nor what they stand for are foreign. -/
theorem mem_literalChar_iff {c d : Char} (foreign : IsForeign c) : c ∈ literalChar d ↔ c = d := by
  rcases literalChar_cases d with ⟨letter, known, written⟩ | ⟨written, -⟩
  -- neither the character that is escaped nor any of its escape is foreign
  · obtain ⟨basic, escaped⟩ := isBasic_of_escaped? known
    have backslash : c ≠ '\\' := foreign.ne (by decide)
    have other : c ≠ d := escaped.elim foreign.ne (ne_of_isBlank foreign.notBlank)
    simp [written, backslash, foreign.ne basic, other]
  · rw [written, List.mem_singleton]

/-! ## Drawing on texts -/

/-- A text has the foreign characters of its sources and no others. -/
def Draws (text : String) (sources : List String) : Prop :=
  ∀ c, IsForeign c → (c ∈ text.toList ↔ ∃ source ∈ sources, c ∈ source.toList)

namespace Draws

variable {text first second : String} {sources others : List String}

theorem congr (draws : Draws text sources) (same : ∀ source, source ∈ sources ↔ source ∈ others) :
    Draws text others := by
  intro c foreign
  rw [draws c foreign]
  simp only [same]

/-- A text without foreign characters. -/
theorem none (absent : ∀ c, IsForeign c → c ∉ text.toList) : Draws text [] := by
  intro c foreign
  simp [absent c foreign]

theorem basic (basic : BasicText text) : Draws text [] :=
  .none fun c foreign member => foreign.notBasic (basic c member)

theorem append (before : Draws first sources) (behind : Draws second others) :
    Draws (first ++ second) (sources ++ others) := by
  intro c foreign
  rw [String.toList_append, List.mem_append, before c foreign, behind c foreign]
  simp only [List.mem_append, or_and_right, exists_or]

/-- A source that draws on others stands for these. -/
theorem through {source : String} (draws : Draws text (source :: sources))
    (drawsSource : Draws source others) : Draws text (others ++ sources) := by
  intro c foreign
  rw [draws c foreign, List.exists_mem_cons_iff, drawsSource c foreign]
  simp only [List.mem_append, or_and_right, exists_or]

theorem join {α : Type} {text : α → String} {sources : α → List String} {items : List α}
    (draws : ∀ a ∈ items, Draws (text a) (sources a)) :
    Draws (String.join (items.map text)) (items.flatMap sources) := by
  induction items with
  | nil => exact .basic (by simp [BasicText])
  | cons a rest inductionHypothesis =>
    obtain ⟨here, there⟩ := List.forall_mem_cons.1 draws
    rw [List.map_cons, String.join_cons, List.flatMap_cons]
    exact here.append (inductionHypothesis there)

theorem ofValidName {name : String} (valid : ValidName name) : Draws name [] :=
  .none fun _ foreign => valid.not_mem foreign.isContinue_eq_false

theorem ofModulePath {path : String} (isPath : ModulePath path) : Draws path [] :=
  .none fun _ foreign => isPath.not_mem (foreign.ne (by decide)) foreign.isContinue_eq_false

theorem ofNat (n : Nat) : Draws (toString n) [] := by
  refine .none fun c foreign member => ?_
  have digits : c ∈ Nat.toDigits 10 n := by simpa using member
  have digit : IsDigit c :=
    (isDigit_iff c).1 (Nat.isDigit_of_mem_toDigits (by decide) (by decide) digits)
  exact foreign.notBasic (isBasic_of_isContinue ((isContinue_iff c).2 (.inr (.inl digit))))

theorem intercalate {separator : String} (between : BasicText separator)
    {names : List String} (valid : ∀ name ∈ names, ValidName name) :
    Draws (String.intercalate separator names) [] := by
  refine .none fun c foreign member => ?_
  rw [String.toList_intercalate,
    mem_intercalate_iff fun member => foreign.notBasic (between c member)] at member
  obtain ⟨letters, among, member⟩ := member
  obtain ⟨name, named, rfl⟩ := List.mem_map.1 among
  exact (valid name named).not_mem foreign.isContinue_eq_false member

theorem docstring (text : String) : Draws (docstring text) [text] := by
  intro c foreign
  rw [mem_docstring_iff (foreign.ne (by decide)) foreign.notBlank]
  simp

theorem literal (text : String) : Draws (literal text) [text] := by
  intro c foreign
  have quote : c ≠ '"' := foreign.ne (by decide)
  simp [PythonText.literal, quote, mem_literalChar_iff foreign]

end Draws

/-! ## Descriptions -/

theorem isContinue_of_mem_titleWord {word : List Char} (continues : ∀ c ∈ word, isContinue c = true)
    (afterLetter : Bool) : ∀ c ∈ Naming.titleWord afterLetter word, isContinue c = true := by
  induction word generalizing afterLetter with
  | nil => exact List.forall_mem_nil _
  | cons c rest inductionHypothesis =>
    obtain ⟨here, there⟩ := List.forall_mem_cons.1 continues
    have ascii := Naming.ascii_of_isContinue here
    have cased : isContinue c.toLower = true ∧ isContinue c.toUpper = true :=
      forall_ascii (p := fun c => isContinue c = true →
        isContinue c.toLower = true ∧ isContinue c.toUpper = true) (by decide) ascii here
    rw [Naming.titleWord, lowerChar_of_ascii ascii, upperChar_of_ascii ascii]
    split
    · refine List.forall_mem_append.2 ⟨?_, inductionHypothesis there true⟩
      split
      · exact List.forall_mem_singleton.2 cased.1
      · exact List.forall_mem_singleton.2 cased.2
    · exact List.forall_mem_cons.2 ⟨here, inductionHypothesis there false⟩

theorem draws_titleCase {name : String} (valid : ValidName name) : Draws (Naming.titleCase name) [] := by
  refine .basic fun c member => ?_
  rw [Naming.titleCase, String.toList_ofList, pieces_eq_splitOn, joinWith_eq_intercalate] at member
  rcases mem_intercalate member with blank | ⟨title, titled, member⟩
  · rw [List.mem_singleton.1 blank]
    decide
  · obtain ⟨word, kept, rfl⟩ := List.mem_map.1 titled
    have among := (List.mem_filter.1 kept).1
    refine isBasic_of_isContinue (isContinue_of_mem_titleWord (fun d inWord => ?_) false c member)
    exact valid.isContinue_of_mem (mem_of_mem_splitOn among inWord)

/-- A description is that of the method, or comes from the name of the function. -/
theorem Stub.draws_descriptionOf {functionName : String} (valid : ValidName functionName)
    (description : Option String) :
    Draws (descriptionOf functionName description) description.toList := by
  intro c foreign
  have given : (∃ source ∈ description.toList, c ∈ source.toList) ↔
      c ∈ trim (description.getD "").toList := by
    rw [mem_trim_iff foreign.notBlank]
    cases description <;> simp
  rw [given]
  unfold descriptionOf
  split
  next blank =>
    rw [blank, draws_titleCase valid c foreign]
    simp
  next => rw [String.toList_ofList]

/-! ## Functions -/

namespace Stub

theorem draws_parameterLine {doc : ParameterDoc} (valid : ValidName doc.name) :
    Draws (parameterLine doc) [doc.type] := by
  have name : Draws ("    " ++ doc.name) [] := .append (.basic (by decide)) (.ofValidName valid)
  unfold parameterLine
  by_cases untyped : doc.type = ""
  -- a type that is not there is not quoted, and has nothing to draw on
  · rw [if_pos untyped, untyped]
    have line : Draws ("    " ++ doc.name ++ ": :obj:\n") [] := name.append (.basic (by decide))
    intro c foreign
    rw [line c foreign]
    simp
  · rw [if_neg untyped]
    have typed : Draws ("    " ++ doc.name ++ ": :obj:`" ++ docstring doc.type) _ :=
      (name.append (.basic (by decide))).append (.docstring doc.type)
    exact typed.append (.basic (by decide))

theorem draws_parameterLines {docs : List ParameterDoc} (valid : ∀ doc ∈ docs, ValidName doc.name) :
    Draws (String.join (docs.map parameterLine)) (docs.map (·.type)) := by
  rw [List.map_eq_flatMap (f := fun doc : ParameterDoc => doc.type)]
  exact .join fun doc member => draws_parameterLine (valid doc member)

theorem draws_docstringText (docLink : String) {stub : Stub}
    (valid : ∀ doc ∈ stub.parameterDocs, ValidName doc.name) :
    Draws (stub.docstringText docLink)
      (stub.description :: (stub.parameterDocs.map (·.type) ++ [stub.result, docLink])) := by
  have indent : Draws "    " [] := .basic (by decide)
  have quotes : Draws "\"\"\"" [] := .basic (by decide)
  have feed : Draws "\n" [] := .basic (by decide)
  have description : Draws ("\n    " ++ docstring stub.description) _ :=
    .append (.basic (by decide)) (.docstring _)
  have parameters : Draws parametersTitle [] := .basic (by decide +kernel)
  have defaults : BasicText defaultsAndReturns := by
    unfold defaultsAndReturns
    simp only [basicText_append_iff]
    decide +kernel
  have errors : BasicText errorsAndReference := by
    unfold errorsAndReference
    simp only [basicText_append_iff]
    decide +kernel
  have result : Draws (defaultsAndReturns ++ docstring stub.result) _ :=
    .append (.basic defaults) (.docstring _)
  have reference : Draws (errorsAndReference ++ docstring docLink) _ :=
    .append (.basic errors) (.docstring _)
  have closing : Draws ("\n   " ++ String.singleton ' ') [] := .basic (by decide)
  have documented := ((description.append parameters).append (draws_parameterLines valid)).append
    (result.append reference)
  have whole := (indent.append quotes).append <|
    (documented.append closing).append (quotes.append feed)
  rw [docstringText_eq]
  unfold docstringBody
  simp only [String.append_assoc] at whole ⊢
  exact whole.congr (by simp)

theorem draws_positional {stub : Stub} (valid : ∀ name ∈ stub.parameters, ValidName name) :
    Draws stub.positional [] :=
  .intercalate (by decide) valid

theorem draws_signatureText {stub : Stub} (function : ValidName stub.functionName)
    (valid : ∀ name ∈ stub.parameters, ValidName name) : Draws stub.signatureText [] := by
  have named : Draws ("def " ++ stub.functionName ++ "(") [] :=
    .append (.append (.basic (by decide)) (.ofValidName function)) (.basic (by decide))
  have leading : Draws stub.leading [] := by
    unfold leading
    split
    next => exact .basic (by decide)
    next => exact (draws_positional valid).append (.basic (by decide))
  have defaults : Draws (endpointArgument ++ "=" ++ defaultEndpoint ++ ", " ++ timeoutArgument ++ "="
      ++ defaultTimeout ++ "):\n") [] := .basic (by decide +kernel)
  have whole := (named.append leading).append defaults
  unfold signatureText
  simp only [String.append_assoc] at whole ⊢
  exact whole

theorem draws_bodyText {stub : Stub} (valid : ∀ name ∈ stub.parameters, ValidName name) :
    Draws stub.bodyText [stub.method] := by
  have method : Draws ("    _method = " ++ literal stub.method) [stub.method] :=
    .append (.basic (by decide)) (.literal _)
  have list : Draws ("\n" ++ "    _params = [" ++ stub.positional) [] :=
    .append (.basic (by decide)) (draws_positional valid)
  have request : BasicText ("]\n" ++ "    _reply = " ++ transportFunction ++ "(_method, params=_params, "
      ++ endpointArgument ++ "=" ++ endpointArgument ++ ", "
      ++ timeoutArgument ++ "=" ++ timeoutArgument ++ ")\n"
      ++ "    try:\n"
      ++ "        return _reply[\"result\"]\n"
      ++ "    except KeyError as _err:\n"
      ++ "        raise " ++ invalidReplyError ++ "(_method, " ++ endpointArgument
      ++ ") from _err\n") := by
    simp only [basicText_append_iff]
    decide +kernel
  have whole := (method.append list).append (.basic request)
  unfold bodyText
  simp only [String.append_assoc] at whole ⊢
  exact whole

theorem draws_text (docLink : String) {stub : Stub} (wellNamed : stub.heading.WellNamed)
    (documented : stub.parameterDocs.map (·.name) = stub.parameters) :
    Draws (stub.text docLink) (stub.description ::
      (stub.parameterDocs.map (·.type) ++ [stub.result, docLink, stub.method])) := by
  have valid : ∀ name ∈ stub.parameters, ValidName name := fun name member =>
    (wellNamed.parameters name member).valid
  have validDocs : ∀ doc ∈ stub.parameterDocs, ValidName doc.name := fun doc member =>
    valid doc.name (documented ▸ List.mem_map_of_mem member)
  have feeds : Draws "\n\n" [] := .basic (by decide)
  have whole := ((feeds.append (draws_signatureText wellNamed.function.valid valid)).append
    (draws_docstringText docLink validDocs)).append (draws_bodyText valid)
  exact whole.congr (by simp)

end Stub

/-- The texts of a method that nothing is asked of. -/
def Schema.Method.freeTexts (method : Method) : List String :=
  method.name :: method.description.toList ++ (method.params.getD []).map (·.typeText)
    ++ (method.result.map (·.name)).toList

theorem Schema.Method.draws_functionText {snakeCase : Bool} (docLink : String) {method : Method}
    (complete : method.Complete) (wellNamed : (method.heading snakeCase).WellNamed) :
    Draws (method.functionText snakeCase docLink) (docLink :: method.freeTexts) := by
  obtain ⟨stub, built⟩ := Stub.exists_ofMethod snakeCase complete
  have heading := (Stub.heading_of_ofMethod built).1
  have wellNamed : stub.heading.WellNamed := heading ▸ wellNamed
  have draws := Stub.draws_text docLink wellNamed (Stub.documented_of_ofMethod built)
  have name : stub.method = method.name := congrArg Heading.method heading
  have description : Draws stub.description method.description.toList :=
    Naming.description_of_ofMethod built ▸ Stub.draws_descriptionOf wellNamed.function.valid _
  have types : stub.parameterDocs.map (·.type) = (method.params.getD []).map (·.typeText) := by
    rw [Stub.parameterDocs_of_ofMethod built, List.map_map]
    rfl
  have result : method.result.map (·.name) = some stub.result :=
    congrArg (Option.map _) (Stub.result_of_ofMethod built)
  rw [functionText, built]
  -- the same texts, in another order
  refine (draws.through description).congr fun source => ?_
  rw [name, types, freeTexts, result]
  simp only [List.mem_append, List.mem_cons, Option.toList_some]
  tauto

/-! ## Modules -/

theorem Settings.draws_preamble {settings : Settings} (transport : ModulePath settings.transportModule)
    (exceptions : ModulePath settings.exceptionsModule) :
    Draws settings.preamble [settings.endpoint] := by
  have sender : Draws ("# This code was automatically generated by rpcgen. Do not edit manually.\n"
      ++ "\n" ++ "from " ++ settings.transportModule) [] :=
    .append (.basic (by decide +kernel)) (.ofModulePath transport)
  have errors : Draws (" import " ++ transportFunction ++ "\n" ++ "from " ++ settings.exceptionsModule)
      [] :=
    .append (.basic (by decide)) (.ofModulePath exceptions)
  have endpoint : Draws (" import (\n" ++ "    " ++ timeoutError ++ ",\n" ++ "    "
      ++ invalidReplyError ++ ",\n" ++ ")\n" ++ "\n" ++ defaultEndpoint ++ " = "
      ++ literal settings.endpoint) [settings.endpoint] :=
    .append (.basic (by decide +kernel)) (.literal _)
  have timeout : Draws ("\n" ++ defaultTimeout ++ " = " ++ toString settings.timeout.toNat ++ "\n") [] :=
    .append (.append (.basic (by decide)) (.ofNat _)) (.basic (by decide))
  have whole := ((sender.append errors).append endpoint).append timeout
  unfold preamble
  simp only [String.append_assoc] at whole ⊢
  exact whole

namespace Module

variable {settings : Settings} {document : Schema.Document} {text : String}

/-- All texts that go into a module without a check. -/
def freeTexts (settings : Settings) (document : Schema.Document) : List String :=
  settings.endpoint :: document.methods.flatMap fun method => settings.docLink :: method.freeTexts

theorem draws_generated (generated : generate settings document = .ok text) :
    Draws text (freeTexts settings document) := by
  obtain ⟨accepted, rfl⟩ := generate_eq_ok_iff_accepted.1 generated
  have preamble := Settings.draws_preamble accepted.transport accepted.exceptions
  refine preamble.append (.join fun method member => ?_)
  exact method.draws_functionText settings.docLink (accepted.complete method member)
    (wellNamed_of_generate generated member)

/-- Nothing keeps NUL from a module but the free texts themselves: one NUL anywhere in them, and the
module is no source text. -/
theorem nul_mem_generated_iff (generated : generate settings document = .ok text) :
    '\x00' ∈ text.toList ↔ ∃ free ∈ freeTexts settings document, '\x00' ∈ free.toList :=
  draws_generated generated '\x00' isForeign_nul

/-- A method whose texts have other control characters, and backslashes where these are written as
escapes. -/
def controlling : Schema.Method where
  name := "sui\x01_getItem"
  description := some "\x1b[1m\\x00\x1b[0m"
  params := some [.typed "item" "\x08"]
  result := some ⟨"R\x7f"⟩

theorem nul_mem_generated_iff_controlling :
    ∃ text, generate .default ⟨[controlling]⟩ = .ok text ∧ '\x00' ∉ text.toList := by
  obtain ⟨text, generated⟩ : ∃ text, generate .default ⟨[controlling]⟩ = .ok text :=
    exists_ok_of_isSome (by decide +kernel)
  have free : ¬ ∃ free ∈ freeTexts .default ⟨[controlling]⟩, '\x00' ∈ free.toList := by decide +kernel
  exact ⟨text, generated, mt (nul_mem_generated_iff generated).1 free⟩

/-- Only the last segment of a method's name is checked, and the name is written down whole. -/
theorem nul_in_namespace :
    ∃ text, generate .default ⟨[.complete "sui\x00_getItem" [] "R"]⟩ = .ok text ∧
      '\x00' ∈ text.toList := by
  obtain ⟨text, generated⟩ : ∃ text,
      generate .default ⟨[.complete "sui\x00_getItem" [] "R"]⟩ = .ok text :=
    exists_ok_of_isSome (by decide +kernel)
  have among : "sui\x00_getItem" ∈ freeTexts .default ⟨[.complete "sui\x00_getItem" [] "R"]⟩ := by
    decide +kernel
  exact ⟨text, generated,
    (draws_generated generated '\x00' isForeign_nul).2 ⟨_, among, by decide +kernel⟩⟩

end Module

end RpcStubs
