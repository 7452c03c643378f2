import RpcStubs.Proofs.Generated
import RpcStubs.Proofs.Python.Reading

/-! # The strings of a generated module

Read as code and strings, a generated module is what its headings say and nothing else: the default
endpoint, then for each function a docstring, the name of its method and the key of the result, with
code between them that depends on no free text.

The descriptions, the types, the results and the reference in the settings are all in docstrings,
and what carries the proof there is that a docstring is sealed from its opening to its closing quotes
(`Stub.exists_sealed_docstring`).
-/

namespace RpcStubs

open Python Identifier PythonText

/-! ## What a module reads as -/

/-- The imports of a module, and the beginning of its first default. -/
def Settings.imports (settings : Settings) : String :=
  "\n" ++ "from " ++ settings.transportModule ++ " import rpc_request\n"
    ++ "from " ++ settings.exceptionsModule
    ++ " import (\n    TxConfirmationTimedoutError,\n    InvalidReplyError,\n)\n"
    ++ "\n" ++ "_default_endpoint = "

def Settings.readings (settings : Settings) : List Reading :=
  asCode "\n" ++ asCode settings.imports ++ .literal (some settings.endpoint) :: asCode "\n"
    ++ asCode ("_default_timeout = " ++ toString settings.timeout.toNat ++ "\n")

/-- The line that begins a function, after two empty lines. -/
def Heading.opening (heading : Heading) : String :=
  "\n\n" ++ "def " ++ heading.functionName ++ "("
    ++ String.join (heading.parameters.map (· ++ ", "))
    ++ "endpoint=_default_endpoint, timeout=_default_timeout):\n"

/-- The code of a function between the name of its method and the key of the result. -/
def Heading.request (heading : Heading) : String :=
  "    _params = [" ++ String.intercalate ", " heading.parameters ++ "]\n"
    ++ "    _reply = rpc_request(_method, params=_params, endpoint=endpoint, timeout=timeout)\n"
    ++ "    try:\n" ++ "        return _reply["

def Heading.handler : String :=
  "\n" ++ "    except KeyError as _err:\n"
    ++ "        raise InvalidReplyError(_method, endpoint) from _err\n"

def Heading.readings (heading : Heading) : List Reading :=
  asCode heading.opening
    ++ (asCode "    " ++ .docstring :: asCode "\n")
    ++ (asCode "    _method = " ++ .literal (some heading.method) :: asCode "\n")
    ++ (asCode heading.request ++ .literal (some "result") :: asCode "]")
    ++ asCode handler

/-! ## The preamble -/

theorem Settings.plain_imports {settings : Settings} (transport : ModulePath settings.transportModule)
    (exceptions : ModulePath settings.exceptionsModule) : Plain settings.imports := by
  have first : Plain ("\n" ++ "from " ++ settings.transportModule) :=
    .append (by decide) (.ofModulePath transport)
  have second : Plain ("\n" ++ "from " ++ settings.transportModule ++ " import rpc_request\n"
      ++ "from " ++ settings.exceptionsModule) :=
    ((first.append (by decide)).append (by decide)).append (.ofModulePath exceptions)
  exact ((second.append (by decide)).append (by decide)).append (by decide)

/-- The preamble reads as imports and defaults around the default endpoint. -/
theorem Settings.reads_preamble {settings : Settings}
    (transport : ModulePath settings.transportModule)
    (exceptions : ModulePath settings.exceptionsModule) :
    Reads settings.preamble settings.readings := by
  have notice : Reads ("#" ++ " This code was automatically generated by rpcgen. Do not edit manually."
      ++ "\n") (asCode "\n") := by
    apply Reads.comment
    decide
  have default : Plain ("_default_timeout = " ++ toString settings.timeout.toNat ++ "\n") :=
    (Plain.append (by decide) (.ofNat _)).append (by decide)
  have whole := ((notice.append (.code (plain_imports transport exceptions))).append
    (.literal settings.endpoint)).append (.code default)
  have importing : " import rpc_request\n" = " import " ++ (transportFunction ++ "\n") := by
    simp [transportFunction]
  have errors : " import (\n    TxConfirmationTimedoutError,\n    InvalidReplyError,\n)\n" =
      " import (\n" ++ ("    " ++ (timeoutError ++ (",\n" ++ ("    " ++ (invalidReplyError ++
        (",\n" ++ ")\n")))))) := by
    simp [timeoutError, invalidReplyError]
  have endpoint : "_default_endpoint = " = defaultEndpoint ++ " = " := by simp [defaultEndpoint]
  have timeout : "_default_timeout = " = defaultTimeout ++ " = " := by simp [defaultTimeout]
  have title : "# This code was automatically generated by rpcgen. Do not edit manually.\n" =
      "#" ++ (" This code was automatically generated by rpcgen. Do not edit manually." ++ "\n") := by
    simp
  unfold preamble readings
  simp only [imports, title, importing, errors, endpoint, timeout, String.append_assoc] at whole ⊢
  exact whole

/-! ## Docstrings -/

namespace Stub

theorem sealed_parameterLine {doc : ParameterDoc} (valid : ValidName doc.name) {rest : List Char}
    (behind : Sealed 0 rest) : Sealed 0 ((parameterLine doc).toList ++ rest) := by
  have name : Harmless doc.name.toList := by
    intro c member
    constructor <;> rintro rfl
    · exact valid.not_mem (by decide) member
    · exact valid.not_mem (by decide) member
  unfold parameterLine
  by_cases untyped : doc.type = ""
  · rw [if_pos untyped]
    simp only [String.toList_append, List.append_assoc]
    refine .plain_append (by decide) (by decide) ?_
    refine .plain_append valid.toList_ne_nil name ?_
    exact .plain_append (by decide) (by decide) behind
  · rw [if_neg untyped]
    simp only [String.toList_append, List.append_assoc, docstring, String.toList_ofList]
    refine .plain_append (by decide) (by decide) ?_
    refine .plain_append valid.toList_ne_nil name ?_
    refine .plain_append (by decide) (by decide) ?_
    refine (sealed_docstringChars _).append fun _ => ?_
    exact .plain_append (by decide) (by decide) behind

theorem sealed_parameterLines {docs : List ParameterDoc} (valid : ∀ doc ∈ docs, ValidName doc.name)
    {rest : List Char} (behind : Sealed 0 rest) :
    Sealed 0 ((String.join (docs.map parameterLine)).toList ++ rest) := by
  induction docs with
  | nil => simpa using behind
  | cons doc others inductionHypothesis =>
    rw [List.map_cons, String.join_cons, String.toList_append, List.append_assoc]
    exact sealed_parameterLine (valid doc (by simp))
      (inductionHypothesis fun other member => valid other (List.mem_cons_of_mem _ member))

def parametersTitle : String :=
  "\n" ++ "\n" ++ "    Parameters\n" ++ "    ----------\n"

/-- The part of a docstring between the parameters and the result. -/
def defaultsAndReturns : String :=
  "    " ++ endpointArgument ++ ": :obj:`str`, optional\n"
    ++ "        Endpoint to send request to\n"
    ++ "    " ++ timeoutArgument ++ ": :obj:`int`, optional\n"
    ++ "        Timeout in seconds\n"
    ++ "\n" ++ "    Returns\n" ++ "    -------\n" ++ "    "

/-- The part of a docstring between the result and the reference. -/
def errorsAndReference : String :=
  "\n" ++ "\n" ++ "    Raises\n" ++ "    ------\n"
    ++ "    " ++ invalidReplyError ++ "\n"
    ++ "        If received unknown result from endpoint\n"
    ++ "\n" ++ "    API Reference\n" ++ "    -------------\n" ++ "    "

/-- What stands between the quotes of a docstring, but for the blank before the closing ones. -/
def docstringBody (docLink : String) (stub : Stub) : String :=
  "\n    " ++ docstring stub.description ++ parametersTitle
    ++ String.join (stub.parameterDocs.map parameterLine) ++ defaultsAndReturns
    ++ docstring stub.result ++ errorsAndReference ++ docstring docLink ++ "\n   "

theorem docstringText_eq (docLink : String) (stub : Stub) :
    stub.docstringText docLink =
      "    " ++ ("\"\"\"" ++ (stub.docstringBody docLink ++ String.singleton ' ') ++ "\"\"\"")
        ++ "\n" := by
  have quotes : "    \"\"\"\n" = "    " ++ ("\"\"\"" ++ "\n") := rfl
  have first : "\n    " = "\n" ++ "    " := rfl
  have last : "\n   " = "\n" ++ "   " := rfl
  have blanks : ∀ rest, "   " ++ (String.singleton ' ' ++ rest) = "    " ++ rest := by
    intro rest
    have four : "   " ++ String.singleton ' ' = "    " := rfl
    rw [← String.append_assoc, four]
  unfold docstringText docstringBody parametersTitle defaultsAndReturns errorsAndReference
  simp only [quotes, first, last, blanks, String.append_assoc]

/-- A docstring is sealed between its quotes, whatever it documents. -/
theorem sealed_docstringBody (docLink : String) {stub : Stub}
    (valid : ∀ doc ∈ stub.parameterDocs, ValidName doc.name) :
    Sealed 0 (stub.docstringBody docLink).toList := by
  simp only [docstringBody, String.toList_append, List.append_assoc]
  refine .plain_append (by decide) (by decide +kernel) (.docstring_append _ fun _ => ?_)
  refine .plain_append (by decide) (by decide +kernel) (sealed_parameterLines valid ?_)
  refine .plain_append (by decide +kernel) (by decide +kernel) (.docstring_append _ fun _ => ?_)
  refine .plain_append (by decide +kernel) (by decide +kernel) (.docstring_append _ fun _ => ?_)
  rw [← List.append_nil "\n   ".toList]
  exact .plain_append (by decide) (by decide +kernel) .nil

theorem reads_docstringText (docLink : String) {stub : Stub}
    (valid : ∀ doc ∈ stub.parameterDocs, ValidName doc.name) :
    Reads (stub.docstringText docLink) (asCode "    " ++ .docstring :: asCode "\n") := by
  have quoted := Reads.docstring (sealed_docstringBody docLink valid) (c := ' ') (by decide)
  rw [docstringText_eq]
  exact ((Reads.code (by decide)).append quoted).append (.code (by decide))

/-! ## Functions -/

theorem intercalate_append {separator : String} {names : List String} (nonempty : names ≠ []) :
    String.intercalate separator names ++ separator =
      String.join (names.map (· ++ separator)) := by
  induction names with
  | nil => exact absurd rfl nonempty
  | cons name others inductionHypothesis =>
    by_cases last : others = []
    · simp [last]
    · rw [String.intercalate_cons_of_ne_nil last, String.append_assoc, inductionHypothesis last,
        List.map_cons, String.join_cons]

/-- In front of the others stand the parameters, each with a comma behind it. -/
theorem leading_eq {stub : Stub} (valid : ∀ name ∈ stub.parameters, ValidName name) :
    stub.leading = String.join (stub.parameters.map (· ++ ", ")) := by
  unfold leading positional
  by_cases none : stub.parameters = []
  · simp [none]
  · have named : String.intercalate ", " stub.parameters ≠ "" := by
      obtain ⟨name, others, parameters⟩ := List.exists_cons_of_ne_nil none
      have letters := (valid name (by simp [parameters])).toList_ne_nil
      rw [parameters]
      cases others <;> simp_all
    rw [if_neg named, intercalate_append none]

theorem reads_signature {stub : Stub} (wellNamed : stub.heading.WellNamed) :
    Reads ("\n\n" ++ stub.signatureText) (asCode stub.heading.opening) := by
  have valid : ∀ name ∈ stub.parameters, ValidName name := fun name member =>
    (wellNamed.parameters name member).valid
  have named : Plain ("\n\n" ++ "def " ++ stub.functionName ++ "(") :=
    (Plain.append (by decide) (.ofValidName wellNamed.function.valid)).append (by decide)
  have commas : Plain (String.join (stub.parameters.map (· ++ ", "))) := by
    refine .join fun text member => ?_
    obtain ⟨name, among, rfl⟩ := List.mem_map.1 member
    exact (Plain.ofValidName (valid name among)).append (by decide)
  have plain : Plain stub.heading.opening := (named.append commas).append (by decide)
  have defaults : "endpoint=_default_endpoint, timeout=_default_timeout):\n" =
      endpointArgument ++ ("=" ++ (defaultEndpoint ++ (", " ++ (timeoutArgument ++ ("=" ++
        (defaultTimeout ++ "):\n")))))) := by
    simp [endpointArgument, defaultEndpoint, timeoutArgument, defaultTimeout]
  have same : "\n\n" ++ stub.signatureText = stub.heading.opening := by
    unfold signatureText Heading.opening
    simp only [leading_eq valid, defaults, heading_functionName, heading_parameters,
      String.append_assoc]
  rw [same]
  exact .code plain

theorem reads_bodyText {stub : Stub} (wellNamed : stub.heading.WellNamed) :
    Reads stub.bodyText ((asCode "    _method = " ++ .literal (some stub.method) :: asCode "\n")
      ++ (asCode stub.heading.request ++ .literal (some "result") :: asCode "]")
      ++ asCode Heading.handler) := by
  have names : Plain (String.intercalate ", " stub.parameters) :=
    .intercalate (by decide) fun name member => .ofValidName (wellNamed.parameters name member).valid
  have list : Plain ("    _params = [" ++ String.intercalate ", " stub.parameters ++ "]\n") :=
    (Plain.append (by decide) names).append (by decide)
  have request : Plain stub.heading.request :=
    ((list.append (by decide)).append (by decide)).append (by decide)
  have assignment : Reads ("    _method = " ++ (literal stub.method ++ "\n"))
      (asCode "    _method = " ++ .literal (some stub.method) :: asCode "\n") :=
    (Reads.code (by decide)).append (.literal stub.method)
  have key : Reads "\"result\"]" (.literal (some "result") :: asCode "]") :=
    ⟨[.string .line "result".toList, .code ']'], by decide, by decide⟩
  have handler : Plain Heading.handler := by decide
  have whole := (assignment.append ((Reads.code request).append key)).append (.code handler)
  -- the names in the template are constants of the generator; here they are put back in their places
  have call : "    _reply = rpc_request(_method, params=_params, endpoint=endpoint, timeout=timeout)\n" =
      "    _reply = " ++ (transportFunction ++ ("(_method, params=_params, " ++ (endpointArgument ++
        ("=" ++ (endpointArgument ++ (", " ++ (timeoutArgument ++ ("=" ++ (timeoutArgument ++
          ")\n"))))))))) := by
    simp [transportFunction, endpointArgument, timeoutArgument]
  have result : "        return _reply[\"result\"]\n" =
      "        return _reply[" ++ ("\"result\"]" ++ "\n") := by simp
  have error : "        raise InvalidReplyError(_method, endpoint) from _err\n" =
      "        raise " ++ (invalidReplyError ++ ("(_method, " ++ (endpointArgument ++
        ") from _err\n"))) := by
    simp [invalidReplyError, endpointArgument]
  unfold bodyText positional
  unfold Heading.request Heading.handler at whole ⊢
  simp only [heading_parameters, call, result, error, String.append_assoc] at whole ⊢
  exact whole

theorem reads_text (docLink : String) {stub : Stub} (wellNamed : stub.heading.WellNamed)
    (documented : stub.parameterDocs.map (·.name) = stub.parameters) :
    Reads (stub.text docLink) stub.heading.readings := by
  have valid : ∀ doc ∈ stub.parameterDocs, ValidName doc.name := by
    intro doc member
    have parameter : doc.name ∈ stub.parameters := documented ▸ List.mem_map_of_mem member
    exact (wellNamed.parameters doc.name parameter).valid
  have whole := ((reads_signature wellNamed).append
    (reads_docstringText docLink valid)).append (reads_bodyText wellNamed)
  unfold text Heading.readings
  simp only [List.append_assoc] at whole ⊢
  exact whole

end Stub

/-! ## Modules -/

def Module.readings (settings : Settings) (document : Schema.Document) : List Reading :=
  settings.readings ++
    document.methods.flatMap fun method => (method.heading settings.snakeCase).readings

/-- A generated module reads as what the settings and the headings of its methods say. -/
theorem Module.reads_of_generate {settings : Settings} {document : Schema.Document} {text : String}
    (generated : generate settings document = .ok text) :
    Reads text (readings settings document) := by
  obtain ⟨transport, exceptions, accepted, stubs, headings, documented, rfl⟩ :=
    stubs_of_generate generated
  have functions : Reads (String.join (stubs.map (Stub.text settings.docLink)))
      (stubs.flatMap fun stub => stub.heading.readings) := by
    refine .join fun stub member => Stub.reads_text _ ?_ (documented stub member)
    apply accepted.wellNamed
    rw [← headings]
    exact List.mem_map_of_mem member
  have same : (stubs.flatMap fun stub => stub.heading.readings) =
      document.methods.flatMap fun method => (method.heading settings.snakeCase).readings := by
    rw [← List.flatMap_map Stub.heading Heading.readings, headings, List.flatMap_map]
  unfold readings
  rw [← same]
  exact (Settings.reads_preamble transport exceptions).append functions

/-! ## The strings of a module -/

theorem Settings.filter_readings (settings : Settings) :
    settings.readings.filter Reading.isString = [.literal (some settings.endpoint)] := by
  simp [readings, List.filter_cons, Reading.isString]

theorem Heading.filter_readings (heading : Heading) :
    heading.readings.filter Reading.isString =
      [.docstring, .literal (some heading.method), .literal (some "result")] := by
  simp [readings, List.filter_cons, Reading.isString]

/-- No free text escapes its string: a generated module is scanned to its end in code.  The strings on
the way are the default endpoint and, for each method, a docstring, its name and the key of the result;
the code between them is that of the settings and the headings. -/
theorem Module.scans_generated {settings : Settings} {document : Schema.Document} {text : String}
    (generated : generate settings document = .ok text) :
    ∃ symbols, Scans .code text.toList symbols .code ∧
      symbols.map Symbol.reading = readings settings document ∧
      (symbols.map Symbol.reading).filter Reading.isString =
        .literal (some settings.endpoint) :: document.methods.flatMap fun method =>
          [.docstring, .literal (some method.name), .literal (some "result")] := by
  obtain ⟨symbols, scans, same⟩ := reads_of_generate generated
  refine ⟨symbols, scans, same, ?_⟩
  rw [same, readings, List.filter_append, Settings.filter_readings, List.filter_flatMap]
  simp only [Heading.filter_readings]
  rfl

/-- A document whose texts do what they can to get out of their strings: quotes in rows of four and
five, over a line end, before and after backslashes, and a backslash or a quote at the end. -/
def Schema.Document.hostile : Schema.Document where
  methods :=
    [{ name := "sui\"\\\n\"\"\"_getItem"
       description := some "\"\"\"\"\" # \\\"\"\"\" \"\n\"\"\\"
       params := some [⟨"item", some ⟨some (.single "\"\"\"`\"")⟩⟩, .untyped "limit"]
       result := some ⟨"\\\"\"\"\""⟩ },
     { name := "sui_ping", description := none, params := some [], result := some ⟨"\""⟩ }]

theorem Module.generate_hostile : ∃ text, generate .default .hostile = .ok text :=
  exists_ok_of_isSome (by decide +kernel)

theorem Module.scans_hostile :
    ∃ text, generate .default .hostile = .ok text ∧
      ∃ symbols, Scans .code text.toList symbols .code ∧
        symbols.map Symbol.reading = readings .default .hostile ∧
        (symbols.map Symbol.reading).filter Reading.isString =
          [.literal (some "http://localhost:9000"),
            .docstring, .literal (some "sui\"\\\n\"\"\"_getItem"), .literal (some "result"),
            .docstring, .literal (some "sui_ping"), .literal (some "result")] := by
  obtain ⟨text, generated⟩ := generate_hostile
  exact ⟨text, generated, scans_generated generated⟩

end RpcStubs
