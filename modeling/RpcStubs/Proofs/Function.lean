import RpcStubs.Proofs.Scope

/-! # Calling a generated function

A generated function is called with as many arguments as it has parameters, and with an endpoint and a
timeout in their places, by keyword, or not at all.  Its names are then bound to what the caller means
(`Heading.bindParameters_eq`), and none of the names that its body assigns is among its parameters, so
each of them is still bound to its argument where the list of them is built.

`Heading.execBody_eq` runs the body up to its `try` statement: one call to the transport, and then what
becomes of its reply.  `Module.run_eq` says the same of a call from outside.
-/

namespace RpcStubs

open Python Identifier

variable {α : Type} {settings : Settings} {headings : List Heading} {heading : Heading}

/-! ## Arguments -/

/-- A keyword with its value, if one is given. -/
def keyword (name : String) (value : Option (Value α)) : List (String × Value α) :=
  (value.map fun value => (name, value)).toList

/-- How an endpoint and a timeout may be given: by the arguments behind those for the parameters, and
by the keywords. -/
inductive Given : Option (Value α) → Option (Value α) → List (Value α) → List (String × Value α) → Prop
  where
  | inPlace (endpoint timeout : Value α) : Given (some endpoint) (some timeout) [endpoint, timeout] []
  | endpointInPlace (endpoint : Value α) (timeout : Option (Value α)) :
      Given (some endpoint) timeout [endpoint] (keyword "timeout" timeout)
  | keywords (endpoint timeout : Option (Value α)) :
      Given endpoint timeout [] (keyword "endpoint" endpoint ++ keyword "timeout" timeout)
  | swapped (endpoint timeout : Option (Value α)) :
      Given endpoint timeout [] (keyword "timeout" timeout ++ keyword "endpoint" endpoint)

namespace Heading

/-- What the parameters of a function are bound to, the newest first. -/
def frame (heading : Heading) (arguments : List (Value α)) (endpoint timeout : Value α) : Frame α :=
  ("timeout", timeout) :: ("endpoint", endpoint) :: (heading.parameters.zip arguments).reverse

theorem bindParameters_parameters {keywords : List (String × Value α)} {names : List String}
    {arguments : List (Value α)} (length : arguments.length = names.length)
    (unnamed : ∀ name ∈ names, keywords.lookup name = none) (frame : Frame α)
    (others : List (String × Option (Value α))) (more : List (Value α)) :
    bindParameters keywords frame (names.map (fun name => (name, none)) ++ others)
        (arguments ++ more) =
      bindParameters keywords ((names.zip arguments).reverse ++ frame) others more := by
  induction names generalizing arguments frame with
  | nil =>
    rw [List.length_nil, List.length_eq_zero_iff] at length
    rw [length]
    rfl
  | cons name names inductionHypothesis =>
    cases arguments with
    | nil => simp at length
    | cons argument arguments =>
      have here := unnamed name (by simp)
      have rest := inductionHypothesis (by simpa using length)
        (fun other member => unnamed other (List.mem_cons_of_mem _ member)) ((name, argument) :: frame)
      rw [List.map_cons, List.cons_append, List.cons_append, bindParameters, here]
      simpa using rest

theorem ParameterName.ne_of_mem {name own : String} (parameter : ParameterName name)
    (member : own ∈ functionNames) : name ≠ own := by
  rintro rfl
  exact parameter.notLocal member

theorem lookup_keywords {endpoint timeout : Option (Value α)} {more : List (Value α)}
    {keywords : List (String × Value α)} (given : Given endpoint timeout more keywords) {name : String}
    (parameter : ParameterName name) : keywords.lookup name = none := by
  have noEndpoint : name ≠ "endpoint" := parameter.ne_of_mem (by decide)
  have noTimeout : name ≠ "timeout" := parameter.ne_of_mem (by decide)
  rw [List.lookup_eq_none_iff]
  cases given with
  | inPlace => simp
  | endpointInPlace _ timeout => cases timeout <;> simp [keyword, noTimeout]
  | keywords endpoint timeout =>
    cases endpoint <;> cases timeout <;> simp [keyword, noEndpoint, noTimeout]
  | swapped endpoint timeout =>
    cases endpoint <;> cases timeout <;> simp [keyword, noEndpoint, noTimeout]

theorem keywordsFit {endpoint timeout : Option (Value α)} {more : List (Value α)}
    {keywords : List (String × Value α)} (given : Given endpoint timeout more keywords) :
    KeywordsFit (heading.defaults settings) keywords := by
  cases given with
  | inPlace => simp [KeywordsFit]
  | endpointInPlace _ timeout => cases timeout <;> simp [KeywordsFit, keyword, defaults]
  | keywords endpoint timeout =>
    cases endpoint <;> cases timeout <;> simp [KeywordsFit, keyword, defaults]
  | swapped endpoint timeout =>
    cases endpoint <;> cases timeout <;> simp [KeywordsFit, keyword, defaults]

/-- However the endpoint and the timeout are given, the names of a function are bound as meant. -/
theorem bindParameters_eq (wellNamed : heading.WellNamed) {arguments more : List (Value α)}
    (length : arguments.length = heading.parameters.length) {endpoint timeout : Option (Value α)}
    {keywords : List (String × Value α)} (given : Given endpoint timeout more keywords) :
    bindParameters keywords [] (heading.defaults settings) (arguments ++ more) =
      some (heading.frame arguments (endpoint.getD (.text settings.endpoint))
        (timeout.getD (.number settings.timeout.toNat))) := by
  -- no parameter is called `endpoint` or `timeout`, so the keywords leave the parameters alone
  have unnamed : ∀ name ∈ heading.parameters, keywords.lookup name = none := fun name member =>
    lookup_keywords given (wellNamed.parameters name member)
  unfold defaults
  rw [bindParameters_parameters length unnamed, List.append_nil]
  cases given with
  | inPlace => simp [bindParameters, frame]
  | endpointInPlace _ timeout =>
    cases timeout <;> simp [bindParameters, keyword, frame, List.lookup_cons]
  | keywords endpoint timeout =>
    cases endpoint <;> cases timeout <;> simp [bindParameters, keyword, frame, List.lookup_cons]
  | swapped endpoint timeout =>
    cases endpoint <;> cases timeout <;> simp [bindParameters, keyword, frame, List.lookup_cons]

/-! ## Names in the body -/

/-- The names that are a function's own. -/
def ownNames (heading : Heading) : List String :=
  heading.parameters ++ ["endpoint", "timeout", "_method", "_params", "_reply", "_err"]

theorem localNames_eq :
    localNames (heading.defaults settings : List (String × Option (Value α))) heading.body =
      heading.ownNames := by
  simp [localNames, defaults, body, translation, ownNames, Statement.targets, Simple.targets,
    Function.comp_def]

/-- A name that the preamble binds is none of a function's own. -/
theorem not_mem_ownNames (wellNamed : heading.WellNamed) {name : String}
    (imported : name ∈ importedNames) : name ∉ heading.ownNames := by
  intro own
  rcases List.mem_append.1 own with parameter | assigned
  · exact (wellNamed.parameters name parameter).notImported imported
  · have apart : ∀ name ∈ importedNames,
        name ∉ ["endpoint", "timeout", "_method", "_params", "_reply", "_err"] := by decide
    exact apart name imported assigned

theorem resolve_assigned {name : String} {value : Value α} {frame : Frame α}
    (own : name ∈ ["endpoint", "timeout", "_method", "_params", "_reply", "_err"])
    (bound : frame.lookup name = some value) (globals : Frame α) :
    Scope.resolve ⟨globals, heading.ownNames, frame⟩ name = pure value :=
  Scope.resolve_local (List.mem_append_right _ own) bound

/-- Among the arguments each parameter is bound to its own. -/
theorem lookup_zip {names : List String} (distinct : names.Nodup) {arguments : List (Value α)}
    (length : arguments.length = names.length) :
    List.Forall₂ (fun name argument =>
      name ∈ names ∧ (names.zip arguments).reverse.lookup name = some argument) names arguments := by
  induction names generalizing arguments with
  | nil =>
    rw [List.length_nil, List.length_eq_zero_iff] at length
    rw [length]
    exact .nil
  | cons name names inductionHypothesis =>
    cases arguments with
    | nil => simp at length
    | cons argument arguments =>
      rw [List.nodup_cons] at distinct
      have rest := inductionHypothesis distinct.2 (by simpa using length)
      -- later parameters are newer, and would hide this one if they had its name
      have absent : ((names.zip arguments).reverse).lookup name = none := by
        rw [List.lookup_eq_none_iff]
        rintro ⟨other, value⟩ member
        rw [List.mem_reverse] at member
        have among := (List.of_mem_zip member).1
        have different : name ≠ other := fun same => distinct.1 (same ▸ among)
        simpa using different
      refine .cons ⟨by simp, ?_⟩ (rest.imp fun other value found => ⟨by simp [found], ?_⟩)
      · simp [List.lookup_append, absent]
      · simp [List.lookup_append, found]

/-! ## The body -/

def wireCall (settings : Settings) (heading : Heading) (arguments : List (Value α))
    (endpoint timeout : Value α) : Call α :=
  ⟨settings.transportModule, "rpc_request", [.text heading.method],
    [("params", .list arguments), ("endpoint", endpoint), ("timeout", timeout)]⟩

/-- What the names of a function are bound to before it makes its call, the newest first. -/
def prepared (heading : Heading) (arguments : List (Value α)) (endpoint timeout : Value α) : Frame α :=
  ("_params", .list arguments) :: ("_method", .text heading.method)
    :: heading.frame arguments endpoint timeout

/-- Each parameter is still bound to its argument when the list of them is built. -/
theorem evalAtoms_parameters (wellNamed : heading.WellNamed) {arguments : List (Value α)}
    (length : arguments.length = heading.parameters.length) (globals : Frame α)
    (endpoint timeout : Value α) :
    evalAtoms ⟨globals, heading.ownNames,
        ("_method", .text heading.method) :: heading.frame arguments endpoint timeout⟩
      (heading.parameters.map .name) = pure arguments := by
  refine evalAtoms_names ((lookup_zip wellNamed.distinct length).imp ?_)
  rintro name argument ⟨member, found⟩
  -- three names have been bound after the parameters
  have parameter := wellNamed.parameters name member
  have noMethod : (name == "_method") = false := beq_false_of_ne (parameter.ne_of_mem (by decide))
  have noTimeout : (name == "timeout") = false := beq_false_of_ne (parameter.ne_of_mem (by decide))
  have noEndpoint : (name == "endpoint") = false := beq_false_of_ne (parameter.ne_of_mem (by decide))
  refine Scope.resolve_local (List.mem_append_left _ member) ?_
  simp [frame, List.lookup_cons, noMethod, noTimeout, noEndpoint, found]

/-- The call is made with what the names mean to the caller. -/
theorem eval_request (wellNamed : heading.WellNamed) {globals : Frame α}
    (transport : globals.lookup "rpc_request" = some (.imported settings.transportModule "rpc_request"))
    (world : World α) (arguments : List (Value α)) (endpoint timeout : Value α) :
    Expression.eval world ⟨globals, heading.ownNames, heading.prepared arguments endpoint timeout⟩
        (.call "rpc_request" [.name "_method"]
          [("params", .name "_params"), ("endpoint", .name "endpoint"), ("timeout", .name "timeout")]) =
      (heading.wireCall settings arguments endpoint timeout).send world := by
  set scope : Scope α :=
    ⟨globals, heading.ownNames, heading.prepared arguments endpoint timeout⟩
  have imported : scope.resolve "rpc_request" =
      pure (.imported settings.transportModule "rpc_request") :=
    Scope.resolve_global (not_mem_ownNames wellNamed (by decide)) transport
  have method : scope.resolve "_method" = pure (.text heading.method) :=
    resolve_assigned (by decide) rfl globals
  have params : scope.resolve "_params" = pure (.list arguments) :=
    resolve_assigned (by decide) rfl globals
  have endpoint : scope.resolve "endpoint" = pure endpoint :=
    resolve_assigned (by decide) rfl globals
  have timeout : scope.resolve "timeout" = pure timeout :=
    resolve_assigned (by decide) rfl globals
  simp only [Expression.eval, imported, evalAtoms, evalKeywords, Atom.eval, method, params, endpoint,
    timeout, pure_bind]
  rfl

/-- What the names of a function are bound to once it has a reply, the newest first. -/
def replied (heading : Heading) (arguments : List (Value α)) (endpoint timeout reply : Value α) :
    Frame α :=
  ("_reply", reply) :: heading.prepared arguments endpoint timeout

def handle (world : World α) (globals : Frame α) (heading : Heading) (arguments : List (Value α))
    (endpoint timeout reply : Value α) : Run α (Interrupt α) (Frame α) :=
  translation.exec world globals heading.ownNames (heading.replied arguments endpoint timeout reply)

/-- A function makes its call, and then does what it does with the reply. -/
theorem execBody_eq (wellNamed : heading.WellNamed) {arguments : List (Value α)}
    (length : arguments.length = heading.parameters.length) {globals : Frame α}
    (transport : globals.lookup "rpc_request" = some (.imported settings.transportModule "rpc_request"))
    (world : World α) (endpoint timeout : Value α) :
    execBody world globals heading.ownNames (heading.frame arguments endpoint timeout) heading.body =
      ((heading.wireCall settings arguments endpoint timeout).send world).within
          (heading.prepared arguments endpoint timeout) >>=
        heading.handle world globals arguments endpoint timeout := by
  have method : Statement.exec world globals heading.ownNames
      (heading.frame arguments endpoint timeout)
      (.simple (.assign "_method" (.atom (.text heading.method)))) =
        pure (("_method", .text heading.method) :: heading.frame arguments endpoint timeout) :=
    Simple.exec_assign rfl
  have params : Statement.exec world globals heading.ownNames
      (("_method", .text heading.method) :: heading.frame arguments endpoint timeout)
      (.simple (.assign "_params" (.list (heading.parameters.map .name)))) =
        pure (heading.prepared arguments endpoint timeout) := by
    refine Simple.exec_assign ?_
    rw [Expression.eval, evalAtoms_parameters wellNamed length, pure_bind]
  have request := eval_request wellNamed transport world arguments endpoint timeout
  rw [body, execBody_cons rfl, execBody_cons method, execBody_cons params]
  simp only [execBody, bind_pure]
  change (Run.within _ (Expression.eval world _ _) >>= fun value => _) >>= _ = _
  rw [request, bind_assoc]
  rfl

end Heading

/-! ## Calls from outside -/

/-- A way to call the function of a method. -/
structure Calling (α : Type) (method : Schema.Method) where
  arguments : List (Value α)
  endpoint : Option (Value α)
  timeout : Option (Value α)
  /-- The arguments behind those for the parameters. -/
  more : List (Value α)
  keywords : List (String × Value α)
  length : arguments.length = method.parameterNames.length
  given : Given endpoint timeout more keywords

namespace Calling

variable {method : Schema.Method}

def endpointIn (settings : Settings) (calling : Calling α method) : Value α :=
  calling.endpoint.getD (.text settings.endpoint)

def timeoutIn (settings : Settings) (calling : Calling α method) : Value α :=
  calling.timeout.getD (.number settings.timeout.toNat)

def run (settings : Settings) (world : World α) (text : String) (calling : Calling α method) :
    Run α (Halt α) (Value α) :=
  callFunction world text (Stub.functionNameOf settings.snakeCase method.name)
    (calling.arguments ++ calling.more) calling.keywords

def request (settings : Settings) (calling : Calling α method) : Call α :=
  (method.heading settings.snakeCase).wireCall settings calling.arguments
    (calling.endpointIn settings) (calling.timeoutIn settings)

def handle (settings : Settings) (world : World α) (headings : List Heading)
    (calling : Calling α method) (reply : Value α) : Run α (Interrupt α) (Frame α) :=
  (method.heading settings.snakeCase).handle world (Module.globals settings headings)
    calling.arguments (calling.endpointIn settings) (calling.timeoutIn settings) reply

end Calling

namespace Module

/-- What the preamble binds is still bound when the functions are. -/
theorem lookup_preamble (accepted : Heading.Accepted headings) {name : String}
    (own : name ∈ moduleNames) :
    (globals settings headings : Frame α).lookup name = settings.globals.lookup name :=
  lookup_globals fun heading member same =>
    (accepted.wellNamed heading member).function.free (same ▸ own)

/-- Calling a function of a generated module is making its call and handling the reply. -/
theorem run_eq {document : Schema.Document} {text : String}
    (generated : generate settings document = .ok text) {method : Schema.Method}
    (member : method ∈ document.methods) (calling : Calling α method) (world : World α) :
    calling.run settings world text =
      (((calling.request settings).send world).within
          ((method.heading settings.snakeCase).prepared calling.arguments
            (calling.endpointIn settings) (calling.timeoutIn settings)) >>=
        calling.handle settings world
          (document.methods.map (·.heading settings.snakeCase))).finish := by
  have accepted := accepted_of_generate generated
  have wellNamed := wellNamed_of_generate generated member
  have transport : (globals settings (document.methods.map (·.heading settings.snakeCase)) :
      Frame α).lookup "rpc_request" = some (.imported settings.transportModule "rpc_request") :=
    lookup_preamble accepted (by decide)
  rw [Calling.run, (isFunction generated member).callFunction_eq, Value.apply,
    if_pos (Heading.keywordsFit calling.given),
    Heading.bindParameters_eq wellNamed calling.length calling.given, Heading.localNames_eq]
  exact congrArg Run.finish (Heading.execBody_eq wellNamed calling.length transport world _ _)

end Module

end RpcStubs
