import RpcStubs.Proofs.Function

/-! # What a generated function does with a reply

A result is returned and an error of the transport is passed on, whatever the names in a document are.
Whether a missing result is translated depends on one name that a function reads and that no check
keeps to itself: the built-in `KeyError`.  A parameter may have that name, and so may a function; the
handler then asks whether an argument or a function is a kind of error, and fails.

`Module.translation_outcome` says that nothing else can go wrong.
-/

namespace RpcStubs

open Python Identifier

/-! ## Names that are read -/

namespace Python

def Atom.reads : Atom → List String
  | .name read => [read]
  | .text _ | .number _ => []

/-- The names that an expression looks up. -/
def Expression.reads : Expression → List String
  | .atom value => value.reads
  | .list items => items.flatMap Atom.reads
  | .call function positional keywords =>
    function :: positional.flatMap Atom.reads ++ keywords.flatMap fun keyword => keyword.2.reads
  | .entry dictionary key => dictionary.reads ++ key.reads

def Simple.reads : Simple → List String
  | .docstring => []
  | .assign _ expression | .return expression => expression.reads
  | .raise error cause => error.reads ++ cause.reads

def Statement.reads : Statement → List String
  | .simple statement => statement.reads
  | .tryExcept tried caught _ handler =>
    tried.flatMap Simple.reads ++ caught :: handler.flatMap Simple.reads

end Python

variable {α : Type} {settings : Settings} {headings : List Heading} {heading : Heading}

namespace Heading

/-- Besides its own names a function reads three. -/
theorem reads_body {name : String} (member : name ∈ heading.body.flatMap Statement.reads) :
    name ∈ heading.ownNames ∨ name ∈ ["rpc_request", "InvalidReplyError", "KeyError"] := by
  have parameters : heading.parameters.flatMap (fun name => [name]) = heading.parameters := by simp
  simp only [body, translation, List.flatMap_cons, List.flatMap_nil, Statement.reads, Simple.reads,
    Expression.reads, Atom.reads, List.flatMap_map, parameters, List.mem_append, List.mem_cons,
    List.not_mem_nil] at member
  simp only [ownNames, List.mem_append, List.mem_cons, List.not_mem_nil]
  tauto

/-! ## Handling a reply -/

/-- The call that makes the error for a reply without result. -/
def invalidReply (settings : Settings) (heading : Heading) (endpoint : Value α) : Call α :=
  ⟨settings.exceptionsModule, "InvalidReplyError", [.text heading.method, endpoint], []⟩

section Reply

variable {world : World α} {globals : Frame α} {arguments : List (Value α)}
  {endpoint timeout : Value α} {entries : List (String × Value α)}

/-- The key of the result is looked up in the reply, and what is found there is returned. -/
theorem attempt_eq (heading : Heading) (world : World α) (globals frame : Frame α) {reply : Value α}
    (bound : frame.lookup "_reply" = some reply) :
    execAll world globals heading.ownNames frame
        [.return (.entry (.name "_reply") (.text "result"))] =
      (reply.entry (.text "result")).within frame >>= fun value => .stop (.returned value) := by
  have replied : Scope.resolve ⟨globals, heading.ownNames, frame⟩ "_reply" = pure reply :=
    resolve_assigned (by decide) bound globals
  simp only [execAll, Simple.exec, Expression.eval, Atom.eval, replied, pure_bind, bind_assoc,
    Run.stop_bind]

/-- A result is returned. -/
theorem handle_result {value : Value α} (found : entries.lookup "result" = some value) :
    heading.handle world globals arguments endpoint timeout (.dictionary entries) =
      .stop (.returned value) := by
  have entry : (Value.dictionary entries).entry (.text "result") = pure value := by
    simp only [Value.entry, found]
  have attempt := attempt_eq heading world globals
    (heading.replied arguments endpoint timeout (.dictionary entries)) rfl
  rw [entry] at attempt
  exact Statement.exec_returned attempt _ _ _

/-- Without a result, everything depends on what `KeyError` stands for. -/
theorem handle_missing (missing : entries.lookup "result" = none) {kind : Value α}
    (resolved : Scope.resolve ⟨globals, heading.ownNames,
      heading.replied arguments endpoint timeout (.dictionary entries)⟩ "KeyError" = pure kind) :
    heading.handle world globals arguments endpoint timeout (.dictionary entries) =
      (kind.matches (.exception "KeyError")).within
          (heading.replied arguments endpoint timeout (.dictionary entries)) >>= fun isOfKind =>
        if isOfKind then
          execAll world globals heading.ownNames
              (("_err", .exception "KeyError") ::
                heading.replied arguments endpoint timeout (.dictionary entries))
              [.raise (.call "InvalidReplyError" [.name "_method", .name "endpoint"] [])
                (.atom (.name "_err"))] >>= fun frame => pure (frame.filter (·.1 ≠ "_err"))
        else .stop (.raised (.exception "KeyError")
          (heading.replied arguments endpoint timeout (.dictionary entries))) := by
  have entry : (Value.dictionary entries).entry (.text "result") = raiseError "KeyError" := by
    simp only [Value.entry, missing]
  have attempt := attempt_eq heading world globals
    (heading.replied arguments endpoint timeout (.dictionary entries)) rfl
  rw [entry] at attempt
  exact Statement.exec_raised attempt resolved _ _

/-- The error for a reply without result is called, and what comes of it is raised. -/
theorem raise_eq (wellNamed : heading.WellNamed)
    (imported : globals.lookup "InvalidReplyError" =
      some (.imported settings.exceptionsModule "InvalidReplyError"))
    {frame : Frame α} (method : frame.lookup "_method" = some (.text heading.method))
    (given : frame.lookup "endpoint" = some endpoint) {kind : String}
    (caught : frame.lookup "_err" = some (.exception kind)) {error : Value α}
    (answer : world (heading.invalidReply settings endpoint) = .ok error)
    (raisable : error.isRaisable) :
    execAll world globals heading.ownNames frame
        [.raise (.call "InvalidReplyError" [.name "_method", .name "endpoint"] [])
          (.atom (.name "_err"))] =
      ⟨.error (.raised error frame), [heading.invalidReply settings endpoint]⟩ := by
  set scope : Scope α := ⟨globals, heading.ownNames, frame⟩ with scopeEq
  have callee : scope.resolve "InvalidReplyError" =
      pure (.imported settings.exceptionsModule "InvalidReplyError") :=
    Scope.resolve_global (not_mem_ownNames wellNamed (by decide)) imported
  have method : scope.resolve "_method" = pure (.text heading.method) :=
    resolve_assigned (by decide) method globals
  have given : scope.resolve "endpoint" = pure endpoint :=
    resolve_assigned (by decide) given globals
  have cause : scope.resolve "_err" = pure (.exception kind) :=
    resolve_assigned (by decide) caught globals
  have made : Expression.eval world scope
      (.call "InvalidReplyError" [.name "_method", .name "endpoint"] []) =
        ⟨.ok error, [heading.invalidReply settings endpoint]⟩ := by
    simp only [Expression.eval, callee, evalAtoms, evalKeywords, Atom.eval, method, given, pure_bind]
    exact Call.send_of_ok answer
  have either : (error.isRaisable && (Value.exception kind : Value α).isRaisable) = true := by
    rw [raisable]
    rfl
  simp only [execAll, Simple.exec]
  rw [← scopeEq, made]
  simp only [Expression.eval, Atom.eval, cause, Run.within_ok, Run.within_pure, Run.ok_bind, pure_bind,
    if_pos either]
  rfl

/-- The built-in kind of error is recognised, and the error that is imported is raised in its place. -/
theorem handle_translated (wellNamed : heading.WellNamed)
    (imported : globals.lookup "InvalidReplyError" =
      some (.imported settings.exceptionsModule "InvalidReplyError"))
    (missing : entries.lookup "result" = none)
    (resolved : Scope.resolve ⟨globals, heading.ownNames,
      heading.replied arguments endpoint timeout (.dictionary entries)⟩ "KeyError" =
        pure (.builtin "KeyError"))
    {error : Value α} (answer : world (heading.invalidReply settings endpoint) = .ok error)
    (raisable : error.isRaisable) :
    ∃ frame, heading.handle world globals arguments endpoint timeout (.dictionary entries) =
      ⟨.error (.raised error frame), [heading.invalidReply settings endpoint]⟩ := by
  have asked : (Value.builtin "KeyError" : Value α).matches (.exception "KeyError") = pure true := rfl
  rw [handle_missing missing resolved, asked, Run.within_pure, pure_bind, if_pos rfl,
    raise_eq wellNamed imported rfl rfl rfl answer raisable]
  exact ⟨_, rfl⟩

/-- What is no kind of error cannot be asked about one. -/
theorem handle_untranslated (missing : entries.lookup "result" = none) {kind : Value α}
    (resolved : Scope.resolve ⟨globals, heading.ownNames,
      heading.replied arguments endpoint timeout (.dictionary entries)⟩ "KeyError" = pure kind)
    (asked : kind.matches (.exception "KeyError") = raiseError "TypeError") :
    ∃ frame, heading.handle world globals arguments endpoint timeout (.dictionary entries) =
      .stop (.raised (.exception "TypeError") frame) := by
  rw [handle_missing missing resolved, asked, Run.within_raiseError, Run.stop_bind]
  exact ⟨_, rfl⟩

end Reply

end Heading

/-! ## What `KeyError` stands for -/

namespace Heading

/-- Neither a parameter of a function nor a function of its module has the name of the built-in kind
of error. -/
def KeyErrorFree (headings : List Heading) (heading : Heading) : Prop :=
  "KeyError" ∉ heading.parameters ∧ ∀ other ∈ headings, other.functionName ≠ "KeyError"

theorem not_mem_ownNames_keyError (noParameter : "KeyError" ∉ heading.parameters) :
    "KeyError" ∉ heading.ownNames := by
  intro own
  rcases List.mem_append.1 own with parameter | assigned
  · exact noParameter parameter
  · exact absurd assigned (by decide)

theorem resolve_keyError (free : KeyErrorFree headings heading) (frame : Frame α) :
    Scope.resolve ⟨Module.globals settings headings, heading.ownNames, frame⟩ "KeyError" =
      pure (.builtin "KeyError") := by
  have unbound : (Module.globals settings headings : Frame α).lookup "KeyError" = none :=
    Module.lookup_globals free.2
  exact Scope.resolve_builtin (not_mem_ownNames_keyError free.1) unbound (by decide)

/-- Otherwise it may stand for something that is no kind of error: for a text if every argument is one,
or for a function. -/
theorem resolve_shadowed (settings : Settings) (accepted : Accepted headings)
    (wellNamed : heading.WellNamed)
    (shadowed : ¬ KeyErrorFree headings heading) (endpoint timeout reply : Value α) :
    ∃ kind : Value α, kind.matches (.exception "KeyError") = raiseError "TypeError" ∧
      Scope.resolve ⟨Module.globals settings headings, heading.ownNames,
        heading.replied (heading.parameters.map fun _ => .text "") endpoint timeout reply⟩ "KeyError" =
          pure kind := by
  by_cases parameter : "KeyError" ∈ heading.parameters
  -- a parameter hides a function of the same name
  · have length : (heading.parameters.map fun _ => (Value.text "" : Value α)).length =
        heading.parameters.length := List.length_map _
    have zipped := lookup_zip wellNamed.distinct length
    rw [List.forall₂_map_right_iff, List.forall₂_same] at zipped
    have found := (zipped "KeyError" parameter).2
    refine ⟨.text "", rfl, Scope.resolve_local (List.mem_append_left _ parameter) ?_⟩
    simpa [replied, prepared, Heading.frame, List.lookup_cons] using found
  · have named : ∃ other ∈ headings, other.functionName = "KeyError" := by
      simpa [KeyErrorFree, parameter] using shadowed
    obtain ⟨other, member, name⟩ := named
    have bound : (Module.globals settings headings : Frame α).lookup "KeyError" =
        some (other.function settings) := by
      rw [← name]
      exact Module.lookup_function accepted.distinct member
    exact ⟨other.function settings, rfl,
      Scope.resolve_global (not_mem_ownNames_keyError parameter) bound⟩

end Heading

/-! ## Calls from outside -/

/-- The call that makes the error for a reply without result. -/
def Calling.invalidReply {method : Schema.Method} (settings : Settings) (calling : Calling α method) :
    Call α :=
  (method.heading settings.snakeCase).invalidReply settings (calling.endpointIn settings)

/-- What a function does whatever the names in its document are. -/
structure Sound (α : Type) (settings : Settings) (text : String) (method : Schema.Method) : Prop where
  transport : StandsFor text (Stub.functionNameOf settings.snakeCase method.name) "rpc_request"
    (.imported settings.transportModule "rpc_request" : Value α)
  invalidReply : StandsFor text (Stub.functionNameOf settings.snakeCase method.name)
    "InvalidReplyError" (.imported settings.exceptionsModule "InvalidReplyError" : Value α)
  /-- Besides these two, its own names and one that is built in it reads none. -/
  reads : ∃ (globals : Frame α) (parameters : List (String × Option (Value α)))
    (body : List Statement),
    IsFunction text (Stub.functionNameOf settings.snakeCase method.name) globals parameters body ∧
      ∀ name ∈ body.flatMap Statement.reads,
        name ∈ method.parameterNames ++ functionNames ∨
          name ∈ ["rpc_request", "InvalidReplyError", "KeyError"]
  result (calling : Calling α method) {world : World α} {entries : List (String × Value α)}
    {value : Value α} : world (calling.request settings) = .ok (.dictionary entries) →
      entries.lookup "result" = some value →
      calling.run settings world text = ⟨.ok value, [calling.request settings]⟩
  error (calling : Calling α method) {world : World α} {error : Value α} :
    world (calling.request settings) = .error error →
      calling.run settings world text = ⟨.error (.raised error), [calling.request settings]⟩

/-- For a reply without result the imported error is made and raised. -/
def TranslatesMissing (α : Type) (settings : Settings) (text : String) (method : Schema.Method) :
    Prop :=
  ∀ (calling : Calling α method) {world : World α} {entries : List (String × Value α)}
    {error : Value α}, world (calling.request settings) = .ok (.dictionary entries) →
      entries.lookup "result" = none → world (calling.invalidReply settings) = .ok error →
      error.isRaisable = true →
      calling.run settings world text =
        ⟨.error (.raised error), [calling.request settings, calling.invalidReply settings]⟩

namespace Module

variable {document : Schema.Document} {text : String} {method : Schema.Method}

theorem run_of_reply (generated : generate settings document = .ok text)
    (member : method ∈ document.methods) (calling : Calling α method) {world : World α}
    {reply : Value α} (answer : world (calling.request settings) = .ok reply) :
    calling.run settings world text =
      Run.finish ⟨(calling.handle settings world
          (document.methods.map (·.heading settings.snakeCase)) reply).result,
        calling.request settings :: (calling.handle settings world
          (document.methods.map (·.heading settings.snakeCase)) reply).calls⟩ := by
  rw [run_eq generated member, Call.send_of_ok answer, Run.within_ok, Run.ok_bind]
  rfl

/-- Returning results and passing on errors does not depend on the names in a document. -/
theorem sound (generated : generate settings document = .ok text)
    (member : method ∈ document.methods) : Sound α settings text method := by
  have accepted := accepted_of_generate generated
  have wellNamed := wellNamed_of_generate generated member
  have function := isFunction (α := α) generated member
  -- the imports are looked up past the function's own names, in a module where they are still bound
  refine ⟨?_, ?_, ⟨_, _, _, function, ?_⟩, ?_, ?_⟩
  · rw [function.standsFor_iff, Heading.localNames_eq]
    exact fun frame => Scope.resolve_global (Heading.not_mem_ownNames wellNamed (by decide))
      (lookup_preamble accepted (by decide))
  · rw [function.standsFor_iff, Heading.localNames_eq]
    exact fun frame => Scope.resolve_global (Heading.not_mem_ownNames wellNamed (by decide))
      (lookup_preamble accepted (by decide))
  · intro name read
    exact Heading.reads_body read
  · intro calling world entries value answer found
    rw [run_of_reply generated member calling answer, Calling.handle, Heading.handle_result found]
    rfl
  · intro calling world error answer
    rw [run_eq generated member, Call.send_of_error answer]
    rfl

theorem translatesMissing_of_free (generated : generate settings document = .ok text)
    (member : method ∈ document.methods)
    (free : Heading.KeyErrorFree (document.methods.map (·.heading settings.snakeCase))
      (method.heading settings.snakeCase)) : TranslatesMissing α settings text method := by
  have accepted := accepted_of_generate generated
  have wellNamed := wellNamed_of_generate generated member
  intro calling world entries error answer missing made raisable
  obtain ⟨frame, handled⟩ := Heading.handle_translated wellNamed (lookup_preamble accepted (by decide))
    missing (Heading.resolve_keyError free _) made raisable
  rw [run_of_reply generated member calling answer, Calling.handle, handled]
  rfl

/-- Otherwise there is a call that ends in another error for a reply without result. -/
theorem exists_untranslated (generated : generate settings document = .ok text)
    (member : method ∈ document.methods)
    (shadowed : ¬ Heading.KeyErrorFree (document.methods.map (·.heading settings.snakeCase))
      (method.heading settings.snakeCase)) :
    ∃ calling : Calling α method, ∀ {world : World α},
      world (calling.request settings) = .ok (.dictionary []) →
      calling.run settings world text =
        ⟨.error (.raised (.exception "TypeError")), [calling.request settings]⟩ := by
  have accepted := accepted_of_generate generated
  have wellNamed := wellNamed_of_generate generated member
  let calling : Calling α method :=
    ⟨method.parameterNames.map fun _ => .text "", none, none, [], [], by simp, .keywords none none⟩
  refine ⟨calling, fun {world} answer => ?_⟩
  obtain ⟨kind, asked, resolved⟩ := Heading.resolve_shadowed settings accepted wellNamed
    shadowed (calling.endpointIn settings) (calling.timeoutIn settings) (.dictionary [])
  have handled : ∃ frame, calling.handle settings world
      (document.methods.map (·.heading settings.snakeCase)) (.dictionary []) =
        .stop (.raised (.exception "TypeError") frame) :=
    Heading.handle_untranslated rfl resolved asked
  obtain ⟨frame, handled⟩ := handled
  rw [run_of_reply generated member calling answer, handled]
  rfl

theorem free_of_translatesMissing (generated : generate settings document = .ok text)
    (member : method ∈ document.methods) (translates : TranslatesMissing α settings text method) :
    Heading.KeyErrorFree (document.methods.map (·.heading settings.snakeCase))
      (method.heading settings.snakeCase) := by
  by_contra shadowed
  obtain ⟨calling, untranslated⟩ := exists_untranslated (α := α) generated member shadowed
  -- the reply has nothing in it, and the imported error can be raised.
  let world : World α := fun call =>
    if call.name = "rpc_request" then .ok (.dictionary []) else .ok (.builtin "Exception")
  have replied : world (calling.request settings) = .ok (.dictionary []) := if_pos rfl
  have made : world (calling.invalidReply settings) = .ok (.builtin "Exception") :=
    if_neg (by simp [Calling.invalidReply, Heading.invalidReply])
  have translated := translates calling replied rfl made rfl
  rw [untranslated replied] at translated
  cases congrArg Run.result translated

theorem free_of_standsFor (generated : generate settings document = .ok text)
    (member : method ∈ document.methods)
    (builtIn : StandsFor text (Stub.functionNameOf settings.snakeCase method.name) "KeyError"
      (.builtin "KeyError" : Value α)) :
    Heading.KeyErrorFree (document.methods.map (·.heading settings.snakeCase))
      (method.heading settings.snakeCase) := by
  have accepted := accepted_of_generate generated
  have wellNamed := wellNamed_of_generate generated member
  rw [(isFunction generated member).standsFor_iff, Heading.localNames_eq] at builtIn
  by_contra shadowed
  -- the built-in kind can be asked about an error, and what hides it cannot
  obtain ⟨kind, asked, resolved⟩ := Heading.resolve_shadowed (α := α) settings accepted wellNamed
    shadowed .nothing .nothing .nothing
  rw [builtIn] at resolved
  rw [← Run.pure_inj resolved] at asked
  cases congrArg Run.result asked

/-- Results are returned and errors of the transport passed on by every function.  Missing results are
translated exactly if the built-in kind of error is known under its name. -/
theorem translation_outcome (generated : generate settings document = .ok text)
    (member : method ∈ document.methods) :
    Sound α settings text method ∧
      (StandsFor text (Stub.functionNameOf settings.snakeCase method.name) "KeyError"
          (.builtin "KeyError" : Value α) ↔
        "KeyError" ∉ method.parameterNames ∧
          ∀ other ∈ document.methods, Stub.functionNameOf settings.snakeCase other.name ≠ "KeyError") ∧
      (TranslatesMissing α settings text method ↔
        "KeyError" ∉ method.parameterNames ∧
          ∀ other ∈ document.methods,
            Stub.functionNameOf settings.snakeCase other.name ≠ "KeyError") := by
  have free_iff : Heading.KeyErrorFree (document.methods.map (·.heading settings.snakeCase))
      (method.heading settings.snakeCase) ↔ "KeyError" ∉ method.parameterNames ∧
        ∀ other ∈ document.methods, Stub.functionNameOf settings.snakeCase other.name ≠ "KeyError" := by
    simp [Heading.KeyErrorFree, Schema.Method.heading]
  rw [← free_iff]
  refine ⟨sound generated member, ⟨free_of_standsFor generated member, fun free => ?_⟩,
    free_of_translatesMissing generated member, translatesMissing_of_free generated member⟩
  rw [(isFunction generated member).standsFor_iff, Heading.localNames_eq]
  exact Heading.resolve_keyError free

theorem translation_hostile :
    ∃ text, generate .default .hostile = .ok text ∧ ∀ method ∈ Schema.Document.hostile.methods,
      Sound Empty .default text method ∧ TranslatesMissing Empty .default text method := by
  have noParameter : ∀ method ∈ Schema.Document.hostile.methods,
      "KeyError" ∉ method.parameterNames := by decide +kernel
  have noFunction : ∀ method ∈ Schema.Document.hostile.methods,
      Stub.functionNameOf true method.name ≠ "KeyError" := by decide +kernel
  obtain ⟨text, generated⟩ := generate_hostile
  refine ⟨text, generated, fun method member => ?_⟩
  obtain ⟨sound, -, translates⟩ := translation_outcome generated member
  exact ⟨sound, translates.2 ⟨noParameter method member, noFunction⟩⟩

/-- A method whose parameter takes the name of the built-in kind of error from its function. -/
def shadowing : Schema.Method where
  name := "sui_getThing"
  description := none
  params := some [.untyped "KeyError"]
  result := some ⟨"R"⟩

/-- It is accepted all the same, and its function does not translate a missing result. -/
theorem untranslated_shadowing :
    ∃ text, generate .default ⟨[shadowing]⟩ = .ok text ∧
      ¬ StandsFor text "get_thing" "KeyError" (.builtin "KeyError" : Value Empty) ∧
      ¬ TranslatesMissing Empty .default text shadowing := by
  obtain ⟨text, generated⟩ : ∃ text, generate .default ⟨[shadowing]⟩ = .ok text :=
    exists_ok_of_isSome (by decide +kernel)
  have name : Stub.functionNameOf true shadowing.name = "get_thing" := by decide +kernel
  have member : shadowing ∈ [shadowing] := List.mem_singleton.2 rfl
  have parameter : "KeyError" ∈ shadowing.parameterNames := by decide
  refine ⟨text, generated, fun builtIn => ?_, fun translates => ?_⟩
  · rw [← name] at builtIn
    exact (free_of_standsFor generated member builtIn).1 parameter
  · exact (free_of_translatesMissing generated member translates).1 parameter

end Module

end RpcStubs
