import RpcStubs.Proofs.Python.Evaluation
import RpcStubs.Proofs.Syntax

/-! # The names of a generated module

What the names of a generated module are bound to once it has run.  Functions come last, and none of
them has a name that the preamble binds or that another function has; so what the preamble binds stays
bound, the defaults of every function are those of the settings, and each function is found under its
own name.
-/

namespace RpcStubs

open Python Identifier

variable {α : Type}

/-! ## The module -/

/-- What the preamble binds, the newest first. -/
def Settings.globals (settings : Settings) : Frame α :=
  [("_default_timeout", .number settings.timeout.toNat),
    ("_default_endpoint", .text settings.endpoint),
    ("InvalidReplyError", .imported settings.exceptionsModule "InvalidReplyError"),
    ("TxConfirmationTimedoutError",
      .imported settings.exceptionsModule "TxConfirmationTimedoutError"),
    ("rpc_request", .imported settings.transportModule "rpc_request")]

namespace Heading

def defaults (settings : Settings) (heading : Heading) : List (String × Option (Value α)) :=
  heading.parameters.map (fun name => (name, none))
    ++ [("endpoint", some (.text settings.endpoint)),
      ("timeout", some (.number settings.timeout.toNat))]

def function (settings : Settings) (heading : Heading) : Value α :=
  .function (heading.defaults settings) heading.body

end Heading

namespace Module

/-- What a module binds, the newest first. -/
def globals (settings : Settings) (headings : List Heading) : Frame α :=
  (headings.map fun heading => (heading.functionName, heading.function settings)).reverse
    ++ settings.globals

variable {settings : Settings} {headings : List Heading}

/-- A name that no function has is the preamble's, or none. -/
theorem lookup_globals {name : String} (free : ∀ heading ∈ headings, heading.functionName ≠ name) :
    (globals settings headings : Frame α).lookup name = settings.globals.lookup name := by
  have absent : ((headings.map fun heading =>
      (heading.functionName, (heading.function settings : Value α))).reverse).lookup name = none := by
    rw [List.lookup_eq_none_iff]
    intro binding member
    rw [List.mem_reverse, List.mem_map] at member
    obtain ⟨heading, among, rfl⟩ := member
    simpa using Ne.symm (free heading among)
  rw [globals, List.lookup_append, absent, Option.none_or]

/-- A function is found under its name, since no function after it has the same one. -/
theorem lookup_function {heading : Heading} (distinct : (headings.map Heading.functionName).Nodup)
    (member : heading ∈ headings) :
    (globals settings headings : Frame α).lookup heading.functionName =
      some (heading.function settings) := by
  -- the functions after this one are newer, and are passed over one by one
  obtain ⟨before, after, rfl⟩ := List.append_of_mem member
  rw [List.lookup_eq_some_iff]
  refine ⟨(after.map fun heading => (heading.functionName, heading.function settings)).reverse,
    globals settings before, ?_, ?_⟩
  · simp [globals]
  · intro binding among
    rw [List.mem_reverse, List.mem_map] at among
    obtain ⟨other, among, rfl⟩ := among
    rw [List.map_append, List.map_cons, List.nodup_append, List.nodup_cons] at distinct
    have different : heading.functionName ≠ other.functionName := fun same =>
      distinct.2.1.1 (same ▸ List.mem_map_of_mem among)
    simpa using different

/-! ## Running a module -/

/-- The defaults of a function are evaluated to those of the settings. -/
theorem evalParameters_signature (heading : Heading)
    (free : ∀ other ∈ headings, other.functionName ∉ moduleNames) :
    evalParameters (globals settings headings : Frame α) heading.signature =
      .ok (heading.defaults settings) := by
  have endpoint : (globals settings headings : Frame α).lookup "_default_endpoint" =
      some (.text settings.endpoint) :=
    lookup_globals fun other member same => free other member (by rw [same]; decide)
  have timeout : (globals settings headings : Frame α).lookup "_default_timeout" =
      some (.number settings.timeout.toNat) :=
    lookup_globals fun other member same => free other member (by rw [same]; decide)
  unfold Heading.signature Heading.defaults
  induction heading.parameters with
  | nil =>
    simp only [List.map_nil, List.nil_append, evalParameters, Atom.eval]
    rw [Scope.resolve_global (by simp) endpoint, Scope.resolve_global (by simp) timeout]
    rfl
  | cons name others inductionHypothesis =>
    rw [List.map_cons, List.map_cons, List.cons_append, evalParameters, inductionHypothesis]
    rfl

theorem globalsFrom_functions {before after : List Heading}
    (free : ∀ heading ∈ before ++ after, heading.functionName ∉ moduleNames) :
    globalsFrom (globals settings before : Frame α)
        (after.map fun heading => .define heading.definition) =
      .ok (globals settings (before ++ after)) := by
  -- each function is defined in a module that has the functions before it
  induction after generalizing before with
  | nil => rw [List.append_nil]; rfl
  | cons heading others inductionHypothesis =>
    have parameters : evalParameters (globals settings before : Frame α) heading.signature =
        .ok (heading.defaults settings) :=
      evalParameters_signature heading fun other member => free other (List.mem_append_left _ member)
    have bound : (globals settings (before ++ [heading]) : Frame α) =
        (heading.functionName, heading.function settings) :: globals settings before := by
      simp [globals]
    have here : Item.exec (globals settings before : Frame α) (.define heading.definition) =
        .ok (globals settings (before ++ [heading])) := by
      rw [bound, Item.exec]
      simp only [Heading.definition, parameters]
      rfl
    have shifted : before ++ heading :: others = before ++ [heading] ++ others := by simp
    rw [shifted] at free ⊢
    rw [List.map_cons, globalsFrom, here]
    exact inductionHypothesis free

/-- Running a generated module binds the preamble's names and the functions, and nothing else. -/
theorem moduleOf?_eq {document : Schema.Document} {text : String}
    (generated : generate settings document = .ok text) :
    (moduleOf? text : Option (Frame α)) =
      some (globals settings (document.methods.map (·.heading settings.snakeCase))) := by
  have accepted := accepted_of_generate generated
  have read := program?_eq generated
  generalize document.methods.map (·.heading settings.snakeCase) = headings at accepted read ⊢
  have preamble : globalsFrom ([] : Frame α) settings.items = .ok (globals settings []) := rfl
  have functions : globalsFrom (globals settings [] : Frame α)
      (headings.map fun heading => .define heading.definition) = .ok (globals settings headings) :=
    globalsFrom_functions fun heading member => (accepted.wellNamed heading member).function.free
  have whole := globalsFrom_append preamble (headings.map fun heading => .define heading.definition)
  rw [functions] at whole
  simp only [moduleOf?, read, program, whole]

/-- A generated module has a function for each method. -/
theorem isFunction {document : Schema.Document} {text : String}
    (generated : generate settings document = .ok text) {method : Schema.Method}
    (member : method ∈ document.methods) :
    IsFunction text (Stub.functionNameOf settings.snakeCase method.name)
      (globals settings (document.methods.map (·.heading settings.snakeCase)) : Frame α)
      ((method.heading settings.snakeCase).defaults settings)
      (method.heading settings.snakeCase).body := by
  have accepted := accepted_of_generate generated
  have among : method.heading settings.snakeCase ∈
      document.methods.map (·.heading settings.snakeCase) := List.mem_map_of_mem member
  exact ⟨moduleOf?_eq generated, lookup_function accepted.distinct among⟩

end Module

end RpcStubs
