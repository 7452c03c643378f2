import RpcStubs.Proofs.Names.Title
import RpcStubs.Proofs.Syntax

/-! # Signatures

Before a module runs, its functions are compiled, and Python then asks something of the names in their
signatures.  Each must have the form of a name and be no keyword, no two parameters may have the same
one, and `__debug__` cannot be bound at all, although it looks like any other name.

The checks of stubs see to everything but the last.  So the functions of a generated module compile but
for those that have a parameter called `__debug__`, and these never do (`Module.signatures_compile`).
No function can have that name itself: what is taken from the name of a method has no underscore in
front, and snake case puts none there (`Stub.head?_functionNameOf_ne`).
-/

namespace RpcStubs.Python

open Identifier

/-! ## What is asked of a signature -/

/-- The words that are never names: those of expressions, of simple statements and of compound ones. -/
def hardKeywords : List String :=
  ["None", "True", "False", "and", "or", "not", "in", "is", "lambda", "await"]
    ++ ["assert", "pass", "del", "return", "yield", "raise", "break", "continue", "import", "from",
      "as", "global", "nonlocal"]
    ++ ["if", "elif", "else", "while", "for", "try", "except", "finally", "with", "def", "class",
      "async"]

/-- A name of the language: `[A-Za-z_][A-Za-z0-9_]*`, and no keyword. -/
structure IsName (name : String) : Prop where
  form : ∃ first rest, name.toList = first :: rest ∧ (IsLetter first ∨ first = '_') ∧
    ∀ c ∈ rest, IsLetter c ∨ IsDigit c ∨ c = '_'
  notKeyword : name ∉ hardKeywords

/-- A name that a function or a parameter may be given. -/
structure Bindable (name : String) : Prop where
  isName : IsName name
  notDebug : name ≠ "__debug__"

def Definition.parameterNames (definition : Definition) : List String :=
  definition.parameters.map Prod.fst

/-- A function whose signature is accepted by the compiler. -/
structure Definition.Compiles (definition : Definition) : Prop where
  name : Bindable definition.name
  parameters : ∀ name ∈ definition.parameterNames, Bindable name
  distinct : definition.parameterNames.Nodup
  /-- Behind a parameter with a default, all others have one as well. -/
  defaults : definition.parameters.Pairwise fun earlier later => earlier.2.isSome → later.2.isSome

def Item.definition? : Item → Option Definition
  | .define definition => some definition
  | .importFrom _ _ | .assign _ _ => none

/-- The functions of a source text, in order. -/
def definitions? (text : List Char) : Option (List Definition) :=
  (program? text).map (·.filterMap Item.definition?)

/-- The checks know all the keywords of the language. -/
theorem IsName.of_validName {name : String} (valid : ValidName name) : IsName name := by
  have known : ∀ word ∈ hardKeywords, word ∈ keywords := by decide
  exact ⟨valid.form, fun keyword => valid.notKeyword (known name keyword)⟩

end RpcStubs.Python

namespace RpcStubs

open Python Identifier

/-! ## The names of functions -/

/-- No function is given a name that begins with an underscore. -/
theorem Stub.head?_functionNameOf_ne (snakeCase : Bool) (method : String) :
    (functionNameOf snakeCase method).toList.head? ≠ some '_' := by
  intro first
  cases snakeCase with
  | false =>
    have whole := (Naming.lastSegment_localName method).whole
    exact (whole '_' (List.mem_of_head? first)).1 rfl
  | true =>
    change (Naming.snakeCase (Naming.localName method)).toList.head? = some '_' at first
    obtain ⟨rest, letters⟩ := List.head?_eq_some_iff.1 first
    -- an underscore in front would have an empty word before it
    have filled : [] ∉ (Naming.snakeCase (Naming.localName method)).toList.splitOn '_' := by
      apply Naming.nil_notMem_splitOn_snakeCase
      intro empty
      simp [empty] at letters
    simp [letters, List.splitOn_cons_eq_if_modifyHead] at filled

/-! ## The signature of a heading -/

namespace Heading

variable {heading : Heading}

theorem parameterNames_definition (heading : Heading) :
    heading.definition.parameterNames = heading.parameters ++ ["endpoint", "timeout"] := by
  simp [Definition.parameterNames, definition, signature, Function.comp_def]

theorem isName_of_mem (wellNamed : heading.WellNamed) :
    ∀ name ∈ heading.definition.parameterNames, IsName name := by
  have own : ∀ name ∈ ["endpoint", "timeout"], isValid name = true := by decide
  intro name member
  apply IsName.of_validName
  rw [parameterNames_definition, List.mem_append] at member
  rcases member with parameter | default
  · exact (wellNamed.parameters name parameter).valid
  · exact (isValid_iff name).1 (own name default)

theorem nodup_parameterNames (wellNamed : heading.WellNamed) :
    heading.definition.parameterNames.Nodup := by
  rw [parameterNames_definition, List.nodup_append]
  refine ⟨wellNamed.distinct, by decide, ?_⟩
  rintro name parameter _ default rfl
  exact (wellNamed.parameters name parameter).notLocal (List.mem_append_left bodyLocals default)

theorem pairwise_defaults (heading : Heading) :
    heading.definition.parameters.Pairwise fun earlier later =>
      earlier.2.isSome → later.2.isSome := by
  -- none of the parameters that come from the method has a default, and the others all have one
  have without : (heading.parameters.map fun name => (name, (none : Option Atom))).Pairwise
      fun earlier later => earlier.2.isSome → later.2.isSome :=
    List.pairwise_map.2 (List.pairwise_of_forall (by simp))
  rw [definition, signature, List.pairwise_append]
  exact ⟨without, by decide, by simp⟩

/-- A signature that has passed all checks fails to compile for nothing but `__debug__`. -/
theorem compiles_iff (wellNamed : heading.WellNamed) (named : heading.functionName ≠ "__debug__") :
    heading.definition.Compiles ↔ "__debug__" ∉ heading.parameters := by
  constructor
  · intro compiles parameter
    have bindable : Bindable "__debug__" := by
      apply compiles.parameters
      rw [parameterNames_definition]
      exact List.mem_append_left _ parameter
    exact bindable.notDebug rfl
  · intro free
    refine ⟨⟨.of_validName wellNamed.function.valid, named⟩, ?_, nodup_parameterNames wellNamed,
      pairwise_defaults heading⟩
    intro name member
    refine ⟨isName_of_mem wellNamed name member, ?_⟩
    rintro rfl
    rw [parameterNames_definition, List.mem_append] at member
    exact member.elim free (by decide)

end Heading

/-! ## The signatures of a module -/

namespace Module

variable {settings : Settings} {document : Schema.Document} {text : String}

/-- What is known of the function that a method is given. -/
structure Signs (settings : Settings) (method : Schema.Method) (definition : Definition) : Prop where
  name : definition.name = Stub.functionNameOf settings.snakeCase method.name
  parameters : definition.parameterNames = method.parameterNames ++ ["endpoint", "timeout"]
  bindable : Bindable definition.name
  areNames : ∀ name ∈ definition.parameterNames, IsName name
  distinct : definition.parameterNames.Nodup
  compiles : definition.Compiles ↔ "__debug__" ∉ method.parameterNames

theorem definitions?_eq (generated : generate settings document = .ok text) :
    definitions? text.toList =
      some (document.methods.map fun method => (method.heading settings.snakeCase).definition) := by
  have preamble : settings.items.filterMap Item.definition? = [] := rfl
  have functions : ((document.methods.map (·.heading settings.snakeCase)).map fun heading =>
      Item.define heading.definition).filterMap Item.definition? =
        document.methods.map fun method => (method.heading settings.snakeCase).definition := by
    simp [List.filterMap_map, Function.comp_def, Item.definition?]
  rw [definitions?, program?_eq generated, Option.map_some, program, List.filterMap_append, preamble,
    functions, List.nil_append]

theorem signs_heading (generated : generate settings document = .ok text) {method : Schema.Method}
    (member : method ∈ document.methods) :
    Signs settings method (method.heading settings.snakeCase).definition := by
  have wellNamed := wellNamed_of_generate generated member
  have named : (method.heading settings.snakeCase).functionName ≠ "__debug__" := by
    intro same
    apply Stub.head?_functionNameOf_ne settings.snakeCase method.name
    change Stub.functionNameOf settings.snakeCase method.name = "__debug__" at same
    rw [same]
    rfl
  exact ⟨rfl, Heading.parameterNames_definition _, ⟨.of_validName wellNamed.function.valid, named⟩,
    Heading.isName_of_mem wellNamed, Heading.nodup_parameterNames wellNamed,
    Heading.compiles_iff wellNamed named⟩

/-- A module has one function for each method, in order, and every name in its signature is one of the
language and stands there once.  The signature compiles just if no parameter is called `__debug__`. -/
theorem signatures_compile (generated : generate settings document = .ok text) :
    ∃ definitions, definitions? text.toList = some definitions ∧
      List.Forall₂ (Signs settings) document.methods definitions := by
  refine ⟨_, definitions?_eq generated, ?_⟩
  rw [List.forall₂_map_right_iff, List.forall₂_same]
  exact fun method member => signs_heading generated member

/-- A method whose names look like words that Python keeps to itself, and are none of them. -/
def bordering : Schema.Method where
  name := "sui_match"
  description := none
  params := some [.untyped "_", .untyped "type", .untyped "None_", .untyped "__debug"]
  result := some ⟨"R"⟩

theorem signatures_compile_bordering :
    ∃ text definition, generate .default ⟨[bordering]⟩ = .ok text ∧
      definitions? text.toList = some [definition] ∧ definition.name = "match" ∧
      definition.parameterNames = ["_", "type", "None_", "__debug", "endpoint", "timeout"] ∧
      definition.Compiles := by
  obtain ⟨text, generated⟩ : ∃ text, generate .default ⟨[bordering]⟩ = .ok text :=
    exists_ok_of_isSome (by decide +kernel)
  obtain ⟨definitions, read, signed⟩ := signatures_compile generated
  obtain ⟨definition, _, signs, none, rfl⟩ := List.forall₂_cons_left_iff.1 signed
  obtain rfl := List.forall₂_nil_left_iff.1 none
  have named : Stub.functionNameOf true bordering.name = "match" := by decide +kernel
  have free : "__debug__" ∉ bordering.parameterNames := by decide
  exact ⟨text, definition, generated, read, signs.name.trans named, signs.parameters,
    signs.compiles.2 free⟩

/-- A method with the one parameter that looks like any other and cannot be bound. -/
def debugging : Schema.Method where
  name := "sui_getThing"
  description := none
  params := some [.untyped "__debug__"]
  result := some ⟨"R"⟩

/-- It is accepted all the same, and its function does not compile. -/
theorem debug_parameter_accepted :
    ∃ text definition, generate .default ⟨[debugging]⟩ = .ok text ∧
      definitions? text.toList = some [definition] ∧
      definition.parameterNames = ["__debug__", "endpoint", "timeout"] ∧ ¬ definition.Compiles := by
  obtain ⟨text, generated⟩ : ∃ text, generate .default ⟨[debugging]⟩ = .ok text :=
    exists_ok_of_isSome (by decide +kernel)
  have signs := signs_heading generated (List.mem_singleton.2 rfl)
  have parameter : "__debug__" ∈ debugging.parameterNames := by decide
  exact ⟨text, _, generated, definitions?_eq generated, signs.parameters,
    fun compiles => signs.compiles.1 compiles parameter⟩

end Module

end RpcStubs
