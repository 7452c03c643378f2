/-!
# Method schemas

The part of a published method schema that client stubs are made from: a flat list of methods, each
with its positional parameters and its named result. Whatever a document may leave out is optional
here, so that a method without parameters or result is told apart from one with an empty list.
-/

namespace RpcStubs.Schema

/-- The type of a parameter: one name, or a choice of several. -/
inductive TypeLabel where
  | single (name : String)
  | union (names : List String)
  deriving DecidableEq, Repr

def TypeLabel.text : TypeLabel → String
  | .single name => name
  | .union names => String.intercalate " | " names

/-- What a schema says about a parameter. -/
structure ParameterSchema where
  type : Option TypeLabel
  deriving DecidableEq, Repr

structure Parameter where
  name : String
  schema : Option ParameterSchema
  deriving DecidableEq, Repr

def Parameter.untyped (name : String) : Parameter :=
  ⟨name, none⟩

def Parameter.typed (name type : String) : Parameter :=
  ⟨name, some ⟨some (.single type)⟩⟩

/-- The label of a parameter's type, empty if it has none. -/
def Parameter.typeText (parameter : Parameter) : String :=
  match parameter.schema with
  | some ⟨some label⟩ => label.text
  | _ => ""

structure ResultType where
  name : String
  deriving DecidableEq, Repr

/-- A method as published. Its name is what goes over the wire. -/
structure Method where
  name : String
  description : Option String
  params : Option (List Parameter)
  result : Option ResultType
  deriving DecidableEq, Repr

/-- A complete method, without description. -/
def Method.complete (name : String) (params : List Parameter) (result : String) : Method :=
  ⟨name, none, some params, some ⟨result⟩⟩

/-- A schema document: its methods in order. -/
structure Document where
  methods : List Method
  deriving DecidableEq, Repr

end RpcStubs.Schema
