import RpcStubs.Failure
import RpcStubs.Identifier
import RpcStubs.Naming
import RpcStubs.Settings.Basic

/-!
# Stubs

A stub is all that the generated function of one method is written from. Building one needs the
parameters and the result of the method; checking one makes sure that every name in it can be bound
where the generated module binds it.
-/

namespace RpcStubs

structure ParameterDoc where
  name : String
  /-- The type as documentation shows it, empty if there is none. -/
  type : String
  deriving DecidableEq, Repr

/-- What the generated function of a method is written from. -/
structure Stub where
  functionName : String
  /-- The name of the method, as it goes over the wire. -/
  method : String
  /-- The parameters, in the order of the signature and of the wire. -/
  parameters : List String
  parameterDocs : List ParameterDoc
  description : String
  /-- The result as documentation shows it. -/
  result : String
  deriving DecidableEq, Repr

namespace Stub

open Schema Identifier

/-! ## Building -/

def functionNameOf (snakeCase : Bool) (method : String) : String :=
  let name := Naming.localName method
  if snakeCase then Naming.snakeCase name else name

/-- The description of a method, or the name of its function as a title if there is none but blanks.
-/
def descriptionOf (functionName : String) (description : Option String) : String :=
  match Text.trim (description.getD "").toList with
  | [] => Naming.titleCase functionName
  | text => String.ofList text

def ofMethod (snakeCase : Bool) (method : Method) : Except Failure Stub :=
  let functionName := functionNameOf snakeCase method.name
  match method.params, method.result with
  | none, _ => .error (.schemaShape method.name (.missing "params"))
  | some _, none => .error (.schemaShape method.name (.missing "result"))
  | some params, some result =>
    .ok {
      functionName
      method := method.name
      parameters := params.map (·.name)
      parameterDocs := params.map fun (p : Parameter) => ⟨p.name, p.typeText⟩
      description := descriptionOf functionName method.description
      result := result.name }

/-! ## Checking -/

def functionFault? (name : String) : Option NameFault :=
  if !isValid name then some .badFunctionName
  else if moduleNames.contains name then some .shadowsModuleName
  else none

/-- What is wrong with the name of a parameter after those of `earlier`. -/
def parameterFault? (earlier : List String) (name : String) : Option NameFault :=
  if !isValid name then some .badParameterName
  else if functionNames.contains name then some .clashesWithLocal
  else if importedNames.contains name then some .shadowsImport
  else if earlier.contains name then some .repeated
  else none

/-- The first parameter that something is wrong with. -/
def badParameter? (earlier : List String) : List String → Option (String × NameFault)
  | [] => none
  | name :: rest =>
    match parameterFault? earlier name with
    | some fault => some (name, fault)
    | none => badParameter? (name :: earlier) rest

/-- Checks the names of a stub: that of the function, then those of the parameters in order. -/
def check (stub : Stub) : Except Failure Unit :=
  match functionFault? stub.functionName with
  | some fault => .error (.invalidIdentifier stub.method stub.functionName fault)
  | none =>
    match badParameter? [] stub.parameters with
    | some (name, fault) => .error (.invalidIdentifier stub.method name fault)
    | none => .ok ()

/-- Checks stubs after those whose functions and methods are in `owners`. -/
def checkAfter (owners : List (String × String)) : List Stub → Except Failure Unit
  | [] => .ok ()
  | stub :: rest => do
    stub.check
    match owners.lookup stub.functionName with
    | some owner =>
      if owner = stub.method then .error (.schemaShape stub.method .listedTwice)
      else .error (.namingCollision stub.functionName owner stub.method)
    | none => checkAfter ((stub.functionName, stub.method) :: owners) rest

/-- Checks the names of all stubs of a module, and that no two functions have the same one. -/
def checkAll (stubs : List Stub) : Except Failure Unit :=
  checkAfter [] stubs

end Stub

/-! ## Module paths -/

/-- Whether a text is a path of a Python module: identifiers between points. -/
def isModulePath (path : String) : Bool :=
  (Text.pieces (· = '.') path.toList).all fun (piece : List Char) =>
    Identifier.isValid (String.ofList piece)

/-- Checks the settings that become names in the generated module. -/
def Settings.check (settings : Settings) : Except Failure Unit :=
  if !isModulePath settings.transportModule then
    .error (.settings (.badTransportModule settings.transportModule))
  else if !isModulePath settings.exceptionsModule then
    .error (.settings (.badExceptionsModule settings.exceptionsModule))
  else .ok ()

end RpcStubs
