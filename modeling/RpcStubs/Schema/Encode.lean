import RpcStubs.Json.Writer
import RpcStubs.Schema.Basic

/-!
# Schemas as JSON values

Records become objects with their fields in the order of their definition; an optional field that is
absent is left out.
-/

namespace RpcStubs.Schema

open RpcStubs.Json

/-- The field of an optional part, if it is there. -/
def presentPair {α : Type} (key : String) (encode : α → Value) : Option α → List (String × Value)
  | none => []
  | some a => [(key, encode a)]

def TypeLabel.toJson : TypeLabel → Value
  | .single name => .string name
  | .union names => .array (names.map .string)

def ParameterSchema.toJson (schema : ParameterSchema) : Value :=
  .object (presentPair "type" TypeLabel.toJson schema.type)

def Parameter.toJson (parameter : Parameter) : Value :=
  .object (("name", .string parameter.name)
    :: presentPair "schema" ParameterSchema.toJson parameter.schema)

def ResultType.toJson (result : ResultType) : Value :=
  .object [("name", .string result.name)]

def Method.toJson (method : Method) : Value :=
  .object (("name", .string method.name)
    :: presentPair "description" .string method.description
    ++ presentPair "params" (fun (params : List Parameter) => .array (params.map Parameter.toJson))
      method.params
    ++ presentPair "result" ResultType.toJson method.result)

def Document.toJson (document : Document) : Value :=
  .object [("methods", .array (document.methods.map Method.toJson))]

end RpcStubs.Schema
