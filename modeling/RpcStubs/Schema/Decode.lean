import RpcStubs.Binary64.Shortest
import RpcStubs.Json.Value
import RpcStubs.Schema.Basic
import RpcStubs.Text.Quoted

/-!
# Schemas from JSON values

A record is read from an object by its keys, in ascending order of the keys, or from an array by its
positions. Keys that a record does not have are passed over, and an optional field may be null. The
first field that cannot be read decides the error; a required field that is not there is reported
only after all fields that are there could be read.
-/

namespace RpcStubs.Schema

open RpcStubs.Json

/-- Why a JSON value is not a schema. -/
inductive DecodeError where
  | wrongKind (found : Value) (wanted : String)
  | missingField (key : String)
  | tooShort (size : Nat) (record : String) (fields : String)
  | tooLong (size : Nat)
  | noTypeLabel
  deriving Repr

/-- How an error names a value that it did not want. -/
def describe : Value → String
  | .null => "null"
  | .bool b => "boolean `" ++ (if b then "true" else "false") ++ "`"
  | .number (.whole n) => "integer `" ++ toString n ++ "`"
  | .number (.double x) => "floating point `" ++ String.ofList x.text ++ "`"
  | .string s => "string " ++ Text.quoted s
  | .array _ => "sequence"
  | .object _ => "map"

def DecodeError.message : DecodeError → String
  | .wrongKind found wanted => "invalid type: " ++ describe found ++ ", expected " ++ wanted
  | .missingField key => "missing field `" ++ key ++ "`"
  | .tooShort size record fields =>
    "invalid length " ++ toString size ++ ", expected " ++ record ++ " with " ++ fields
  | .tooLong size => "invalid length " ++ toString size ++ ", expected fewer elements in array"
  | .noTypeLabel => "data did not match any variant of untagged enum TypeLabel"

/-! ## Parts of records -/

def decodeString : Value → Except DecodeError String
  | .string s => .ok s
  | v => .error (.wrongKind v "a string")

/-- A list, item by item. -/
def decodeList {α : Type} (decode : Value → Except DecodeError α) :
    Value → Except DecodeError (List α)
  | .array items => items.mapM decode
  | v => .error (.wrongKind v "a sequence")

/-- An optional value: null stands for none. -/
def decodeOptional {α : Type} (decode : Value → Except DecodeError α) :
    Value → Except DecodeError (Option α)
  | .null => .ok none
  | v => some <$> decode v

/-- A field that may be absent or null. -/
def optionalField {α : Type} (fields : Fields) (key : String)
    (decode : Value → Except DecodeError α) : Except DecodeError (Option α) :=
  match fields.get? key with
  | none => .ok none
  | some v => decodeOptional decode v

/-- A required field as far as it is there. -/
def presentField {α : Type} (fields : Fields) (key : String)
    (decode : Value → Except DecodeError α) : Except DecodeError (Option α) :=
  match fields.get? key with
  | none => .ok none
  | some v => some <$> decode v

/-- A required field, once all fields that are there have been read. -/
def required {α : Type} (key : String) : Option α → Except DecodeError α
  | some a => .ok a
  | none => .error (.missingField key)

/-- The next item of a record in array form, if there is one. -/
def nextItem {α : Type} (decode : Value → Except DecodeError α) :
    List Value → Except DecodeError (Option α × List Value)
  | [] => .ok (none, [])
  | v :: rest => do return (some (← decode v), rest)

/-- The record `a` if its array form has no items left. -/
def atEnd {α : Type} (items rest : List Value) (a : α) : Except DecodeError α :=
  if rest.isEmpty then .ok a else .error (.tooLong items.length)

/-- A record's first field in array form. -/
def firstItem {α : Type} (record fields : String) : Option α → Except DecodeError α
  | some a => .ok a
  | none => .error (.tooShort 0 record fields)

/-! ## Records -/

/-- A type label: a string or an array of strings. -/
def decodeTypeLabel : Value → Except DecodeError TypeLabel
  | .string name => .ok (.single name)
  | .array items =>
    match items.mapM decodeString with
    | .ok names => .ok (.union names)
    | .error _ => .error .noTypeLabel
  | _ => .error .noTypeLabel

def decodeParameterSchema : Value → Except DecodeError ParameterSchema
  | .object fields => do
    return ⟨← optionalField fields "type" decodeTypeLabel⟩
  | .array items => do
    let (type, rest) ← nextItem (decodeOptional decodeTypeLabel) items
    atEnd items rest ⟨type.getD none⟩
  | v => .error (.wrongKind v "struct ParamSchema")

def decodeParameter : Value → Except DecodeError Parameter
  | .object fields => do
    let name ← presentField fields "name" decodeString
    let schema ← optionalField fields "schema" decodeParameterSchema
    return ⟨← required "name" name, schema⟩
  | .array items => do
    let (name, rest) ← nextItem decodeString items
    let name ← firstItem "struct RawParam" "2 elements" name
    let (schema, rest) ← nextItem (decodeOptional decodeParameterSchema) rest
    atEnd items rest ⟨name, schema.getD none⟩
  | v => .error (.wrongKind v "struct RawParam")

def decodeResultType : Value → Except DecodeError ResultType
  | .object fields => do
    let name ← presentField fields "name" decodeString
    return ⟨← required "name" name⟩
  | .array items => do
    let (name, rest) ← nextItem decodeString items
    let name ← firstItem "struct ResultRef" "1 element" name
    atEnd items rest ⟨name⟩
  | v => .error (.wrongKind v "struct ResultRef")

def decodeMethod : Value → Except DecodeError Method
  | .object fields => do
    let description ← optionalField fields "description" decodeString
    let name ← presentField fields "name" decodeString
    let params ← optionalField fields "params" (decodeList decodeParameter)
    let result ← optionalField fields "result" decodeResultType
    return ⟨← required "name" name, description, params, result⟩
  | .array items => do
    let (name, rest) ← nextItem decodeString items
    let name ← firstItem "struct RawMethodEntry" "4 elements" name
    let (description, rest) ← nextItem (decodeOptional decodeString) rest
    let (params, rest) ← nextItem (decodeOptional (decodeList decodeParameter)) rest
    let (result, rest) ← nextItem (decodeOptional decodeResultType) rest
    atEnd items rest ⟨name, description.getD none, params.getD none, result.getD none⟩
  | v => .error (.wrongKind v "struct RawMethodEntry")

def decodeDocument : Value → Except DecodeError Document
  | .object fields => do
    let methods ← presentField fields "methods" (decodeList decodeMethod)
    return ⟨← required "methods" methods⟩
  | .array items => do
    let (methods, rest) ← nextItem (decodeList decodeMethod) items
    let methods ← firstItem "struct RawSchemaDocument" "1 element" methods
    atEnd items rest ⟨methods⟩
  | v => .error (.wrongKind v "struct RawSchemaDocument")

end RpcStubs.Schema
