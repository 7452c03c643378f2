import RpcStubs.Binary64.Basic

/-!
# JSON values

A JSON value with the numbers kept as they were meant: whole numbers within the 64-bit range stay
exact and all others are doubles. An object is a list of its fields; one that was read from text has
its keys in ascending order, each once.
-/

namespace RpcStubs.Json

inductive Number where
  | whole (n : Int)
  | double (x : Binary64)
  deriving DecidableEq, Repr

inductive Value where
  | null
  | bool (b : Bool)
  | number (n : Number)
  | string (s : String)
  | array (items : List Value)
  | object (fields : List (String × Value))
  deriving Repr

abbrev Fields := List (String × Value)

/-- Puts a field among fields in ascending order of their keys; a field of the same key gives way.
-/
def Fields.insert (key : String) (value : Value) : Fields → Fields
  | [] => [(key, value)]
  | (key', value') :: rest =>
    if key < key' then (key, value) :: (key', value') :: rest
    else if key = key' then (key, value) :: rest
    else (key', value') :: Fields.insert key value rest

/-- The fields of an object whose text lists them in this order: ascending keys, and of several
fields with one key the last. -/
def Fields.ofPairs (pairs : List (String × Value)) : Fields :=
  pairs.foldl (fun fields pair => Fields.insert pair.1 pair.2 fields) []

def Fields.get? (fields : Fields) (key : String) : Option Value :=
  fields.lookup key

end RpcStubs.Json
