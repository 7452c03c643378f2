import RpcStubs.Store.Basic

/-!
# What changed between two stores

Two stores are compared by the names of what they hold, where the name of a folder ends in a slash:
a file that gave way to a folder is one name gone and another one new.
-/

namespace RpcStubs.Store

/-- An entry under its name. -/
structure Listed where
  name : String
  entry : Entry
  deriving DecidableEq

/-- The name of an entry at a place. -/
def listed (place : Place) : Entry → Listed
  | .folder => ⟨String.intercalate "/" place ++ "/", .folder⟩
  | .file content => ⟨String.intercalate "/" place, .file content⟩

/-- All that a store holds, under names. -/
def listing (store : Store) : List Listed :=
  store.entries.map fun (item : Place × Entry) => listed item.1 item.2

/-- What is new or has new content. -/
def changedSince (old new : Store) : List Listed :=
  new.listing.filter fun (item : Listed) => !old.listing.contains item

/-- The names of what is gone, in ascending order. -/
def removedSince (old new : Store) : List String :=
  let names := (new.listing).map (·.name)
  let gone := (old.listing.map (·.name)).filter fun (name : String) => !names.contains name
  gone.mergeSort

end RpcStubs.Store
