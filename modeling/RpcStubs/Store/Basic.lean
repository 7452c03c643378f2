import RpcStubs.Store.Files

/-!
# A tree of files and folders

A store lists what is in a folder and below it: every place with its entry. A path is resolved by
walking its pieces, each of which has to lead through a folder, and every operation says which error
it meets when it cannot be done. An operation that fails gives no store: it changes nothing.

The root of the store is where all paths start, those that begin with a slash as well: it stands for
the folder that the program works in, and a step back from it stays there. Nothing is forbidden in it,
no file is at two places, and there are no links; trees with links are in `Store.Linked`.
-/

namespace RpcStubs

/-- A place in the tree: the names on the way from the root. -/
abbrev Place := List String

/-- What is at a place. -/
inductive Entry where
  | folder
  | file (content : ByteArray)

instance : DecidableEq Entry
  | .folder, .folder => isTrue rfl
  | .folder, .file _ => isFalse nofun
  | .file _, .folder => isFalse nofun
  | .file a, .file b =>
    decidable_of_iff (a.data = b.data)
      ⟨fun h => congrArg Entry.file (ByteArray.ext h), fun h => by cases h; rfl⟩

/-- A tree of files and folders below a root folder. -/
structure Store where
  entries : List (Place × Entry)

namespace Store

def empty : Store :=
  ⟨[]⟩

/-- The entry at a place. The root is always a folder. -/
def entry? (store : Store) (place : Place) : Option Entry :=
  if place = [] then some .folder else store.entries.lookup place

/-- The entries with the one at `place` replaced, or added at the end. -/
def replaceEntry {α : Type} (place : Place) (entry : α) : List (Place × α) → List (Place × α)
  | [] => [(place, entry)]
  | (place', entry') :: rest =>
    if place' = place then (place, entry) :: rest
    else (place', entry') :: replaceEntry place entry rest

def put (store : Store) (place : Place) (entry : Entry) : Store :=
  ⟨replaceEntry place entry store.entries⟩

def erase (store : Store) (place : Place) : Store :=
  ⟨store.entries.filter (·.1 ≠ place)⟩

/-! ## Resolving paths -/

/-- The longest name that a folder can hold, in bytes. -/
def nameLimit : Nat :=
  255

/-- The longest path that can be resolved, in bytes. -/
def pathLimit : Nat :=
  4095

def pathSize (path : Path) : Nat :=
  path.pieces.foldr (fun (piece : String) (n : Nat) => piece.utf8ByteSize + n)
    (path.pieces.length - 1)

/-- What is wrong with a path before any folder is looked at. -/
def pathFault? (path : Path) : Option FileError :=
  if path.pieces.any (·.toList.contains '\x00') then some .nulInName
  else if path.pieces = [] ∨ path.pieces = [""] then some .notFound
  else if pathLimit < pathSize path then some .nameTooLong
  else none

/-- Walks the pieces of a path from a place. Every piece has to start from a folder, and every name
has to be there. -/
def walk (store : Store) (here : Place) : List String → Except FileError Place
  | [] => .ok here
  | piece :: rest =>
    if store.entry? here ≠ some .folder then .error .notAFolder
    else if piece = "" ∨ piece = "." then walk store here rest
    else if piece = ".." then walk store here.dropLast rest
    else if nameLimit < piece.utf8ByteSize then .error .nameTooLong
    else if (store.entry? (here ++ [piece])).isNone then .error .notFound
    else walk store (here ++ [piece]) rest

def resolve (store : Store) (path : Path) : Except FileError Place :=
  match pathFault? path with
  | some fault => .error fault
  | none => walk store [] path.pieces

/-- Where an operation on the last name of a path acts. -/
structure Target where
  folder : Place
  name : String
  trailingSlash : Bool

def Target.place (target : Target) : Place :=
  target.folder ++ [target.name]

/-- The pieces of a path without empty ones at its end. -/
def withoutTrailing (pieces : List String) : List String :=
  (pieces.reverse.dropWhile (· = "")).reverse

/-- Resolves all but the last name of a path. A path that ends in dots or is a mere slash names no
target, which is the given error. -/
def target (store : Store) (path : Path) (unnamed : FileError) : Except FileError Target :=
  match pathFault? path with
  | some fault => .error fault
  | none => do
    let pieces := withoutTrailing path.pieces
    let folder ← walk store [] pieces.dropLast
    match pieces.getLast? with
    | none => .error unnamed
    | some name =>
      if store.entry? folder ≠ some .folder then .error .notAFolder
      else if name = "." ∨ name = ".." then .error unnamed
      else if nameLimit < name.utf8ByteSize then .error .nameTooLong
      else .ok ⟨folder, name, pieces.length < path.pieces.length⟩

/-! ## Operations -/

def isPresent (store : Store) (path : Path) : Bool :=
  (store.resolve path).toOption.isSome

def isFolder (store : Store) (path : Path) : Bool :=
  match store.resolve path with
  | .ok place => store.entry? place = some .folder
  | .error _ => false

def readFile (store : Store) (path : Path) : Except FileError ByteArray := do
  match store.entry? (← store.resolve path) with
  | some (.file content) => .ok content
  | some .folder => .error .isAFolder
  | none => .error .notFound

/-- Makes a folder in a folder that is there. -/
def makeFolder (store : Store) (path : Path) : Except FileError Store := do
  let target ← store.target path .alreadyExists
  match store.entry? target.place with
  | some _ => .error .alreadyExists
  | none => .ok (store.put target.place .folder)

/-- Creates a file or replaces the content of one. -/
def writeFile (store : Store) (path : Path) (content : ByteArray) : Except FileError Store := do
  let target ← store.target path .isAFolder
  if target.trailingSlash then .error .isAFolder
  else
    match store.entry? target.place with
    | some .folder => .error .isAFolder
    | _ => .ok (store.put target.place (.file content))

/-- Moves a file to another path, over a file that may be there. -/
def renameFile (store : Store) (source destination : Path) : Except FileError Store := do
  let source ← store.target source .busy
  let destination ← store.target destination .busy
  match store.entry? source.place with
  | none => .error .notFound
  | some .folder => .error .isAFolder
  | some (.file content) =>
    if source.trailingSlash ∨ destination.trailingSlash then .error .notAFolder
    else if store.entry? destination.place = some .folder then .error .isAFolder
    else if source.place = destination.place then .ok store
    else .ok ((store.erase source.place).put destination.place (.file content))

def removeFile (store : Store) (path : Path) : Except FileError Store := do
  let target ← store.target path .isAFolder
  match store.entry? target.place with
  | none => .error .notFound
  | some .folder => .error .isAFolder
  | some (.file _) =>
    if target.trailingSlash then .error .notAFolder else .ok (store.erase target.place)

instance : Files Store where
  readFile := readFile
  isFolder := isFolder
  isPresent := isPresent
  makeFolder := makeFolder
  writeFile := writeFile
  renameFile := renameFile
  removeFile := removeFile

/-- Makes folders one after the other, as far as it can. -/
def makeFolders (store : Store) (folders : List Path) : Store :=
  folders.foldl
    (fun (store : Store) (folder : Path) => (store.makeFolder folder).toOption.getD store) store

/-- Removes a file or a folder with all that is in it. -/
def removeTree (store : Store) (path : Path) : Store :=
  match store.resolve path with
  | .ok place => ⟨store.entries.filter fun (entry : Place × Entry) => !place.isPrefixOf entry.1⟩
  | .error _ => store

end Store

end RpcStubs
