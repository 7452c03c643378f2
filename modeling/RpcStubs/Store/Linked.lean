import RpcStubs.Store.Basic

/-!
# A tree with links

A linked store is a tree that holds symbolic links besides files and folders. A link has a path, and
whoever walks through the link goes on along that path, from the folder that holds the link or from the
root. Steps back start from where links have led to, and a way through too many links leads nowhere.

To read a file, to write one and to look what is there, a link at the end of a path is followed as well.
What is made, moved or removed is what the path itself names, be that a link or not.
-/

namespace RpcStubs

/-- The path of a link, which is one that can be resolved. -/
structure LinkTarget where
  path : Path
  faultless : Store.pathFault? path = none
  deriving DecidableEq

/-- Where a link that is in a folder leads on from. -/
def LinkTarget.start (target : LinkTarget) (folder : Place) : Place :=
  if target.path.pieces.head? = some "" then [] else folder

/-- What is at a place of a tree with links. -/
inductive Node where
  | entry (entry : Entry)
  | link (target : LinkTarget)
  deriving DecidableEq

/-- A tree of files, folders and links below a root folder. -/
structure LinkedStore where
  nodes : List (Place × Node)
  deriving DecidableEq

namespace LinkedStore

/-- The node at a place. The root is always a folder. -/
def node? (store : LinkedStore) (place : Place) : Option Node :=
  if place = [] then some (.entry .folder) else store.nodes.lookup place

def isFolderAt (store : LinkedStore) (place : Place) : Bool :=
  store.node? place = some (.entry .folder)

def put (store : LinkedStore) (place : Place) (node : Node) : LinkedStore :=
  ⟨Store.replaceEntry place node store.nodes⟩

def erase (store : LinkedStore) (place : Place) : LinkedStore :=
  ⟨store.nodes.filter (·.1 ≠ place)⟩

/-! ## Resolving paths -/

/-- How many links can be followed on one way. -/
def linkLimit : Nat :=
  40

def tooManyLinks : FileError :=
  .other 40 "Too many levels of symbolic links"

/-- How far a walk has come. -/
inductive Walked where
  | arrived (place : Place)
  /-- It has come to a link, with pieces still to be walked. -/
  | atLink (folder : Place) (target : LinkTarget) (rest : List String)

/-- Walks the pieces of a path from a place, to the end or to the first link. -/
def walkToLink (store : LinkedStore) (here : Place) : List String → Except FileError Walked
  | [] => .ok (.arrived here)
  | piece :: rest =>
    if !store.isFolderAt here then .error .notAFolder
    else if piece = "" ∨ piece = "." then walkToLink store here rest
    else if piece = ".." then walkToLink store here.dropLast rest
    else if Store.nameLimit < piece.utf8ByteSize then .error .nameTooLong
    else
      match store.node? (here ++ [piece]) with
      | none => .error .notFound
      | some (.link target) => .ok (.atLink here target rest)
      | some (.entry _) => walkToLink store (here ++ [piece]) rest

/-- Walks the pieces of a path from a place, through that many links at most. -/
def walk (store : LinkedStore) :
    (links : Nat) → (here : Place) → (pieces : List String) → Except FileError Place
  | links, here, pieces =>
    match walkToLink store here pieces with
    | .error e => .error e
    | .ok (.arrived place) => .ok place
    | .ok (.atLink folder target rest) =>
      match links with
      | 0 => .error tooManyLinks
      | links + 1 => walk store links (target.start folder) (target.path.pieces ++ rest)

def resolve (store : LinkedStore) (path : Path) : Except FileError Place :=
  match Store.pathFault? path with
  | some fault => .error fault
  | none => walk store linkLimit [] path.pieces

/-- The pieces of a path before its last name. -/
def beforeLast (path : Path) : List String :=
  (Store.withoutTrailing path.pieces).dropLast

/-- The last name of a path, in the folder that the pieces before it have led to. -/
def lastIn (store : LinkedStore) (folder : Place) (path : Path) (unnamed : FileError) :
    Except FileError Store.Target :=
  match (Store.withoutTrailing path.pieces).getLast? with
  | none => .error unnamed
  | some name =>
    if !store.isFolderAt folder then .error .notAFolder
    else if name = "." ∨ name = ".." then .error unnamed
    else if Store.nameLimit < name.utf8ByteSize then .error .nameTooLong
    else .ok ⟨folder, name, (Store.withoutTrailing path.pieces).length < path.pieces.length⟩

/-- Resolves all but the last name of a path. -/
def target (store : LinkedStore) (path : Path) (unnamed : FileError) :
    Except FileError Store.Target :=
  match Store.pathFault? path with
  | some fault => .error fault
  | none => do
    let folder ← walk store linkLimit [] (beforeLast path)
    store.lastIn folder path unnamed

/-- Where a file is opened to be written: at the last name of a path, or where links at that name lead
to, whether a file is there or not. -/
def openedFrom (store : LinkedStore) :
    (links : Nat) → (here : Place) → (pieces : List String) → (path : Path) → Except FileError Place
  | links, here, pieces, path =>
    match walkToLink store here pieces with
    | .error e => .error e
    | .ok (.atLink folder target rest) =>
      match links with
      | 0 => .error tooManyLinks
      | links + 1 =>
        openedFrom store links (target.start folder) (target.path.pieces ++ rest) path
    | .ok (.arrived folder) =>
      match store.lastIn folder path .isAFolder with
      | .error e => .error e
      | .ok last =>
        if last.trailingSlash then .error .isAFolder
        else
          match store.node? last.place with
          | some (.entry .folder) => .error .isAFolder
          | some (.link target) =>
            match links with
            | 0 => .error tooManyLinks
            | links + 1 =>
              openedFrom store links (target.start folder) (beforeLast target.path) target.path
          | _ => .ok last.place

def opened (store : LinkedStore) (path : Path) : Except FileError Place :=
  match Store.pathFault? path with
  | some fault => .error fault
  | none => openedFrom store linkLimit [] (beforeLast path) path

/-! ## Operations -/

def isPresent (store : LinkedStore) (path : Path) : Bool :=
  (store.resolve path).toOption.isSome

def isFolder (store : LinkedStore) (path : Path) : Bool :=
  match store.resolve path with
  | .ok place => store.isFolderAt place
  | .error _ => false

def readFile (store : LinkedStore) (path : Path) : Except FileError ByteArray := do
  match store.node? (← store.resolve path) with
  | some (.entry (.file content)) => .ok content
  | some (.entry .folder) => .error .isAFolder
  | _ => .error .notFound

/-- Makes a folder in a folder that is there. -/
def makeFolder (store : LinkedStore) (path : Path) : Except FileError LinkedStore := do
  let target ← store.target path .alreadyExists
  match store.node? target.place with
  | some _ => .error .alreadyExists
  | none => .ok (store.put target.place (.entry .folder))

/-- Creates a file or replaces the content of one. -/
def writeFile (store : LinkedStore) (path : Path) (content : ByteArray) :
    Except FileError LinkedStore := do
  return store.put (← store.opened path) (.entry (.file content))

/-- Moves a file or a link to another path, over a file or a link that may be there. -/
def renameFile (store : LinkedStore) (source destination : Path) : Except FileError LinkedStore := do
  let source ← store.target source .busy
  let destination ← store.target destination .busy
  match store.node? source.place with
  | none => .error .notFound
  | some (.entry .folder) => .error .isAFolder
  | some node =>
    if source.trailingSlash ∨ destination.trailingSlash then .error .notAFolder
    else if store.isFolderAt destination.place then .error .isAFolder
    else if source.place = destination.place then .ok store
    else .ok ((store.erase source.place).put destination.place node)

/-- Removes a file or a link. -/
def removeFile (store : LinkedStore) (path : Path) : Except FileError LinkedStore := do
  let target ← store.target path .isAFolder
  match store.node? target.place with
  | none => .error .notFound
  | some (.entry .folder) => .error .isAFolder
  | some _ =>
    if target.trailingSlash then .error .notAFolder else .ok (store.erase target.place)

instance : Files LinkedStore where
  readFile := readFile
  isFolder := isFolder
  isPresent := isPresent
  makeFolder := makeFolder
  writeFile := writeFile
  renameFile := renameFile
  removeFile := removeFile

end LinkedStore

end RpcStubs
