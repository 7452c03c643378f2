import RpcStubs.Text.Blank

/-!
# Paths

A path is a list of names between slashes, kept exactly as written: empty pieces and dots stay, for
a trailing slash or a dot changes what an operation on the path does. The folders that a path leads
through are the beginnings of its text that end in a name.
-/

namespace RpcStubs

/-- A path as the pieces of its text between slashes. -/
structure Path where
  pieces : List String
  deriving DecidableEq, Repr

namespace Path

def ofString (text : String) : Path :=
  ⟨(Text.pieces (· = '/') text.toList).map String.ofList⟩

def text (path : Path) : String :=
  String.intercalate "/" path.pieces

/-- A list of pieces with a text added to the last one. -/
def addToLast (ending : String) : List String → List String
  | [] => [ending]
  | [last] => [last ++ ending]
  | piece :: rest => piece :: addToLast ending rest

/-- The path beside this one under which new content is prepared. -/
def staging (path : Path) : Path :=
  ⟨addToLast ".tmp" path.pieces⟩

/-- A piece that leads from one folder to another. -/
def isStep (piece : String) : Bool :=
  piece ≠ "" && piece ≠ "."

/-- The beginnings of `before ++ pieces` that end in a step of `pieces`. -/
def foldersAfter (before : List String) : (pieces : List String) → List Path
  | [] => []
  | piece :: rest =>
    let here := before ++ [piece]
    if isStep piece then ⟨here⟩ :: foldersAfter here rest else foldersAfter here rest

/-- The folders that a path leads through, from the top down, and what it names as the last of them.
They are its beginnings that end in a step, and the current folder if it begins with a dot; the root
goes without saying. -/
def folders (path : Path) : List Path :=
  match path.pieces with
  | "." :: rest => ⟨["."]⟩ :: foldersAfter ["."] rest
  | pieces => foldersAfter [] pieces

/-- The folders above what a path names, from the top down. -/
def above (path : Path) : List Path :=
  path.folders.dropLast

end Path

end RpcStubs
