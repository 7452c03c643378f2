import RpcStubs.Text.Alphabetic
import RpcStubs.Text.Blank
import RpcStubs.Text.LetterCase

/-!
# Names of methods and functions

A published method name is a namespace and a local name in camel case. A stub is named for the local
part in snake case, and a stub without description is described by its name as a title.
-/

namespace RpcStubs.Naming

open RpcStubs.Text

/-- The characters that separate the namespaces of a method name. -/
def isNamespaceSeparator (c : Char) : Bool :=
  c = '_' || c = '.'

/-- The part of a method name after its last separator. -/
def localName (method : String) : String :=
  String.ofList (method.toList.reverse.takeWhile fun (c : Char) => !isNamespaceSeparator c).reverse

/-- A text with an underscore before each of its ASCII capitals. -/
def separateCapitals : List Char → List Char
  | [] => []
  | c :: rest => (if c.isUpper then ['_', c] else [c]) ++ separateCapitals rest

/-- A text with an underscore before each of its ASCII capitals but a first one. -/
def separateWords : List Char → List Char
  | [] => []
  | c :: rest => c :: separateCapitals rest

/-- A name in snake case: its words separated and all of it in lower case. -/
def snakeCase (name : String) : String :=
  String.ofList (lowercase (separateWords name.toList))

/-- A word of a title. A letter after a letter is lowered and every other one is raised. -/
def titleWord (afterLetter : Bool) : List Char → List Char
  | [] => []
  | c :: rest =>
    if isAlphabetic c then
      (if afterLetter then lowerChar c else upperChar c) ++ titleWord true rest
    else
      c :: titleWord false rest

/-- A name in snake case as a title: its words with blanks between them. -/
def titleCase (name : String) : String :=
  let words := (pieces (· = '_') name.toList).filter (!·.isEmpty)
  String.ofList (joinWith [' '] (words.map (titleWord false)))

end RpcStubs.Naming
