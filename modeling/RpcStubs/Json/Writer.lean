import RpcStubs.Binary64.Shortest
import RpcStubs.Json.Value
import RpcStubs.Text.Hexadecimal

/-!
# Writing JSON text

Two layouts of the same values: a compact one without blanks, and an indented one with one item or
field a line. Fields are written in the order in which the object lists them.
-/

namespace RpcStubs.Json

def charText (c : Char) : List Char :=
  if c = '"' then ['\\', '"']
  else if c = '\\' then ['\\', '\\']
  else if c = '\x08' then ['\\', 'b']
  else if c = '\x0c' then ['\\', 'f']
  else if c = '\n' then ['\\', 'n']
  else if c = '\r' then ['\\', 'r']
  else if c = '\t' then ['\\', 't']
  else if c.toNat < 0x20 then ['\\', 'u', '0', '0'] ++ Text.hexPair c.toNat
  else [c]

def stringText (s : String) : List Char :=
  '"' :: s.toList.flatMap charText ++ ['"']

def wholeText (n : Int) : List Char :=
  if n < 0 then '-' :: Nat.toDigits 10 n.natAbs else Nat.toDigits 10 n.natAbs

def Number.text : Number → List Char
  | .whole n => wholeText n
  | .double x => x.text

def boolText (b : Bool) : List Char :=
  if b then ['t', 'r', 'u', 'e'] else ['f', 'a', 'l', 's', 'e']

mutual

def compactText : Value → List Char
  | .null => ['n', 'u', 'l', 'l']
  | .bool b => boolText b
  | .number n => n.text
  | .string s => stringText s
  | .array items => '[' :: compactItems items ++ [']']
  | .object fields => '{' :: compactFields fields ++ ['}']

def compactItems : List Value → List Char
  | [] => []
  | [item] => compactText item
  | item :: items => compactText item ++ ',' :: compactItems items

def compactFields : List (String × Value) → List Char
  | [] => []
  | [(key, value)] => stringText key ++ ':' :: compactText value
  | (key, value) :: fields =>
    stringText key ++ ':' :: compactText value ++ ',' :: compactFields fields

end

/-- A line end and the indentation of a level. -/
def newLine (level : Nat) : List Char :=
  '\n' :: List.replicate (2 * level) ' '

mutual

/-- The indented text of a value that stands on the given level. -/
def indentedText (level : Nat) : Value → List Char
  | .null => ['n', 'u', 'l', 'l']
  | .bool b => boolText b
  | .number n => n.text
  | .string s => stringText s
  | .array [] => ['[', ']']
  | .array (item :: items) =>
    '[' :: indentedItems (level + 1) (item :: items) ++ newLine level ++ [']']
  | .object [] => ['{', '}']
  | .object (field :: fields) =>
    '{' :: indentedFields (level + 1) (field :: fields) ++ newLine level ++ ['}']

def indentedItems (level : Nat) : List Value → List Char
  | [] => []
  | [item] => newLine level ++ indentedText level item
  | item :: items => newLine level ++ indentedText level item ++ ',' :: indentedItems level items

def indentedFields (level : Nat) : List (String × Value) → List Char
  | [] => []
  | [(key, value)] => newLine level ++ stringText key ++ ':' :: ' ' :: indentedText level value
  | (key, value) :: fields =>
    newLine level ++ stringText key ++ ':' :: ' ' :: indentedText level value
      ++ ',' :: indentedFields level fields

end

def Value.compact (v : Value) : String :=
  String.ofList (compactText v)

def Value.indented (v : Value) : String :=
  String.ofList (indentedText 0 v)

end RpcStubs.Json
