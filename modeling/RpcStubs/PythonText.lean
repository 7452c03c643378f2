import RpcStubs.Text.Blank

/-!
# Free text in Python source

Texts that come from a schema or from the settings reach the generated module in two places: in a
docstring between triple double quotes, and in a literal between double quotes. Either way they are
escaped so that they cannot end the string that they stand in.
-/

namespace RpcStubs.PythonText

open RpcStubs.Text

/-! ## Docstrings -/

def indentation : List Char := [' ', ' ', ' ', ' ']

def doubleBackslashes (cs : List Char) : List Char :=
  cs.flatMap fun (c : Char) => if c = '\\' then ['\\', '\\'] else [c]

/-- A text with a backslash before each quote of every three in a row. -/
def breakTripleQuotes : List Char → List Char
  | '"' :: '"' :: '"' :: rest => ['\\', '"', '\\', '"', '\\', '"'] ++ breakTripleQuotes rest
  | c :: rest => c :: breakTripleQuotes rest
  | [] => []

/-- A line after the first, indented unless there is nothing on it. -/
def furtherLine (line : List Char) : List Char :=
  if (trim line).isEmpty then trimEnd line else indentation ++ trimEnd line

/-- Lines laid out for a docstring: without blanks at their ends, and indented but for the first. -/
def layOut : List (List Char) → List Char
  | [] => []
  | first :: others => joinWith ['\n'] (trimEnd first :: others.map furtherLine)

def docstringChars (cs : List Char) : List Char :=
  layOut (lines (breakTripleQuotes (doubleBackslashes cs)))

/-- A free text in a docstring. -/
def docstring (text : String) : String :=
  String.ofList (docstringChars text.toList)

/-! ## Literals -/

def literalChar (c : Char) : List Char :=
  if c = '\\' then ['\\', '\\']
  else if c = '"' then ['\\', '"']
  else if c = '\n' then ['\\', 'n']
  else if c = '\r' then ['\\', 'r']
  else if c = '\t' then ['\\', 't']
  else [c]

def literal (text : String) : String :=
  String.ofList ('"' :: text.toList.flatMap literalChar ++ ['"'])

end RpcStubs.PythonText
