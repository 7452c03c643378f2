import RpcStubs.Text.Hexadecimal
import RpcStubs.Text.Printable

/-!
# Quoted text

A quoted text shows any text on one line between double quotes. Quotes and backslashes take a
backslash, the common controls have their letter escapes, and every other character that could not
be seen in its place is written as its code point in braces.
-/

namespace RpcStubs.Text

def quotedChar (c : Char) : List Char :=
  if c = '\x00' then ['\\', '0']
  else if c = '\t' then ['\\', 't']
  else if c = '\n' then ['\\', 'n']
  else if c = '\r' then ['\\', 'r']
  else if c = '"' then ['\\', '"']
  else if c = '\\' then ['\\', '\\']
  else if isInvisible c || isJoining c then ['\\', 'u', '{'] ++ hexDigits c.toNat ++ ['}']
  else [c]

/-- A text between double quotes, with escapes. -/
def quoted (text : String) : String :=
  String.ofList ('"' :: text.toList.flatMap quotedChar ++ ['"'])

end RpcStubs.Text
