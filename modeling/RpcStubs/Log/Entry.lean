import RpcStubs.Text.Hexadecimal

/-!
# Log entries

The messages of a run, each with its level and the part of the program that it comes from.
-/

namespace RpcStubs.Log

/-- How much a message matters, from the most to the least. -/
inductive Level where
  | error
  | warn
  | info
  | debug
  | trace
  deriving DecidableEq, Repr

/-- The rank of a level: the higher, the less it matters. -/
def Level.rank : Level → Nat
  | .error => 1
  | .warn => 2
  | .info => 3
  | .debug => 4
  | .trace => 5

def Level.name : Level → String
  | .error => "ERROR"
  | .warn => "WARN"
  | .info => "INFO"
  | .debug => "DEBUG"
  | .trace => "TRACE"

/-- A message with its level and origin, and the names of the values that it carries. The text of
the message is one of them. -/
structure Entry where
  level : Level
  origin : String
  message : String
  values : List String := ["message"]
  deriving DecidableEq, Repr

/-- One character of a log line. Controls that a terminal would act on are written as escapes. -/
def shownChar (c : Char) : String :=
  let n := c.toNat
  if [0x07, 0x08, 0x0C, 0x1B, 0x7F].contains n then "\\x" ++ String.ofList (Text.hexPair n)
  else if 0x80 ≤ n ∧ n ≤ 0x9F then "\\u\x7b" ++ String.ofList (Text.hexPair n) ++ "\x7d"
  else c.toString

def Entry.line (entry : Entry) : String :=
  entry.level.name ++ " " ++ String.join (entry.message.toList.map shownChar)

end RpcStubs.Log
