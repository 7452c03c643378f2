import RpcStubs.Json.Value
import RpcStubs.Text.Hexadecimal
import RpcStubs.Text.Size

/-!
# Reading JSON text

A recursive reader over the characters of a text. It refuses what the grammar does not allow and
says why and where: the line and the byte column of the first byte that cannot belong to a JSON text
with the same beginning. Arrays and objects may nest at most 127 deep.

The depth of nesting is a counter of its own. The second counter of the recursive readers only makes
their recursion structural: every call uses up one unit, and a text of `n` characters never needs
more than the `2 * (n + 1)` units that `Value.ofString` provides.
-/

namespace RpcStubs.Json

/-- What is wrong with a text that is not JSON. -/
inductive Problem where
  | endInValue
  | endInList
  | endInObject
  | endInString
  | expectedValue
  | expectedLiteral
  | expectedColon
  | expectedListSeparator
  | expectedObjectSeparator
  | keyNotAString
  | trailingComma
  | trailingCharacters
  | invalidNumber
  | numberOutOfRange
  | tooDeep
  | controlCharacter
  | invalidEscape
  | unpairedEscape
  | loneSurrogate
  deriving DecidableEq, Repr

def Problem.message : Problem → String
  | .endInValue => "EOF while parsing a value"
  | .endInList => "EOF while parsing a list"
  | .endInObject => "EOF while parsing an object"
  | .endInString => "EOF while parsing a string"
  | .expectedValue => "expected value"
  | .expectedLiteral => "expected ident"
  | .expectedColon => "expected `:`"
  | .expectedListSeparator => "expected `,` or `]`"
  | .expectedObjectSeparator => "expected `,` or `\x7d`"
  | .keyNotAString => "key must be a string"
  | .trailingComma => "trailing comma"
  | .trailingCharacters => "trailing characters"
  | .invalidNumber => "invalid number"
  | .numberOutOfRange => "number out of range"
  | .tooDeep => "recursion limit exceeded"
  | .controlCharacter => "control character (\\u0000-\\u001F) found while parsing a string"
  | .invalidEscape => "invalid escape"
  | .unpairedEscape => "unexpected end of hex escape"
  | .loneSurrogate => "lone leading surrogate in hex escape"

/-- A problem and the number of bytes that come after the place where it shows. -/
structure Fault where
  problem : Problem
  bytesLeft : Nat
  deriving DecidableEq, Repr

/-- A problem that shows at the first byte of the rest, or at the end of the text. -/
def Fault.atFirst (problem : Problem) (rest : List Char) : Fault :=
  ⟨problem, Text.byteLength rest - 1⟩

/-- A problem that shows at the byte before the rest. -/
def Fault.before (problem : Problem) (rest : List Char) : Fault :=
  ⟨problem, Text.byteLength rest⟩

def isBlank (c : Char) : Bool :=
  c = ' ' || c = '\t' || c = '\n' || c = '\r'

def skipBlanks (cs : List Char) : List Char :=
  cs.dropWhile isBlank

/-- Reads the letters of a literal that stands for `value`. -/
def readLiteral (value : Value) : (letters rest : List Char) → Except Fault (Value × List Char)
  | [], rest => .ok (value, rest)
  | _ :: _, [] => .error (.atFirst .endInValue [])
  | letter :: letters, c :: rest =>
    if c = letter then readLiteral value letters rest
    else .error (.atFirst .expectedLiteral (c :: rest))

/-! ## Strings -/

/-- Reads the four hexadecimal digits of an escape. They are four bytes of the text, so a text that
has four more bytes fails only after them. -/
def readUnit (rest : List Char) : Except Fault (Nat × List Char) :=
  let digits := rest.take 4
  if Text.byteLength digits < 4 then .error ⟨.endInString, 0⟩
  else
    match digits.mapM Text.hexDigit? with
    | some values => .ok (values.foldl (fun n d => 16 * n + d) 0, rest.drop 4)
    | none => .error ⟨.invalidEscape, Text.byteLength rest - 4⟩

def pairedChar (high low : Nat) : Char :=
  Char.ofNat ((high - 0xD800) * 0x400 + (low - 0xDC00) + 0x10000)

/-- Reads what follows a high surrogate: a second escape with a low one. -/
def readLowSurrogate (high : Nat) : List Char → Except Fault (Char × List Char)
  | [] => .error (.atFirst .endInString [])
  | ['\\'] => .error (.atFirst .endInString [])
  | '\\' :: 'u' :: rest => do
    let (low, rest) ← readUnit rest
    if 0xDC00 ≤ low ∧ low ≤ 0xDFFF then .ok (pairedChar high low, rest)
    else .error (.before .loneSurrogate rest)
  | '\\' :: c :: rest => .error (.atFirst .unpairedEscape (c :: rest))
  | c :: rest => .error (.atFirst .unpairedEscape (c :: rest))

def letterEscape? : Char → Option Char
  | '"' => some '"'
  | '\\' => some '\\'
  | '/' => some '/'
  | 'b' => some '\x08'
  | 'f' => some '\x0c'
  | 'n' => some '\n'
  | 'r' => some '\r'
  | 't' => some '\t'
  | _ => none

def readEscape : List Char → Except Fault (Char × List Char)
  | [] => .error (.atFirst .endInString [])
  | 'u' :: rest => do
    let (unit, rest) ← readUnit rest
    if 0xDC00 ≤ unit ∧ unit ≤ 0xDFFF then .error (.before .loneSurrogate rest)
    else if 0xD800 ≤ unit ∧ unit ≤ 0xDBFF then readLowSurrogate unit rest
    else .ok (Char.ofNat unit, rest)
  | c :: rest =>
    match letterEscape? c with
    | some char => .ok (char, rest)
    | none => .error (.atFirst .invalidEscape (c :: rest))

/-- Reads one character of a string, or its closing quote. -/
def readCharOrQuote : List Char → Except Fault (Option Char × List Char)
  | [] => .error (.atFirst .endInString [])
  | c :: rest =>
    if c = '"' then .ok (none, rest)
    else if c = '\\' then do
      let (char, rest) ← readEscape rest
      return (some char, rest)
    else if c.toNat < 0x20 then .error (.atFirst .controlCharacter (c :: rest))
    else .ok (some c, rest)

def readChars : (fuel : Nat) → List Char → Except Fault (List Char × List Char)
  | 0, rest => .error (.atFirst .endInString rest)
  | fuel + 1, rest => do
    match ← readCharOrQuote rest with
    | (none, rest) => return ([], rest)
    | (some c, rest) =>
      let (others, rest) ← readChars fuel rest
      return (c :: others, rest)

def readString (fuel : Nat) (rest : List Char) : Except Fault (String × List Char) := do
  let (chars, rest) ← readChars fuel rest
  return (String.ofList chars, rest)

/-! ## Numbers -/

/-- The largest significand that is kept exact; further digits only move the exponent. -/
def significandLimit : Nat :=
  UInt64.size

def exponentLimit : Nat :=
  UInt32.size / 2

def digit? (c : Char) : Option Nat :=
  if '0' ≤ c ∧ c ≤ '9' then some (c.toNat - '0'.toNat) else none

/-- Takes in digits as long as the number stays below `limit`: the number, the count of digits
taken, and the rest. -/
def takeDigits (limit : Nat) (number count : Nat) : List Char → Nat × Nat × List Char
  | [] => (number, count, [])
  | c :: rest =>
    match digit? c with
    | none => (number, count, c :: rest)
    | some d =>
      if 10 * number + d < limit then takeDigits limit (10 * number + d) (count + 1) rest
      else (number, count, c :: rest)

/-- The double for a decimal, or the fault that it is too large. -/
def finishDouble (negative : Bool) (significand : Nat) (exponent : Int) (rest : List Char) :
    Except Fault (Number × List Char) :=
  match Binary64.ofDecimal? negative significand exponent with
  | some x => .ok (.double x, rest)
  | none => .error (.before .numberOutOfRange rest)

/-- Reads an exponent, after the letter `e`, of a decimal whose exponent is `exponent` so far. One
that is too large to be read decides at once between zero and a number out of range. -/
def readExponent (negative : Bool) (significand : Nat) (exponent : Int) (rest : List Char) :
    Except Fault (Number × List Char) :=
  let (lowering, rest) :=
    match rest with
    | '+' :: rest => (false, rest)
    | '-' :: rest => (true, rest)
    | rest => (false, rest)
  match rest with
  | [] => .error (.atFirst .endInValue [])
  | c :: rest =>
    match digit? c with
    | none => .error (.atFirst .invalidNumber (c :: rest))
    | some d =>
      let (power, _, rest) := takeDigits exponentLimit d 1 rest
      let total := if lowering then exponent - power else exponent + power
      match rest with
      | [] => finishDouble negative significand total []
      | c :: after =>
        if (digit? c).isNone then finishDouble negative significand total (c :: after)
        else if significand ≠ 0 ∧ !lowering then .error (.before .numberOutOfRange after)
        else .ok (.double ⟨negative, ⟨0, 0⟩⟩, after.dropWhile Char.isDigit)

/-- Reads what may follow the last digit before an exponent. -/
def readExponentPart (negative : Bool) (significand : Nat) (exponent : Int) (rest : List Char) :
    Except Fault (Number × List Char) :=
  match rest with
  | 'e' :: rest => readExponent negative significand exponent rest
  | 'E' :: rest => readExponent negative significand exponent rest
  | rest => finishDouble negative significand exponent rest

/-- Reads a fraction, after its point. Digits beyond the largest significand are passed over. -/
def readFraction (negative : Bool) (significand : Nat) (exponent : Int) (rest : List Char) :
    Except Fault (Number × List Char) :=
  match takeDigits significandLimit significand 0 rest with
  | (number, count, after) =>
    match after with
    | c :: _ =>
      if (digit? c).isSome then
        readExponentPart negative number (exponent - count) (after.dropWhile Char.isDigit)
      else if count = 0 then .error (.atFirst .invalidNumber after)
      else readExponentPart negative number (exponent - count) after
    | [] =>
      if count = 0 then .error (.atFirst .endInValue after)
      else readExponentPart negative number (exponent - count) after

/-- The number for digits without fraction and exponent. Negative zero and what is below the range
of whole numbers are doubles. -/
def finishWhole (negative : Bool) (number : Nat) (rest : List Char) :
    Except Fault (Number × List Char) :=
  if !negative then .ok (.whole number, rest)
  else if 0 < number ∧ number ≤ UInt64.size / 2 then .ok (.whole (-number), rest)
  else finishDouble true number 0 rest

/-- Reads what follows the digits before the point. -/
def readAfterWhole (negative : Bool) (number : Nat) : List Char → Except Fault (Number × List Char)
  | '.' :: rest => readFraction negative number 0 rest
  | 'e' :: rest => readExponent negative number 0 rest
  | 'E' :: rest => readExponent negative number 0 rest
  | rest => finishWhole negative number rest

/-- Reads a whole part that is too long for an exact significand: its further digits only count. -/
def readLongWhole (negative : Bool) (number : Nat) (rest : List Char) :
    Except Fault (Number × List Char) :=
  let exponent : Nat := (rest.takeWhile Char.isDigit).length
  match rest.dropWhile Char.isDigit with
  | '.' :: rest => readFraction negative number exponent rest
  | rest => readExponentPart negative number exponent rest

/-- Reads a number, after its sign. -/
def readNumber (negative : Bool) : List Char → Except Fault (Number × List Char)
  | [] => .error (.atFirst .endInValue [])
  | '0' :: rest =>
    match rest with
    | c :: _ =>
      if (digit? c).isSome then .error (.atFirst .invalidNumber rest)
      else readAfterWhole negative 0 rest
    | [] => readAfterWhole negative 0 rest
  | c :: rest =>
    match digit? c with
    | none => .error (.atFirst .invalidNumber (c :: rest))
    | some d =>
      match takeDigits significandLimit d 1 rest with
      | (number, _, after) =>
        match after with
        | c :: _ =>
          if (digit? c).isSome then readLongWhole negative number after
          else readAfterWhole negative number after
        | [] => readAfterWhole negative number after

/-! ## Values -/

/-- How deep arrays and objects may nest. -/
def depthLimit : Nat :=
  127

mutual

def readValue : (fuel depth : Nat) → List Char → Except Fault (Value × List Char)
  | 0, _, rest => .error (.atFirst .endInValue rest)
  | fuel + 1, depth, rest =>
    match skipBlanks rest with
    | [] => .error (.atFirst .endInValue [])
    | c :: rest =>
      if c = '"' then do
        let (text, rest) ← readString fuel rest
        return (.string text, rest)
      else if c = '[' then
        match depth with
        | 0 => .error (.atFirst .tooDeep (c :: rest))
        | depth + 1 => do
          let (items, rest) ← readItems fuel depth rest
          return (.array items, rest)
      else if c = '{' then
        match depth with
        | 0 => .error (.atFirst .tooDeep (c :: rest))
        | depth + 1 => do
          let (pairs, rest) ← readPairs fuel depth rest
          return (.object (Fields.ofPairs pairs), rest)
      else if c = 'n' then readLiteral .null ['u', 'l', 'l'] rest
      else if c = 't' then readLiteral (.bool true) ['r', 'u', 'e'] rest
      else if c = 'f' then readLiteral (.bool false) ['a', 'l', 's', 'e'] rest
      else if c = '-' then do
        let (number, rest) ← readNumber true rest
        return (.number number, rest)
      else if (digit? c).isSome then do
        let (number, rest) ← readNumber false (c :: rest)
        return (.number number, rest)
      else .error (.atFirst .expectedValue (c :: rest))

def readItems : (fuel depth : Nat) → List Char → Except Fault (List Value × List Char)
  | 0, _, rest => .error (.atFirst .endInList rest)
  | fuel + 1, depth, rest =>
    match skipBlanks rest with
    | [] => .error (.atFirst .endInList [])
    | c :: rest =>
      if c = ']' then .ok ([], rest)
      else do
        let (item, rest) ← readValue fuel depth (c :: rest)
        let (items, rest) ← readMoreItems fuel depth rest
        return (item :: items, rest)

def readMoreItems : (fuel depth : Nat) → List Char → Except Fault (List Value × List Char)
  | 0, _, rest => .error (.atFirst .endInList rest)
  | fuel + 1, depth, rest =>
    match skipBlanks rest with
    | [] => .error (.atFirst .endInList [])
    | c :: rest =>
      if c = ']' then .ok ([], rest)
      else if c = ',' then
        match skipBlanks rest with
        | [] => .error (.atFirst .endInValue [])
        | c :: rest =>
          if c = ']' then .error (.atFirst .trailingComma (c :: rest))
          else do
            let (item, rest) ← readValue fuel depth (c :: rest)
            let (items, rest) ← readMoreItems fuel depth rest
            return (item :: items, rest)
      else .error (.atFirst .expectedListSeparator (c :: rest))

def readPairs : (fuel depth : Nat) → List Char → Except Fault (List (String × Value) × List Char)
  | 0, _, rest => .error (.atFirst .endInObject rest)
  | fuel + 1, depth, rest =>
    match skipBlanks rest with
    | [] => .error (.atFirst .endInObject [])
    | c :: rest =>
      if c = '}' then .ok ([], rest)
      else if c = '"' then do
        let (pair, rest) ← readPair fuel depth rest
        let (pairs, rest) ← readMorePairs fuel depth rest
        return (pair :: pairs, rest)
      else .error (.atFirst .keyNotAString (c :: rest))

def readMorePairs :
    (fuel depth : Nat) → List Char → Except Fault (List (String × Value) × List Char)
  | 0, _, rest => .error (.atFirst .endInObject rest)
  | fuel + 1, depth, rest =>
    match skipBlanks rest with
    | [] => .error (.atFirst .endInObject [])
    | c :: rest =>
      if c = '}' then .ok ([], rest)
      else if c = ',' then
        match skipBlanks rest with
        | [] => .error (.atFirst .endInValue [])
        | c :: rest =>
          if c = '"' then do
            let (pair, rest) ← readPair fuel depth rest
            let (pairs, rest) ← readMorePairs fuel depth rest
            return (pair :: pairs, rest)
          else if c = '}' then .error (.atFirst .trailingComma (c :: rest))
          else .error (.atFirst .keyNotAString (c :: rest))
      else .error (.atFirst .expectedObjectSeparator (c :: rest))

def readPair : (fuel depth : Nat) → List Char → Except Fault ((String × Value) × List Char)
  | 0, _, rest => .error (.atFirst .endInObject rest)
  | fuel + 1, depth, rest => do
    let (key, rest) ← readString fuel rest
    match skipBlanks rest with
    | [] => .error (.atFirst .endInObject [])
    | c :: rest =>
      if c = ':' then do
        let (value, rest) ← readValue fuel depth rest
        return ((key, value), rest)
      else .error (.atFirst .expectedColon (c :: rest))

end

structure ReadError where
  problem : Problem
  line : Nat
  column : Nat
  deriving DecidableEq, Repr

def ReadError.message (e : ReadError) : String :=
  e.problem.message ++ " at line " ++ toString e.line ++ " column " ++ toString e.column

/-- The line and column that a sequence of bytes ends in: one line more than it has line feeds, and
the bytes since the last of them. -/
def endPosition (bytes : List UInt8) : Nat × Nat :=
  bytes.foldl
    (fun position byte => if byte = 10 then (position.1 + 1, 0) else (position.1, position.2 + 1))
    (1, 0)

/-- A fault in a text, placed by line and column. -/
def Fault.locate (fault : Fault) (text : String) : ReadError :=
  let bytes := text.toUTF8.toList
  let position := endPosition (bytes.take (bytes.length - fault.bytesLeft))
  ⟨fault.problem, position.1, position.2⟩

/-- Reads a whole text of characters as one value. -/
def readAll (cs : List Char) : Except Fault Value := do
  let (value, rest) ← readValue (2 * (cs.length + 1)) depthLimit cs
  match skipBlanks rest with
  | [] => return value
  | rest => .error (.atFirst .trailingCharacters rest)

def Value.ofString (text : String) : Except ReadError Value :=
  match readAll text.toList with
  | .ok value => .ok value
  | .error fault => .error (fault.locate text)

end RpcStubs.Json
