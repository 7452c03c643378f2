/-!
# Counts

Natural numbers of 64 bits as they are written in settings: decimal digits, with or without a plus
sign before them.
-/

namespace RpcStubs.Text

/-- A text without a plus sign at its beginning. -/
def withoutPlus : List Char → List Char
  | '+' :: rest => rest
  | cs => cs

/-- The product of two numbers, if it fits into 64 bits. -/
def checkedMul? (a b : UInt64) : Option UInt64 :=
  if a.toNat * b.toNat < UInt64.size then some (a * b) else none

/-- The sum of two numbers, if it fits into 64 bits. -/
def checkedAdd? (a b : UInt64) : Option UInt64 :=
  if a.toNat + b.toNat < UInt64.size then some (a + b) else none

/-- The number that a digit stands for. -/
def digitCount? (c : Char) : Option UInt64 :=
  if c.isDigit then some (UInt64.ofNat (c.toNat - '0'.toNat)) else none

/-- Reads digits behind those of a count. -/
def readDigits? (count : UInt64) : List Char → Option UInt64
  | [] => some count
  | c :: rest => do
    let digit ← digitCount? c
    let tens ← checkedMul? count 10
    readDigits? (← checkedAdd? tens digit) rest

/-- Reads a natural number of 64 bits: decimal digits, after a plus sign or not. -/
def readCount? (cs : List Char) : Option UInt64 :=
  match withoutPlus cs with
  | [] => none
  | digits => readDigits? 0 digits

end RpcStubs.Text
