import RpcStubs.Text.Blank
import RpcStubs.Text.Hexadecimal

/-!
# Numeric addresses of hosts

An address of version 4 is a number of 32 bits, written as up to four numbers with points between
them. One of version 6 consists of eight groups of 16 bits with colons between them; a stretch of
zeros may be left out, and the last two groups may be written like an address of version 4. Both are
written back in one form only.
-/

namespace RpcStubs.Ip

open Text

/-- Reads the digits of a number to a base; no digits at all are zero. -/
def readDigits? (base : Nat) (cs : List Char) : Option Nat :=
  cs.foldlM (fun (n : Nat) (c : Char) => do
    let d ← hexDigit? c
    if d < base then some (base * n + d) else none) 0

/-! ## Version 4 -/

/-- Reads a part of an address: hexadecimal after `0x`, octal after `0`, else decimal. -/
def readPart? : List Char → Option Nat
  | [] => none
  | '0' :: 'x' :: digits => readDigits? 16 digits
  | '0' :: digits => readDigits? 8 digits
  | digits => readDigits? 10 digits

/-- The value of an address of up to four numbers, the last of which fills the rest. -/
def value? (numbers : List Nat) : Option Nat :=
  let front := numbers.dropLast
  let last := numbers.getLast?.getD 0
  let filled := Nat.pow 256 (4 - front.length)
  if 4 < numbers.length ∨ front.any (255 < ·) ∨ filled ≤ last then none
  else some (front.foldl (fun n d => 256 * n + d) 0 * filled + last)

/-- The parts between the points of a name, an empty last one apart. -/
def parts (name : List Char) : List (List Char) :=
  let parts := pieces (· = '.') name
  if parts.length > 1 ∧ parts.getLast? = some [] then parts.dropLast else parts

/-- Whether a name has to be an address: its last part is a number or looks like one. -/
def endsInNumber (name : List Char) : Bool :=
  match (parts name).getLast? with
  | none => false
  | some part => !part.isEmpty && (part.all Char.isDigit || (readPart? part).isSome)

/-- Reads an address of version 4. -/
def read4? (name : List Char) : Option Nat := do
  value? (← (parts name).mapM readPart?)

def text4 (n : Nat) : List Char :=
  joinWith ['.']
    ([n / 0x1000000, n / 0x10000 % 256, n / 0x100 % 256, n % 256].map (Nat.toDigits 10))

/-! ## Version 6 -/

def readGroup? (cs : List Char) : Option Nat :=
  if cs.isEmpty ∨ 4 < cs.length then none else readDigits? 16 cs

/-- Reads one of four decimal numbers, without leading zeros. -/
def readByte? (cs : List Char) : Option Nat :=
  match cs with
  | [] => none
  | '0' :: _ :: _ => none
  | digits => do
    let n ← readDigits? 10 digits
    if n < 256 then some n else none

/-- Reads two groups that are written like an address of version 4. -/
def readLastGroups? (cs : List Char) : Option (List Nat) := do
  match ← (pieces (· = '.') cs).mapM readByte? with
  | [a, b, c, d] => return [256 * a + b, 256 * c + d]
  | _ => none

/-- Reads groups with colons between them. Only the last ones may be written with points. -/
def readGroups? : List (List Char) → Option (List Nat)
  | [] => some []
  | [last] => if last.contains '.' then readLastGroups? last else (readGroup? last).map ([·])
  | group :: rest => do return (← readGroup? group) :: (← readGroups? rest)

/-- Splits a text at the first two colons in a row. -/
def splitAtGap? : List Char → Option (List Char × List Char)
  | ':' :: ':' :: rest => some ([], rest)
  | c :: rest => (splitAtGap? rest).map fun (before, after) => (c :: before, after)
  | [] => none

/-- Reads the groups on one side of a gap, of which there may be none. -/
def readSide? (cs : List Char) : Option (List Nat) :=
  if cs.isEmpty then some [] else readGroups? (pieces (· = ':') cs)

/-- Reads an address of version 6: eight groups, or fewer with a gap for at least one. -/
def read6? (cs : List Char) : Option (List Nat) :=
  match splitAtGap? cs with
  | none => do
    let groups ← readGroups? (pieces (· = ':') cs)
    if groups.length = 8 then some groups else none
  | some (before, after) => do
    if before.contains '.' then none
    else
      let front ← readSide? before
      let back ← readSide? after
      let size := front.length + back.length
      if size < 8 then some (front ++ List.replicate (8 - size) 0 ++ back) else none

/-- The number of zeros at the beginning of a list of groups. -/
def leadingZeros (groups : List Nat) : Nat :=
  (groups.takeWhile (· = 0)).length

/-- The place and length of the longest stretch of zeros, the first of several. -/
def longestGap (groups : List Nat) : Nat × Nat :=
  (List.range groups.length).foldl
    (fun (best : Nat × Nat) (place : Nat) =>
      let size := leadingZeros (groups.drop place)
      if best.2 < size then (place, size) else best)
    (0, 0)

def groupsText (groups : List Nat) : List Char :=
  joinWith [':'] (groups.map hexDigits)

/-- An address of version 6 with its longest stretch of zeros left out, if that is more than one. -/
def text6 (groups : List Nat) : List Char :=
  let (place, size) := longestGap groups
  if size < 2 then groupsText groups
  else groupsText (groups.take place) ++ [':', ':'] ++ groupsText (groups.drop (place + size))

end RpcStubs.Ip
