/-!
# Punycode

A text of any characters written in letters, digits and hyphens (RFC 3492). First come the ASCII
characters of the text, then, after a hyphen, the others in ascending order, each as the number of
steps from the one before it: a step goes to the next place in the text or, behind the last place,
to the first place and the next code point. The numbers are written with digits of varying weight,
least digit first, and the weights adapt to the numbers so far.
-/

namespace RpcStubs.Punycode

/-- The number that every number in between has to stay below. -/
def numberLimit : Nat := UInt32.size

/-- The character of a digit: `a` to `z`, then `0` to `9`. -/
def digitChar (d : Nat) : Char :=
  if d < 26 then Char.ofNat ('a'.toNat + d) else Char.ofNat ('0'.toNat + (d - 26))

def digitValue? (c : Char) : Option Nat :=
  if 'a' ≤ c ∧ c ≤ 'z' then some (c.toNat - 'a'.toNat)
  else if '0' ≤ c ∧ c ≤ '9' then some (c.toNat - '0'.toNat + 26)
  else none

def isPlain (c : Char) : Bool :=
  c.toNat < 128

/-- A digit below the threshold of its place is the last one of a number. Places are counted in
steps of 36. -/
def threshold (bias place : Nat) : Nat :=
  if place ≤ bias then 1 else if bias + 26 ≤ place then 26 else place - bias

theorem threshold_pos (bias place : Nat) : 0 < threshold bias place := by
  unfold threshold
  repeat' split
  all_goals omega

/-- Divides a number by 35 until it is small, and counts the divisions in steps of 36. -/
def shrink (delta : Nat) : Nat × Nat :=
  if 455 < delta then
    let (delta, count) := shrink (delta / 35)
    (delta, count + 36)
  else (delta, 0)
termination_by delta
decreasing_by exact Nat.div_lt_self (by omega) (by omega)

/-- The bias after a number, for a text with so many characters by then. -/
def adapt (delta size : Nat) (isFirst : Bool) : Nat :=
  let delta := if isFirst then delta / 700 else delta / 2
  let (delta, count) := shrink (delta + delta / size)
  count + 36 * delta / (delta + 38)

/-! ## Reading -/

/-- How far a text has been read: the characters so far, the last code point and the place after it,
and, of the number that is being read, its value, the weight of the next digit and its place. -/
structure Reader where
  text : List Char
  code : Nat
  start : Nat
  value : Nat
  weight : Nat
  place : Nat
  bias : Nat

/-- Whether no number is begun and not ended. -/
def Reader.isBetween (reader : Reader) : Bool :=
  reader.place = 36

/-- Puts the character in that a number leads to; nothing if there is no such character. -/
def Reader.insert? (reader : Reader) : Option Reader :=
  let size := reader.text.length + 1
  let code := reader.code + reader.value / size
  let index := reader.value % size
  if code.isValidChar then
    some {
      text := reader.text.insertIdx index (Char.ofNat code)
      code
      start := index + 1
      value := index + 1
      weight := 1
      place := 36
      bias := adapt (reader.value - reader.start) size (reader.start = 0) }
  else none

def Reader.next? (reader : Reader) (c : Char) : Option Reader := do
  let digit ← digitValue? c
  let value := reader.value + digit * reader.weight
  let t := threshold reader.bias reader.place
  let weight := reader.weight * (36 - t)
  if numberLimit ≤ value then none
  else if digit < t then Reader.insert? { reader with value := value }
  else if numberLimit ≤ weight then none
  else some { reader with value := value, weight := weight, place := reader.place + 36 }

/-- Splits a text at its last hyphen, which does not count if it is the first character. -/
def splitLast (cs : List Char) : List Char × List Char :=
  let digits := (cs.reverse.takeWhile (· ≠ '-')).reverse
  let plain := cs.take (cs.length - digits.length - 1)
  if plain.isEmpty then ([], cs) else (plain, digits)

def decode? (cs : List Char) : Option (List Char) := do
  let (plain, digits) := splitLast cs
  let reader ← digits.foldlM Reader.next? ⟨plain, 128, 0, 0, 1, 36, 72⟩
  if plain.all isPlain && reader.isBetween then some reader.text else none

/-! ## Writing -/

/-- The digits of a number from a place on. -/
def digits (bias place n : Nat) : List Char :=
  let t := threshold bias place
  if n < t then [digitChar n]
  else digitChar (t + (n - t) % (36 - t)) :: digits bias (place + 36) ((n - t) / (36 - t))
termination_by n
decreasing_by
  have h := threshold_pos bias place
  exact Nat.lt_of_le_of_lt (Nat.div_le_self _ _) (by omega)

/-- How far a text has been written: what is written, the steps since the last character, and how
many characters are written. -/
structure Writer where
  written : List Char
  steps : Nat
  bias : Nat
  size : Nat

/-- Passes a place of the text while the characters with a code point are written. -/
def Writer.pass (plainSize code : Nat) (writer : Writer) (c : Char) : Writer :=
  if c.toNat < code then { writer with steps := writer.steps + 1 }
  else if c.toNat = code then
    { written := writer.written ++ digits writer.bias 36 writer.steps
      steps := 0
      bias := adapt writer.steps (writer.size + 1) (writer.size = plainSize)
      size := writer.size + 1 }
  else writer

/-- Writes the characters with the given code points, which are in ascending order and not below
`code`. -/
def Writer.passAll (text : List Char) (plainSize : Nat) :
    (code : Nat) → List Nat → Writer → Writer
  | _, [], writer => writer
  | code, next :: rest, writer =>
    let skipped := { writer with steps := writer.steps + (next - code) * (writer.size + 1) }
    let writer := text.foldl (Writer.pass plainSize next) skipped
    passAll text plainSize (next + 1) rest { writer with steps := writer.steps + 1 }

/-- The code points of a text that are not in ASCII, each once and in ascending order. -/
def furtherCodes (cs : List Char) : List Nat :=
  ((cs.filter (!isPlain ·)).map Char.toNat).mergeSort.eraseDups

def encode (cs : List Char) : List Char :=
  let plain := cs.filter isPlain
  let written :=
    (Writer.passAll cs plain.length 128 (furtherCodes cs) ⟨[], 0, 72, plain.length⟩).written
  if plain.isEmpty then written else plain ++ '-' :: written

end RpcStubs.Punycode
