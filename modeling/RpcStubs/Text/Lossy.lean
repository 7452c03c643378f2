/-!
# UTF-8 with replacement

Decodes any sequence of bytes. Where the bytes do not form a character, the longest beginning of one
that is there gives a single replacement character, and decoding goes on after it.
-/

namespace RpcStubs.Text

/-- The character that stands for bytes that do not form one. -/
def replacementChar : Char := Char.ofNat 0xFFFD

/-- The ranges that the bytes after a first byte have to lie in; nothing for a byte that begins no
character. -/
def continuationRanges? (first : Nat) : Option (List (Nat × Nat)) :=
  let any := (0x80, 0xBF)
  if first < 0x80 then some []
  else if 0xC2 ≤ first ∧ first ≤ 0xDF then some [any]
  else if first = 0xE0 then some [(0xA0, 0xBF), any]
  else if first = 0xED then some [(0x80, 0x9F), any]
  else if 0xE1 ≤ first ∧ first ≤ 0xEF then some [any, any]
  else if first = 0xF0 then some [(0x90, 0xBF), any, any]
  else if 0xF1 ≤ first ∧ first ≤ 0xF3 then some [any, any, any]
  else if first = 0xF4 then some [(0x80, 0x8F), any, any]
  else none

/-- The bits that a first byte gives to its character. -/
def leadBits (first : Nat) : Nat :=
  if first < 0x80 then first
  else if first < 0xE0 then first - 0xC0
  else if first < 0xF0 then first - 0xE0
  else first - 0xF0

/-- Takes the continuation bytes of a character whose bits so far are `bits`. -/
def takeContinuation (bits : Nat) : List (Nat × Nat) → List UInt8 → Char × List UInt8
  | [], bytes => (Char.ofNat bits, bytes)
  | _ :: _, [] => (replacementChar, [])
  | range :: ranges, b :: bytes =>
    if range.1 ≤ b.toNat ∧ b.toNat ≤ range.2 then
      takeContinuation (bits * 64 + (b.toNat - 0x80)) ranges bytes
    else (replacementChar, b :: bytes)

/-- Decodes at most `fuel` characters. -/
def decodeChars : (fuel : Nat) → List UInt8 → List Char
  | 0, _ => []
  | _ + 1, [] => []
  | fuel + 1, b :: bytes =>
    match continuationRanges? b.toNat with
    | none => replacementChar :: decodeChars fuel bytes
    | some ranges =>
      let (c, rest) := takeContinuation (leadBits b.toNat) ranges bytes
      c :: decodeChars fuel rest

/-- The text of a sequence of bytes, with replacement characters where it is not UTF-8. -/
def lossy (bytes : ByteArray) : String :=
  String.ofList (decodeChars bytes.size bytes.toList)

end RpcStubs.Text
