import RpcStubs.Text.Hexadecimal

/-!
# Percent-encoding

Characters that may not stand in a part of an address are written as the bytes of their UTF-8 form,
each as a percent sign and two hexadecimal digits.
-/

namespace RpcStubs.Percent

/-- A byte as a percent sign and two upper-case hexadecimal digits. -/
def encodeByte (b : UInt8) : List Char :=
  '%' :: (Text.hexPair b.toNat).map Char.toUpper

/-- A text with every control, every character outside of ASCII and every character of `reserved`
encoded. -/
def encode (reserved : List Char) (cs : List Char) : List Char :=
  cs.flatMap fun (c : Char) =>
    if c.toNat < 0x20 ∨ 0x7F ≤ c.toNat ∨ reserved.contains c then
      c.toString.toUTF8.toList.flatMap encodeByte
    else [c]

/-- Bytes with every encoded byte decoded. A percent sign without two digits stands for itself. -/
def decodeBytes : List UInt8 → List UInt8
  | [] => []
  | b :: high :: low :: rest =>
    if b.toNat = '%'.toNat then
      match Text.hexDigit? (Char.ofNat high.toNat), Text.hexDigit? (Char.ofNat low.toNat) with
      | some h, some l => UInt8.ofNat (16 * h + l) :: decodeBytes rest
      | _, _ => b :: decodeBytes (high :: low :: rest)
    else b :: decodeBytes (high :: low :: rest)
  | b :: rest => b :: decodeBytes rest

/-- The text that an encoded text stands for; nothing if its bytes are not UTF-8. -/
def decode? (cs : List Char) : Option (List Char) :=
  (String.fromUTF8? ⟨(decodeBytes (String.ofList cs).toUTF8.toList).toArray⟩).map String.toList

end RpcStubs.Percent
