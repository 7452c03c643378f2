import RpcStubs.Json.Reader
import RpcStubs.Json.Writer
import RpcStubs.Proofs.Except

/-! # Strings in JSON text

A string that was written as JSON text is read back as it was, whatever text comes after it.  That is
shown character by character: each is written as itself, as an escape with a letter or as one with the
hexadecimal digits of a control character, and each is read before the next one is looked at.
-/

namespace RpcStubs.Json

theorem readUnit_hexPair {n : Nat} (control : n < 0x20) (rest : List Char) :
    readUnit ('0' :: '0' :: Text.hexPair n ++ rest) = .ok (n, rest) := by
  have digits : ∀ n < 0x20, Text.byteLength ('0' :: '0' :: Text.hexPair n) = 4 ∧
      ('0' :: '0' :: Text.hexPair n).mapM Text.hexDigit? = some [0, 0, n / 16, n % 16] := by
    decide
  obtain ⟨size, values⟩ := digits n control
  have taken : ('0' :: '0' :: Text.hexPair n ++ rest).take 4 = '0' :: '0' :: Text.hexPair n := rfl
  unfold readUnit
  simp only [taken, size, values]
  simp only [List.foldl_cons, List.foldl_nil]
  have value : 16 * (16 * (16 * (16 * 0 + 0) + 0) + n / 16) + n % 16 = n := by omega
  rw [value]
  rfl

theorem readEscape_control {c : Char} (control : c.toNat < 0x20) (rest : List Char) :
    readEscape ('u' :: '0' :: '0' :: Text.hexPair c.toNat ++ rest) = .ok (c, rest) := by
  have unit := readUnit_hexPair control rest
  simp only [List.cons_append] at unit ⊢
  rw [readEscape, unit]
  show (if 0xDC00 ≤ c.toNat ∧ c.toNat ≤ 0xDFFF then _ else _) = _
  rw [if_neg (by omega), if_neg (by omega), Char.ofNat_toNat]

theorem readCharOrQuote_charText (c : Char) (rest : List Char) :
    readCharOrQuote (charText c ++ rest) = .ok (some c, rest) := by
  unfold charText
  split_ifs with quote backslash backspace feed line carriage tab control
  iterate 7
    · subst_vars
      rfl
  · show (readEscape ('u' :: '0' :: '0' :: Text.hexPair c.toNat ++ rest) >>=
      fun escaped => pure (some escaped.1, escaped.2)) = _
    rw [readEscape_control control]
    rfl
  · simp only [List.cons_append, List.nil_append, readCharOrQuote]
    rw [if_neg quote, if_neg backslash, if_neg control]

theorem readChars_append (chars : List Char) {fuel : Nat} (enough : chars.length < fuel)
    (rest : List Char) :
    readChars fuel (chars.flatMap charText ++ '"' :: rest) = .ok (chars, rest) := by
  induction chars generalizing fuel with
  | nil =>
    obtain ⟨fuel, rfl⟩ := Nat.exists_eq_succ_of_ne_zero (Nat.ne_of_gt enough)
    rfl
  | cons c chars inductionHypothesis =>
    obtain ⟨fuel, rfl⟩ := Nat.exists_eq_succ_of_ne_zero (Nat.ne_of_gt (Nat.zero_lt_of_lt enough))
    rw [List.flatMap_cons, List.append_assoc, readChars, readCharOrQuote_charText]
    show (readChars fuel _ >>= _) = _
    rw [inductionHypothesis (by simpa using enough)]
    rfl

theorem readString_append (s : String) {fuel : Nat} (enough : s.toList.length < fuel)
    (rest : List Char) :
    readString fuel (s.toList.flatMap charText ++ '"' :: rest) = .ok (s, rest) := by
  rw [readString, readChars_append s.toList enough]
  exact congrArg (fun text => Except.ok (text, rest)) String.ofList_toList

theorem stringText_append (s : String) (rest : List Char) :
    stringText s ++ rest = '"' :: (s.toList.flatMap charText ++ '"' :: rest) := by
  simp [stringText]

theorem charText_ne_nil (c : Char) : charText c ≠ [] := by
  unfold charText
  split_ifs <;> simp

/-- The quotes and at least one character for each of the string. -/
theorem length_stringText (s : String) : s.toList.length + 2 ≤ (stringText s).length := by
  have each (chars : List Char) : chars.length ≤ (chars.flatMap charText).length := by
    induction chars with
    | nil => simp
    | cons c chars inductionHypothesis =>
      have some := List.length_pos_iff.2 (charText_ne_nil c)
      rw [List.flatMap_cons, List.length_append, List.length_cons]
      omega
  have here := each s.toList
  simp only [stringText, List.length_cons, List.length_append, List.length_nil]
  omega

end RpcStubs.Json
