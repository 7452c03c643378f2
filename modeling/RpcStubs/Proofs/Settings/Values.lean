import Mathlib.Data.Nat.Digits.Defs
import RpcStubs.Proofs.Names.Identifier
import RpcStubs.Proofs.Python.DocstringText
import RpcStubs.Settings.Lookup

/-! # Values of variables

What a timeout and a flag may be written as, said about the text alone: which part of it is left
without the blanks around it, and what that part stands for.  Digits stand for a number by their
places, however many there are, while the reader goes through them with a count of 64 bits and gives up
as soon as the next digit makes it too large.  Both are the same because a count only grows
(`readDigits?_eq`), and zeros in front cost nothing (`digitsValue_eq_decimal`).
-/

namespace RpcStubs

open Identifier (IsDigit isDigit_iff)
open PythonText (IsBlankLine Trimmed trimmed_trimEnd trim_eq_nil_iff)

namespace Text

variable {text core digits : List Char} {n : Nat}

/-! ## Blanks around a text -/

/-- A text without the blanks around it. -/
structure Stripped (text core : List Char) : Prop where
  split : ∃ before after, text = before ++ core ++ after ∧ IsBlankLine before ∧ IsBlankLine after
  opening : ∀ c ∈ core.head?, isBlank c = false
  closing : ∀ c ∈ core.getLast?, isBlank c = false

theorem stripped_trim (text : List Char) : Stripped text (trim text) := by
  obtain ⟨⟨after, ends, blankAfter⟩, closing⟩ := trimmed_trimEnd (trimStart text)
  refine ⟨⟨text.takeWhile isBlank, after, ?_, ?_, blankAfter⟩, ?_, closing⟩
  · rw [List.append_assoc, trim, ← ends]
    exact List.takeWhile_append_dropWhile.symm
  · intro c member
    exact List.mem_takeWhile_imp member
  · intro c first
    have stopped := List.head?_dropWhile_not isBlank text
    have begins : (text.dropWhile isBlank).head? = some c := by
      rw [← trimStart, ends, List.head?_append, ← trim, Option.mem_def.1 first]
      rfl
    rwa [begins] at stopped

theorem Stripped.of_filled (filled : ∀ c ∈ text, isBlank c = false) : Stripped text text where
  split := ⟨[], [], by simp, by simp [IsBlankLine], by simp [IsBlankLine]⟩
  opening c first := filled c (List.mem_of_mem_head? first)
  closing c last := filled c (List.mem_of_mem_getLast? last)

theorem Stripped.eq_trim (stripped : Stripped text core) : core = trim text := by
  obtain ⟨⟨before, after, rfl, blankBefore, blankAfter⟩, opening, closing⟩ := stripped
  cases core with
  -- without a core there is one run of blanks, wherever it is cut in two
  | nil =>
    refine (trim_eq_nil_iff.2 fun c member => ?_).symm
    rw [List.append_nil, List.mem_append] at member
    exact member.elim (blankBefore c) (blankAfter c)
  | cons first rest =>
    have begins : trimStart (before ++ (first :: rest) ++ after) = first :: rest ++ after := by
      rw [trimStart, List.append_assoc, List.dropWhile_append_of_pos blankBefore]
      exact List.dropWhile_cons_of_neg (by simp [opening first rfl])
    have ends : Trimmed (first :: rest ++ after) (first :: rest) :=
      ⟨⟨after, rfl, blankAfter⟩, closing⟩
    rw [trim, begins]
    exact ends.eq_trimEnd

theorem Stripped.unique {other : List Char} (first : Stripped text core)
    (second : Stripped text other) : core = other :=
  first.eq_trim.trans second.eq_trim.symm

/-! ## Decimal numbers -/

/-- The value of digits by their places: the last one counts ones, the one before it tens. -/
def decimal (digits : List Char) : Nat :=
  Nat.ofDigits 10 (digits.reverse.map fun c => c.toNat - '0'.toNat)

/-- The value of digits, one after the other behind a count. -/
def valueAfter (count : Nat) (digits : List Char) : Nat :=
  digits.foldl (fun n c => 10 * n + (c.toNat - '0'.toNat)) count

def digitsValue (digits : List Char) : Nat :=
  valueAfter 0 digits

theorem digitsValue_eq_decimal (digits : List Char) : digitsValue digits = decimal digits := by
  -- the places count from the right, so the fold over them is the accumulator's from the left
  rw [decimal, Nat.ofDigits_eq_foldr, List.foldr_map, List.foldr_reverse, digitsValue, valueAfter]
  congr 1
  funext value c
  exact Nat.add_comm _ _

theorem isBlank_of_isDigit {c : Char} (digit : IsDigit c) : isBlank c = false := by
  obtain ⟨lower, upper⟩ := digit
  have lower : 48 ≤ c.toNat := lower
  have upper : c.toNat ≤ 57 := upper
  simp only [isBlank, Bool.or_eq_false_iff, Bool.and_eq_false_iff, decide_eq_false_iff_not,
    beq_eq_false_iff_ne]
  omega

/-- Digits that stand for a number, with zeros in front or not. -/
structure Numeral (digits : List Char) (n : Nat) : Prop where
  nonempty : digits ≠ []
  allDigits : ∀ c ∈ digits, IsDigit c
  value : decimal digits = n

theorem Numeral.of_toString (n : Nat) : Numeral (toString n).toList n := by
  rw [Nat.toString_eq_repr, Nat.toList_repr]
  refine ⟨Nat.toDigits_ne_nil, fun c member => ?_, ?_⟩
  · rw [← isDigit_iff]
    exact Nat.isDigit_of_mem_toDigits (b := 10) (by decide) (by decide) member
  · rw [← digitsValue_eq_decimal]
    exact Nat.ofDigitChars_toDigits (b := 10) (by decide) (by decide)

/-- A number with a plus sign or without one. -/
def CountText (text : List Char) (n : Nat) : Prop :=
  ∃ digits, (text = digits ∨ text = '+' :: digits) ∧ Numeral digits n

theorem withoutPlus_eq_self (unsigned : ∀ c ∈ text.head?, c ≠ '+') : withoutPlus text = text := by
  unfold withoutPlus
  split
  · exact absurd rfl (unsigned '+' rfl)
  · rfl

theorem withoutPlus_of_numeral (numeral : Numeral digits n) : withoutPlus digits = digits := by
  refine withoutPlus_eq_self fun c first => ?_
  have digit := (isDigit_iff c).2 (numeral.allDigits c (List.mem_of_mem_head? first))
  rintro rfl
  cases digit

theorem countText_iff : CountText text n ↔ Numeral (withoutPlus text) n := by
  constructor
  · rintro ⟨digits, rfl | rfl, numeral⟩
    · rwa [withoutPlus_of_numeral numeral]
    · exact numeral
  · intro numeral
    refine ⟨withoutPlus text, ?_, numeral⟩
    unfold withoutPlus
    split <;> simp

theorem CountText.unique {m : Nat} (first : CountText text m) (second : CountText text n) :
    m = n :=
  (countText_iff.1 first).value.symm.trans (countText_iff.1 second).value

/-! ## Counting in 64 bits -/

/-- Digits only make a count greater. -/
theorem le_valueAfter (count : Nat) (digits : List Char) : count ≤ valueAfter count digits := by
  induction digits generalizing count with
  | nil => exact Nat.le_refl count
  | cons c rest inductionHypothesis =>
    calc count ≤ 10 * count + (c.toNat - '0'.toNat) := by omega
      _ ≤ valueAfter count (c :: rest) := inductionHypothesis _

theorem checkedMul?_eq (a b : UInt64) : checkedMul? a b =
    if a.toNat * b.toNat < UInt64.size then some (UInt64.ofNat (a.toNat * b.toNat)) else none := by
  simp only [checkedMul?, UInt64.ofNat_mul, UInt64.ofNat_toNat]

theorem checkedAdd?_eq (a b : UInt64) : checkedAdd? a b =
    if a.toNat + b.toNat < UInt64.size then some (UInt64.ofNat (a.toNat + b.toNat)) else none := by
  simp only [checkedAdd?, UInt64.ofNat_add, UInt64.ofNat_toNat]

/-- A digit is taken in if the count with it fits into 64 bits. -/
theorem readDigits?_cons {c : Char} (digit : c.isDigit = true) (count : UInt64) (rest : List Char) :
    readDigits? count (c :: rest) =
      if 10 * count.toNat + (c.toNat - '0'.toNat) < UInt64.size then
        readDigits? (UInt64.ofNat (10 * count.toNat + (c.toNat - '0'.toNat))) rest
      else none := by
  obtain ⟨-, upper⟩ := (isDigit_iff c).1 digit
  have upper : c.toNat ≤ 57 := upper
  have small : (UInt64.ofNat (c.toNat - '0'.toNat)).toNat = c.toNat - '0'.toNat :=
    UInt64.toNat_ofNat_of_lt' (by rw [UInt64.size]; omega)
  have ten : (10 : UInt64).toNat = 10 := rfl
  simp only [readDigits?, digitCount?, digit, if_true, Option.bind_eq_bind, Option.bind_some,
    checkedMul?_eq, checkedAdd?_eq, small, ten, Nat.mul_comm 10]
  -- the sum can fit only if the product does
  by_cases tens : count.toNat * 10 < UInt64.size
  · rw [if_pos tens, Option.bind_some, UInt64.toNat_ofNat_of_lt' tens]
    split_ifs <;> rfl
  · rw [if_neg tens, if_neg (by omega)]
    rfl

/-- The count is checked at every digit, and that comes to the same as one check at the end. -/
theorem readDigits?_eq (allDigits : ∀ c ∈ digits, c.isDigit = true) {count : UInt64} :
    readDigits? count digits =
      if valueAfter count.toNat digits < UInt64.size then
        some (UInt64.ofNat (valueAfter count.toNat digits))
      else none := by
  induction digits generalizing count with
  | nil =>
    have same : valueAfter count.toNat [] = count.toNat := rfl
    rw [same, if_pos count.toNat_lt, UInt64.ofNat_toNat]
    rfl
  | cons c rest inductionHypothesis =>
    obtain ⟨digit, others⟩ := List.forall_mem_cons.1 allDigits
    have step : valueAfter count.toNat (c :: rest) =
        valueAfter (10 * count.toNat + (c.toNat - '0'.toNat)) rest := rfl
    rw [readDigits?_cons digit, step]
    by_cases fits : 10 * count.toNat + (c.toNat - '0'.toNat) < UInt64.size
    · rw [if_pos fits, inductionHypothesis others, UInt64.toNat_ofNat_of_lt' fits]
    · have beyond := le_valueAfter (10 * count.toNat + (c.toNat - '0'.toNat)) rest
      rw [if_neg fits, if_neg (by omega)]

theorem readDigits?_of_not_isDigit {c : Char} (other : c.isDigit = false) (member : c ∈ digits)
    (count : UInt64) : readDigits? count digits = none := by
  induction digits generalizing count with
  | nil => cases member
  | cons first rest inductionHypothesis =>
    rcases List.mem_cons.1 member with rfl | member
    · simp [readDigits?, digitCount?, other]
    · simp [readDigits?, inductionHypothesis member]

theorem readCount?_of_countText (counts : CountText text n) :
    readCount? text = if n < UInt64.size then some (UInt64.ofNat n) else none := by
  obtain ⟨nonempty, allDigits, value⟩ := countText_iff.1 counts
  have read : readCount? text = readDigits? 0 (withoutPlus text) := by
    unfold readCount?
    split
    next none => exact absurd none nonempty
    next => rfl
  rw [read, readDigits?_eq fun c member => (isDigit_iff c).2 (allDigits c member)]
  rw [← value, ← digitsValue_eq_decimal]
  rfl

theorem readCount?_of_not_countText (other : ∀ n, ¬ CountText text n) : readCount? text = none := by
  unfold readCount?
  split
  next => rfl
  next nonempty =>
    by_cases allDigits : ∀ c ∈ withoutPlus text, c.isDigit = true
    · refine absurd (countText_iff.2 ⟨nonempty, fun c member => ?_, rfl⟩) (other _)
      exact (isDigit_iff c).1 (allDigits c member)
    · simp only [not_forall, Bool.not_eq_true] at allDigits
      obtain ⟨c, member, notDigit⟩ := allDigits
      exact readDigits?_of_not_isDigit notDigit member 0

/-- What is read is the number itself, and it is read if it fits into 64 bits. -/
theorem readCount?_eq_some_iff {count : UInt64} :
    readCount? text = some count ↔ CountText text count.toNat := by
  constructor
  · intro read
    by_cases counts : ∃ n, CountText text n
    · obtain ⟨n, counts⟩ := counts
      rw [readCount?_of_countText counts] at read
      split at read
      next small =>
        cases read
        rwa [UInt64.toNat_ofNat_of_lt' small]
      next => cases read
    · rw [readCount?_of_not_countText (not_exists.1 counts)] at read
      cases read
  · intro counts
    rw [readCount?_of_countText counts, if_pos count.toNat_lt, UInt64.ofNat_toNat]

theorem readCount?_eq_none_iff : readCount? text = none ↔ ∀ n, CountText text n → 2 ^ 64 ≤ n := by
  constructor
  · intro unread n counts
    rw [readCount?_of_countText counts] at unread
    split at unread
    next => cases unread
    next large => exact Nat.le_of_not_lt large
  · intro large
    cases read : readCount? text with
    | none => rfl
    | some count =>
      exact absurd (large _ (readCount?_eq_some_iff.1 read)) (Nat.not_le_of_lt count.toNat_lt)

end Text

namespace Settings

open Text

variable {value key : String} {seconds : UInt64} {flag : Bool} {fault : SettingFault}

/-- A value with nothing but blanks. -/
def Blank (value : String) : Prop :=
  IsBlankLine value.toList

instance (value : String) : Decidable (Blank value) :=
  inferInstanceAs (Decidable (IsBlankLine value.toList))

theorem blank_iff : (trim value.toList).isEmpty = true ↔ Blank value :=
  List.isEmpty_iff.trans trim_eq_nil_iff

theorem Blank.core_eq_nil {core : List Char} (blank : Blank value)
    (stripped : Stripped value.toList core) : core = [] := by
  rw [stripped.eq_trim]
  exact trim_eq_nil_iff.2 blank

/-! ## Timeouts -/

/-- A value that is a number of seconds: without the blanks around it, a count of at least one that
fits into 64 bits. -/
def TimeoutText (value : String) (n : Nat) : Prop :=
  ∃ core, Stripped value.toList core ∧ CountText core n ∧ 1 ≤ n ∧ n < 2 ^ 64

/-- Why a value that is not blank is no timeout: it is zero, or nothing that fits into 64 bits. -/
inductive NoTimeout (value : String) : SettingFault → Prop where
  | zero {core : List Char} : Stripped value.toList core → CountText core 0 →
      NoTimeout value (.zeroTimeout timeoutKey)
  | unreadable {core : List Char} : Stripped value.toList core →
      (∀ n, CountText core n → 2 ^ 64 ≤ n) → NoTimeout value (.badTimeout timeoutKey value)

theorem readTimeout_eq_ok_iff :
    readTimeout value = .ok seconds ↔ TimeoutText value seconds.toNat := by
  constructor
  · intro read
    unfold readTimeout at read
    split at read
    next => cases read
    next count counted =>
      split at read
      next => cases read
      next nonzero =>
        cases read
        have positive : 1 ≤ seconds.toNat := Nat.one_le_iff_ne_zero.2 fun zero =>
          nonzero (UInt64.toNat_inj.1 zero)
        exact ⟨_, stripped_trim _, readCount?_eq_some_iff.1 counted, positive, seconds.toNat_lt⟩
  · rintro ⟨core, stripped, counts, positive, small⟩
    obtain rfl := stripped.eq_trim
    have nonzero : seconds ≠ 0 := by
      rintro rfl
      exact absurd positive (by decide)
    simp only [readTimeout, readCount?_eq_some_iff.2 counts, nonzero, if_false]

theorem readTimeout_eq_error_iff : readTimeout value = .error fault ↔ NoTimeout value fault := by
  constructor
  · intro failed
    unfold readTimeout at failed
    split at failed
    next unread =>
      cases failed
      exact .unreadable (stripped_trim _) (readCount?_eq_none_iff.1 unread)
    next count counted =>
      split at failed
      next zero =>
        cases failed
        subst zero
        exact .zero (stripped_trim _) (readCount?_eq_some_iff.1 counted)
      next => cases failed
  · intro noTimeout
    cases noTimeout with
    | zero stripped counts =>
      obtain rfl := stripped.eq_trim
      have counted : readCount? (trim value.toList) = some 0 := readCount?_eq_some_iff.2 counts
      simp only [readTimeout, counted, if_true]
    | unreadable stripped large =>
      obtain rfl := stripped.eq_trim
      simp only [readTimeout, readCount?_eq_none_iff.2 large]

theorem TimeoutText.filled {n : Nat} (timeout : TimeoutText value n) : ¬ Blank value := by
  obtain ⟨core, stripped, counts, -, -⟩ := timeout
  intro blank
  obtain rfl := blank.core_eq_nil stripped
  exact (countText_iff.1 counts).nonempty rfl

theorem TimeoutText.of_toString {n : Nat} (positive : 1 ≤ n) (small : n < 2 ^ 64) :
    TimeoutText (toString n) n := by
  have numeral := Numeral.of_toString n
  exact ⟨_, .of_filled fun c member => isBlank_of_isDigit (numeral.allDigits c member),
    ⟨_, .inl rfl, numeral⟩, positive, small⟩

/-! ## Flags -/

/-- The words for a flag. -/
def flagWords : Bool → List String
  | true => ["true", "1", "yes"]
  | false => ["false", "0", "no"]

/-- A value that is a word for a flag, with letters of either case and with blanks around it or
not. -/
def FlagText (value : String) (flag : Bool) : Prop :=
  ∃ core, Stripped value.toList core ∧ String.ofList (lowercase core) ∈ flagWords flag

theorem flagText_iff :
    FlagText value flag ↔ String.ofList (lowercase (trim value.toList)) ∈ flagWords flag := by
  constructor
  · rintro ⟨core, stripped, word⟩
    rwa [stripped.eq_trim] at word
  · intro word
    exact ⟨_, stripped_trim _, word⟩

/-- No word stands for both flags, so it does not matter which words are tried first. -/
theorem not_flagText_true (flagged : FlagText value false) : ¬ FlagText value true := by
  have apart : ∀ word ∈ flagWords false, word ∉ flagWords true := by decide
  rw [flagText_iff] at flagged ⊢
  exact apart _ flagged

theorem FlagText.filled (flagged : FlagText value flag) : ¬ Blank value := by
  obtain ⟨core, stripped, word⟩ := flagged
  intro blank
  obtain rfl := blank.core_eq_nil stripped
  cases flag with
  | false => exact absurd word (by decide)
  | true => exact absurd word (by decide)

theorem FlagText.of_flag (flag : Bool) : FlagText (if flag then "true" else "false") flag := by
  rw [flagText_iff]
  revert flag
  decide +kernel

theorem readFlag_of_flagText (flagged : FlagText value flag) : readFlag key value = .ok flag := by
  cases flag with
  -- the words for true are tried before
  | false =>
    have other := not_flagText_true flagged
    simp only [flagText_iff, flagWords] at flagged other
    simp only [readFlag, List.contains_eq_mem, flagged, other, decide_true, decide_false, if_true,
      Bool.false_eq_true, if_false]
  | true =>
    simp only [flagText_iff, flagWords] at flagged
    simp only [readFlag, List.contains_eq_mem, flagged, decide_true, if_true]

theorem readFlag_of_not_flagText (other : ∀ flag, ¬ FlagText value flag) :
    readFlag key value = .error (.badFlag key value) := by
  have notTrue := other true
  have notFalse := other false
  simp only [flagText_iff, flagWords] at notTrue notFalse
  simp only [readFlag, List.contains_eq_mem, notTrue, notFalse, decide_false, Bool.false_eq_true,
    if_false]

theorem readFlag_eq_ok_iff : readFlag key value = .ok flag ↔ FlagText value flag := by
  constructor
  · intro read
    by_cases flagged : ∃ flag, FlagText value flag
    · obtain ⟨found, flagged⟩ := flagged
      rw [readFlag_of_flagText flagged] at read
      cases read
      exact flagged
    · rw [readFlag_of_not_flagText (not_exists.1 flagged)] at read
      cases read
  · exact readFlag_of_flagText

theorem readFlag_eq_error_iff :
    readFlag key value = .error fault ↔
      (∀ flag, ¬ FlagText value flag) ∧ fault = .badFlag key value := by
  constructor
  · intro failed
    have other : ∀ flag, ¬ FlagText value flag := by
      intro flag flagged
      rw [readFlag_of_flagText flagged] at failed
      cases failed
    rw [readFlag_of_not_flagText other] at failed
    cases failed
    exact ⟨other, rfl⟩
  · rintro ⟨other, rfl⟩
    exact readFlag_of_not_flagText other

end Settings

end RpcStubs
