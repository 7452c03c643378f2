import RpcStubs.Json.Writer
import RpcStubs.Proofs.Json.Numbers

/-! # Written numbers

The text of a number stands for the number wherever the text is put (`Number.Stands`): for a whole number
because its digits are read one by one, for a double if the text that is written for it is read as the
same double when it stands alone, which is all that is asked of the two conversions of doubles.
-/

namespace RpcStubs.Json

variable {cs left : List Char} {c : Char} {number : Number} {negative : Bool} {limit n : Nat}

/-! ## The text of a number -/

/-- Reads a number with its sign. -/
def readSigned : List Char → Except Fault (Number × List Char)
  | '-' :: rest => readNumber true rest
  | rest => readNumber false rest

theorem readSigned_eq (unsigned : ∀ c ∈ cs.head?, c ≠ '-') : readSigned cs = readNumber false cs := by
  unfold readSigned
  split
  · exact absurd rfl (unsigned '-' rfl)
  · rfl

theorem readSigned_digit {d : Nat} (digit : digit? c = some d) :
    readSigned (c :: cs) = readNumber false (c :: cs) := by
  refine readSigned_eq fun first same => ?_
  cases same
  rintro rfl
  cases digit

theorem takes_readSigned (read : readSigned cs = .ok (number, left)) :
    Takes Number.InRange readSigned cs number left := by
  by_cases unsigned : ∀ c ∈ cs.head?, c ≠ '-'
  · rw [readSigned_eq unsigned] at read
    obtain ⟨inRange, used, rfl, again⟩ := takes_readNumber read
    cases used with
    | nil => cases again [] nofun
    | cons c used =>
      refine ⟨inRange, c :: used, rfl, fun rest separated => ?_⟩
      rw [readSigned_eq (by simpa using unsigned)]
      exact again rest separated
  · push Not at unsigned
    obtain ⟨c, first, rfl⟩ := unsigned
    obtain ⟨cs, rfl⟩ := List.head?_eq_some_iff.1 first
    exact .cons (takes_readNumber read)

/-- A text that stands for a number wherever it is put before something that no number goes on
with. -/
structure Number.Stands (number : Number) (cs : List Char) : Prop where
  begins : ∃ c after, cs = c :: after ∧ (c = '-' ∨ (digit? c).isSome)
  reads : ∀ rest, Separated rest → readSigned (cs ++ rest) = .ok (number, rest)

theorem begins_of_readSigned (read : readSigned cs = .ok (number, left)) :
    ∃ c after, cs = c :: after ∧ (c = '-' ∨ (digit? c).isSome) := by
  cases cs with
  | nil => cases read
  | cons c cs =>
    refine ⟨c, cs, rfl, ?_⟩
    by_cases minus : c = '-'
    · exact .inl minus
    · by_cases zero : c = '0'
      · exact .inr (zero ▸ rfl)
      · have unsigned : ∀ first ∈ (c :: cs).head?, first ≠ '-' := by simpa using minus
        rw [readSigned_eq unsigned] at read
        cases digit : digit? c with
        | none => simp [readNumber, digit] at read
        | some d => exact .inr rfl

/-- It is enough to read the text by itself. -/
theorem Number.Stands.of_read (read : readSigned cs = .ok (number, [])) : number.Stands cs := by
  obtain ⟨-, used, split, again⟩ := takes_readSigned read
  rw [List.append_nil] at split
  exact ⟨begins_of_readSigned read, split ▸ again⟩

/-! ## Whole numbers -/

theorem digit?_of_isDigit (isDigit : c.isDigit = true) : digit? c = some (c.toNat - '0'.toNat) := by
  have some := digit?_isSome c
  rw [isDigit] at some
  unfold digit? at some ⊢
  split_ifs at some ⊢ with inside
  · rfl
  · cases some

theorem le_ofDigitChars (cs : List Char) (n : Nat) : n ≤ Nat.ofDigitChars 10 cs n := by
  induction cs generalizing n with
  | nil => exact Nat.le_refl n
  | cons c cs inductionHypothesis =>
    rw [Nat.ofDigitChars_cons]
    exact Nat.le_trans (by omega) (inductionHypothesis _)

theorem takeDigits_eq_of_digits (digits : ∀ c ∈ cs, c.isDigit = true)
    (below : Nat.ofDigitChars 10 cs n < limit) (count : Nat) :
    takeDigits limit n count cs = (Nat.ofDigitChars 10 cs n, count + cs.length, []) := by
  induction cs generalizing n count with
  | nil => rfl
  | cons c cs inductionHypothesis =>
    obtain ⟨isDigit, digits⟩ := List.forall_mem_cons.1 digits
    rw [Nat.ofDigitChars_cons] at below
    have here := Nat.lt_of_le_of_lt (le_ofDigitChars cs _) below
    rw [takeDigits, digit?_of_isDigit isDigit]
    simp only [here, if_true]
    rw [inductionHypothesis digits below (count + 1), Nat.ofDigitChars_cons, List.length_cons]
    simp only [Nat.add_assoc, Nat.add_comm 1]

theorem head?_toDigits_ne_zero (positive : 0 < n) : (Nat.toDigits 10 n).head? ≠ some '0' := by
  induction n using Nat.strongRecOn with
  | ind n inductionHypothesis =>
    by_cases small : n < 10
    · rw [Nat.toDigits_of_lt_base small]
      have table : ∀ n < 10, 0 < n → [Nat.digitChar n].head? ≠ some '0' := by decide
      exact table n small positive
    · rw [Nat.toDigits_of_base_le (by decide) (by omega),
        List.head?_append_of_ne_nil _ Nat.toDigits_ne_nil]
      exact inductionHypothesis (n / 10) (by omega) (by omega)

theorem readNumber_toDigits (small : n < UInt64.size) :
    readNumber negative (Nat.toDigits 10 n) = finishWhole negative n [] := by
  by_cases zero : n = 0
  · subst zero
    exact readNumber_zero noDigit_nil
  · have first := head?_toDigits_ne_zero (by omega : 0 < n)
    have digits : ∀ c ∈ Nat.toDigits 10 n, c.isDigit = true := fun c member =>
      Nat.isDigit_of_mem_toDigits (by decide) (by decide) member
    have value : Nat.ofDigitChars 10 (Nat.toDigits 10 n) 0 = n :=
      Nat.ofDigitChars_toDigits (by decide) (by decide)
    cases written : Nat.toDigits 10 n with
    | nil => exact absurd written Nat.toDigits_ne_nil
    | cons c cs =>
      rw [written] at first digits value
      obtain ⟨isDigit, digits⟩ := List.forall_mem_cons.1 digits
      have nonzero : c ≠ '0' := fun same => first (by rw [same]; rfl)
      rw [Nat.ofDigitChars_cons, Nat.mul_zero, Nat.zero_add] at value
      have below : Nat.ofDigitChars 10 cs (c.toNat - '0'.toNat) < significandLimit := by
        rw [value]
        exact small
      have taken := takeDigits_eq_of_digits digits below 1
      rw [value] at taken
      exact readNumber_eq nonzero (digit?_of_isDigit isDigit) taken noDigit_nil

theorem first_toDigits (n : Nat) : ∃ c after d, Nat.toDigits 10 n = c :: after ∧ digit? c = some d := by
  have digits : ∀ c ∈ Nat.toDigits 10 n, c.isDigit = true := fun c member =>
    Nat.isDigit_of_mem_toDigits (by decide) (by decide) member
  cases written : Nat.toDigits 10 n with
  | nil => exact absurd written Nat.toDigits_ne_nil
  | cons c cs =>
    rw [written] at digits
    exact ⟨c, cs, _, rfl, digit?_of_isDigit (digits c List.mem_cons_self)⟩

/-- A whole number that is kept exact is written with the digits that it is read from. -/
theorem stands_whole {n : Int} (inRange : (Number.whole n).InRange) :
    (Number.whole n).Stands (wholeText n) := by
  obtain ⟨atLeast, atMost⟩ := inRange
  have size : UInt64.size = 18446744073709551616 := rfl
  unfold wholeText
  by_cases negative : n < 0
  · rw [if_pos negative]
    refine .of_read ?_
    show readNumber true _ = _
    have inside : 0 < n.natAbs ∧ n.natAbs ≤ UInt64.size / 2 := by omega
    have value : -(n.natAbs : Int) = n := by omega
    rw [readNumber_toDigits (by omega), finishWhole]
    simp only [Bool.not_true, Bool.false_eq_true, if_false, inside, and_self, if_true, value]
  · rw [if_neg negative]
    obtain ⟨c, cs, d, written, digit⟩ := first_toDigits n.natAbs
    have read : readNumber false (Nat.toDigits 10 n.natAbs) = finishWhole false n.natAbs [] :=
      readNumber_toDigits (by omega)
    have value : (n.natAbs : Int) = n := by omega
    refine .of_read ?_
    rw [written] at read ⊢
    rw [readSigned_digit digit, read, finishWhole]
    simp only [Bool.not_false, if_true, value]

end RpcStubs.Json
