import Mathlib.Data.List.TakeWhile
import RpcStubs.Json.Reader
import RpcStubs.Proofs.Except

/-! # Numbers in JSON text

A number is read up to where it ends, and what comes after it makes no difference as long as no number
goes on with it (`Separated`).  So what is known of a number that was read by itself is known of the same
number in the middle of a text.  And every whole number that is read is one of 64 bits, for what is out of
that range or has a fraction or an exponent is read as a double.  Both are shown at once for each of the
readers that a number passes (`Takes`), up to the one for all of it: `takes_readNumber`.
-/

namespace RpcStubs.Json

variable {cs left rest : List Char} {c : Char} {number : Number} {negative lowering : Bool}
  {significand limit n count : Nat} {exponent : Int}

theorem digit?_isSome (c : Char) : (digit? c).isSome = c.isDigit := by
  unfold digit? Char.isDigit
  split_ifs with inside
  · simpa [Char.le_def] using inside
  · simpa [Char.le_def] using inside

theorem isDigit_of_some {d : Nat} (digit : digit? c = some d) : c.isDigit = true := by
  rw [← digit?_isSome, digit]
  rfl

theorem isDigit_of_none (noDigit : digit? c = none) : c.isDigit = false := by
  rw [← digit?_isSome, noDigit]
  rfl

theorem digit?_lt {d : Nat} (digit : digit? c = some d) : d < 10 := by
  unfold digit? at digit
  split_ifs at digit with inside
  obtain ⟨-, atMost⟩ := inside
  have atMost : c.toNat ≤ '9'.toNat := atMost
  have nine : '9'.toNat = '0'.toNat + 9 := rfl
  have value : c.toNat - '0'.toNat = d := Option.some.inj digit
  omega

/-- A text that does not begin with a digit. -/
def NoDigit (cs : List Char) : Prop :=
  ∀ c ∈ cs.head?, digit? c = none

/-- A text that no number goes on with. -/
def Separated (cs : List Char) : Prop :=
  ∀ c ∈ cs.head?, digit? c = none ∧ c ≠ '.' ∧ c ≠ 'e' ∧ c ≠ 'E'

theorem Separated.noDigit (separated : Separated rest) : NoDigit rest :=
  fun c first => (separated c first).1

theorem noDigit_nil : NoDigit [] :=
  nofun

theorem noDigit_cons : NoDigit (c :: cs) ↔ digit? c = none := by
  simp [NoDigit]

theorem exists_digit (digit : ¬ NoDigit cs) :
    ∃ c rest d, cs = c :: rest ∧ digit? c = some d := by
  cases cs with
  | nil => exact absurd noDigit_nil digit
  | cons c rest =>
    obtain ⟨d, value⟩ := Option.ne_none_iff_exists'.1 (noDigit_cons.not.1 digit)
    exact ⟨c, rest, d, rfl, value⟩

/-- What both the text and its new end begin with, the text begins with that has the new end. -/
theorem head?_replace {p : Char → Prop} {used : List Char} (whole : ∀ c ∈ (used ++ left).head?, p c)
    (newEnd : ∀ c ∈ rest.head?, p c) : ∀ c ∈ (used ++ rest).head?, p c := by
  cases used with
  | nil => exact newEnd
  | cons c used => exact whole

/-! ## Digits -/

theorem dropWhile_eq_of_noDigit (noDigit : NoDigit cs) : cs.dropWhile Char.isDigit = cs := by
  cases cs with
  | nil => rfl
  | cons c cs =>
    have stop := isDigit_of_none (noDigit_cons.1 noDigit)
    rw [List.dropWhile_cons_of_neg (by simp [stop])]

theorem noDigit_dropWhile (cs : List Char) : NoDigit (cs.dropWhile Char.isDigit) := by
  intro c first
  have stop := List.head?_dropWhile_not Char.isDigit cs
  rw [Option.mem_def.1 first] at stop
  have none := digit?_isSome c
  rw [stop] at none
  simpa using none

theorem dropWhile_takeWhile_append (cs : List Char) (noDigit : NoDigit rest) :
    (cs.takeWhile Char.isDigit ++ rest).dropWhile Char.isDigit = rest := by
  rw [List.dropWhile_append_of_pos fun c member => List.mem_takeWhile_imp member]
  exact dropWhile_eq_of_noDigit noDigit

theorem takeWhile_takeWhile_append (cs : List Char) (noDigit : NoDigit rest) :
    (cs.takeWhile Char.isDigit ++ rest).takeWhile Char.isDigit = cs.takeWhile Char.isDigit := by
  rw [List.takeWhile_append_of_pos fun c member => List.mem_takeWhile_imp member]
  cases rest with
  | nil => simp
  | cons c rest =>
    have stop := isDigit_of_none (noDigit_cons.1 noDigit)
    simp [stop]

theorem takeDigits_of_noDigit (noDigit : NoDigit cs) : takeDigits limit n count cs = (n, count, cs) := by
  cases cs with
  | nil => rfl
  | cons c cs =>
    rw [takeDigits, noDigit_cons.1 noDigit]

/-- Where digits are no longer taken depends on the next character only, and any that is no digit
will do. -/
theorem takeDigits_stop {n' count' : Nat} {after : List Char}
    (taken : takeDigits limit n count cs = (n', count', after)) :
    ∃ used, cs = used ++ after ∧ ∀ rest, rest.head? = after.head? ∨ NoDigit rest →
      takeDigits limit n count (used ++ rest) = (n', count', rest) := by
  induction cs generalizing n count with
  | nil =>
    cases taken
    refine ⟨[], rfl, fun rest stop => takeDigits_of_noDigit ?_⟩
    rcases stop with same | stop
    · simp [NoDigit, same]
    · exact stop
  | cons c cs inductionHypothesis =>
    rw [takeDigits] at taken
    cases digit : digit? c with
    | none =>
      rw [digit] at taken
      cases taken
      refine ⟨[], rfl, fun rest stop => takeDigits_of_noDigit ?_⟩
      rcases stop with same | stop
      · simp [NoDigit, same, digit]
      · exact stop
    | some d =>
      rw [digit] at taken
      -- a digit that leads over the limit is left like a character that is none
      by_cases below : 10 * n + d < limit
      · simp only [below, if_true] at taken
        obtain ⟨used, rfl, again⟩ := inductionHypothesis taken
        refine ⟨c :: used, rfl, fun rest stop => ?_⟩
        rw [List.cons_append, takeDigits, digit]
        simp only [below, if_true]
        exact again rest stop
      · simp only [below, if_false] at taken
        cases taken
        refine ⟨[], rfl, fun rest stop => ?_⟩
        rcases stop with same | stop
        · cases rest with
          | nil => simp at same
          | cons c' rest =>
            obtain rfl : c' = c := by simpa using same
            rw [List.nil_append, takeDigits, digit]
            simp only [below, if_false]
        · exact takeDigits_of_noDigit stop

theorem takeDigits_lt (below : n < limit) (count : Nat) (cs : List Char) :
    (takeDigits limit n count cs).1 < limit := by
  induction cs generalizing n count with
  | nil => exact below
  | cons c cs inductionHypothesis =>
    rw [takeDigits]
    cases digit? c with
    | none => exact below
    | some d =>
      dsimp only
      split_ifs with further
      · exact inductionHypothesis further _
      · exact below

/-! ## Kinds of numbers -/

/-- Numbers that are read as doubles. -/
def Number.IsDouble (number : Number) : Prop :=
  ∃ x, number = .double x

/-- Numbers of which the whole ones are kept exact. -/
def Number.InRange : Number → Prop
  | .whole n => -9223372036854775808 ≤ n ∧ n < 18446744073709551616
  | .double _ => True

theorem Number.IsDouble.inRange (double : number.IsDouble) : number.InRange := by
  obtain ⟨x, rfl⟩ := double
  trivial

/-! ## Reading up to the end of a number -/

/-- A reader takes a number of some kind from the beginning of a text, and takes the same number from
there whatever comes after it that no number goes on with. -/
structure Takes (kind : Number → Prop) (reader : List Char → Except Fault (Number × List Char))
    (cs : List Char) (number : Number) (left : List Char) : Prop where
  isKind : kind number
  reads : ∃ used, cs = used ++ left ∧
    ∀ rest, Separated rest → reader (used ++ rest) = .ok (number, rest)

namespace Takes

variable {kind : Number → Prop} {reader reader' : List Char → Except Fault (Number × List Char)}

theorem inRange (takes : Takes Number.IsDouble reader cs number left) :
    Takes Number.InRange reader cs number left :=
  ⟨takes.isKind.inRange, takes.reads⟩

theorem cons (takes : Takes kind (fun more => reader (c :: more)) cs number left) :
    Takes kind reader (c :: cs) number left := by
  obtain ⟨isKind, used, rfl, again⟩ := takes
  exact ⟨isKind, c :: used, rfl, again⟩

/-- Readers that agree on texts of which something is known at the beginning. -/
theorem congr {p : Char → Prop} (takes : Takes kind reader cs number left)
    (begins : ∀ c ∈ cs.head?, p c) (ends : ∀ rest, Separated rest → ∀ c ∈ rest.head?, p c)
    (same : ∀ more, (∀ c ∈ more.head?, p c) → reader' more = reader more) :
    Takes kind reader' cs number left := by
  obtain ⟨isKind, used, rfl, again⟩ := takes
  refine ⟨isKind, used, rfl, fun rest separated => ?_⟩
  rw [same _ (head?_replace begins (ends rest separated))]
  exact again rest separated

end Takes

theorem takes_finishDouble
    (read : finishDouble negative significand exponent cs = .ok (number, left)) :
    Takes Number.IsDouble (finishDouble negative significand exponent) cs number left := by
  unfold finishDouble at read ⊢
  cases value : Binary64.ofDecimal? negative significand exponent with
  | none =>
    rw [value] at read
    cases read
  | some x =>
    rw [value] at read
    cases read
    exact ⟨⟨x, rfl⟩, [], rfl, fun rest _ => rfl⟩

/-- Reads the power of ten of an exponent, after its sign. -/
def readPower (negative : Bool) (significand : Nat) (exponent : Int) (lowering : Bool) :
    List Char → Except Fault (Number × List Char)
  | [] => .error (.atFirst .endInValue [])
  | c :: rest =>
    match digit? c with
    | none => .error (.atFirst .invalidNumber (c :: rest))
    | some d =>
      let (power, _, rest) := takeDigits exponentLimit d 1 rest
      let total := if lowering then exponent - power else exponent + power
      match rest with
      | [] => finishDouble negative significand total []
      | c :: after =>
        if (digit? c).isNone then finishDouble negative significand total (c :: after)
        else if significand ≠ 0 ∧ !lowering then .error (.before .numberOutOfRange after)
        else .ok (.double ⟨negative, ⟨0, 0⟩⟩, after.dropWhile Char.isDigit)

theorem readExponent_unsigned (plus : c ≠ '+') (minus : c ≠ '-') :
    readExponent negative significand exponent (c :: cs) =
      readPower negative significand exponent false (c :: cs) := by
  unfold readExponent
  split
  next signed =>
    split at signed
    · simp_all
    · simp_all
    · cases signed
      rfl

theorem readPower_eq {power : Nat} {after : List Char} {d : Nat} (digit : digit? c = some d)
    (taken : takeDigits exponentLimit d 1 cs = (power, count, after)) (stop : NoDigit after) :
    readPower negative significand exponent lowering (c :: cs) =
      finishDouble negative significand (if lowering then exponent - power else exponent + power)
        after := by
  simp only [readPower, digit, taken]
  cases after with
  | nil => rfl
  | cons c' after =>
    rw [noDigit_cons] at stop
    simp [stop]

theorem readPower_long {power : Nat} {c' : Char} {after : List Char} {d d' : Nat}
    (digit : digit? c = some d)
    (taken : takeDigits exponentLimit d 1 cs = (power, count, c' :: after))
    (more : digit? c' = some d') :
    readPower negative significand exponent lowering (c :: cs) =
      if significand ≠ 0 ∧ !lowering then .error (.before .numberOutOfRange after)
      else .ok (.double ⟨negative, ⟨0, 0⟩⟩, after.dropWhile Char.isDigit) := by
  simp only [readPower, digit, taken, more, Option.isNone_some]
  rfl

theorem takes_readPower
    (read : readPower negative significand exponent lowering cs = .ok (number, left)) :
    Takes Number.IsDouble (readPower negative significand exponent lowering) cs number left := by
  cases cs with
  | nil => cases read
  | cons c cs =>
    cases digit : digit? c with
    | none =>
      rw [readPower, digit] at read
      cases read
    | some d =>
      rcases taken : takeDigits exponentLimit d 1 cs with ⟨power, count, after⟩
      obtain ⟨used, rfl, again⟩ := takeDigits_stop taken
      -- of a power with more digits than are taken the rest is passed over
      by_cases stop : NoDigit after
      · rw [readPower_eq digit taken stop] at read
        obtain ⟨double, more, rfl, finished⟩ := takes_finishDouble read
        refine ⟨double, c :: used ++ more, by simp, fun rest separated => ?_⟩
        have stopRest : NoDigit (more ++ rest) := head?_replace stop separated.noDigit
        rw [List.append_assoc, List.cons_append,
          readPower_eq digit (again _ (.inr stopRest)) stopRest]
        exact finished rest separated
      · obtain ⟨c', after, d', rfl, more⟩ := exists_digit stop
        rw [readPower_long digit taken more] at read
        split_ifs at read with tooLarge
        cases read
        refine ⟨⟨_, rfl⟩, c :: used ++ c' :: after.takeWhile Char.isDigit, ?_,
          fun rest separated => ?_⟩
        · simp [List.takeWhile_append_dropWhile]
        · have resumed := again (c' :: (after.takeWhile Char.isDigit ++ rest)) (.inl rfl)
          rw [List.append_assoc, List.cons_append, List.cons_append,
            readPower_long digit resumed more, if_neg tooLarge,
            dropWhile_takeWhile_append _ separated.noDigit]

theorem takes_readExponent
    (read : readExponent negative significand exponent cs = .ok (number, left)) :
    Takes Number.IsDouble (readExponent negative significand exponent) cs number left := by
  cases cs with
  | nil => cases read
  | cons c cs =>
    by_cases plus : c = '+'
    · subst plus
      exact .cons (takes_readPower read)
    · by_cases minus : c = '-'
      · subst minus
        exact .cons (takes_readPower read)
      · rw [readExponent_unsigned plus minus] at read
        obtain ⟨double, used, split, again⟩ := takes_readPower read
        cases used with
        | nil => cases again [] nofun
        | cons first used =>
          obtain ⟨rfl, rfl⟩ := List.cons.inj split
          refine ⟨double, c :: used, rfl, fun rest separated => ?_⟩
          rw [List.cons_append, readExponent_unsigned plus minus]
          exact again rest separated

theorem readExponentPart_eq (begins : ∀ c ∈ cs.head?, c ≠ 'e' ∧ c ≠ 'E') :
    readExponentPart negative significand exponent cs =
      finishDouble negative significand exponent cs := by
  unfold readExponentPart
  split
  · exact absurd rfl (begins 'e' rfl).1
  · exact absurd rfl (begins 'E' rfl).2
  · rfl

theorem takes_readExponentPart
    (read : readExponentPart negative significand exponent cs = .ok (number, left)) :
    Takes Number.IsDouble (readExponentPart negative significand exponent) cs number left := by
  by_cases begins : ∀ c ∈ cs.head?, c ≠ 'e' ∧ c ≠ 'E'
  · rw [readExponentPart_eq begins] at read
    exact (takes_finishDouble read).congr begins
      (fun rest separated c first => (separated c first).2.2) fun more => readExponentPart_eq
  · push Not at begins
    obtain ⟨c, first, isLetter⟩ := begins
    obtain ⟨cs, rfl⟩ := List.head?_eq_some_iff.1 first
    by_cases lower : c = 'e'
    · subst lower
      exact .cons (takes_readExponent read)
    · obtain rfl := isLetter lower
      exact .cons (takes_readExponent read)

theorem readFraction_eq {after : List Char}
    (taken : takeDigits significandLimit significand 0 cs = (n, count, after))
    (stop : NoDigit after) (some : count ≠ 0) :
    readFraction negative significand exponent cs =
      readExponentPart negative n (exponent - count) after := by
  simp only [readFraction, taken]
  cases after with
  | nil => simp [some]
  | cons c after =>
    rw [noDigit_cons] at stop
    simp [stop, some]

theorem readFraction_none {after : List Char}
    (taken : takeDigits significandLimit significand 0 cs = (n, 0, after)) (stop : NoDigit after) :
    readFraction negative significand exponent cs ≠ .ok (number, left) := by
  simp only [readFraction, taken]
  cases after with
  | nil => simp
  | cons c after =>
    rw [noDigit_cons] at stop
    simp [stop]

theorem readFraction_long {after : List Char} {d : Nat}
    (taken : takeDigits significandLimit significand 0 cs = (n, count, c :: after))
    (more : digit? c = some d) :
    readFraction negative significand exponent cs =
      readExponentPart negative n (exponent - count) (after.dropWhile Char.isDigit) := by
  have digit := isDigit_of_some more
  simp only [readFraction, taken, more, List.dropWhile_cons_of_pos digit]
  rfl

theorem takes_readFraction
    (read : readFraction negative significand exponent cs = .ok (number, left)) :
    Takes Number.IsDouble (readFraction negative significand exponent) cs number left := by
  rcases taken : takeDigits significandLimit significand 0 cs with ⟨n, count, after⟩
  obtain ⟨used, rfl, again⟩ := takeDigits_stop taken
  -- of a fraction with more digits than are taken the rest is passed over
  by_cases stop : NoDigit after
  · by_cases some : count = 0
    · subst some
      exact absurd read (readFraction_none taken stop)
    · rw [readFraction_eq taken stop some] at read
      obtain ⟨double, more, rfl, finished⟩ := takes_readExponentPart read
      refine ⟨double, used ++ more, (List.append_assoc _ _ _).symm, fun rest separated => ?_⟩
      have stopRest : NoDigit (more ++ rest) := head?_replace stop separated.noDigit
      rw [List.append_assoc, readFraction_eq (again _ (.inr stopRest)) stopRest some]
      exact finished rest separated
  · obtain ⟨c, after, d, rfl, more⟩ := exists_digit stop
    rw [readFraction_long taken more] at read
    obtain ⟨double, power, split, finished⟩ := takes_readExponentPart read
    refine ⟨double, used ++ c :: (after.takeWhile Char.isDigit ++ power), ?_,
      fun rest separated => ?_⟩
    · rw [List.append_assoc, List.cons_append, List.append_assoc, ← split,
        List.takeWhile_append_dropWhile]
    · have stopRest : NoDigit (power ++ rest) :=
        head?_replace (split ▸ noDigit_dropWhile after) separated.noDigit
      have resumed := again (c :: (after.takeWhile Char.isDigit ++ (power ++ rest))) (.inl rfl)
      rw [List.append_assoc, List.cons_append, List.append_assoc, readFraction_long resumed more,
        dropWhile_takeWhile_append _ stopRest]
      exact finished rest separated

theorem takes_finishWhole (small : n < UInt64.size)
    (read : finishWhole negative n cs = .ok (number, left)) :
    Takes Number.InRange (finishWhole negative n) cs number left := by
  have size : UInt64.size = 18446744073709551616 := rfl
  unfold finishWhole at read ⊢
  split_ifs at read ⊢ with positive inside
  · cases read
    exact ⟨⟨by omega, by omega⟩, [], rfl, fun rest _ => rfl⟩
  · cases read
    exact ⟨⟨by omega, by omega⟩, [], rfl, fun rest _ => rfl⟩
  · exact (takes_finishDouble read).inRange

theorem readAfterWhole_eq (begins : ∀ c ∈ cs.head?, c ≠ '.' ∧ c ≠ 'e' ∧ c ≠ 'E') :
    readAfterWhole negative n cs = finishWhole negative n cs := by
  unfold readAfterWhole
  split
  · exact absurd rfl (begins '.' rfl).1
  · exact absurd rfl (begins 'e' rfl).2.1
  · exact absurd rfl (begins 'E' rfl).2.2
  · rfl

theorem takes_readAfterWhole (small : n < UInt64.size)
    (read : readAfterWhole negative n cs = .ok (number, left)) :
    Takes Number.InRange (readAfterWhole negative n) cs number left := by
  by_cases begins : ∀ c ∈ cs.head?, c ≠ '.' ∧ c ≠ 'e' ∧ c ≠ 'E'
  · rw [readAfterWhole_eq begins] at read
    exact (takes_finishWhole small read).congr begins
      (fun rest separated c first => (separated c first).2) fun more => readAfterWhole_eq
  · push Not at begins
    obtain ⟨c, first, isMark⟩ := begins
    obtain ⟨cs, rfl⟩ := List.head?_eq_some_iff.1 first
    by_cases point : c = '.'
    · subst point
      exact .cons (.inRange (takes_readFraction read))
    · by_cases lower : c = 'e'
      · subst lower
        exact .cons (.inRange (takes_readExponent read))
      · obtain rfl := isMark point lower
        exact .cons (.inRange (takes_readExponent read))

/-- Reads what follows a whole part of which `exponent` digits were only counted. -/
def readAfterLong (negative : Bool) (n exponent : Nat) :
    List Char → Except Fault (Number × List Char)
  | '.' :: rest => readFraction negative n exponent rest
  | rest => readExponentPart negative n exponent rest

theorem readAfterLong_eq {exponent : Nat} (begins : ∀ c ∈ cs.head?, c ≠ '.') :
    readAfterLong negative n exponent cs = readExponentPart negative n exponent cs := by
  unfold readAfterLong
  split
  · exact absurd rfl (begins '.' rfl)
  · rfl

theorem takes_readAfterLong {exponent : Nat}
    (read : readAfterLong negative n exponent cs = .ok (number, left)) :
    Takes Number.IsDouble (readAfterLong negative n exponent) cs number left := by
  by_cases begins : ∀ c ∈ cs.head?, c ≠ '.'
  · rw [readAfterLong_eq begins] at read
    exact (takes_readExponentPart read).congr begins
      (fun rest separated c first => (separated c first).2.1) fun more => readAfterLong_eq
  · push Not at begins
    obtain ⟨c, first, rfl⟩ := begins
    obtain ⟨cs, rfl⟩ := List.head?_eq_some_iff.1 first
    exact .cons (takes_readFraction read)

theorem readLongWhole_eq (negative : Bool) (n : Nat) (cs : List Char) :
    readLongWhole negative n cs =
      readAfterLong negative n (cs.takeWhile Char.isDigit).length (cs.dropWhile Char.isDigit) := by
  unfold readLongWhole readAfterLong
  rfl

theorem takes_readLongWhole {d : Nat} (digit : digit? c = some d)
    (read : readLongWhole negative n (c :: cs) = .ok (number, left)) :
    Takes Number.IsDouble (fun more => readLongWhole negative n (c :: more)) cs number left := by
  have isDigit := isDigit_of_some digit
  have shape (more : List Char) (stop : NoDigit more) :
      readLongWhole negative n (c :: (cs.takeWhile Char.isDigit ++ more)) =
        readAfterLong negative n ((cs.takeWhile Char.isDigit).length + 1) more := by
    rw [readLongWhole_eq, List.takeWhile_cons_of_pos isDigit, List.dropWhile_cons_of_pos isDigit,
      dropWhile_takeWhile_append _ stop, takeWhile_takeWhile_append _ stop]
    rfl
  rw [← List.takeWhile_append_dropWhile (p := Char.isDigit) (l := cs),
    shape _ (noDigit_dropWhile cs)] at read
  obtain ⟨double, used, split, again⟩ := takes_readAfterLong read
  refine ⟨double, cs.takeWhile Char.isDigit ++ used, ?_, fun rest separated => ?_⟩
  · rw [List.append_assoc, ← split, List.takeWhile_append_dropWhile]
  · have stopRest : NoDigit (used ++ rest) :=
      head?_replace (split ▸ noDigit_dropWhile cs) separated.noDigit
    show readLongWhole negative n (c :: _) = _
    rw [List.append_assoc, shape _ stopRest]
    exact again rest separated

/-! ## Whole numbers of a text -/

theorem readNumber_zero (stop : NoDigit cs) :
    readNumber negative ('0' :: cs) = readAfterWhole negative 0 cs := by
  cases cs with
  | nil => rfl
  | cons c cs =>
    rw [noDigit_cons] at stop
    simp [readNumber, stop]

theorem readNumber_eq {d : Nat} {after : List Char} (nonzero : c ≠ '0') (digit : digit? c = some d)
    (taken : takeDigits significandLimit d 1 cs = (n, count, after)) (stop : NoDigit after) :
    readNumber negative (c :: cs) = readAfterWhole negative n after := by
  unfold readNumber
  split
  · simp_all
  · simp_all
  next first rest notZero same =>
    obtain ⟨rfl, rfl⟩ := List.cons.inj same
    simp only [digit, taken]
    cases after with
    | nil => rfl
    | cons c' after =>
      rw [noDigit_cons] at stop
      simp [stop]

theorem readNumber_long {d d' : Nat} {c' : Char} {after : List Char} (nonzero : c ≠ '0')
    (digit : digit? c = some d)
    (taken : takeDigits significandLimit d 1 cs = (n, count, c' :: after))
    (more : digit? c' = some d') :
    readNumber negative (c :: cs) = readLongWhole negative n (c' :: after) := by
  unfold readNumber
  split
  · simp_all
  · simp_all
  next first rest notZero same =>
    obtain ⟨rfl, rfl⟩ := List.cons.inj same
    simp only [digit, taken, more]
    rfl

/-- What is read as a number is read so wherever it stands. -/
theorem takes_readNumber (read : readNumber negative cs = .ok (number, left)) :
    Takes Number.InRange (readNumber negative) cs number left := by
  cases cs with
  | nil => cases read
  | cons c cs =>
    by_cases zero : c = '0'
    · subst zero
      by_cases stop : NoDigit cs
      · rw [readNumber_zero stop] at read
        exact .cons <| (takes_readAfterWhole (by decide) read).congr stop
          (fun rest => Separated.noDigit) fun more => readNumber_zero
      · obtain ⟨c, cs, d, rfl, more⟩ := exists_digit stop
        simp [readNumber, more] at read
    · cases digit : digit? c with
      | none => simp [readNumber, digit] at read
      | some d =>
        rcases taken : takeDigits significandLimit d 1 cs with ⟨n, count, after⟩
        -- no further digit is taken once the limit is reached
        have small : d < significandLimit := Nat.lt_trans (digit?_lt digit) (by decide)
        have below : n < significandLimit := by
          have below := takeDigits_lt small 1 cs
          rwa [taken] at below
        obtain ⟨used, rfl, again⟩ := takeDigits_stop taken
        by_cases stop : NoDigit after
        · rw [readNumber_eq zero digit taken stop] at read
          obtain ⟨inRange, more, rfl, finished⟩ := takes_readAfterWhole below read
          refine ⟨inRange, c :: used ++ more, by simp, fun rest separated => ?_⟩
          have stopRest : NoDigit (more ++ rest) := head?_replace stop separated.noDigit
          rw [List.append_assoc, List.cons_append,
            readNumber_eq zero digit (again _ (.inr stopRest)) stopRest]
          exact finished rest separated
        · obtain ⟨c', after, d', rfl, more⟩ := exists_digit stop
          rw [readNumber_long zero digit taken more] at read
          obtain ⟨double, further, rfl, finished⟩ := takes_readLongWhole more read
          refine ⟨double.inRange, c :: used ++ c' :: further, by simp, fun rest separated => ?_⟩
          rw [List.append_assoc, List.cons_append, List.cons_append,
            readNumber_long zero digit (again (c' :: (further ++ rest)) (.inl rfl)) more]
          exact finished rest separated

end RpcStubs.Json
