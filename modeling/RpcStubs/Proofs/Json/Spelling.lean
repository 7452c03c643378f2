import Mathlib.Data.List.DropRight
import RpcStubs.Proofs.Json.Strings
import RpcStubs.Proofs.Json.WrittenNumbers

/-! # Texts that spell values

The layouts of JSON text differ in their blanks and in nothing else.  `Spells` says which texts are a
layout of a value, with any blanks where blanks may stand, and all of them are read as that value:
`Spells.read`.

The readers of lists and objects are asked for the parts of a value (`Part`), and for what is left of a
part once its first item has been read.
-/

namespace RpcStubs.Json

variable {fuel depth : Nat} {c : Char} {cs more rest left : List Char} {value item : Value}
  {items : List Value} {pairs : List (String × Value)} {key : String} {number : Number}

/-! ## Parts of values -/

/-- What is read in one go: a value, or the rest of an array or an object, up to its closing bracket,
from its first item on or from a later one. -/
inductive Part where
  | value (value : Value)
  | items (items : List Value)
  | moreItems (items : List Value)
  | pairs (pairs : List (String × Value))
  | morePairs (pairs : List (String × Value))

/-- A text is read as a part and something that is left. -/
def Part.ReadFrom (fuel depth : Nat) (cs left : List Char) : Part → Prop
  | .value value => readValue fuel depth cs = .ok (value, left)
  | .items items => readItems fuel depth cs = .ok (items, left)
  | .moreItems items => readMoreItems fuel depth cs = .ok (items, left)
  | .pairs pairs => readPairs fuel depth cs = .ok (pairs, left)
  | .morePairs pairs => readMorePairs fuel depth cs = .ok (pairs, left)

/-- Texts of a part whose arrays and objects nest at most so deep. -/
inductive Spells : Nat → Part → List Char → Prop where
  | blank {depth : Nat} {part : Part} {c : Char} {cs : List Char} (isBlank : isBlank c = true)
      (spells : Spells depth part cs) : Spells depth part (c :: cs)
  | null (depth : Nat) : Spells depth (.value .null) ['n', 'u', 'l', 'l']
  | bool (depth : Nat) (b : Bool) : Spells depth (.value (.bool b)) (boolText b)
  | number {number : Number} {cs : List Char} (depth : Nat) (stands : number.Stands cs) :
      Spells depth (.value (.number number)) cs
  | string (depth : Nat) (s : String) : Spells depth (.value (.string s)) (stringText s)
  | array {depth : Nat} {items : List Value} {cs : List Char}
      (spells : Spells depth (.items items) cs) :
      Spells (depth + 1) (.value (.array items)) ('[' :: cs)
  | object {depth : Nat} {pairs : List (String × Value)} {cs : List Char}
      (spells : Spells depth (.pairs pairs) cs) :
      Spells (depth + 1) (.value (.object (Fields.ofPairs pairs))) ('{' :: cs)
  | noItems (depth : Nat) : Spells depth (.items []) [']']
  | items {depth : Nat} {item : Value} {items : List Value} {cs more : List Char}
      (first : Spells depth (.value item) cs) (others : Spells depth (.moreItems items) more) :
      Spells depth (.items (item :: items)) (cs ++ more)
  | lastItem (depth : Nat) : Spells depth (.moreItems []) [']']
  | moreItems {depth : Nat} {item : Value} {items : List Value} {cs : List Char}
      (spells : Spells depth (.items (item :: items)) cs) :
      Spells depth (.moreItems (item :: items)) (',' :: cs)
  | noPairs (depth : Nat) : Spells depth (.pairs []) ['}']
  | pairs {depth : Nat} {key : String} {value : Value} {pairs : List (String × Value)}
      {cs more : List Char} (first : Spells depth (.value value) cs)
      (others : Spells depth (.morePairs pairs) more) :
      Spells depth (.pairs ((key, value) :: pairs)) (stringText key ++ ':' :: (cs ++ more))
  | lastPair (depth : Nat) : Spells depth (.morePairs []) ['}']
  | morePairs {depth : Nat} {pair : String × Value} {pairs : List (String × Value)} {cs : List Char}
      (spells : Spells depth (.pairs (pair :: pairs)) cs) :
      Spells depth (.morePairs (pair :: pairs)) (',' :: cs)

theorem Spells.blanks {part : Part} {blanks : List Char} (allBlank : ∀ c ∈ blanks, isBlank c = true)
    (spells : Spells depth part cs) : Spells depth part (blanks ++ cs) := by
  induction blanks with
  | nil => exact spells
  | cons c blanks inductionHypothesis =>
    obtain ⟨here, others⟩ := List.forall_mem_cons.1 allBlank
    exact .blank here (inductionHypothesis others)

theorem Spells.length_pos {part : Part} (spells : Spells depth part cs) : 0 < cs.length := by
  induction spells with
  | number depth stands =>
    obtain ⟨c, after, rfl, -⟩ := stands.begins
    exact Nat.succ_pos _
  | bool depth b => cases b <;> decide
  | items first others here there => simp only [List.length_append]; omega
  | pairs first others here there => simp only [List.length_append, List.length_cons]; omega
  | _ => simp [stringText]

/-! ## Blanks -/

theorem skipBlanks_cons (isBlank : isBlank c = true) (cs : List Char) :
    skipBlanks (c :: cs) = skipBlanks cs :=
  List.dropWhile_cons_of_pos isBlank

theorem skipBlanks_nil : skipBlanks [] = [] :=
  rfl

theorem skipBlanks_eq (notBlank : isBlank c = false) (cs : List Char) : skipBlanks (c :: cs) = c :: cs :=
  List.dropWhile_cons_of_neg (by simp [notBlank])

theorem skipBlanks_skipBlanks (cs : List Char) : skipBlanks (skipBlanks cs) = skipBlanks cs :=
  List.dropWhile_idempotent isBlank cs

theorem Part.ReadFrom.blank {part : Part} (isBlank : isBlank c = true)
    (read : part.ReadFrom (fuel + 1) depth cs left) : part.ReadFrom (fuel + 1) depth (c :: cs) left := by
  cases part <;>
    · simp only [Part.ReadFrom, readValue, readItems, readMoreItems, readPairs, readMorePairs,
        skipBlanks_cons isBlank] at read ⊢
      exact read

theorem readValue_skipBlanks (fuel depth : Nat) (cs : List Char) :
    readValue (fuel + 1) depth (skipBlanks cs) = readValue (fuel + 1) depth cs := by
  simp only [readValue, skipBlanks_skipBlanks]

theorem separated_blank (isBlank : isBlank c = true) (cs : List Char) : Separated (c :: cs) := by
  intro first same
  obtain rfl : first = c := by simpa using same.symm
  unfold Json.isBlank at isBlank
  simp only [Bool.or_eq_true, decide_eq_true_eq] at isBlank
  rcases isBlank with ((rfl | rfl) | rfl) | rfl <;> decide

/-- After an item of an array no number goes on. -/
theorem Spells.separated_moreItems (spells : Spells depth (.moreItems items) cs) :
    Separated (cs ++ rest) := by
  cases spells with
  | blank isBlank spells => exact separated_blank isBlank _
  | lastItem => exact fun c first => by cases first; decide
  | moreItems spells => exact fun c first => by cases first; decide

theorem Spells.separated_morePairs (spells : Spells depth (.morePairs pairs) cs) :
    Separated (cs ++ rest) := by
  cases spells with
  | blank isBlank spells => exact separated_blank isBlank _
  | lastPair => exact fun c first => by cases first; decide
  | morePairs spells => exact fun c first => by cases first; decide

/-! ## Single steps of the readers -/

theorem readValue_null (fuel depth : Nat) (rest : List Char) :
    readValue (fuel + 1) depth ('n' :: 'u' :: 'l' :: 'l' :: rest) = .ok (.null, rest) := by
  rw [readValue, skipBlanks_eq rfl]
  simp only [Char.reduceEq, if_false, if_true, readLiteral]

theorem readValue_bool (fuel depth : Nat) (b : Bool) (rest : List Char) :
    readValue (fuel + 1) depth (boolText b ++ rest) = .ok (.bool b, rest) := by
  cases b <;>
    · simp only [boolText, if_true, if_false, Bool.false_eq_true, List.cons_append, List.nil_append]
      rw [readValue, skipBlanks_eq rfl]
      simp only [Char.reduceEq, if_false, if_true, readLiteral]

theorem readValue_string {s : String} (read : readString fuel cs = .ok (s, left)) :
    readValue (fuel + 1) depth ('"' :: cs) = .ok (.string s, left) := by
  rw [readValue, skipBlanks_eq rfl]
  simp only [if_true, read]
  rfl

theorem readValue_array (read : readItems fuel depth cs = .ok (items, left)) :
    readValue (fuel + 1) (depth + 1) ('[' :: cs) = .ok (.array items, left) := by
  rw [readValue, skipBlanks_eq rfl]
  simp only [Char.reduceEq, if_false, if_true, read]
  rfl

theorem readValue_object (read : readPairs fuel depth cs = .ok (pairs, left)) :
    readValue (fuel + 1) (depth + 1) ('{' :: cs) = .ok (.object (Fields.ofPairs pairs), left) := by
  rw [readValue, skipBlanks_eq rfl]
  simp only [Char.reduceEq, if_false, if_true, read]
  rfl

theorem readValue_number (begins : c = '-' ∨ (digit? c).isSome)
    (read : readSigned (c :: cs) = .ok (number, left)) :
    readValue (fuel + 1) depth (c :: cs) = .ok (.number number, left) := by
  by_cases minus : c = '-'
  · subst minus
    have read : readNumber true cs = .ok (number, left) := read
    rw [readValue, skipBlanks_eq rfl]
    simp only [Char.reduceEq, if_false, if_true, read]
    rfl
  · obtain ⟨d, digit⟩ := Option.isSome_iff_exists.1 (begins.resolve_left minus)
    rw [readSigned_digit digit] at read
    have apart (other : Char) (noDigit : digit? other = none) : c ≠ other := by
      rintro rfl
      rw [digit] at noDigit
      cases noDigit
    have notBlank : isBlank c = false := by
      simp only [isBlank, apart ' ' rfl, apart '\t' rfl, apart '\n' rfl, apart '\r' rfl,
        decide_false, Bool.or_self]
    rw [readValue, skipBlanks_eq notBlank]
    simp only [apart '"' rfl, apart '[' rfl, apart '{' rfl, apart 'n' rfl, apart 't' rfl,
      apart 'f' rfl, minus, digit, Option.isSome_some, if_false, if_true, read]
    rfl

theorem readItems_nil (fuel depth : Nat) (rest : List Char) :
    readItems (fuel + 1) depth (']' :: rest) = .ok ([], rest) := by
  rw [readItems, skipBlanks_eq rfl]
  simp only [if_true]

theorem readMoreItems_nil (fuel depth : Nat) (rest : List Char) :
    readMoreItems (fuel + 1) depth (']' :: rest) = .ok ([], rest) := by
  rw [readMoreItems, skipBlanks_eq rfl]
  simp only [if_true]

theorem readItems_cons (first : readValue fuel depth cs = .ok (item, rest))
    (others : readMoreItems fuel depth rest = .ok (items, left)) :
    readItems (fuel + 1) depth cs = .ok (item :: items, left) := by
  cases fuel with
  | zero => simp [readValue] at first
  | succ fuel =>
    rw [← readValue_skipBlanks] at first
    rw [readItems]
    cases stripped : skipBlanks cs with
    | nil =>
      rw [stripped] at first
      simp [readValue, skipBlanks_nil] at first
    | cons c after =>
      rw [stripped] at first
      have inside : c ≠ ']' := by
        rintro rfl
        simp [readValue, skipBlanks_eq, isBlank, digit?] at first
      simp only [inside, if_false, first]
      show (readMoreItems (fuel + 1) depth rest >>= _) = _
      rw [others]
      rfl

theorem readMoreItems_comma
    (read : readItems (fuel + 1) depth cs = .ok (item :: items, left)) :
    readMoreItems (fuel + 1) depth (',' :: cs) = .ok (item :: items, left) := by
  rw [readMoreItems, skipBlanks_eq rfl]
  rw [readItems] at read
  simp only [Char.reduceEq, if_false, if_true]
  cases stripped : skipBlanks cs with
  | nil =>
    rw [stripped] at read
    cases read
  | cons c after =>
    rw [stripped] at read
    dsimp only at read ⊢
    split_ifs at read ⊢ with closing
    · cases read
    · exact read

theorem readPairs_nil (fuel depth : Nat) (rest : List Char) :
    readPairs (fuel + 1) depth ('}' :: rest) = .ok ([], rest) := by
  rw [readPairs, skipBlanks_eq rfl]
  simp only [if_true]

theorem readMorePairs_nil (fuel depth : Nat) (rest : List Char) :
    readMorePairs (fuel + 1) depth ('}' :: rest) = .ok ([], rest) := by
  rw [readMorePairs, skipBlanks_eq rfl]
  simp only [if_true]

theorem readPair_eq (first : readValue fuel depth cs = .ok (value, left))
    (enough : key.toList.length < fuel) :
    readPair (fuel + 1) depth (key.toList.flatMap charText ++ '"' :: ':' :: cs) =
      .ok ((key, value), left) := by
  have colon : skipBlanks (':' :: cs) = ':' :: cs := skipBlanks_eq rfl cs
  simp only [readPair, readString_append key enough, bind, Except.bind, colon, if_true, first]
  rfl

theorem readPairs_cons (first : readValue fuel depth cs = .ok (value, rest))
    (enough : key.toList.length < fuel)
    (others : readMorePairs (fuel + 1) depth rest = .ok (pairs, left)) :
    readPairs (fuel + 2) depth (stringText key ++ ':' :: cs) = .ok ((key, value) :: pairs, left) := by
  rw [stringText_append, readPairs, skipBlanks_eq rfl]
  simp only [Char.reduceEq, if_false, if_true, readPair_eq first enough]
  show (readMorePairs (fuel + 1) depth rest >>= _) = _
  rw [others]
  rfl

theorem readMorePairs_comma {pair : String × Value}
    (read : readPairs (fuel + 1) depth cs = .ok (pair :: pairs, left)) :
    readMorePairs (fuel + 1) depth (',' :: cs) = .ok (pair :: pairs, left) := by
  rw [readMorePairs, skipBlanks_eq rfl]
  rw [readPairs] at read
  simp only [Char.reduceEq, if_false, if_true]
  cases stripped : skipBlanks cs with
  | nil =>
    rw [stripped] at read
    cases read
  | cons c after =>
    rw [stripped] at read
    dsimp only at read ⊢
    by_cases quote : c = '"'
    · subst quote
      simpa only [Char.reduceEq, if_false, if_true] using read
    · simp only [quote, if_false] at read
      split_ifs at read
      cases read

/-! ## Whole texts -/

/-- A text that spells a part is read as that part, in front of anything that no number goes on
with. -/
theorem Spells.read {part : Part} (spells : Spells depth part cs) {fuel : Nat}
    (enough : 2 * cs.length < fuel) {rest : List Char} (separated : Separated rest) :
    part.ReadFrom fuel depth (cs ++ rest) rest := by
  -- at most two readers are entered before the next character is passed
  obtain ⟨fuel, rfl⟩ := Nat.exists_eq_succ_of_ne_zero (Nat.ne_of_gt (Nat.zero_lt_of_lt enough))
  induction spells generalizing fuel rest with
  | blank isBlank spells inductionHypothesis =>
    exact .blank isBlank (inductionHypothesis separated _ (by simp at enough; omega))
  | null depth => exact readValue_null fuel depth rest
  | bool depth b => exact readValue_bool fuel depth b rest
  | number depth stands =>
    obtain ⟨c, after, rfl, begins⟩ := stands.begins
    exact readValue_number begins (stands.reads rest separated)
  | string depth s =>
    have size := length_stringText s
    show readValue _ _ (stringText s ++ rest) = _
    rw [stringText_append]
    exact readValue_string (readString_append s (by omega) rest)
  | array spells inductionHypothesis =>
    simp only [List.length_cons] at enough
    obtain ⟨fuel, rfl⟩ := Nat.exists_eq_succ_of_ne_zero (by omega : fuel ≠ 0)
    exact readValue_array (inductionHypothesis separated _ (by omega))
  | object spells inductionHypothesis =>
    simp only [List.length_cons] at enough
    obtain ⟨fuel, rfl⟩ := Nat.exists_eq_succ_of_ne_zero (by omega : fuel ≠ 0)
    exact readValue_object (inductionHypothesis separated _ (by omega))
  | noItems depth => exact readItems_nil fuel depth rest
  | items first others here there =>
    have somewhere := first.length_pos
    have further := others.length_pos
    simp only [List.length_append] at enough
    obtain ⟨fuel, rfl⟩ := Nat.exists_eq_succ_of_ne_zero (by omega : fuel ≠ 0)
    rw [List.append_assoc]
    exact readItems_cons (here others.separated_moreItems _ (by omega))
      (there separated _ (by omega))
  | lastItem depth => exact readMoreItems_nil fuel depth rest
  | moreItems spells inductionHypothesis =>
    simp only [List.length_cons] at enough
    exact readMoreItems_comma (inductionHypothesis separated _ (by omega))
  | noPairs depth => exact readPairs_nil fuel depth rest
  | @pairs depth key value pairs cs more first others here there =>
    have size := length_stringText key
    simp only [List.length_append, List.length_cons] at enough
    obtain ⟨fuel, rfl⟩ := Nat.exists_eq_succ_of_ne_zero (by omega : fuel ≠ 0)
    obtain ⟨fuel, rfl⟩ := Nat.exists_eq_succ_of_ne_zero (by omega : fuel ≠ 0)
    have first : readValue (fuel + 1) depth (cs ++ (more ++ rest)) = .ok (value, more ++ rest) :=
      here others.separated_morePairs fuel (by omega)
    have others := there separated (fuel + 1) (by omega)
    simp only [Part.ReadFrom, List.append_assoc, List.cons_append]
    exact readPairs_cons first (by omega) others
  | lastPair depth => exact readMorePairs_nil fuel depth rest
  | morePairs spells inductionHypothesis =>
    simp only [List.length_cons] at enough
    exact readMorePairs_comma (inductionHypothesis separated _ (by omega))

end RpcStubs.Json
