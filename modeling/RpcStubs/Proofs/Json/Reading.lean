import RpcStubs.Proofs.Json.Fields
import RpcStubs.Proofs.Json.Spelling

/-! # Values that can be read

A value that was read from text is in a form of its own, whatever the text was like (`Value.Fits`): its
whole numbers are in the range of 64 bits, its arrays and objects nest no deeper than they may, and its
objects have their keys in order.
-/

namespace RpcStubs.Json

variable {fuel depth : Nat} {c : Char} {cs left : List Char} {value : Value} {items : List Value}
  {pairs : List (String × Value)} {pair : String × Value} {number : Number}

/-- Values in the form that the reader gives them, with arrays and objects that nest at most so deep. -/
inductive Value.Fits : Nat → Value → Prop where
  | null (depth : Nat) : Fits depth .null
  | bool (depth : Nat) (b : Bool) : Fits depth (.bool b)
  | number {number : Number} (depth : Nat) (inRange : number.InRange) : Fits depth (.number number)
  | string (depth : Nat) (s : String) : Fits depth (.string s)
  | array {depth : Nat} {items : List Value} (each : ∀ item ∈ items, Fits depth item) :
      Fits (depth + 1) (.array items)
  | object {depth : Nat} {fields : List (String × Value)} (ascending : Fields.Ascending fields)
      (each : ∀ field ∈ fields, Fits depth field.2) : Fits (depth + 1) (.object fields)

def Part.Fits (depth : Nat) : Part → Prop
  | .value value => value.Fits depth
  | .items items => ∀ item ∈ items, item.Fits depth
  | .moreItems items => ∀ item ∈ items, item.Fits depth
  | .pairs pairs => ∀ pair ∈ pairs, pair.2.Fits depth
  | .morePairs pairs => ∀ pair ∈ pairs, pair.2.Fits depth

/-! ## How parts are read -/

/-- What a value that was read was read from. -/
inductive ReadAs (fuel depth : Nat) (cs : List Char) : Value → List Char → Prop where
  | null (left : List Char) : ReadAs fuel depth cs .null left
  | bool (b : Bool) (left : List Char) : ReadAs fuel depth cs (.bool b) left
  | string (s : String) (left : List Char) : ReadAs fuel depth cs (.string s) left
  | number {c : Char} {after left : List Char} {number : Number} (stripped : skipBlanks cs = c :: after)
      (begins : c = '-' ∨ (digit? c).isSome) (read : readSigned (c :: after) = .ok (number, left)) :
      ReadAs fuel depth cs (.number number) left
  | array {inner : Nat} {after left : List Char} {items : List Value} (deeper : depth = inner + 1)
      (read : readItems fuel inner after = .ok (items, left)) :
      ReadAs fuel depth cs (.array items) left
  | object {inner : Nat} {after left : List Char} {pairs : List (String × Value)}
      (deeper : depth = inner + 1) (read : readPairs fuel inner after = .ok (pairs, left)) :
      ReadAs fuel depth cs (.object (Fields.ofPairs pairs)) left

theorem readLiteral_eq_ok {meant : Value} {letters : List Char}
    (read : readLiteral meant letters cs = .ok (value, left)) : value = meant := by
  induction letters generalizing cs with
  | nil =>
    cases read
    rfl
  | cons letter letters inductionHypothesis =>
    cases cs with
    | nil => cases read
    | cons c cs =>
      rw [readLiteral] at read
      split_ifs at read
      exact inductionHypothesis read

theorem readAs_of_readValue (read : readValue (fuel + 1) depth cs = .ok (value, left)) :
    ReadAs fuel depth cs value left := by
  rw [readValue] at read
  cases stripped : skipBlanks cs with
  | nil =>
    rw [stripped] at read
    cases read
  | cons c after =>
    rw [stripped] at read
    dsimp only at read
    split_ifs at read with quote bracket brace n t f minus digit
    · obtain ⟨⟨s, rest⟩, -, done⟩ := bind_eq_ok_iff.1 read
      cases done
      exact .string s _
    · cases depth with
      | zero => cases read
      | succ inner =>
        obtain ⟨⟨items, rest⟩, inside, done⟩ := bind_eq_ok_iff.1 read
        cases done
        exact .array rfl inside
    · cases depth with
      | zero => cases read
      | succ inner =>
        obtain ⟨⟨pairs, rest⟩, inside, done⟩ := bind_eq_ok_iff.1 read
        cases done
        exact .object rfl inside
    · obtain rfl := readLiteral_eq_ok read
      exact .null _
    · obtain rfl := readLiteral_eq_ok read
      exact .bool _ _
    · obtain rfl := readLiteral_eq_ok read
      exact .bool _ _
    · obtain ⟨⟨number, rest⟩, inside, done⟩ := bind_eq_ok_iff.1 read
      cases done
      subst minus
      exact .number stripped (.inl rfl) inside
    · obtain ⟨⟨number, rest⟩, inside, done⟩ := bind_eq_ok_iff.1 read
      cases done
      obtain ⟨d, isDigit⟩ := Option.isSome_iff_exists.1 digit
      exact .number stripped (.inr digit) ((readSigned_digit isDigit).trans inside)

theorem readItems_eq_ok (read : readItems (fuel + 1) depth cs = .ok (items, left)) :
    items = [] ∨ ∃ item others after rest, items = item :: others ∧
      readValue fuel depth after = .ok (item, rest) ∧
      readMoreItems fuel depth rest = .ok (others, left) := by
  rw [readItems] at read
  cases stripped : skipBlanks cs with
  | nil =>
    rw [stripped] at read
    cases read
  | cons c after =>
    rw [stripped] at read
    dsimp only at read
    split_ifs at read with closing
    · cases read
      exact .inl rfl
    · obtain ⟨⟨item, rest⟩, first, further⟩ := bind_eq_ok_iff.1 read
      obtain ⟨⟨others, rest'⟩, more, done⟩ := bind_eq_ok_iff.1 further
      cases done
      exact .inr ⟨item, others, _, rest, rfl, first, more⟩

/-- After a comma, items are read like first ones. -/
theorem readMoreItems_eq_ok (read : readMoreItems (fuel + 1) depth cs = .ok (items, left)) :
    items = [] ∨ ∃ after, readItems (fuel + 1) depth after = .ok (items, left) := by
  rw [readMoreItems] at read
  cases stripped : skipBlanks cs with
  | nil =>
    rw [stripped] at read
    cases read
  | cons c after =>
    rw [stripped] at read
    dsimp only at read
    split_ifs at read with closing comma
    · cases read
      exact .inl rfl
    · refine .inr ⟨after, ?_⟩
      rw [readItems]
      cases further : skipBlanks after with
      | nil =>
        rw [further] at read
        cases read
      | cons c after =>
        rw [further] at read
        dsimp only at read ⊢
        split_ifs at read ⊢ with closing
        exact read

theorem readPair_eq_ok (read : readPair fuel depth cs = .ok (pair, left)) :
    ∃ inner after, fuel = inner + 1 ∧ readValue inner depth after = .ok (pair.2, left) := by
  cases fuel with
  | zero => simp [readPair] at read
  | succ inner =>
    rw [readPair] at read
    obtain ⟨⟨key, rest⟩, -, read⟩ := bind_eq_ok_iff.1 read
    dsimp only at read
    cases stripped : skipBlanks rest with
    | nil =>
      rw [stripped] at read
      cases read
    | cons c after =>
      rw [stripped] at read
      dsimp only at read
      split_ifs at read with colon
      obtain ⟨⟨value, rest⟩, inside, done⟩ := bind_eq_ok_iff.1 read
      cases done
      exact ⟨inner, after, rfl, inside⟩

theorem readPairs_eq_ok (read : readPairs (fuel + 1) depth cs = .ok (pairs, left)) :
    pairs = [] ∨ ∃ pair others inner after rest, pairs = pair :: others ∧ fuel = inner + 1 ∧
      readValue inner depth after = .ok (pair.2, rest) ∧
      readMorePairs fuel depth rest = .ok (others, left) := by
  rw [readPairs] at read
  cases stripped : skipBlanks cs with
  | nil =>
    rw [stripped] at read
    cases read
  | cons c after =>
    rw [stripped] at read
    dsimp only at read
    split_ifs at read with closing quote
    · cases read
      exact .inl rfl
    · obtain ⟨⟨pair, rest⟩, first, further⟩ := bind_eq_ok_iff.1 read
      obtain ⟨⟨others, rest'⟩, more, done⟩ := bind_eq_ok_iff.1 further
      cases done
      obtain ⟨inner, after, rfl, inside⟩ := readPair_eq_ok first
      exact .inr ⟨pair, others, inner, after, rest, rfl, rfl, inside, more⟩

theorem readMorePairs_eq_ok (read : readMorePairs (fuel + 1) depth cs = .ok (pairs, left)) :
    pairs = [] ∨ ∃ after, readPairs (fuel + 1) depth after = .ok (pairs, left) := by
  rw [readMorePairs] at read
  cases stripped : skipBlanks cs with
  | nil =>
    rw [stripped] at read
    cases read
  | cons c after =>
    rw [stripped] at read
    dsimp only at read
    split_ifs at read with closing comma
    · cases read
      exact .inl rfl
    · refine .inr ⟨after, ?_⟩
      rw [readPairs]
      cases further : skipBlanks after with
      | nil =>
        rw [further] at read
        cases read
      | cons c after =>
        rw [further] at read
        dsimp only at read ⊢
        split_ifs at read with quote
        subst quote
        simpa only [Char.reduceEq, if_false, if_true] using read

/-! ## What is read -/

/-- A part that was read is in the form of its own. -/
theorem Part.ReadFrom.fits {part : Part} (read : part.ReadFrom fuel depth cs left) :
    part.Fits depth := by
  -- a strong induction, because the value of a pair is two readers further in
  induction fuel using Nat.strongRecOn generalizing part depth cs left with
  | ind fuel inductionHypothesis =>
    cases fuel with
    | zero =>
      cases part <;>
        simp [Part.ReadFrom, readValue, readItems, readMoreItems, readPairs, readMorePairs] at read
    | succ fuel =>
      have smaller : fuel < fuel + 1 := Nat.lt_succ_self fuel
      have fitsItems (items : List Value) (cs : List Char)
          (read : readItems (fuel + 1) depth cs = .ok (items, left)) :
          ∀ item ∈ items, item.Fits depth := by
        obtain rfl | ⟨item, others, after, rest, rfl, first, more⟩ := readItems_eq_ok read
        · exact List.forall_mem_nil _
        · have here : Part.Fits depth (.value item) := inductionHypothesis fuel smaller first
          have there : Part.Fits depth (.moreItems others) := inductionHypothesis fuel smaller more
          exact List.forall_mem_cons.2 ⟨here, there⟩
      have fitsPairs (pairs : List (String × Value)) (cs : List Char)
          (read : readPairs (fuel + 1) depth cs = .ok (pairs, left)) :
          ∀ pair ∈ pairs, pair.2.Fits depth := by
        obtain rfl | ⟨pair, others, inner, after, rest, rfl, rfl, first, more⟩ := readPairs_eq_ok read
        · exact List.forall_mem_nil _
        · have here : Part.Fits depth (.value pair.2) :=
            inductionHypothesis inner (by omega) first
          have there : Part.Fits depth (.morePairs others) :=
            inductionHypothesis (inner + 1) smaller more
          exact List.forall_mem_cons.2 ⟨here, there⟩
      cases part with
      | value value =>
        cases readAs_of_readValue read with
        | null => exact .null depth
        | bool b => exact .bool depth b
        | string s => exact .string depth s
        | number stripped begins inside => exact .number depth (takes_readSigned inside).isKind
        | @array inner after left items deeper inside =>
          subst deeper
          have each : Part.Fits inner (.items items) := inductionHypothesis fuel smaller inside
          exact .array each
        | @object inner after left pairs deeper inside =>
          subst deeper
          have each : Part.Fits inner (.pairs pairs) := inductionHypothesis fuel smaller inside
          exact .object (Fields.ascending_ofPairs _) fun field member =>
            each field (Fields.mem_of_mem_ofPairs member)
      | items items => exact fitsItems items cs read
      | moreItems items =>
        obtain rfl | ⟨after, read⟩ := readMoreItems_eq_ok read
        · exact List.forall_mem_nil _
        · exact fitsItems items after read
      | pairs pairs => exact fitsPairs pairs cs read
      | morePairs pairs =>
        obtain rfl | ⟨after, read⟩ := readMorePairs_eq_ok read
        · exact List.forall_mem_nil _
        · exact fitsPairs pairs after read

end RpcStubs.Json
