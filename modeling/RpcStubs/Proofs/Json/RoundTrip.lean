import RpcStubs.Proofs.Json.Layouts
import RpcStubs.Proofs.Json.Reading

/-! # Reading what was written

A value that was read is written in indented layout and read again as the same value
(`Value.ofString_indented`).  Of the conversions between doubles and decimals nothing is known here but
what is assumed: that the text of each double in the value is read as that double.
-/

namespace RpcStubs

open Json

variable {depth : Nat} {c : Char} {cs : List Char} {value : Value} {x : Binary64}

/-- The text of a double is read as the same double. -/
def Binary64.ReadsBack (x : Binary64) : Prop :=
  Value.ofString (String.ofList x.text) = .ok (.number (.double x))

namespace Json

/-! ## Whole texts -/

theorem readValue_of_ofString {text : String} (read : Value.ofString text = .ok value) :
    ∃ left, readValue (2 * (text.toList.length + 1)) depthLimit text.toList = .ok (value, left) ∧
      skipBlanks left = [] := by
  unfold Value.ofString at read
  cases whole : readAll text.toList with
  | error fault =>
    rw [whole] at read
    cases read
  | ok value =>
    rw [whole] at read
    cases read
    obtain ⟨⟨value, left⟩, inside, ending⟩ := bind_eq_ok_iff.1 whole
    dsimp only at ending
    split at ending
    next rest =>
      cases ending
      exact ⟨left, inside, rest⟩
    · cases ending

theorem ofString_of_spells {text : String} {blanks : List Char}
    (spells : Spells depthLimit (.value value) cs) (characters : text.toList = cs ++ blanks)
    (allBlank : ∀ c ∈ blanks, isBlank c = true) : Value.ofString text = .ok value := by
  have ending : Separated blanks := by
    cases blanks with
    | nil => exact nofun
    | cons c blanks => exact separated_blank (allBlank c List.mem_cons_self) blanks
  have read : readValue (2 * ((cs ++ blanks).length + 1)) depthLimit (cs ++ blanks) =
      .ok (value, blanks) :=
    spells.read (by simp only [List.length_append]; omega) ending
  have nothing : skipBlanks blanks = [] := List.dropWhile_eq_nil_iff.2 allBlank
  have whole : readAll (cs ++ blanks) = .ok value := by
    unfold readAll
    rw [read]
    simp only [bind, Except.bind, nothing]
    rfl
  unfold Value.ofString
  rw [characters, whole]

/-! ## Doubles -/

mutual

/-- The doubles in a value. -/
def Value.doubles : Value → List Binary64
  | .number (.double x) => [x]
  | .array items => doublesOfItems items
  | .object fields => doublesOfFields fields
  | _ => []

def doublesOfItems : List Value → List Binary64
  | [] => []
  | item :: items => item.doubles ++ doublesOfItems items

def doublesOfFields : List (String × Value) → List Binary64
  | [] => []
  | (_, value) :: fields => value.doubles ++ doublesOfFields fields

end

theorem mem_doublesOfItems {item : Value} {items : List Value} (member : item ∈ items)
    (inside : x ∈ item.doubles) : x ∈ doublesOfItems items := by
  induction items with
  | nil => cases member
  | cons first items inductionHypothesis =>
    rw [doublesOfItems, List.mem_append]
    rcases List.mem_cons.1 member with rfl | member
    · exact .inl inside
    · exact .inr (inductionHypothesis member)

theorem mem_doublesOfFields {field : String × Value} {fields : List (String × Value)}
    (member : field ∈ fields) (inside : x ∈ field.2.doubles) : x ∈ doublesOfFields fields := by
  induction fields with
  | nil => cases member
  | cons first fields inductionHypothesis =>
    obtain ⟨key, value⟩ := first
    rw [doublesOfFields, List.mem_append]
    rcases List.mem_cons.1 member with rfl | member
    · exact .inl inside
    · exact .inr (inductionHypothesis member)

/-- The characters that decimals are written with. -/
def IsNumeral (c : Char) : Prop :=
  c.isDigit = true ∨ c ∈ ['-', '+', '.', 'e']

theorem IsNumeral.notBlank (numeral : IsNumeral c) : isBlank c = false := by
  have apart (blank : Char) (notDigit : blank.isDigit = false)
      (noMark : blank ∉ ['-', '+', '.', 'e']) : c ≠ blank := by
    rintro rfl
    rcases numeral with digit | mark
    · rw [notDigit] at digit
      cases digit
    · exact noMark mark
  simp only [isBlank, apart ' ' rfl (by decide), apart '\t' rfl (by decide),
    apart '\n' rfl (by decide), apart '\r' rfl (by decide), decide_false, Bool.or_self]

theorem numerals_toDigits (n : Nat) : ∀ c ∈ Nat.toDigits 10 n, IsNumeral c :=
  fun _ member => .inl (Nat.isDigit_of_mem_toDigits (by decide) (by decide) member)

theorem numerals_significantDigits (n : Nat) : ∀ c ∈ significantDigits n, IsNumeral c := by
  intro c member
  have inside := (List.dropWhile_sublist (· == '0')).mem (List.mem_reverse.1 member)
  exact numerals_toDigits n c (List.mem_reverse.1 inside)

theorem mem_decimalText {digits : List Char} {exponent : Int}
    (member : c ∈ decimalText digits exponent) :
    c ∈ digits ∨ c ∈ Nat.toDigits 10 exponent.natAbs ∨ c ∈ ['0', '-', '+', '.', 'e'] := by
  unfold decimalText at member
  grind [List.mem_of_mem_take, List.mem_of_mem_drop]

theorem numerals_decimalText {digits : List Char} (numerals : ∀ c ∈ digits, IsNumeral c)
    (exponent : Int) : ∀ c ∈ decimalText digits exponent, IsNumeral c := by
  intro c member
  rcases mem_decimalText member with inside | inside | mark
  · exact numerals c inside
  · exact numerals_toDigits _ c inside
  · rcases List.mem_cons.1 mark with rfl | mark
    · exact .inl rfl
    · exact .inr mark

theorem numerals_text (x : Binary64) : ∀ c ∈ x.text, IsNumeral c := by
  have sign : ∀ c ∈ (if x.negative then ['-'] else []), IsNumeral c := by
    intro c member
    split_ifs at member
    · exact .inr (List.mem_singleton.1 member ▸ List.mem_cons_self)
    · cases member
  intro c member
  unfold Binary64.text at member
  dsimp only at member
  by_cases zero : x.magnitude.significand = 0
  · rw [if_pos zero] at member
    rcases List.mem_append.1 member with inside | inside
    · exact sign c inside
    · simp only [List.mem_cons, List.not_mem_nil, or_false] at inside
      rcases inside with rfl | rfl | rfl
      · exact .inl rfl
      · exact .inr (by decide)
      · exact .inl rfl
  · rw [if_neg zero] at member
    rcases List.mem_append.1 member with inside | inside
    · exact sign c inside
    · exact numerals_decimalText (numerals_significantDigits _) _ c inside

theorem skipBlanks_eq_self (notBlank : ∀ c ∈ cs, isBlank c = false) : skipBlanks cs = cs := by
  cases cs with
  | nil => rfl
  | cons c cs => exact skipBlanks_eq (notBlank c List.mem_cons_self) cs

/-- The text of a double is read back if it is read as a number, for there are no blanks in it. -/
theorem readSigned_of_readsBack (readsBack : x.ReadsBack) :
    readSigned x.text = .ok (.double x, []) := by
  have notBlank : ∀ c ∈ x.text, isBlank c = false := fun c member =>
    (numerals_text x c member).notBlank
  unfold Binary64.ReadsBack at readsBack
  obtain ⟨left, read, rest⟩ := readValue_of_ofString readsBack
  rw [String.toList_ofList] at read
  cases readAs_of_readValue read with
  | number stripped begins inside =>
    rw [skipBlanks_eq_self notBlank] at stripped
    rw [← stripped] at inside
    -- what is left of the text is blank, and no character of the text is
    obtain ⟨-, used, split, -⟩ := takes_readSigned inside
    have noneLeft : left = [] := by
      rw [← rest, skipBlanks_eq_self]
      exact fun c member => notBlank c (split ▸ List.mem_append_right _ member)
    exact noneLeft ▸ inside

theorem readsBack_iff : x.ReadsBack ↔ readSigned x.text = .ok (.double x, []) := by
  refine ⟨readSigned_of_readsBack, fun read => ?_⟩
  refine ofString_of_spells (.number depthLimit (.of_read read)) ?_ (List.forall_mem_nil _)
  rw [String.toList_ofList, List.append_nil]

instance (x : Binary64) : Decidable x.ReadsBack :=
  decidable_of_iff _ readsBack_iff.symm

/-! ## Values that were read -/

theorem Value.Fits.writable (fits : value.Fits depth) (readBack : ∀ x ∈ value.doubles, x.ReadsBack) :
    value.Writable depth := by
  induction fits with
  | null depth => exact .null depth
  | bool depth b => exact .bool depth b
  | @number number depth inRange =>
    cases number with
    | whole n => exact .number depth (stands_whole inRange)
    | double x =>
      have read := readSigned_of_readsBack (readBack x List.mem_cons_self)
      exact .number depth (.of_read read)
  | string depth s => exact .string depth s
  | @array depth items each inductionHypothesis =>
    have readBack : ∀ x ∈ doublesOfItems items, x.ReadsBack := by simpa [Value.doubles] using readBack
    exact .array fun item member => inductionHypothesis item member fun x inside =>
      readBack x (mem_doublesOfItems member inside)
  | @object depth fields ascending each inductionHypothesis =>
    have readBack : ∀ x ∈ doublesOfFields fields, x.ReadsBack := by
      simpa [Value.doubles] using readBack
    exact .object fun field member => inductionHypothesis field member fun x inside =>
      readBack x (mem_doublesOfFields member inside)

/-- A value that was read has its fields in order already. -/
theorem Value.Fits.sorted_eq (fits : value.Fits depth) : value.sorted = value := by
  induction fits with
  | null | bool | number | string => rfl
  | @array depth items each inductionHypothesis =>
    rw [Value.sorted, sortedItems_eq, List.map_congr_left inductionHypothesis, List.map_id']
  | @object depth fields ascending each inductionHypothesis =>
    have same : ∀ field ∈ fields, (field.1, field.2.sorted) = id field := by
      intro field member
      rw [inductionHypothesis field member]
      rfl
    rw [Value.sorted, sortedFields_eq, List.map_congr_left same, List.map_id,
      Fields.ofPairs_of_ascending ascending]

/-! ## Read again -/

theorem Value.fits_of_ofString {text : String} (read : Value.ofString text = .ok value) :
    value.Fits depthLimit := by
  obtain ⟨left, inside, -⟩ := readValue_of_ofString read
  have fits : Part.Fits depthLimit (.value value) := Part.ReadFrom.fits inside
  exact fits

theorem Value.ofString_compact (writable : value.Writable depthLimit) :
    Value.ofString value.compact = .ok value.sorted := by
  refine ofString_of_spells (spells_compactText writable) ?_ (List.forall_mem_nil _)
  rw [Value.compact, String.toList_ofList, List.append_nil]

/-- The indented text of a value is read as the value, with blanks behind it or without. -/
theorem Value.ofString_indented_append (writable : value.Writable depthLimit) (blanks : String)
    (allBlank : ∀ c ∈ blanks.toList, isBlank c = true) :
    Value.ofString (value.indented ++ blanks) = .ok value.sorted := by
  refine ofString_of_spells (spells_indentedText writable 0) ?_ allBlank
  rw [String.toList_append, Value.indented, String.toList_ofList]

/-- A value that was read is read again from its indented text and a line feed. -/
theorem Value.ofString_indented (fits : value.Fits depthLimit)
    (readBack : ∀ x ∈ value.doubles, x.ReadsBack) :
    Value.ofString (value.indented ++ "\n") = .ok value := by
  have lineFeed : ∀ c ∈ "\n".toList, isBlank c = true := by simp [isBlank]
  rw [Value.ofString_indented_append (fits.writable readBack) "\n" lineFeed, fits.sorted_eq]

end Json

end RpcStubs
