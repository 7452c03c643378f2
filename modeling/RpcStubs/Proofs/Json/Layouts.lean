import RpcStubs.Json.Writer
import RpcStubs.Proofs.Json.Spelling

/-! # The layouts of a value

Both layouts of a value spell it, up to the order of its fields: an object lists them as it has them,
and what is read of its text has them in ascending order of their keys (`Value.sorted`).  Nothing else
is lost, if the text of each number in the value stands for that number (`Value.Writable`).
-/

namespace RpcStubs.Json

variable {depth limit level : Nat} {value : Value} {items : List Value} {fields : Fields}
  {closing : List Char}

/-- Values that can be written: the text of each number stands for it, and arrays and objects nest at
most so deep. -/
inductive Value.Writable : Nat → Value → Prop where
  | null (depth : Nat) : Writable depth .null
  | bool (depth : Nat) (b : Bool) : Writable depth (.bool b)
  | number {number : Number} (depth : Nat) (stands : number.Stands number.text) :
      Writable depth (.number number)
  | string (depth : Nat) (s : String) : Writable depth (.string s)
  | array {depth : Nat} {items : List Value} (each : ∀ item ∈ items, Writable depth item) :
      Writable (depth + 1) (.array items)
  | object {depth : Nat} {fields : Fields} (each : ∀ field ∈ fields, Writable depth field.2) :
      Writable (depth + 1) (.object fields)

theorem Value.Writable.mono (writable : value.Writable depth) (within : depth ≤ limit) :
    value.Writable limit := by
  induction writable generalizing limit with
  | null => exact .null limit
  | bool depth b => exact .bool limit b
  | number depth stands => exact .number limit stands
  | string depth s => exact .string limit s
  | array each inductionHypothesis =>
    obtain ⟨inner, rfl⟩ := Nat.exists_eq_add_one_of_ne_zero (Nat.ne_zero_of_lt within)
    exact .array fun item member => inductionHypothesis item member (Nat.le_of_succ_le_succ within)
  | object each inductionHypothesis =>
    obtain ⟨inner, rfl⟩ := Nat.exists_eq_add_one_of_ne_zero (Nat.ne_zero_of_lt within)
    exact .object fun field member => inductionHypothesis field member (Nat.le_of_succ_le_succ within)

/-! ## Fields in order -/

mutual

/-- A value as it is read from its text, with the fields of its objects in order. -/
def Value.sorted : Value → Value
  | .array items => .array (sortedItems items)
  | .object fields => .object (Fields.ofPairs (sortedFields fields))
  | value => value

def sortedItems : List Value → List Value
  | [] => []
  | item :: items => item.sorted :: sortedItems items

def sortedFields : Fields → Fields
  | [] => []
  | (key, value) :: fields => (key, value.sorted) :: sortedFields fields

end

theorem sortedItems_eq (items : List Value) : sortedItems items = items.map Value.sorted := by
  induction items with
  | nil => rfl
  | cons item items inductionHypothesis => rw [sortedItems, inductionHypothesis, List.map_cons]

theorem sortedFields_eq (fields : Fields) :
    sortedFields fields = fields.map fun field => (field.1, field.2.sorted) := by
  induction fields with
  | nil => rfl
  | cons field fields inductionHypothesis =>
    rw [sortedFields, inductionHypothesis, List.map_cons]

/-! ## The compact layout -/

theorem spells_compactItems
    (each : ∀ item ∈ items, Spells depth (.value item.sorted) (compactText item)) :
    Spells depth (.items (sortedItems items)) (compactItems items ++ [']']) := by
  induction items with
  | nil => exact .noItems depth
  | cons item items inductionHypothesis =>
    obtain ⟨first, others⟩ := List.forall_mem_cons.1 each
    cases items with
    | nil => exact .items first (.lastItem depth)
    | cons next items =>
      rw [compactItems, List.append_assoc]
      · exact .items first (.moreItems (inductionHypothesis others))
      · exact List.cons_ne_nil next items

theorem spells_compactFields
    (each : ∀ field ∈ fields, Spells depth (.value field.2.sorted) (compactText field.2)) :
    Spells depth (.pairs (sortedFields fields)) (compactFields fields ++ ['}']) := by
  induction fields with
  | nil => exact .noPairs depth
  | cons field fields inductionHypothesis =>
    obtain ⟨first, others⟩ := List.forall_mem_cons.1 each
    cases fields with
    | nil =>
      rw [compactFields, List.append_assoc]
      exact .pairs first (.lastPair depth)
    | cons next fields =>
      rw [compactFields]
      · simp only [List.append_assoc, List.cons_append]
        exact .pairs first (.morePairs (inductionHypothesis others))
      · exact List.cons_ne_nil next fields

theorem spells_compactText (writable : value.Writable depth) :
    Spells depth (.value value.sorted) (compactText value) := by
  induction writable with
  | null depth => exact .null depth
  | bool depth b => exact .bool depth b
  | number depth stands => exact .number depth stands
  | string depth s => exact .string depth s
  | array each inductionHypothesis => exact .array (spells_compactItems inductionHypothesis)
  | object each inductionHypothesis => exact .object (spells_compactFields inductionHypothesis)

/-! ## The indented layout -/

theorem blank_newLine (level : Nat) : ∀ c ∈ newLine level, isBlank c = true := by
  intro c member
  rcases List.mem_cons.1 member with rfl | member
  · rfl
  · rw [List.eq_of_mem_replicate member]
    rfl

theorem spells_indentedItems {item : Value}
    (each : ∀ other ∈ item :: items, Spells depth (.value other.sorted) (indentedText level other))
    (closed : Spells depth (.moreItems []) closing) :
    Spells depth (.items (sortedItems (item :: items)))
      (indentedItems level (item :: items) ++ closing) := by
  obtain ⟨first, others⟩ := List.forall_mem_cons.1 each
  induction items generalizing item with
  | nil =>
    rw [indentedItems, List.append_assoc]
    exact .blanks (blank_newLine level) (.items first closed)
  | cons next items inductionHypothesis =>
    obtain ⟨second, rest⟩ := List.forall_mem_cons.1 others
    rw [indentedItems, List.append_assoc, List.append_assoc, List.cons_append]
    · exact .blanks (blank_newLine level)
        (.items first (.moreItems (inductionHypothesis others second rest)))
    · exact List.cons_ne_nil next items

theorem spells_indentedFields {field : String × Value}
    (each : ∀ other ∈ field :: fields,
      Spells depth (.value other.2.sorted) (indentedText level other.2))
    (closed : Spells depth (.morePairs []) closing) :
    Spells depth (.pairs (sortedFields (field :: fields)))
      (indentedFields level (field :: fields) ++ closing) := by
  obtain ⟨first, others⟩ := List.forall_mem_cons.1 each
  obtain ⟨key, value⟩ := field
  have spaced : Spells depth (.value value.sorted) (' ' :: indentedText level value) :=
    .blank rfl first
  induction fields generalizing key value with
  | nil =>
    rw [indentedFields, List.append_assoc, List.append_assoc, List.cons_append]
    exact .blanks (blank_newLine level) (.pairs spaced closed)
  | cons next fields inductionHypothesis =>
    obtain ⟨second, rest⟩ := List.forall_mem_cons.1 others
    rw [indentedFields]
    · simp only [List.append_assoc, List.cons_append]
      exact .blanks (blank_newLine level) (.pairs spaced
        (.morePairs (inductionHypothesis rest next.1 next.2 others second (.blank rfl second))))
    · exact List.cons_ne_nil next fields

/-- The indented text of a value spells it, on whatever level it stands. -/
theorem spells_indentedText (writable : value.Writable depth) (level : Nat) :
    Spells depth (.value value.sorted) (indentedText level value) := by
  induction writable generalizing level with
  | null depth => exact .null depth
  | bool depth b => exact .bool depth b
  | number depth stands => exact .number depth stands
  | string depth s => exact .string depth s
  | @array depth items each inductionHypothesis =>
    cases items with
    | nil => exact .array (.noItems depth)
    | cons item items =>
      have spelled := spells_indentedItems
        (fun other member => inductionHypothesis other member (level + 1))
        (.blanks (blank_newLine level) (.lastItem depth))
      rw [← List.append_assoc] at spelled
      exact .array spelled
  | @object depth fields each inductionHypothesis =>
    cases fields with
    | nil => exact .object (.noPairs depth)
    | cons field fields =>
      have spelled := spells_indentedFields
        (fun other member => inductionHypothesis other member (level + 1))
        (.blanks (blank_newLine level) (.lastPair depth))
      rw [← List.append_assoc] at spelled
      exact .object spelled

end RpcStubs.Json
