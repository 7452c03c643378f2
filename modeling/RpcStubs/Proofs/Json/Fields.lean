import Mathlib.Data.String.Basic
import RpcStubs.Json.Value

/-! # Fields in order

In whatever order a text lists the fields of an object, the object has them in ascending order of their
keys, and fields that are in this order already stay as they are.
-/

namespace RpcStubs.Json.Fields

variable {fields before after pairs : List (String × Value)} {field : String × Value} {key : String}
  {value : Value}

/-- Ascending keys, each of them once. -/
def Ascending (fields : List (String × Value)) : Prop :=
  fields.Pairwise fun field later => field.1 < later.1

theorem mem_of_mem_insert (member : field ∈ insert key value fields) :
    field = (key, value) ∨ field ∈ fields := by
  induction fields with
  | nil => simpa [insert] using member
  | cons first rest inductionHypothesis =>
    rw [insert] at member
    split_ifs at member with less same
    · simpa using member
    · rcases List.mem_cons.1 member with rfl | later
      · exact .inl rfl
      · exact .inr (List.mem_cons_of_mem _ later)
    · rcases List.mem_cons.1 member with rfl | later
      · exact .inr List.mem_cons_self
      · exact (inductionHypothesis later).imp_right (List.mem_cons_of_mem _)

theorem Ascending.insert (ascending : Ascending fields) (key : String) (value : Value) :
    Ascending (insert key value fields) := by
  induction fields with
  | nil => exact List.pairwise_singleton _ _
  | cons first rest inductionHypothesis =>
    obtain ⟨below, ascendingRest⟩ := List.pairwise_cons.1 ascending
    rw [Fields.insert]
    split_ifs with less same
    · refine List.pairwise_cons.2 ⟨fun later member => ?_, ascending⟩
      rcases List.mem_cons.1 member with rfl | member
      · exact less
      · exact less.trans (below later member)
    · exact List.pairwise_cons.2 ⟨same ▸ below, ascendingRest⟩
    · refine List.pairwise_cons.2 ⟨fun later member => ?_, inductionHypothesis ascendingRest⟩
      rcases mem_of_mem_insert member with rfl | member
      · exact lt_of_le_of_ne (not_lt.1 less) (Ne.symm same)
      · exact below later member

theorem ascending_foldl_insert (ascending : Ascending fields) (pairs : List (String × Value)) :
    Ascending (pairs.foldl (fun fields pair => insert pair.1 pair.2 fields) fields) := by
  induction pairs generalizing fields with
  | nil => exact ascending
  | cons pair rest inductionHypothesis => exact inductionHypothesis (ascending.insert _ _)

theorem ascending_ofPairs (pairs : List (String × Value)) : Ascending (ofPairs pairs) :=
  ascending_foldl_insert List.Pairwise.nil pairs

theorem mem_of_mem_foldl_insert
    (member : field ∈ pairs.foldl (fun fields pair => insert pair.1 pair.2 fields) fields) :
    field ∈ fields ∨ field ∈ pairs := by
  induction pairs generalizing fields with
  | nil => exact .inl member
  | cons pair rest inductionHypothesis =>
    rcases inductionHypothesis member with member | later
    · rcases mem_of_mem_insert member with same | earlier
      · exact .inr (same ▸ List.mem_cons_self)
      · exact .inl earlier
    · exact .inr (List.mem_cons_of_mem _ later)

theorem mem_of_mem_ofPairs (member : field ∈ ofPairs pairs) : field ∈ pairs :=
  (mem_of_mem_foldl_insert member).resolve_left List.not_mem_nil

/-! ## Fields by their keys -/

theorem get?_cons (other : String) :
    get? ((key, value) :: fields) other = if other = key then some value else get? fields other := by
  by_cases same : other = key
  · simp [get?, same]
  · simp [get?, List.lookup_cons, beq_false_of_ne same, same]

theorem get?_insert (other : String) :
    get? (insert key value fields) other =
      if other = key then some value else get? fields other := by
  induction fields with
  | nil => exact get?_cons other
  | cons first rest inductionHypothesis =>
    obtain ⟨here, held⟩ := first
    rw [insert]
    by_cases less : key < here
    · rw [if_pos less, get?_cons]
    rw [if_neg less]
    by_cases same : key = here
    · subst same
      simp only [if_true, get?_cons]
      by_cases found : other = key
      · simp [found]
      · simp [found]
    · rw [if_neg same, get?_cons, get?_cons, inductionHypothesis]
      by_cases passed : other = here
      · simp [passed, Ne.symm same]
      · simp [passed]

/-- Of several fields with one key an object has the last. -/
theorem get?_ofPairs (pairs : List (String × Value)) (other : String) :
    get? (ofPairs pairs) other = get? pairs.reverse other := by
  rw [← List.reverse_reverse pairs]
  induction pairs.reverse with
  | nil => rfl
  | cons pair earlier inductionHypothesis =>
    obtain ⟨key, value⟩ := pair
    have last : ofPairs ((key, value) :: earlier).reverse =
        insert key value (ofPairs earlier.reverse) := by
      simp [ofPairs]
    rw [last, get?_insert, inductionHypothesis, List.reverse_reverse, List.reverse_reverse, get?_cons]

/-! ## Fields that are in order -/

theorem insert_eq_concat (below : ∀ field ∈ fields, field.1 < key) :
    insert key value fields = fields ++ [(key, value)] := by
  induction fields with
  | nil => rfl
  | cons first rest inductionHypothesis =>
    have less : first.1 < key := below first List.mem_cons_self
    rw [insert, if_neg less.asymm, if_neg less.ne',
      inductionHypothesis fun field member => below field (List.mem_cons_of_mem _ member)]
    rfl

theorem foldl_insert_eq_append (ascending : Ascending (before ++ after)) :
    after.foldl (fun fields pair => insert pair.1 pair.2 fields) before = before ++ after := by
  induction after generalizing before with
  | nil => simp
  | cons pair rest inductionHypothesis =>
    have below : ∀ field ∈ before, field.1 < pair.1 := fun field member =>
      (List.pairwise_append.1 ascending).2.2 field member pair List.mem_cons_self
    have ascending : Ascending (before ++ [pair] ++ rest) := by simpa using ascending
    rw [List.foldl_cons, insert_eq_concat below, inductionHypothesis ascending]
    simp

theorem ofPairs_of_ascending (ascending : Ascending fields) : ofPairs fields = fields :=
  foldl_insert_eq_append (List.nil_append fields ▸ ascending)

end RpcStubs.Json.Fields
