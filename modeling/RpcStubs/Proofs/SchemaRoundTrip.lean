import RpcStubs.Proofs.Json.RoundTrip
import RpcStubs.Schema.Decode
import RpcStubs.Schema.Encode

/-! # Schemas as JSON text

A schema is written as JSON text and read back as the same schema (`schemas_survive`).  What is absent
stays absent: a field that is left out is not told apart from null when it is read, but no field is
written as null, and an empty list or record is written as such.

The text itself is not looked at here.  A record lists its fields in the order of its definition and is
decoded from fields in the order of their keys, so it is decoded by what is found under each key
(`get?_sorted`).
-/

namespace RpcStubs.Schema

open Json

variable {α : Type} {decode : Value → Except DecodeError α} {encode : α → Value} {depth : Nat}
  {key : String} {fields : Fields} {value : Value} {a : α} {part : Option α}

/-- A value can be written, and what is read of its text is decoded as `a`. -/
structure Stores (decode : Value → Except DecodeError α) (depth : Nat) (value : Value) (a : α) :
    Prop where
  writable : value.Writable depth
  decoded : decode value.sorted = .ok a

theorem Stores.mono {limit : Nat} (stores : Stores decode depth value a) (within : depth ≤ limit) :
    Stores decode limit value a :=
  ⟨stores.writable.mono within, stores.decoded⟩

/-! ## Strings and lists -/

theorem stores_string (depth : Nat) (s : String) : Stores decodeString depth (.string s) s :=
  ⟨.string depth s, rfl⟩

theorem stores_items {items : List α} (each : ∀ a ∈ items, Stores decode depth (encode a) a) :
    (Value.array (items.map encode)).Writable (depth + 1) ∧
      (sortedItems (items.map encode)).mapM decode = .ok items := by
  constructor
  · exact .array (List.forall_mem_map.2 fun a member => (each a member).writable)
  · rw [sortedItems_eq, List.map_map, mapM_eq_ok_iff, List.forall₂_map_left_iff, List.forall₂_same]
    exact fun a member => (each a member).decoded

theorem stores_list {items : List α} (each : ∀ a ∈ items, Stores decode depth (encode a) a) :
    Stores (decodeList decode) (depth + 1) (.array (items.map encode)) items :=
  ⟨(stores_items each).1, (stores_items each).2⟩

/-! ## Fields of records -/

theorem get?_presentPair (key : String) (encode : α → Value) (part : Option α) (other : String) :
    Fields.get? (presentPair key encode part) other =
      if other = key then part.map encode else none := by
  cases part with
  | none => simp [presentPair, Fields.get?]
  | some a => exact Fields.get?_cons other

theorem reverse_presentPair (key : String) (encode : α → Value) (part : Option α) :
    (presentPair key encode part).reverse = presentPair key encode part := by
  cases part <;> rfl

theorem get?_nil (other : String) : Fields.get? [] other = none :=
  rfl

theorem get?_append (before after : Fields) (other : String) :
    Fields.get? (before ++ after) other = (before.get? other).or (after.get? other) :=
  List.lookup_append

/-- What is read under a key is what was written last under it. -/
theorem get?_sorted (fields : Fields) (key : String) :
    Fields.get? (.ofPairs (sortedFields fields)) key =
      (Fields.get? fields.reverse key).map Value.sorted := by
  rw [Fields.get?_ofPairs, sortedFields_eq, ← List.map_reverse]
  induction fields.reverse with
  | nil => rfl
  | cons field others inductionHypothesis =>
    rw [List.map_cons, Fields.get?_cons, Fields.get?_cons, inductionHypothesis]
    split_ifs <;> rfl

theorem writable_presentPair (each : ∀ a ∈ part, Stores decode depth (encode a) a) :
    ∀ field ∈ presentPair key encode part, field.2.Writable depth := by
  cases part with
  | none => exact List.forall_mem_nil _
  | some a => exact List.forall_mem_singleton.2 (each a rfl).writable

theorem presentField_eq (found : fields.get? key = some value.sorted)
    (stores : Stores decode depth value a) : presentField fields key decode = .ok (some a) := by
  rw [presentField, found]
  simp only [stores.decoded]
  rfl

/-- An optional field is read as what was written, since nothing that is there is written as null. -/
theorem optionalField_eq (part : Option α)
    (found : fields.get? key = (part.map encode).map Value.sorted)
    (each : ∀ a ∈ part, Stores decode depth (encode a) a)
    (nullRefused : (decode .null).toOption = none) :
    optionalField fields key decode = .ok part := by
  cases part with
  | none =>
    rw [optionalField, found]
    rfl
  | some a =>
    have decoded := (each a rfl).decoded
    rw [optionalField, found]
    simp only [Option.map_some]
    have same : decodeOptional decode (encode a).sorted = some <$> decode (encode a).sorted := by
      unfold decodeOptional
      split
      next null =>
        rw [null] at decoded
        rw [decoded] at nullRefused
        cases nullRefused
      next => rfl
    rw [same, decoded]
    rfl

/-! ## Records -/

theorem stores_typeLabel (label : TypeLabel) : Stores decodeTypeLabel 1 label.toJson label := by
  cases label with
  | single name => exact ⟨.string 1 name, rfl⟩
  | union names =>
    obtain ⟨writable, decoded⟩ := stores_items fun name (_ : name ∈ names) => stores_string 0 name
    refine ⟨writable, ?_⟩
    simp only [TypeLabel.toJson, Value.sorted, decodeTypeLabel, decoded]

theorem stores_parameterSchema (schema : ParameterSchema) :
    Stores decodeParameterSchema 2 schema.toJson schema := by
  have type : ∀ label ∈ schema.type, Stores decodeTypeLabel 1 label.toJson label := fun label _ =>
    stores_typeLabel label
  refine ⟨.object (writable_presentPair type), ?_⟩
  simp only [ParameterSchema.toJson, Value.sorted, decodeParameterSchema]
  rw [optionalField_eq schema.type _ type rfl]
  · rfl
  · simp [get?_sorted, reverse_presentPair, get?_presentPair]

theorem stores_parameter (parameter : Parameter) :
    Stores decodeParameter 3 parameter.toJson parameter := by
  have name := stores_string 2 parameter.name
  have schema : ∀ schema ∈ parameter.schema, Stores decodeParameterSchema 2 schema.toJson schema :=
    fun schema _ => stores_parameterSchema schema
  refine ⟨.object (List.forall_mem_cons.2 ⟨name.writable, writable_presentPair schema⟩), ?_⟩
  simp only [Parameter.toJson, Value.sorted, decodeParameter]
  rw [presentField_eq _ name, optionalField_eq parameter.schema _ schema rfl]
  · rfl
  · simp [get?_sorted, reverse_presentPair, get?_append, get?_presentPair, Fields.get?_cons, get?_nil]
  · simp [get?_sorted, reverse_presentPair, get?_append, get?_presentPair, Fields.get?_cons]

theorem stores_resultType (result : ResultType) :
    Stores decodeResultType 1 result.toJson result := by
  have name := stores_string 0 result.name
  refine ⟨.object (List.forall_mem_singleton.2 name.writable), ?_⟩
  simp only [ResultType.toJson, Value.sorted, decodeResultType]
  rw [presentField_eq _ name]
  · rfl
  · simp [get?_sorted, Fields.get?_cons]

theorem stores_method (method : Method) : Stores decodeMethod 5 method.toJson method := by
  have name := stores_string 4 method.name
  have description : ∀ text ∈ method.description, Stores decodeString 4 (.string text) text :=
    fun text _ => stores_string 4 text
  have params : ∀ params ∈ method.params, Stores (decodeList decodeParameter) 4
      (.array (params.map Parameter.toJson)) params := fun params _ =>
    stores_list fun parameter _ => stores_parameter parameter
  have result : ∀ result ∈ method.result, Stores decodeResultType 4 result.toJson result :=
    fun result _ => (stores_resultType result).mono (by omega)
  constructor
  · refine .object (List.forall_mem_append.2 ⟨List.forall_mem_append.2 ⟨?_, ?_⟩, ?_⟩)
    · exact List.forall_mem_cons.2 ⟨name.writable, writable_presentPair description⟩
    · exact writable_presentPair params
    · exact writable_presentPair result
  simp only [Method.toJson, Value.sorted, decodeMethod]
  -- the fields are looked up in the order of their keys
  rw [optionalField_eq method.description _ description rfl, presentField_eq _ name,
    optionalField_eq method.params _ params rfl, optionalField_eq method.result _ result rfl]
  · rfl
  all_goals
    simp [get?_sorted, reverse_presentPair, get?_append, get?_presentPair, Fields.get?_cons, get?_nil]

theorem stores_document (document : Document) :
    Stores decodeDocument 7 document.toJson document := by
  have methods : Stores (decodeList decodeMethod) 6 (.array (document.methods.map Method.toJson))
      document.methods := stores_list fun method _ => stores_method method
  refine ⟨.object (List.forall_mem_singleton.2 methods.writable), ?_⟩
  simp only [Document.toJson, Value.sorted, decodeDocument]
  rw [presentField_eq _ methods]
  · rfl
  · simp [get?_sorted, Fields.get?_cons]

/-! ## Texts -/

/-- Written in either layout and read again, `a` is decoded as itself. -/
def Survives (encode : α → Value) (decode : Value → Except DecodeError α) (a : α) : Prop :=
  ∀ text ∈ [(encode a).compact, (encode a).indented],
    ∃ value, Value.ofString text = .ok value ∧ decode value = .ok a

theorem Stores.survives (stores : Stores decode depth (encode a) a) (within : depth ≤ depthLimit) :
    Survives encode decode a := by
  have writable := stores.writable.mono within
  have compact := Value.ofString_compact writable
  have indented := Value.ofString_indented_append writable "" (List.forall_mem_nil _)
  rw [String.append_empty] at indented
  intro text member
  simp only [List.mem_cons, List.not_mem_nil, or_false] at member
  rcases member with rfl | rfl
  · exact ⟨_, compact, stores.decoded⟩
  · exact ⟨_, indented, stores.decoded⟩

/-- Every schema is read from its JSON text as what it was. -/
theorem schemas_survive :
    (∀ label, Survives TypeLabel.toJson decodeTypeLabel label) ∧
    (∀ schema, Survives ParameterSchema.toJson decodeParameterSchema schema) ∧
    (∀ parameter, Survives Parameter.toJson decodeParameter parameter) ∧
    (∀ result, Survives ResultType.toJson decodeResultType result) ∧
    (∀ method, Survives Method.toJson decodeMethod method) ∧
    ∀ document, Survives Document.toJson decodeDocument document := by
  refine ⟨?_, ?_, ?_, ?_, ?_, ?_⟩
  · exact fun label => (stores_typeLabel label).survives (by decide)
  · exact fun schema => (stores_parameterSchema schema).survives (by decide)
  · exact fun parameter => (stores_parameter parameter).survives (by decide)
  · exact fun result => (stores_resultType result).survives (by decide)
  · exact fun method => (stores_method method).survives (by decide)
  · exact fun document => (stores_document document).survives (by decide)

end RpcStubs.Schema
