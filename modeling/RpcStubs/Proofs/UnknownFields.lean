import Mathlib.Logic.Relation
import RpcStubs.Proofs.Acceptance
import RpcStubs.Proofs.SchemaRoundTrip

/-! # Fields that make no difference

What a record does not know is passed over, and an optional field that is null counts as absent, in
whatever record of a document it stands.  So documents that are alike but for such fields are read
alike (`Edit.decode_eq` for one field that is put in or taken out, `decode_eq_of_edits` for any
number of them), and a method that leaves something out gets as far as the stubs, where it is
reported by its name.

All five records are read in the same way, field by field, and differ in their fields alone.  These
are listed here (`Record.fields`), with what stands in each of them, and that the readers go by the
list is said twice: for records that are objects (`decode_object_congr`) and for those that are
arrays (`decode_array_congr`).
-/

namespace RpcStubs

namespace Json.Fields

/-- A key that is not there yet gets a place of its own, and all else stays as it is. -/
theorem exists_insert {fields : Fields} {key : String} (absent : fields.get? key = none)
    (value : Value) :
    ∃ before after, fields = before ++ after ∧
      fields.insert key value = before ++ (key, value) :: after := by
  induction fields with
  | nil => exact ⟨[], [], rfl, rfl⟩
  | cons field rest inductionHypothesis =>
    rw [get?_cons] at absent
    split_ifs at absent with same
    rw [insert]
    split_ifs with less
    · exact ⟨[], _, rfl, rfl⟩
    · obtain ⟨before, after, rfl, inserted⟩ := inductionHypothesis absent
      exact ⟨field :: before, after, rfl, by rw [inserted]; rfl⟩

end Json.Fields

namespace Schema

open Json

/-! ## Records and their fields -/

/-- The records that a document is made of. -/
inductive Record where
  | document
  | method
  | parameter
  | parameterSchema
  | resultType
  deriving DecidableEq

/-- What a value is read as at the place where it stands. -/
inductive Place where
  | text
  | typeLabel
  | record (inner : Record)
  | list (inner : Record)
  deriving DecidableEq

structure Field where
  key : String
  isOptional : Bool
  place : Place
  deriving DecidableEq

/-- The fields of a record in the order of their positions. -/
def Record.fields : Record → List Field
  | .document => [⟨"methods", false, .list .method⟩]
  | .method =>
    [⟨"name", false, .text⟩, ⟨"description", true, .text⟩, ⟨"params", true, .list .parameter⟩,
      ⟨"result", true, .record .resultType⟩]
  | .parameter => [⟨"name", false, .text⟩, ⟨"schema", true, .record .parameterSchema⟩]
  | .parameterSchema => [⟨"type", true, .typeLabel⟩]
  | .resultType => [⟨"name", false, .text⟩]

/-- What a record is read into. -/
def Record.Reading : Record → Type
  | .document => Document
  | .method => Method
  | .parameter => Parameter
  | .parameterSchema => ParameterSchema
  | .resultType => ResultType

def Record.decode : (record : Record) → Value → Except DecodeError record.Reading
  | .document => decodeDocument
  | .method => decodeMethod
  | .parameter => decodeParameter
  | .parameterSchema => decodeParameterSchema
  | .resultType => decodeResultType

def Place.Reading : Place → Type
  | .text => String
  | .typeLabel => TypeLabel
  | .record inner => inner.Reading
  | .list inner => List inner.Reading

def Place.decode : (place : Place) → Value → Except DecodeError place.Reading
  | .text => decodeString
  | .typeLabel => decodeTypeLabel
  | .record inner => inner.decode
  | .list inner => decodeList inner.decode

/-- What a field is read as, given the value that is found for it. -/
def Field.read (field : Field) : Option Value → Except DecodeError (Option field.place.Reading)
  | none => .ok none
  | some v =>
    if field.isOptional then decodeOptional field.place.decode v else some <$> field.place.decode v

theorem Record.field_unique {record : Record} {field other : Field}
    (declared : field ∈ record.fields) (otherDeclared : other ∈ record.fields)
    (sameKey : field.key = other.key) : field = other := by
  have unique : ∀ field ∈ record.fields, ∀ other ∈ record.fields,
      field.key = other.key → field = other := by
    cases record <;> decide
  exact unique field declared other otherDeclared sameKey

variable {record : Record} {place : Place} {field : Field} {fields fields' before after : Fields}
  {key : String} {value v v' : Value}

/-- A record that is an object is read by what is found under the keys of its fields. -/
theorem decode_object_congr
    (alike : ∀ field ∈ record.fields,
      field.read (fields.get? field.key) = field.read (fields'.get? field.key)) :
    record.decode (.object fields) = record.decode (.object fields') := by
  -- what is alike is said once more in the words of each reader, which then takes nothing else
  cases record with
  | document =>
    simp only [Record.fields, List.forall_mem_singleton] at alike
    have methods : presentField fields "methods" (decodeList decodeMethod) =
      presentField fields' "methods" (decodeList decodeMethod) := alike
    change decodeDocument (.object fields) = decodeDocument (.object fields')
    simp only [decodeDocument, methods]
  | method =>
    simp only [Record.fields, List.forall_mem_cons] at alike
    obtain ⟨name, description, params, result, -⟩ := alike
    have name : presentField fields "name" decodeString =
      presentField fields' "name" decodeString := name
    have description : optionalField fields "description" decodeString =
      optionalField fields' "description" decodeString := description
    have params : optionalField fields "params" (decodeList decodeParameter) =
      optionalField fields' "params" (decodeList decodeParameter) := params
    have result : optionalField fields "result" decodeResultType =
      optionalField fields' "result" decodeResultType := result
    change decodeMethod (.object fields) = decodeMethod (.object fields')
    simp only [decodeMethod, name, description, params, result]
  | parameter =>
    simp only [Record.fields, List.forall_mem_cons] at alike
    obtain ⟨name, schema, -⟩ := alike
    have name : presentField fields "name" decodeString =
      presentField fields' "name" decodeString := name
    have schema : optionalField fields "schema" decodeParameterSchema =
      optionalField fields' "schema" decodeParameterSchema := schema
    change decodeParameter (.object fields) = decodeParameter (.object fields')
    simp only [decodeParameter, name, schema]
  | parameterSchema =>
    simp only [Record.fields, List.forall_mem_singleton] at alike
    have type : optionalField fields "type" decodeTypeLabel =
      optionalField fields' "type" decodeTypeLabel := alike
    change decodeParameterSchema (.object fields) = decodeParameterSchema (.object fields')
    simp only [decodeParameterSchema, type]
  | resultType =>
    simp only [Record.fields, List.forall_mem_singleton] at alike
    have name : presentField fields "name" decodeString =
      presentField fields' "name" decodeString := alike
    change decodeResultType (.object fields) = decodeResultType (.object fields')
    simp only [decodeResultType, name]

theorem decodeOptional_of_ne_null {α : Type} {decode : Value → Except DecodeError α}
    (filled : v ≠ .null) : decodeOptional decode v = some <$> decode v := by
  unfold decodeOptional
  split
  next => exact absurd rfl filled
  next => rfl

theorem decodeOptional_congr {α : Type} {decode : Value → Except DecodeError α}
    (alike : decode v = decode v') (filled : v ≠ .null) (filled' : v' ≠ .null) :
    decodeOptional decode v = decodeOptional decode v' := by
  rw [decodeOptional_of_ne_null filled, decodeOptional_of_ne_null filled', alike]

theorem Field.read_congr (alike : field.place.decode v = field.place.decode v') (filled : v ≠ .null)
    (filled' : v' ≠ .null) : field.read (some v) = field.read (some v') := by
  simp only [Field.read, decodeOptional_congr alike filled filled', alike]

theorem nextItem_cons_bind {α β : Type} (decode : Value → Except DecodeError α) (v : Value)
    (rest : List Value) (next : Option α × List Value → Except DecodeError β) :
    nextItem decode (v :: rest) >>= next = decode v >>= fun a => next (some a, rest) := by
  simp only [nextItem, bind_assoc, pure_bind]

/-- A record that is an array is read by its positions. -/
theorem decode_array_congr {before after : List Value}
    (declared : record.fields[before.length]? = some field)
    (alike : field.place.decode v = field.place.decode v') (filled : v ≠ .null)
    (filled' : v' ≠ .null) :
    record.decode (.array (before ++ v :: after)) =
      record.decode (.array (before ++ v' :: after)) := by
  -- how many items come before decides on the field, and beyond the last position there is none
  cases record with
  | document =>
    change decodeDocument (.array (before ++ v :: after)) =
      decodeDocument (.array (before ++ v' :: after))
    rcases before with _ | ⟨methods, beyond⟩ <;> cases declared
    have methods : decodeList decodeMethod v = decodeList decodeMethod v' := alike
    simp only [List.nil_append, decodeDocument, nextItem_cons_bind, methods, atEnd, List.length_cons]
  | method =>
    change decodeMethod (.array (before ++ v :: after)) =
      decodeMethod (.array (before ++ v' :: after))
    rcases before with _ | ⟨name, _ | ⟨description, _ | ⟨params, _ | ⟨result, beyond⟩⟩⟩⟩ <;>
      cases declared
    · have name : decodeString v = decodeString v' := alike
      simp only [List.nil_append, decodeMethod, nextItem_cons_bind, name, atEnd, List.length_cons]
    · have description : decodeString v = decodeString v' := alike
      simp only [List.cons_append, List.nil_append, decodeMethod, nextItem_cons_bind,
        decodeOptional_congr description filled filled', atEnd, List.length_cons]
    · have params : decodeList decodeParameter v = decodeList decodeParameter v' := alike
      simp only [List.cons_append, List.nil_append, decodeMethod, nextItem_cons_bind,
        decodeOptional_congr params filled filled', atEnd, List.length_cons]
    · have result : decodeResultType v = decodeResultType v' := alike
      simp only [List.cons_append, List.nil_append, decodeMethod, nextItem_cons_bind,
        decodeOptional_congr result filled filled', atEnd, List.length_cons]
  | parameter =>
    change decodeParameter (.array (before ++ v :: after)) =
      decodeParameter (.array (before ++ v' :: after))
    rcases before with _ | ⟨name, _ | ⟨schema, beyond⟩⟩ <;> cases declared
    · have name : decodeString v = decodeString v' := alike
      simp only [List.nil_append, decodeParameter, nextItem_cons_bind, name, atEnd, List.length_cons]
    · have schema : decodeParameterSchema v = decodeParameterSchema v' := alike
      simp only [List.cons_append, List.nil_append, decodeParameter, nextItem_cons_bind,
        decodeOptional_congr schema filled filled', atEnd, List.length_cons]
  | parameterSchema =>
    change decodeParameterSchema (.array (before ++ v :: after)) =
      decodeParameterSchema (.array (before ++ v' :: after))
    rcases before with _ | ⟨type, beyond⟩ <;> cases declared
    have type : decodeTypeLabel v = decodeTypeLabel v' := alike
    simp only [List.nil_append, decodeParameterSchema, nextItem_cons_bind,
      decodeOptional_congr type filled filled', atEnd, List.length_cons]
  | resultType =>
    change decodeResultType (.array (before ++ v :: after)) =
      decodeResultType (.array (before ++ v' :: after))
    rcases before with _ | ⟨name, beyond⟩ <;> cases declared
    have name : decodeString v = decodeString v' := alike
    simp only [List.nil_append, decodeResultType, nextItem_cons_bind, name, atEnd, List.length_cons]

theorem decodeList_congr {α : Type} {decode : Value → Except DecodeError α}
    (alike : decode v = decode v') (before after : List Value) :
    decodeList decode (.array (before ++ v :: after)) =
      decodeList decode (.array (before ++ v' :: after)) := by
  simp only [decodeList, List.mapM_append, List.mapM_cons, alike]

/-! ## Edits -/

/-- A field that an object may or may not have besides these, as the object is read as this record:
one that the record does not declare, or an optional one that is null. -/
inductive Ignored (record : Record) (fields : Fields) : String → Value → Prop where
  | undeclared {key : String} {value : Value} : (∀ field ∈ record.fields, field.key ≠ key) →
      Ignored record fields key value
  | null {field : Field} : field ∈ record.fields → field.isOptional = true →
      fields.get? field.key = none → Ignored record fields field.key .null

/-- A value and what it becomes by one edit at any depth: an ignored field is put into one of the
records that it is read as, or taken out of it. -/
inductive Edit : Place → Value → Value → Prop where
  | add {record : Record} {before after : Fields} {key : String} {value : Value} :
      Ignored record (before ++ after) key value →
      Edit (.record record) (.object (before ++ after)) (.object (before ++ (key, value) :: after))
  | remove {record : Record} {before after : Fields} {key : String} {value : Value} :
      Ignored record (before ++ after) key value →
      Edit (.record record) (.object (before ++ (key, value) :: after)) (.object (before ++ after))
  | field {record : Record} {field : Field} {before after : Fields} {v v' : Value} :
      field ∈ record.fields → Edit field.place v v' →
      Edit (.record record) (.object (before ++ (field.key, v) :: after))
        (.object (before ++ (field.key, v') :: after))
  | position {record : Record} {field : Field} {before after : List Value} {v v' : Value} :
      record.fields[before.length]? = some field → Edit field.place v v' →
      Edit (.record record) (.array (before ++ v :: after)) (.array (before ++ v' :: after))
  | item {record : Record} {before after : List Value} {v v' : Value} :
      Edit (.record record) v v' →
      Edit (.list record) (.array (before ++ v :: after)) (.array (before ++ v' :: after))

theorem Edit.filled (edit : Edit place v v') : v ≠ .null ∧ v' ≠ .null := by
  cases edit <;> exact ⟨nofun, nofun⟩

theorem get?_between (before after : Fields) (key : String) (value : Value) (other : String) :
    Fields.get? (before ++ (key, value) :: after) other =
      if other = key then (before.get? key).or (some value)
      else Fields.get? (before ++ after) other := by
  rw [get?_append, get?_append, Fields.get?_cons]
  split_ifs with same
  · rw [same]
  · rfl

theorem Ignored.read_eq (ignored : Ignored record (before ++ after) key value)
    (declared : field ∈ record.fields) :
    field.read (Fields.get? (before ++ after) field.key) =
      field.read (Fields.get? (before ++ (key, value) :: after) field.key) := by
  rw [get?_between]
  cases ignored with
  | undeclared undeclared => rw [if_neg (undeclared field declared)]
  | @null other otherDeclared isOptional absent =>
    by_cases same : field.key = other.key
    -- nothing was found under the key, and now it is null
    · obtain rfl := Record.field_unique declared otherDeclared same
      have absentBefore : before.get? field.key = none := by
        rw [get?_append, Option.or_eq_none_iff] at absent
        exact absent.1
      rw [if_pos rfl, absent, absentBefore, Option.none_or]
      simp only [Field.read, isOptional, if_true, decodeOptional]
    · rw [if_neg same]

/-- An edit makes no difference to what is read. -/
theorem Edit.decode_eq (edit : Edit place v v') : place.decode v = place.decode v' := by
  induction edit with
  | add ignored => exact decode_object_congr fun field declared => ignored.read_eq declared
  | remove ignored =>
    exact (decode_object_congr fun field declared => ignored.read_eq declared).symm
  | @field record field before after v v' declared inner alike =>
    -- a value with something to edit is not null, so an optional field is read as a required one
    obtain ⟨filled, filled'⟩ := inner.filled
    refine decode_object_congr fun other otherDeclared => ?_
    rw [get?_between, get?_between]
    by_cases same : other.key = field.key
    · obtain rfl := Record.field_unique otherDeclared declared same
      rw [if_pos rfl, if_pos rfl]
      -- an earlier field of the same key would hide the edited one
      cases before.get? other.key with
      | none => exact Field.read_congr alike filled filled'
      | some found => rfl
    · rw [if_neg same, if_neg same]
  | position declared inner alike =>
    obtain ⟨filled, filled'⟩ := inner.filled
    exact decode_array_congr declared alike filled filled'
  | item _ alike => exact decodeList_congr alike _ _

theorem decode_eq_of_edits (edits : Relation.ReflTransGen (Edit place) v v') :
    place.decode v = place.decode v' := by
  induction edits with
  | refl => rfl
  | tail _ edit inductionHypothesis => exact inductionHypothesis.trans edit.decode_eq

/-- The object of a text, with its keys in order, is edited by one more field in the order. -/
theorem Edit.insert (ignored : Ignored record fields key value) (absent : fields.get? key = none) :
    Edit (.record record) (.object fields) (.object (fields.insert key value)) := by
  obtain ⟨before, after, rfl, inserted⟩ := Fields.exists_insert absent value
  rw [inserted]
  exact .add ignored

/-! ## Methods that leave something out -/

/-- What stands for a field of a record: by its key in an object, by its position in an array. -/
def Record.entry? (record : Record) (key : String) : Value → Option Value
  | .object fields => Fields.get? fields key
  | .array items => items[record.fields.findIdx (·.key = key)]?
  | _ => none

/-- An object, or an array that has a field for each of its items. -/
def Record.Written (record : Record) : Value → Prop
  | .object _ => True
  | .array items => items.length ≤ record.fields.length
  | _ => False

/-- A field is absent or null. -/
def Record.Lacks (record : Record) (key : String) (v : Value) : Prop :=
  record.entry? key v = none ∨ record.entry? key v = some .null

/-- What an optional field is read as. -/
def readEntry {α : Type} (decode : Value → Except DecodeError α) :
    Option Value → Except DecodeError (Option α)
  | none => .ok none
  | some v => decodeOptional decode v

/-- A value that has the fields of a method, each of which can be read or is left out. -/
structure MethodEntry (entry : Value) (method : Method) : Prop where
  form : Record.method.Written entry
  name : Record.method.entry? "name" entry = some (.string method.name)
  description :
    readEntry decodeString (Record.method.entry? "description" entry) = .ok method.description
  params :
    readEntry (decodeList decodeParameter) (Record.method.entry? "params" entry) = .ok method.params
  result : readEntry decodeResultType (Record.method.entry? "result" entry) = .ok method.result

theorem eq_none_of_lacks {α : Type} {decode : Value → Except DecodeError α} {part : Option α}
    (lacks : record.Lacks key v) (read : readEntry decode (record.entry? key v) = .ok part) :
    part = none := by
  rcases lacks with absent | null
  · rw [absent] at read
    exact (Except.ok.inj read).symm
  · rw [null] at read
    exact (Except.ok.inj read).symm

theorem exists_of_not_lacks {α : Type} {decode : Value → Except DecodeError α} {part : Option α}
    (has : ¬ record.Lacks key v) (read : readEntry decode (record.entry? key v) = .ok part) :
    ∃ a, part = some a := by
  rw [Record.Lacks, not_or] at has
  cases found : record.entry? key v with
  | none => exact absurd found has.1
  | some value =>
    have filled : value ≠ .null := by
      rintro rfl
      exact has.2 found
    rw [found, readEntry, decodeOptional_of_ne_null filled] at read
    cases decoded : decode value with
    | error e =>
      rw [decoded] at read
      cases read
    | ok a =>
      rw [decoded] at read
      exact ⟨a, (Except.ok.inj read).symm⟩

theorem nextItem_eq {α : Type} {decode : Value → Except DecodeError α} {part : Option α}
    (items : List Value) (read : readEntry decode items[0]? = .ok part) :
    ∃ item, nextItem (decodeOptional decode) items = .ok (item, items.tail) ∧
      item.getD none = part := by
  cases items with
  | nil =>
    cases read
    exact ⟨none, rfl, rfl⟩
  | cons v rest =>
    have read : decodeOptional decode v = .ok part := read
    refine ⟨some part, ?_, rfl⟩
    rw [nextItem, read]
    rfl

theorem MethodEntry.decode_eq {entry : Value} {method : Method}
    (written : MethodEntry entry method) : decodeMethod entry = .ok method := by
  obtain ⟨form, name, description, params, result⟩ := written
  cases entry with
  | object fields =>
    have name : Fields.get? fields "name" = some (.string method.name) := name
    have description : optionalField fields "description" decodeString = .ok method.description :=
      description
    have params : optionalField fields "params" (decodeList decodeParameter) = .ok method.params :=
      params
    have result : optionalField fields "result" decodeResultType = .ok method.result := result
    have name : presentField fields "name" decodeString = .ok (some method.name) := by
      rw [presentField, name]
      rfl
    simp only [decodeMethod, name, description, params, result]
    rfl
  | array items =>
    cases items with
    | nil => cases name
    | cons first rest =>
      obtain rfl : first = .string method.name := Option.some.inj name
      -- a step for each position: what it gives, and the items that it leaves
      obtain ⟨first, next, gives⟩ := nextItem_eq rest description
      obtain ⟨second, next', gives'⟩ :=
        nextItem_eq rest.tail (by rw [List.getElem?_tail]; exact params)
      obtain ⟨third, next'', gives''⟩ := nextItem_eq rest.tail.tail
        (by rw [List.getElem?_tail, List.getElem?_tail]; exact result)
      have ended : rest.tail.tail.tail = [] := by
        have few : rest.length + 1 ≤ 4 := form
        refine List.eq_nil_of_length_eq_zero ?_
        simp only [List.length_tail]
        omega
      unfold decodeMethod
      refine bind_eq_ok_iff.2 ⟨(some method.name, rest), rfl, ?_⟩
      refine bind_eq_ok_iff.2 ⟨method.name, rfl, ?_⟩
      refine bind_eq_ok_iff.2 ⟨_, next, ?_⟩
      refine bind_eq_ok_iff.2 ⟨_, next', ?_⟩
      refine bind_eq_ok_iff.2 ⟨_, next'', ?_⟩
      simp only [atEnd, ended, List.isEmpty_nil, if_true, gives, gives', gives'']
  | _ => cases form

theorem decodeDocument_eq {items : List Value} {methods : List Method}
    (form : Record.document.Written v)
    (found : Record.document.entry? "methods" v = some (.array items))
    (read : items.mapM decodeMethod = .ok methods) : decodeDocument v = .ok ⟨methods⟩ := by
  cases v with
  | object fields =>
    have found : Fields.get? fields "methods" = some (.array items) := found
    have methods : presentField fields "methods" (decodeList decodeMethod) = .ok (some methods) := by
      simp only [presentField, found, decodeList, read]
      rfl
    simp only [decodeDocument, methods]
    rfl
  | array parts =>
    obtain ⟨part, rfl⟩ : ∃ part, parts = [part] := by
      refine List.length_eq_one_iff.1 (le_antisymm form ?_)
      rw [Nat.one_le_iff_ne_zero]
      intro none
      rw [List.eq_nil_of_length_eq_zero none] at found
      cases found
    obtain rfl : part = .array items := Option.some.inj found
    simp only [decodeDocument, nextItem_cons_bind, decodeList, read]
    rfl
  | _ => cases form

/-- Of the fields that no method can do without, the first one that is left out. -/
inductive FirstLacking (entry : Value) : String → Prop where
  | params : Record.method.Lacks "params" entry → FirstLacking entry "params"
  | result : ¬ Record.method.Lacks "params" entry → Record.method.Lacks "result" entry →
      FirstLacking entry "result"

variable {entry : Value} {method : Method} {earlier later : List Method} {settings : Settings}

theorem MethodEntry.ofMethod_eq (written : MethodEntry entry method)
    (lacking : FirstLacking entry key) (snakeCase : Bool) :
    Stub.ofMethod snakeCase method = .error (.schemaShape method.name (.missing key)) := by
  rw [Stub.ofMethod_eq_error_iff]
  cases lacking with
  | params lacks => exact .inl ⟨eq_none_of_lacks lacks written.params, rfl⟩
  | result has lacks =>
    exact .inr ⟨exists_of_not_lacks has written.params, eq_none_of_lacks lacks written.result, rfl⟩

theorem MethodEntry.generate_eq (written : MethodEntry entry method)
    (lacking : FirstLacking entry key) (transport : ModulePath settings.transportModule)
    (exceptions : ModulePath settings.exceptionsModule)
    (complete : ∀ other ∈ earlier, other.Complete) :
    Module.generate settings ⟨earlier ++ method :: later⟩ =
      .error (.schemaShape method.name (.missing key)) := by
  rw [Module.rejected_iff]
  cases lacking with
  | params lacks =>
    exact .params transport exceptions rfl complete (eq_none_of_lacks lacks written.params)
  | result has lacks =>
    exact .result transport exceptions rfl complete (exists_of_not_lacks has written.params)
      (eq_none_of_lacks lacks written.result)

/-- A value that is written as a document, with an entry among methods that can be read. -/
structure Lists (v entry : Value) (earlier later : List Method) : Prop where
  form : Record.document.Written v
  listed : ∃ before after,
    Record.document.entry? "methods" v = some (.array (before ++ entry :: after)) ∧
      before.mapM decodeMethod = .ok earlier ∧ after.mapM decodeMethod = .ok later

theorem Lists.decode_eq (lists : Lists v entry earlier later) (written : MethodEntry entry method) :
    decodeDocument v = .ok ⟨earlier ++ method :: later⟩ := by
  obtain ⟨form, before, after, found, first, last⟩ := lists
  refine decodeDocument_eq form found ?_
  rw [List.mapM_append, List.mapM_cons, first, written.decode_eq, last]
  rfl

/-! ## Documents with unknown fields -/

/-- Documents that differ in ignored fields are read alike, and a method without parameters or
result is read as such: it is the builder that refuses it, and the report has its name. -/
theorem unknown_fields_ignored :
    (∀ v v', Relation.ReflTransGen (Edit (.record .document)) v v' →
      decodeDocument v = decodeDocument v') ∧
    ∀ v entry method key earlier later, Lists v entry earlier later → MethodEntry entry method →
      FirstLacking entry key →
      decodeDocument v = .ok ⟨earlier ++ method :: later⟩ ∧
      (∀ snakeCase,
        Stub.ofMethod snakeCase method = .error (.schemaShape method.name (.missing key))) ∧
      ∀ settings, ModulePath settings.transportModule → ModulePath settings.exceptionsModule →
        (∀ other ∈ earlier, other.Complete) →
        Module.generate settings ⟨earlier ++ method :: later⟩ =
          .error (.schemaShape method.name (.missing key)) := by
  constructor
  · intro v v' edits
    exact decode_eq_of_edits edits
  · intro v entry method key earlier later lists written lacking
    refine ⟨lists.decode_eq written, written.ofMethod_eq lacking, ?_⟩
    intro settings transport exceptions complete
    exact written.generate_eq lacking transport exceptions complete

/-- The result of a method that says nothing about its parameters. -/
def seconds : Value :=
  .object [("name", .string "u64")]

/-- A document with that method and nothing else. -/
def plain : Value :=
  .object [("methods", .array [.object [("name", .string "getTime"), ("result", seconds)]])]

/-- The same with a version, and with null for the parameters. -/
def versioned : Value :=
  .object [("methods",
      .array [.object [("name", .string "getTime"), ("params", .null), ("result", seconds)]]),
    ("openrpc", .string "1.2.6")]

theorem unknown_fields_ignored_versioned :
    decodeDocument plain = decodeDocument versioned ∧
      decodeDocument versioned = .ok ⟨[⟨"getTime", none, none, some ⟨"u64"⟩⟩]⟩ ∧
      Module.generate .default ⟨[⟨"getTime", none, none, some ⟨"u64"⟩⟩]⟩ =
        .error (.schemaShape "getTime" (.missing "params")) := by
  obtain ⟨alike, reported⟩ := unknown_fields_ignored
  have edits : Relation.ReflTransGen (Edit (.record .document)) plain versioned := by
    have params : (⟨"params", true, .list .parameter⟩ : Field) ∈ Record.method.fields := by decide
    have methods : (⟨"methods", false, .list .method⟩ : Field) ∈ Record.document.fields := by decide
    -- the inner edit first, then the one of the document itself
    have inner : Edit (.record .method) (.object [("name", .string "getTime"), ("result", seconds)])
        (.object [("name", .string "getTime"), ("params", .null), ("result", seconds)]) :=
      @Edit.add _ [("name", .string "getTime")] [("result", seconds)] _ _ (.null params rfl rfl)
    have nulled := @Edit.field _ _ [] [] _ _ methods (@Edit.item _ [] [] _ _ inner)
    have added (fields : Fields) : Ignored .document fields "openrpc" (.string "1.2.6") :=
      .undeclared (by decide)
    exact .tail (.single nulled) (.insert (added _) rfl)
  have lists : Lists versioned
      (.object [("name", .string "getTime"), ("params", .null), ("result", seconds)]) [] [] :=
    ⟨trivial, [], [], rfl, rfl, rfl⟩
  have written : MethodEntry
      (.object [("name", .string "getTime"), ("params", .null), ("result", seconds)])
      ⟨"getTime", none, none, some ⟨"u64"⟩⟩ :=
    ⟨trivial, rfl, rfl, rfl, rfl⟩
  obtain ⟨decoded, -, generated⟩ :=
    reported versioned _ _ "params" [] [] lists written (.params (.inr rfl))
  refine ⟨alike plain versioned edits, decoded, ?_⟩
  exact generated .default ((isModulePath_iff _).1 (by decide +kernel))
    ((isModulePath_iff _).1 (by decide +kernel)) (by simp)

end Schema

end RpcStubs
