import RpcStubs.Proofs.Names.Identifier

/-! # Headings

Of all that a function is generated from, three things decide whether it can stand in a module: its
name, the method that it is for and its parameters.  They are its heading.  Here is what makes a
list of headings acceptable, and what the first thing wrong with one is.

None of this runs a check: `RpcStubs.Proofs.Names.Check` shows that the checks of stubs decide it.
-/

namespace RpcStubs

open Identifier

/-- The names that a function is generated with. -/
structure Heading where
  functionName : String
  method : String
  parameters : List String

def Stub.heading (stub : Stub) : Heading :=
  ⟨stub.functionName, stub.method, stub.parameters⟩

@[simp]
theorem Stub.heading_functionName (stub : Stub) : stub.heading.functionName = stub.functionName :=
  rfl

@[simp]
theorem Stub.heading_method (stub : Stub) : stub.heading.method = stub.method :=
  rfl

@[simp]
theorem Stub.heading_parameters (stub : Stub) : stub.heading.parameters = stub.parameters :=
  rfl

namespace Schema.Method

def parameterNames (method : Method) : List String :=
  (method.params.getD []).map (·.name)

/-- The heading of the function that a method is given. -/
def heading (snakeCase : Bool) (method : Method) : Heading :=
  ⟨Stub.functionNameOf snakeCase method.name, method.name, method.parameterNames⟩

/-- A method that leaves out neither its parameters nor its result. -/
def Complete (method : Method) : Prop :=
  (∃ params, method.params = some params) ∧ ∃ result, method.result = some result

end Schema.Method

namespace Heading

/-! ## Names in their places -/

/-- A name that a module can give to a function. -/
structure FunctionName (name : String) : Prop where
  valid : ValidName name
  free : name ∉ moduleNames

/-- A name that a function can give to a parameter. -/
structure ParameterName (name : String) : Prop where
  valid : ValidName name
  notLocal : name ∉ functionNames
  notImported : name ∉ importedNames

/-- A heading all of whose names are fit for their places. -/
structure WellNamed (heading : Heading) : Prop where
  function : FunctionName heading.functionName
  parameters : ∀ name ∈ heading.parameters, ParameterName name
  distinct : heading.parameters.Nodup

/-- Headings whose functions can stand in one module. -/
structure Accepted (headings : List Heading) : Prop where
  wellNamed : ∀ heading ∈ headings, WellNamed heading
  distinct : (headings.map functionName).Nodup

/-! ## What is wrong first -/

inductive FunctionFault (name : String) : NameFault → Prop where
  | notValid : ¬ ValidName name → FunctionFault name .badFunctionName
  | taken : ValidName name → name ∈ moduleNames → FunctionFault name .shadowsModuleName

/-- What is wrong with the name of a parameter that comes after those of `earlier`. -/
inductive ParameterFault (earlier : List String) (name : String) : NameFault → Prop where
  | notValid : ¬ ValidName name → ParameterFault earlier name .badParameterName
  | bound : ValidName name → name ∈ functionNames → ParameterFault earlier name .clashesWithLocal
  | imported : ValidName name → name ∉ functionNames → name ∈ importedNames →
      ParameterFault earlier name .shadowsImport
  | repeated : ParameterName name → name ∈ earlier → ParameterFault earlier name .repeated

/-- The first name of a heading that something is wrong with: that of the function, or a parameter
after nothing but good ones. -/
inductive Fault (heading : Heading) : String → NameFault → Prop where
  | function {fault : NameFault} : FunctionFault heading.functionName fault →
      Fault heading heading.functionName fault
  | parameter {earlier later : List String} {name : String} {fault : NameFault} :
      FunctionName heading.functionName → heading.parameters = earlier ++ name :: later →
      (∀ other ∈ earlier, ParameterName other) → earlier.Nodup →
      ParameterFault earlier name fault → Fault heading name fault

/-- Why headings are not accepted: the failure of the first heading whose names are not fit, or whose
function has the name of an earlier one. -/
inductive Rejected (headings : List Heading) : Failure → Prop where
  | name {before after : List Heading} {heading : Heading} {name : String} {fault : NameFault} :
      headings = before ++ heading :: after → Accepted before → Fault heading name fault →
      Rejected headings (.invalidIdentifier heading.method name fault)
  | listedTwice {before after : List Heading} {heading owner : Heading} :
      headings = before ++ heading :: after → Accepted before → WellNamed heading →
      owner ∈ before → owner.functionName = heading.functionName →
      owner.method = heading.method → Rejected headings (.schemaShape heading.method .listedTwice)
  | collision {before after : List Heading} {heading owner : Heading} :
      headings = before ++ heading :: after → Accepted before → WellNamed heading →
      owner ∈ before → owner.functionName = heading.functionName →
      owner.method ≠ heading.method →
      Rejected headings (.namingCollision heading.functionName owner.method heading.method)

/-! ## Basic facts -/

theorem accepted_nil : Accepted [] :=
  ⟨by simp, by simp⟩

/-- Two lists of headings are accepted together if each of them is and no function of the one has the
name of one of the other. -/
theorem accepted_append_iff {first second : List Heading} :
    Accepted (first ++ second) ↔ Accepted first ∧ Accepted second ∧
      ∀ before ∈ first, ∀ after ∈ second, before.functionName ≠ after.functionName := by
  constructor
  · rintro ⟨wellNamed, distinct⟩
    rw [List.map_append, List.nodup_append] at distinct
    obtain ⟨distinctFirst, distinctSecond, apart⟩ := distinct
    rw [List.forall_mem_append] at wellNamed
    refine ⟨⟨wellNamed.1, distinctFirst⟩, ⟨wellNamed.2, distinctSecond⟩, ?_⟩
    intro before among after follows
    exact apart _ (List.mem_map_of_mem among) _ (List.mem_map_of_mem follows)
  · rintro ⟨acceptedFirst, acceptedSecond, apart⟩
    refine ⟨List.forall_mem_append.2 ⟨acceptedFirst.wellNamed, acceptedSecond.wellNamed⟩, ?_⟩
    rw [List.map_append, List.nodup_append]
    refine ⟨acceptedFirst.distinct, acceptedSecond.distinct, ?_⟩
    intro name member other otherMember
    obtain ⟨before, among, rfl⟩ := List.mem_map.1 member
    obtain ⟨after, follows, rfl⟩ := List.mem_map.1 otherMember
    exact apart before among after follows

theorem accepted_singleton_iff {heading : Heading} : Accepted [heading] ↔ WellNamed heading := by
  constructor
  · intro accepted
    exact accepted.wellNamed heading (by simp)
  · intro wellNamed
    exact ⟨by simpa using wellNamed, by simp⟩

/-- One more heading is accepted if its names are fit and its function has a name of its own. -/
theorem accepted_concat_iff {before : List Heading} {heading : Heading} :
    Accepted (before ++ [heading]) ↔ Accepted before ∧ WellNamed heading ∧
      ∀ owner ∈ before, owner.functionName ≠ heading.functionName := by
  rw [accepted_append_iff, accepted_singleton_iff]
  simp

end Heading

end RpcStubs
