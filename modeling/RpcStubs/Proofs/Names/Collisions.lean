import RpcStubs.Proofs.Generated

/-! # Collisions

When every stub on its own passes its check, the pass over all of them can only fail because two
functions have the same name, and it reports exactly one pair of stubs: the first stub whose function
has the name of an earlier one, with that earlier one (`collisions_exact`).

That the pair is determined rests on where the pass stops.  The stubs before the reported one are
accepted together, so no two of their functions have the same name: none of them is a second one, and
only one of them can be the owner (`firstClash_of_split`).

A method that is listed twice gives its function the same name both times, so no document with one is
ever accepted.
-/

namespace RpcStubs

namespace Stub

/-! ## The first clash -/

/-- Two stubs, the second of them later in the list, whose functions have the same name. -/
structure Clash (stubs : List Stub) (i j : Nat) (owner stub : Stub) : Prop where
  order : i < j
  atFirst : stubs[i]? = some owner
  atSecond : stubs[j]? = some stub
  sameName : owner.functionName = stub.functionName

/-- The clash with the smallest second place.  No other stub clashes with the one at that place. -/
structure FirstClash (stubs : List Stub) (i j : Nat) (owner stub : Stub) : Prop
    extends Clash stubs i j owner stub where
  least : ∀ i' j' owner' stub', Clash stubs i' j' owner' stub' → j ≤ j'
  sole : ∀ i' owner', Clash stubs i' j owner' stub → i' = i

/-- What is wrong with a stub whose function has the name of the owner's. -/
def collision (owner stub : Stub) : Failure :=
  if owner.method = stub.method then .schemaShape stub.method .listedTwice
  else .namingCollision stub.functionName owner.method stub.method

section Split

variable {before : List Stub} {owner stub : Stub}

/-- Stubs before a place have function names of their own, so two places with the same name there are
one place. -/
theorem eq_of_sameName (distinct : (before.map functionName).Nodup) {i j : Nat}
    {first second : Stub} (atFirst : before[i]? = some first) (atSecond : before[j]? = some second)
    (sameName : first.functionName = second.functionName) : i = j := by
  have bound : i < (before.map functionName).length := by
    rw [List.length_map]
    exact (List.getElem?_eq_some_iff.1 atFirst).1
  apply (List.getElem?_inj bound distinct).1
  rw [List.getElem?_map, List.getElem?_map, atFirst, atSecond, Option.map_some, Option.map_some,
    sameName]

theorem firstClash_of_split (after : List Stub) (distinct : (before.map functionName).Nodup)
    (member : owner ∈ before) (sameName : owner.functionName = stub.functionName) :
    ∃ i, FirstClash (before ++ stub :: after) i before.length owner stub := by
  obtain ⟨i, atFirst⟩ := List.mem_iff_getElem?.1 member
  have bound : i < before.length := (List.getElem?_eq_some_iff.1 atFirst).1
  have inBefore : ∀ {k : Nat} {other : Stub}, k < before.length →
      (before ++ stub :: after)[k]? = some other → before[k]? = some other := by
    intro k other early found
    rwa [List.getElem?_append_left early] at found
  refine ⟨i, ⟨bound, ?_, ?_, sameName⟩, ?_, ?_⟩
  · rwa [List.getElem?_append_left bound]
  · simp
  · -- both places of an earlier clash would be before the stub
    intro i' j' owner' stub' clash
    by_contra early
    have order := clash.order
    have second := inBefore (by omega) clash.atSecond
    have first := inBefore (by omega) clash.atFirst
    have samePlace := eq_of_sameName distinct first second clash.sameName
    omega
  · intro i' owner' clash
    have first := inBefore clash.order clash.atFirst
    exact eq_of_sameName distinct first atFirst (clash.sameName.trans sameName.symm)

end Split

/-! ## What the pass reports -/

theorem functionNames_of_headings (stubs : List Stub) :
    (stubs.map heading).map Heading.functionName = stubs.map functionName := by
  simp

variable {stubs : List Stub}

theorem checkAll_eq_ok_iff_nodup (checked : ∀ stub ∈ stubs, stub.check = .ok ()) :
    checkAll stubs = .ok () ↔ (stubs.map functionName).Nodup := by
  rw [checkAll_eq_ok_iff, ← functionNames_of_headings]
  constructor
  · exact Heading.Accepted.distinct
  · intro distinct
    refine ⟨?_, distinct⟩
    intro heading member
    obtain ⟨stub, among, rfl⟩ := List.mem_map.1 member
    exact check_eq_ok_iff.1 (checked stub among)

/-- A pass over stubs that are fine on their own fails with their first clash. -/
theorem firstClash_of_error (checked : ∀ stub ∈ stubs, stub.check = .ok ()) {failure : Failure}
    (failed : checkAll stubs = .error failure) :
    ∃ i j owner stub, FirstClash stubs i j owner stub ∧ failure = collision owner stub := by
  have clash : ∀ {before after : List Heading} {heading owner : Heading},
      stubs.map Stub.heading = before ++ heading :: after → Heading.Accepted before →
      owner ∈ before → owner.functionName = heading.functionName →
      ∃ i j first second, FirstClash stubs i j first second ∧ first.heading = owner ∧
        second.heading = heading := by
    intro before after heading owner split accepted member sameName
    obtain ⟨earlier, others, rfl, rfl, next⟩ := List.map_eq_append_iff.1 split
    obtain ⟨stub, later, rfl, rfl, -⟩ := List.map_eq_cons_iff.1 next
    obtain ⟨first, among, rfl⟩ := List.mem_map.1 member
    have distinct := accepted.distinct
    rw [functionNames_of_headings] at distinct
    obtain ⟨i, firstClash⟩ := firstClash_of_split later distinct among sameName
    exact ⟨i, _, first, stub, firstClash, rfl, rfl⟩
  cases checkAll_eq_error_iff.1 failed with
  | @name before after heading name fault split accepted wrong =>
    -- the faulty heading is that of a stub, which passed its check
    have member : heading ∈ stubs.map Stub.heading := by simp [split]
    obtain ⟨stub, among, rfl⟩ := List.mem_map.1 member
    have passed := checked stub among
    rw [check_eq_error_iff.2 ⟨name, fault, wrong, rfl⟩] at passed
    cases passed
  | listedTwice split accepted _ member sameName sameMethod =>
    obtain ⟨i, j, owner, stub, firstClash, rfl, rfl⟩ := clash split accepted member sameName
    exact ⟨i, j, owner, stub, firstClash, (if_pos sameMethod).symm⟩
  | collision split accepted _ member sameName otherMethod =>
    obtain ⟨i, j, owner, stub, firstClash, rfl, rfl⟩ := clash split accepted member sameName
    exact ⟨i, j, owner, stub, firstClash, (if_neg otherMethod).symm⟩

end Stub

/-! ## Methods listed twice -/

theorem Module.rejects_listedTwice {settings : Settings} {document : Schema.Document}
    (repeated : ¬ (document.methods.map (·.name)).Nodup) :
    ∃ failure, generate settings document = .error failure := by
  cases generated : generate settings document with
  | error failure => exact ⟨failure, rfl⟩
  | ok text =>
    have distinct := (accepted_of_generate generated).distinct
    have names : (document.methods.map (·.heading settings.snakeCase)).map Heading.functionName =
        (document.methods.map (·.name)).map (Stub.functionNameOf settings.snakeCase) := by
      simp [Schema.Method.heading]
    rw [names] at distinct
    exact absurd distinct.of_map repeated

/-- Of stubs that are fine on their own, the pass over all lets through those whose functions have
names of their own, and of any others it reports the first clash.  So generation rejects every
document that lists a method twice. -/
theorem Stub.collisions_exact :
    (∀ stubs : List Stub, (∀ stub ∈ stubs, stub.check = .ok ()) →
      (checkAll stubs = .ok () ↔ (stubs.map functionName).Nodup) ∧
      (¬ (stubs.map functionName).Nodup → ∃ i j owner stub, FirstClash stubs i j owner stub ∧
        checkAll stubs = .error (collision owner stub))) ∧
    ∀ (settings : Settings) (document : Schema.Document),
      ¬ (document.methods.map (·.name)).Nodup →
      ∃ failure, Module.generate settings document = .error failure := by
  refine ⟨?_, fun settings document => Module.rejects_listedTwice⟩
  intro stubs checked
  refine ⟨checkAll_eq_ok_iff_nodup checked, ?_⟩
  intro repeated
  cases passed : checkAll stubs with
  | ok => exact absurd ((checkAll_eq_ok_iff_nodup checked).1 passed) repeated
  | error failure =>
    obtain ⟨i, j, owner, stub, firstClash, rfl⟩ := firstClash_of_error checked passed
    exact ⟨i, j, owner, stub, firstClash, rfl⟩

/-- Four stubs, the later two of which clash with the earlier two. -/
def Stub.twoClashes : List Stub :=
  [⟨"get_object", "sui_getObject", ["id"], [], "", ""⟩, ⟨"ping", "sui_ping", [], [], "", ""⟩,
    ⟨"get_object", "rpc_getObject", ["id"], [], "", ""⟩, ⟨"ping", "rpc_ping", [], [], "", ""⟩]

theorem Stub.first_of_two_clashes :
    (∀ stub ∈ twoClashes, stub.check = .ok ()) ∧ ¬ (twoClashes.map functionName).Nodup ∧
      (∃ i j owner stub, FirstClash twoClashes i j owner stub ∧
        checkAll twoClashes = .error (collision owner stub)) ∧
      ∃ failure, Module.generate .default
        ⟨[.complete "sui_ping" [] "u64", .complete "x" [] "R", .complete "sui_ping" [⟨"a", none⟩] "R"]⟩ =
          .error failure := by
  have checked : ∀ stub ∈ twoClashes, stub.check = .ok () := by
    have each : ∀ stub ∈ twoClashes, stub.check.toOption = some () := by decide +kernel
    exact fun stub member => eq_ok_of_toOption (each stub member)
  have repeated : ¬ (twoClashes.map functionName).Nodup := by decide
  exact ⟨checked, repeated, (collisions_exact.1 twoClashes checked).2 repeated,
    collisions_exact.2 .default _ (by decide)⟩

end RpcStubs
