import RpcStubs.Proofs.Except
import RpcStubs.Proofs.Names.Heading
import Mathlib.Data.List.Nodup

/-! # The checks of stubs

The checks that run over stubs accept and reject what `Heading.Accepted` and `Heading.Rejected` say.

The pass over all stubs remembers the function and the method of each stub it has let through.  What
carries the proof is that this memory is exactly the list of the headings before, newest first
(`remembered`), so that a name found in it has one owner there (`lookup_remembered`).
-/

namespace RpcStubs

open Identifier

namespace Stub

/-! ## One name -/

theorem functionFault?_eq_some_iff {name : String} {fault : NameFault} :
    functionFault? name = some fault ↔ Heading.FunctionFault name fault := by
  unfold functionFault?
  constructor
  · intro found
    split at found
    next bad =>
      cases found
      exact .notValid ((isValid_eq_false_iff name).1 (by simpa using bad))
    next good =>
      split at found
      next taken =>
        cases found
        exact .taken ((isValid_iff name).1 (by simpa using good)) (by simpa using taken)
      next => cases found
  · intro wrong
    cases wrong with
    | notValid bad => simp [(isValid_eq_false_iff name).2 bad]
    | taken valid taken => simp [(isValid_iff name).2 valid, taken]

theorem functionFault?_eq_none_iff {name : String} :
    functionFault? name = none ↔ Heading.FunctionName name := by
  unfold functionFault?
  constructor
  · intro found
    split at found
    next => cases found
    next good =>
      split at found
      next => cases found
      next free =>
        exact ⟨(isValid_iff name).1 (by simpa using good), by simpa using free⟩
  · rintro ⟨valid, free⟩
    simp [(isValid_iff name).2 valid, free]

theorem parameterFault?_eq_some_iff {earlier : List String} {name : String} {fault : NameFault} :
    parameterFault? earlier name = some fault ↔ Heading.ParameterFault earlier name fault := by
  unfold parameterFault?
  constructor
  · intro found
    split at found
    next bad =>
      cases found
      exact .notValid ((isValid_eq_false_iff name).1 (by simpa using bad))
    next good =>
      have valid : ValidName name := (isValid_iff name).1 (by simpa using good)
      split at found
      next bound => cases found; exact .bound valid (by simpa using bound)
      next notLocal =>
        split at found
        next imported =>
          cases found
          exact .imported valid (by simpa using notLocal) (by simpa using imported)
        next notImported =>
          split at found
          next repeated =>
            cases found
            exact .repeated ⟨valid, by simpa using notLocal, by simpa using notImported⟩
              (by simpa using repeated)
          next => cases found
  · intro wrong
    cases wrong with
    | notValid bad => simp [(isValid_eq_false_iff name).2 bad]
    | bound valid bound => simp [(isValid_iff name).2 valid, bound]
    | imported valid notLocal imported => simp [(isValid_iff name).2 valid, notLocal, imported]
    | repeated good repeated =>
      simp [(isValid_iff name).2 good.valid, good.notLocal, good.notImported, repeated]

theorem parameterFault?_eq_none_iff {earlier : List String} {name : String} :
    parameterFault? earlier name = none ↔ Heading.ParameterName name ∧ name ∉ earlier := by
  unfold parameterFault?
  constructor
  · intro found
    split at found
    next => cases found
    next good =>
      split at found
      next => cases found
      next notLocal =>
        split at found
        next => cases found
        next notImported =>
          split at found
          next => cases found
          next fresh =>
            exact ⟨⟨(isValid_iff name).1 (by simpa using good), by simpa using notLocal,
              by simpa using notImported⟩, by simpa using fresh⟩
  · rintro ⟨good, fresh⟩
    simp [(isValid_iff name).2 good.valid, good.notLocal, good.notImported, fresh]

/-! ## The parameters of one stub -/

theorem badParameter?_append {seen first : List String} (rest : List String)
    (good : ∀ name ∈ first, Heading.ParameterName name) (distinct : first.Nodup)
    (fresh : ∀ name ∈ first, name ∉ seen) :
    badParameter? seen (first ++ rest) = badParameter? (first.reverse ++ seen) rest := by
  -- a name that passes is remembered, so what has been seen grows along the list
  induction first generalizing seen with
  | nil => rfl
  | cons name others inductionHypothesis =>
    have passes : parameterFault? seen name = none :=
      parameterFault?_eq_none_iff.2 ⟨good name (by simp), fresh name (by simp)⟩
    rw [List.nodup_cons] at distinct
    simp only [List.cons_append, badParameter?, passes, List.reverse_cons, List.append_assoc]
    apply inductionHypothesis (fun other member => good other (by simp [member])) distinct.2
    intro other member
    rw [List.mem_cons, not_or]
    exact ⟨fun same => distinct.1 (same ▸ member), fresh other (by simp [member])⟩

/-- A parameter is reported after nothing but good ones. -/
theorem badParameter?_eq_some {seen names : List String} {name : String} {fault : NameFault}
    (found : badParameter? seen names = some (name, fault)) :
    ∃ earlier later, names = earlier ++ name :: later ∧
      (∀ other ∈ earlier, Heading.ParameterName other ∧ other ∉ seen) ∧ earlier.Nodup ∧
      parameterFault? (earlier.reverse ++ seen) name = some fault := by
  induction names generalizing seen with
  | nil => simp [badParameter?] at found
  | cons next rest inductionHypothesis =>
    rw [badParameter?] at found
    split at found
    next wrong reported =>
      simp only [Option.some.injEq, Prod.mk.injEq] at found
      obtain ⟨rfl, rfl⟩ := found
      exact ⟨[], rest, rfl, by simp, by simp, reported⟩
    next passes =>
      obtain ⟨earlier, later, rfl, good, distinct, reported⟩ := inductionHypothesis found
      refine ⟨next :: earlier, later, rfl, ?_, ?_, by simpa using reported⟩
      -- what comes after `next` is fresh to it as well, since it was seen by then
      · intro other member
        rcases List.mem_cons.1 member with rfl | member
        · exact parameterFault?_eq_none_iff.1 passes
        · exact ⟨(good other member).1, fun before => (good other member).2 (by simp [before])⟩
      · exact List.nodup_cons.2 ⟨fun again => (good next again).2 (by simp), distinct⟩

theorem badParameter?_eq_none {seen names : List String} (found : badParameter? seen names = none) :
    (∀ name ∈ names, Heading.ParameterName name ∧ name ∉ seen) ∧ names.Nodup := by
  induction names generalizing seen with
  | nil => simp
  | cons next rest inductionHypothesis =>
    rw [badParameter?] at found
    split at found
    next => cases found
    next passes =>
      obtain ⟨good, distinct⟩ := inductionHypothesis found
      refine ⟨?_, List.nodup_cons.2 ⟨fun again => (good next again).2 (by simp), distinct⟩⟩
      intro other member
      rcases List.mem_cons.1 member with rfl | member
      · exact parameterFault?_eq_none_iff.1 passes
      · exact ⟨(good other member).1, fun before => (good other member).2 (by simp [before])⟩

/-! ## One stub -/

theorem check_eq_ok_iff {stub : Stub} : stub.check = .ok () ↔ stub.heading.WellNamed := by
  constructor
  · intro passed
    unfold check at passed
    split at passed
    next => cases passed
    next function =>
      split at passed
      next => cases passed
      next parameters =>
        obtain ⟨good, distinct⟩ := badParameter?_eq_none parameters
        exact ⟨functionFault?_eq_none_iff.1 function, fun name member => (good name member).1,
          distinct⟩
  · rintro ⟨function, parameters, distinct⟩
    rw [heading_functionName, ← functionFault?_eq_none_iff] at function
    have whole : badParameter? [] (stub.heading.parameters ++ []) = none :=
      badParameter?_append [] parameters distinct (by simp)
    rw [List.append_nil, heading_parameters] at whole
    simp only [check, function, whole]

/-- The order of the parameters before does not matter to what is wrong with one. -/
theorem parameterFault?_reverse (earlier : List String) (name : String) :
    parameterFault? (earlier.reverse ++ []) name = parameterFault? earlier name := by
  simp [parameterFault?]

/-- A stub fails its check with its first faulty name. -/
theorem check_eq_error_iff {stub : Stub} {failure : Failure} :
    stub.check = .error failure ↔ ∃ name fault, stub.heading.Fault name fault ∧
      failure = .invalidIdentifier stub.method name fault := by
  constructor
  · intro failed
    unfold check at failed
    split at failed
    next fault function =>
      cases failed
      exact ⟨_, fault, .function (functionFault?_eq_some_iff.1 function), rfl⟩
    next function =>
      split at failed
      next name fault parameters =>
        cases failed
        obtain ⟨earlier, later, split, good, distinct, reported⟩ := badParameter?_eq_some parameters
        rw [parameterFault?_reverse, parameterFault?_eq_some_iff] at reported
        exact ⟨name, fault, .parameter (functionFault?_eq_none_iff.1 function) split
          (fun other member => (good other member).1) distinct reported, rfl⟩
      next => cases failed
  · rintro ⟨name, fault, wrong, rfl⟩
    cases wrong with
    | function wrong =>
      rw [heading_functionName, ← functionFault?_eq_some_iff] at wrong
      simp only [check, wrong, heading_functionName]
    | @parameter earlier later _ _ function split good distinct wrong =>
      rw [heading_functionName, ← functionFault?_eq_none_iff] at function
      rw [← parameterFault?_eq_some_iff, ← parameterFault?_reverse] at wrong
      have first : badParameter? [] stub.parameters = some (name, fault) := by
        rw [← heading_parameters, split, badParameter?_append _ good distinct (by simp),
          badParameter?, wrong]
      simp only [check, function, first]

/-! ## All stubs -/

/-- What the pass over all stubs has in mind after the headings `before`. -/
def remembered (before : List Heading) : List (String × String) :=
  before.reverse.map fun (heading : Heading) => (heading.functionName, heading.method)

theorem remembered_concat (before : List Heading) (stub : Stub) :
    remembered (before ++ [stub.heading]) =
      (stub.functionName, stub.method) :: remembered before := by
  simp [remembered]

theorem lookup_remembered_eq_none_iff {before : List Heading} {name : String} :
    (remembered before).lookup name = none ↔ ∀ owner ∈ before, owner.functionName ≠ name := by
  rw [List.lookup_eq_none_iff]
  simp [remembered, eq_comm (a := name)]

/-- A name in mind leads back to a heading before. -/
theorem owner_of_lookup {before : List Heading} {name method : String}
    (found : (remembered before).lookup name = some method) :
    ∃ owner ∈ before, owner.functionName = name ∧ owner.method = method := by
  obtain ⟨earlier, later, split, -⟩ := List.lookup_eq_some_iff.1 found
  have member : (name, method) ∈ remembered before := by simp [split]
  simp only [remembered, List.mem_map, List.mem_reverse, Prod.mk.injEq] at member
  exact member

/-- Among accepted headings a function name has one owner, and that one is found. -/
theorem lookup_remembered {before : List Heading} (accepted : Heading.Accepted before)
    {owner : Heading} (member : owner ∈ before) :
    (remembered before).lookup owner.functionName = some owner.method := by
  cases found : (remembered before).lookup owner.functionName with
  | none => exact absurd rfl (lookup_remembered_eq_none_iff.1 found owner member)
  | some method =>
    -- whatever is found has the same function name, and no two accepted headings share one
    obtain ⟨other, otherMember, sameName, rfl⟩ := owner_of_lookup found
    rw [List.inj_on_of_nodup_map accepted.distinct otherMember member sameName]

section Step

variable {before : List Heading} {stub : Stub} {rest : List Stub}

theorem checkAfter_cons_of_fault {failure : Failure} (checked : stub.check = .error failure) :
    checkAfter (remembered before) (stub :: rest) = .error failure := by
  rw [checkAfter, checked]
  rfl

/-- A stub whose function has a name of its own is remembered. -/
theorem checkAfter_cons_of_free (wellNamed : stub.heading.WellNamed)
    (free : ∀ owner ∈ before, owner.functionName ≠ stub.functionName) :
    checkAfter (remembered before) (stub :: rest) =
      checkAfter (remembered (before ++ [stub.heading])) rest := by
  rw [checkAfter, check_eq_ok_iff.2 wellNamed, lookup_remembered_eq_none_iff.2 free,
    remembered_concat]
  rfl

/-- A stub whose function has the name of an earlier one ends the pass. -/
theorem checkAfter_cons_of_owner (wellNamed : stub.heading.WellNamed) {method : String}
    (found : (remembered before).lookup stub.functionName = some method) :
    checkAfter (remembered before) (stub :: rest) = .error
      (if method = stub.method then .schemaShape stub.method .listedTwice
        else .namingCollision stub.functionName method stub.method) := by
  rw [checkAfter, check_eq_ok_iff.2 wellNamed, found]
  exact (apply_ite Except.error _ _ _).symm

end Step

theorem checkAfter_append {before : List Heading} {first : List Stub} (rest : List Stub)
    (accepted : Heading.Accepted (before ++ first.map heading)) :
    checkAfter (remembered before) (first ++ rest) =
      checkAfter (remembered (before ++ first.map heading)) rest := by
  induction first generalizing before with
  | nil => simp
  | cons stub others inductionHypothesis =>
    have regroup : before ++ (stub :: others).map heading =
        (before ++ [stub.heading]) ++ others.map heading := by simp
    rw [regroup] at accepted ⊢
    obtain ⟨-, wellNamed, free⟩ := Heading.accepted_concat_iff.1 (Heading.accepted_append_iff.1 accepted).1
    rw [List.cons_append, checkAfter_cons_of_free wellNamed free, inductionHypothesis accepted]

/-- What the pass comes to after accepted headings: it lets everything through or fails as the first
faulty heading does. -/
theorem checkAfter_outcome {before : List Heading} (accepted : Heading.Accepted before)
    (stubs : List Stub) :
    match checkAfter (remembered before) stubs with
    | .ok _ => Heading.Accepted (before ++ stubs.map heading)
    | .error failure => Heading.Rejected (before ++ stubs.map heading) failure := by
  -- the pass goes on only as long as the headings before it stay accepted
  induction stubs generalizing before with
  | nil => simpa [checkAfter] using accepted
  | cons stub rest inductionHypothesis =>
    cases checked : stub.check with
    | error failure =>
      rw [checkAfter_cons_of_fault checked]
      obtain ⟨name, fault, wrong, rfl⟩ := check_eq_error_iff.1 checked
      exact .name rfl accepted wrong
    | ok =>
      have wellNamed := check_eq_ok_iff.1 checked
      cases found : (remembered before).lookup stub.functionName with
      | none =>
        have free := lookup_remembered_eq_none_iff.1 found
        rw [checkAfter_cons_of_free wellNamed free]
        simpa using inductionHypothesis
          (Heading.accepted_concat_iff.2 ⟨accepted, wellNamed, free⟩)
      | some method =>
        obtain ⟨owner, member, sameName, rfl⟩ := owner_of_lookup found
        rw [checkAfter_cons_of_owner wellNamed found]
        by_cases sameMethod : owner.method = stub.method
        · simp only [sameMethod, if_true]
          exact .listedTwice rfl accepted wellNamed member sameName sameMethod
        · simp only [sameMethod, if_false]
          exact .collision rfl accepted wellNamed member sameName sameMethod

theorem checkAll_eq_ok_iff {stubs : List Stub} :
    checkAll stubs = .ok () ↔ Heading.Accepted (stubs.map heading) := by
  constructor
  · intro passed
    have outcome := checkAfter_outcome Heading.accepted_nil stubs
    rw [show checkAfter (remembered []) stubs = .ok () from passed] at outcome
    exact outcome
  · intro accepted
    have whole : checkAfter (remembered []) (stubs ++ []) = .ok () := checkAfter_append [] accepted
    rw [List.append_nil] at whole
    exact whole

theorem checkAll_eq_error_iff {stubs : List Stub} {failure : Failure} :
    checkAll stubs = .error failure ↔ Heading.Rejected (stubs.map heading) failure := by
  -- a rejected list is accepted up to the faulty heading, so the pass reaches it
  have reach : ∀ {before after : List Heading} {faulty : Heading},
      stubs.map heading = before ++ faulty :: after → Heading.Accepted before →
      ∃ stub rest, stub.heading = faulty ∧
        checkAll stubs = checkAfter (remembered before) (stub :: rest) := by
    intro before after faulty split accepted
    obtain ⟨first, others, rfl, rfl, next⟩ := List.map_eq_append_iff.1 split
    obtain ⟨stub, rest, rfl, rfl, -⟩ := List.map_eq_cons_iff.1 next
    have reached : checkAfter (remembered []) (first ++ stub :: rest) =
        checkAfter (remembered (first.map heading)) (stub :: rest) := checkAfter_append _ accepted
    exact ⟨stub, rest, rfl, reached⟩
  constructor
  · intro failed
    have outcome := checkAfter_outcome Heading.accepted_nil stubs
    rw [show checkAfter (remembered []) stubs = .error failure from failed] at outcome
    exact outcome
  · intro rejected
    cases rejected with
    | name split accepted wrong =>
      obtain ⟨stub, rest, rfl, reached⟩ := reach split accepted
      rw [reached]
      exact checkAfter_cons_of_fault (check_eq_error_iff.2 ⟨_, _, wrong, rfl⟩)
    | listedTwice split accepted wellNamed member sameName sameMethod =>
      obtain ⟨stub, rest, rfl, reached⟩ := reach split accepted
      have found := lookup_remembered accepted member
      rw [sameName, heading_functionName] at found
      rw [reached, checkAfter_cons_of_owner wellNamed found, ← heading_method, if_pos sameMethod]
    | collision split accepted wellNamed member sameName otherMethod =>
      obtain ⟨stub, rest, rfl, reached⟩ := reach split accepted
      have found := lookup_remembered accepted member
      rw [sameName, heading_functionName] at found
      rw [reached, checkAfter_cons_of_owner wellNamed found, ← heading_method, if_neg otherMethod,
        heading_functionName]

end Stub

end RpcStubs
