import RpcStubs.Proofs.Generated
import RpcStubs.Proofs.Text.LowerCase
import Mathlib.Data.List.TakeWhile

/-! # Snake case

What becomes of a name in snake case.  Doing it twice is the same as doing it once: a name in snake
case is made of settled characters, and these stay as they are (`snakeCase_idempotent`).

Two methods are given functions of the same name just if their local names are equal, or in snake case
equal but for the case of the first character (`coincide_iff`).  An underscore in snake case always
announces a capital, since no local name has an underscore in it.  So the capitals can be read back
(`rejoin_lowered`), all but the first one, which nothing announces.
-/

namespace RpcStubs.Naming

open Text Schema

/-! ## Twice -/

theorem separateCapitals_eq_self {cs : List Char} (noCapital : ∀ c ∈ cs, c.isUpper = false) :
    separateCapitals cs = cs := by
  induction cs with
  | nil => rfl
  | cons c rest inductionHypothesis =>
    obtain ⟨here, there⟩ := List.forall_mem_cons.1 noCapital
    simp [separateCapitals, here, inductionHypothesis there]

theorem separateWords_eq_self {cs : List Char} (noCapital : ∀ c ∈ cs, c.isUpper = false) :
    separateWords cs = cs := by
  cases cs with
  | nil => rfl
  | cons c rest => rw [separateWords, separateCapitals_eq_self (List.forall_mem_cons.1 noCapital).2]

theorem settled_of_mem_snakeCase {name : String} {c : Char} (member : c ∈ (snakeCase name).toList) :
    Settled c := by
  rw [snakeCase, String.toList_ofList] at member
  exact settled_of_mem_lowercase member

/-- The names that stay as they are in snake case are those of settled characters. -/
theorem snakeCase_eq_self_iff {name : String} :
    snakeCase name = name ↔ ∀ c ∈ name.toList, Settled c := by
  constructor
  · intro same c member
    rw [← same] at member
    exact settled_of_mem_snakeCase member
  · intro settled
    have words : separateWords name.toList = name.toList :=
      separateWords_eq_self fun c member => (settled c member).isUpper_eq_false
    rw [snakeCase, words, lowercase_eq_self settled, String.ofList_toList]

/-- A name in snake case stays as it is in snake case, and the names that do are exactly those whose
characters are their own lower case. -/
theorem snakeCase_idempotent (name : String) :
    snakeCase (snakeCase name) = snakeCase name ∧
      (snakeCase name = name ↔ ∀ c ∈ name.toList, lowerChar c = [c]) :=
  ⟨snakeCase_eq_self_iff.2 fun _ => settled_of_mem_snakeCase, snakeCase_eq_self_iff⟩

example : snakeCase "getΟΔΟΣOf\u0130\u212A" = "getοδος_ofi\u0307k" := by decide +kernel

/-! ## Reading capitals back -/

/-- A text with each underscore and the letter behind it put together as a capital. -/
def rejoin : List Char → List Char
  | '_' :: c :: rest => c.toUpper :: rejoin rest
  | c :: rest => c :: rejoin rest
  | [] => []

theorem rejoin_cons {c : Char} (other : c ≠ '_') (rest : List Char) :
    rejoin (c :: rest) = c :: rejoin rest := by
  rw [rejoin]
  exact fun _ _ underscore => absurd underscore other

theorem rejoin_lowered {cs : List Char} (noUnderscore : '_' ∉ cs) :
    rejoin ((separateCapitals cs).map Char.toLower) = cs := by
  induction cs with
  | nil => rfl
  | cons c rest inductionHypothesis =>
    rw [List.mem_cons, not_or] at noUnderscore
    cases upper : c.isUpper with
    | true =>
      have separated : (separateCapitals (c :: rest)).map Char.toLower =
          '_' :: c.toLower :: (separateCapitals rest).map Char.toLower := by
        simp [separateCapitals, upper]
      rw [separated, rejoin, (toLower_of_isUpper upper).2, inductionHypothesis noUnderscore.2]
    | false =>
      have kept : (separateCapitals (c :: rest)).map Char.toLower =
          c :: (separateCapitals rest).map Char.toLower := by
        simp [separateCapitals, upper, toLower_of_not_isUpper upper]
      rw [kept, rejoin_cons (Ne.symm noUnderscore.1), inductionHypothesis noUnderscore.2]

/-- Two texts that are equal but for the case of their first characters. -/
inductive EqualButFirst : List Char → List Char → Prop where
  | nil : EqualButFirst [] []
  | cons {c d : Char} {rest : List Char} : c.toLower = d.toLower →
      EqualButFirst (c :: rest) (d :: rest)

theorem mem_of_mem_separateCapitals {cs : List Char} {c : Char} (member : c ∈ separateCapitals cs) :
    c = '_' ∨ c ∈ cs := by
  induction cs with
  | nil => cases member
  | cons d rest inductionHypothesis =>
    have here : ∀ e ∈ (if d.isUpper then ['_', d] else [d]), e = '_' ∨ e = d := by
      split <;> simp
    rcases List.mem_append.1 member with among | there
    · exact (here c among).imp_right fun same => by simp [same]
    · exact (inductionHypothesis there).imp_right (List.mem_cons_of_mem d)

/-- The lower case of an ASCII text in words, read from its first character. -/
theorem lowercase_separateWords_cons {c : Char} {rest : List Char}
    (ascii : IsAscii (c :: rest)) :
    lowercase (separateWords (c :: rest)) =
      c.toLower :: (separateCapitals rest).map Char.toLower := by
  have words : IsAscii (c :: separateCapitals rest) := by
    intro d member
    cases member with
    | head => exact ascii c (by simp)
    | tail _ member =>
      rcases mem_of_mem_separateCapitals member with rfl | member
      · decide
      · exact ascii d (by simp [member])
  rw [separateWords, lowercase_of_ascii words, List.map_cons]

theorem lowercase_separateWords_eq_iff {first second : List Char} (noUnderscore : '_' ∉ first)
    (noUnderscore' : '_' ∉ second) (ascii : IsAscii first) (ascii' : IsAscii second) :
    lowercase (separateWords first) = lowercase (separateWords second) ↔
      EqualButFirst first second := by
  constructor
  · intro same
    cases first with
    | nil =>
      cases second with
      | nil => exact .nil
      | cons d others =>
        rw [lowercase_separateWords_cons ascii'] at same
        cases same
    | cons c rest =>
      cases second with
      | nil =>
        rw [lowercase_separateWords_cons ascii] at same
        cases same
      | cons d others =>
        rw [lowercase_separateWords_cons ascii, lowercase_separateWords_cons ascii',
          List.cons.injEq] at same
        obtain ⟨sameFirst, sameRest⟩ := same
        -- the capitals of both are read back from the same text
        have read := congrArg rejoin sameRest
        rw [rejoin_lowered fun member => noUnderscore (List.mem_cons_of_mem c member),
          rejoin_lowered fun member => noUnderscore' (List.mem_cons_of_mem d member)] at read
        rw [read]
        exact .cons sameFirst
  · intro equal
    cases equal with
    | nil => rfl
    | cons sameFirst =>
      rw [lowercase_separateWords_cons ascii, lowercase_separateWords_cons ascii', sameFirst]

/-! ## The last segment of a name -/

/-- What stands after the last underscore or point of a text. -/
structure LastSegment (text segment : List Char) : Prop where
  split : ∃ front, text = front ++ segment ∧ ∀ c ∈ front.getLast?, c = '_' ∨ c = '.'
  whole : ∀ c ∈ segment, c ≠ '_' ∧ c ≠ '.'

theorem isNamespaceSeparator_iff {c : Char} : isNamespaceSeparator c = true ↔ c = '_' ∨ c = '.' := by
  simp [isNamespaceSeparator]

/-- The local name of a method is the last segment of its name. -/
theorem lastSegment_localName (method : String) :
    LastSegment method.toList (localName method).toList where
  split := by
    refine ⟨(method.toList.reverse.dropWhile fun c => !isNamespaceSeparator c).reverse, ?_, ?_⟩
    · rw [localName, String.toList_ofList, ← List.reverse_append, List.takeWhile_append_dropWhile,
        List.reverse_reverse]
    · intro c last
      have stopped := List.head?_dropWhile_not (fun c => !isNamespaceSeparator c) method.toList.reverse
      rw [List.getLast?_reverse, Option.mem_def] at last
      simpa [last, isNamespaceSeparator_iff] using stopped
  whole := by
    intro c member
    rw [localName, String.toList_ofList, List.mem_reverse] at member
    have inside := List.mem_takeWhile_imp member
    simpa [isNamespaceSeparator] using inside

theorem LastSegment.eq_localName {method : String} {segment : List Char}
    (last : LastSegment method.toList segment) : segment = (localName method).toList := by
  obtain ⟨⟨front, split, separated⟩, whole⟩ := last
  have inSegment : ∀ c ∈ segment.reverse, (!isNamespaceSeparator c) = true := by
    intro c member
    simpa [isNamespaceSeparator] using whole c (List.mem_reverse.1 member)
  have stopped : front.reverse.takeWhile (fun c => !isNamespaceSeparator c) = [] := by
    cases last : front.reverse with
    | nil => rfl
    | cons c rest =>
      have separator := separated c (by rw [← List.head?_reverse, last]; rfl)
      exact List.takeWhile_cons_of_neg (by simp [isNamespaceSeparator_iff.2 separator])
  rw [localName, String.toList_ofList, split, List.reverse_append,
    List.takeWhile_append_of_pos inSegment, stopped, List.append_nil, List.reverse_reverse]

/-! ## Functions of the same name -/

/-- Stubs are built for two methods, and their functions have the same name. -/
def Coincide (snakeCase : Bool) (first second : Method) : Prop :=
  ∃ stub other, Stub.ofMethod snakeCase first = .ok stub ∧ Stub.ofMethod snakeCase second = .ok other ∧
    stub.functionName = other.functionName

theorem functionName_of_ofMethod {snakeCase : Bool} {method : Method} {stub : Stub}
    (built : Stub.ofMethod snakeCase method = .ok stub) :
    stub.functionName = Stub.functionNameOf snakeCase method.name :=
  congrArg Heading.functionName (Stub.heading_of_ofMethod built).1

theorem coincide_iff_functionNameOf {snakeCase : Bool} {first second : Method}
    (complete : first.Complete) (complete' : second.Complete) :
    Coincide snakeCase first second ↔
      Stub.functionNameOf snakeCase first.name = Stub.functionNameOf snakeCase second.name := by
  constructor
  · rintro ⟨stub, other, built, built', same⟩
    rwa [functionName_of_ofMethod built, functionName_of_ofMethod built'] at same
  · intro same
    obtain ⟨stub, built⟩ := Stub.exists_ofMethod snakeCase complete
    obtain ⟨other, built'⟩ := Stub.exists_ofMethod snakeCase complete'
    refine ⟨stub, other, built, built', ?_⟩
    rw [functionName_of_ofMethod built, functionName_of_ofMethod built', same]

/-- Two methods whose last segments are ASCII text are given functions of the same name in snake case
just if these are equal but for the case of their first characters, and else just if they are equal.  So
snake case brings no two of them together that begin with the same character. -/
theorem coincide_iff {first second : Method} {segment segment' : List Char}
    (complete : first.Complete) (complete' : second.Complete)
    (last : LastSegment first.name.toList segment) (last' : LastSegment second.name.toList segment')
    (ascii : IsAscii segment) (ascii' : IsAscii segment') :
    (Coincide true first second ↔ EqualButFirst segment segment') ∧
      (Coincide false first second ↔ segment = segment') ∧
      (segment.head? = segment'.head? → Coincide true first second → segment = segment') := by
  have snake : Coincide true first second ↔ EqualButFirst segment segment' := by
    rw [coincide_iff_functionNameOf complete complete',
      ← lowercase_separateWords_eq_iff (fun member => (last.whole '_' member).1 rfl)
        (fun member => (last'.whole '_' member).1 rfl) ascii ascii',
      last.eq_localName, last'.eq_localName]
    exact String.ofList_inj
  refine ⟨snake, ?_, ?_⟩
  · rw [coincide_iff_functionNameOf complete complete', last.eq_localName, last'.eq_localName]
    exact String.toList_inj.symm
  · intro sameFirst coincide
    cases snake.1 coincide with
    | nil => rfl
    | cons =>
      rw [List.head?_cons, List.head?_cons, Option.some.injEq] at sameFirst
      rw [sameFirst]

/-- Two methods that only snake case gives functions of the same name. -/
theorem coincide_txID2 :
    Coincide true (.complete "sui_getTxID2" [] "R") (.complete "rpc.v2_GetTxID2" [] "R") ∧
      ¬ Coincide false (.complete "sui_getTxID2" [] "R") (.complete "rpc.v2_GetTxID2" [] "R") := by
  have complete (name : String) : (Method.complete name [] "R").Complete := ⟨⟨[], rfl⟩, _, rfl⟩
  have last := lastSegment_localName "sui_getTxID2"
  have last' := lastSegment_localName "rpc.v2_GetTxID2"
  have small : localName "sui_getTxID2" = "getTxID2" := by decide +kernel
  have capital : localName "rpc.v2_GetTxID2" = "GetTxID2" := by decide +kernel
  rw [small] at last
  rw [capital] at last'
  obtain ⟨snake, plain, -⟩ := coincide_iff (complete "sui_getTxID2") (complete "rpc.v2_GetTxID2")
    last last' (by decide) (by decide)
  exact ⟨snake.2 (.cons (by decide)), fun coincide => absurd (plain.1 coincide) (by decide)⟩

end RpcStubs.Naming
