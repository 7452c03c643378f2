import RpcStubs.Proofs.Names.SnakeCase
import RpcStubs.Proofs.Python.DocstringText

/-! # Titles

A function without description is described by its name as a title, and nothing of the name is lost:
the title in lower case, with underscores for its blanks, is the name again
(`title_names_function`).

Two things could be lost.  A title drops empty words, so a name must not have any: in snake case an
underscore announces a capital, and there is a character before it, so no two of them are neighbours
and none is at an end (`nil_notMem_splitOn_lowercaseAfter`).  And a title raises and lowers letters,
which lowering takes back only if none of them was a capital, as none is in snake case
(`map_toLower_titleWord`).
-/

namespace RpcStubs

/-! ## Words -/

namespace Text

variable {separator : Char} {front back text : List Char}

theorem map_intercalate {α β : Type} (f : α → β) (separator : List α) (texts : List (List α)) :
    (separator.intercalate texts).map f = (separator.map f).intercalate (texts.map (List.map f)) := by
  induction texts with
  | nil => rfl
  | cons text others inductionHypothesis =>
    cases others with
    | nil => simp
    | cons second more =>
      rw [List.intercalate_cons_cons, List.map_append, List.map_append, inductionHypothesis]
      simp only [List.map_cons, List.intercalate_cons_cons]

theorem mem_intercalate_of_mem {α : Type} {separator text : List α} {texts : List (List α)} {a : α}
    (among : text ∈ texts) (member : a ∈ text) : a ∈ separator.intercalate texts := by
  induction texts with
  | nil => cases among
  | cons first others inductionHypothesis =>
    cases others with
    | nil => simpa using List.mem_singleton.1 among ▸ member
    | cons second more =>
      rw [List.intercalate_cons_cons, List.mem_append, List.mem_append]
      rcases List.mem_cons.1 among with rfl | among
      · exact .inl (.inl member)
      · exact .inr (inductionHypothesis among)

/-- The words of a text are made of its characters. -/
theorem mem_of_mem_splitOn {word : List Char} {c : Char} (among : word ∈ text.splitOn separator)
    (member : c ∈ word) : c ∈ text := by
  have rejoined : [separator].intercalate (text.splitOn separator) = text :=
    List.intercalate_splitOn separator
  rw [← rejoined]
  exact mem_intercalate_of_mem among member

/-- Characters in front of a text join its first word, which they do not make empty. -/
theorem nil_notMem_splitOn_append (noSeparator : separator ∉ front)
    (filled : [] ∉ back.splitOn separator) : [] ∉ (front ++ back).splitOn separator := by
  induction front with
  | nil => exact filled
  | cons c rest inductionHypothesis =>
    rw [List.mem_cons, not_or] at noSeparator
    have words := inductionHypothesis noSeparator.2
    have other : (c == separator) = false := beq_false_of_ne (Ne.symm noSeparator.1)
    rw [List.cons_append, List.splitOn_cons_eq_if_modifyHead, other]
    cases cut : (rest ++ back).splitOn separator with
    | nil => simp
    | cons first others =>
      rw [cut, List.mem_cons, not_or] at words
      simp [words.2]

/-- A text of words with single blanks between them: at least one word, no blank at an end and
nowhere two together. -/
structure SinglySpaced (text : List Char) : Prop where
  nonempty : text ≠ []
  start : text.head? ≠ some ' '
  finish : text.getLast? ≠ some ' '
  single : ¬ [' ', ' '] <:+: text

theorem SinglySpaced.of_splitOn (filled : [] ∉ text.splitOn ' ') : SinglySpaced text where
  nonempty := by
    rintro rfl
    simp at filled
  start := by
    intro first
    obtain ⟨rest, rfl⟩ := List.head?_eq_some_iff.1 first
    simp [List.splitOn_cons_eq_if_modifyHead] at filled
  finish := by
    intro last
    obtain ⟨front, rfl⟩ := List.getLast?_eq_some_iff.1 last
    simp [List.splitOn_append_cons_self] at filled
  single := by
    rintro ⟨front, back, rfl⟩
    have regroup : front ++ [' ', ' '] ++ back = front ++ ' ' :: ' ' :: back := by simp
    rw [regroup, List.splitOn_append_cons_self] at filled
    simp [List.splitOn_cons_eq_if_modifyHead] at filled

end Text

namespace Naming

open Text Schema PythonText

/-! ## The words of a name in snake case -/

/-- No row of the table gives an underscore. -/
theorem lowercaseRows_beyond_underscore : ∀ row ∈ lowercaseRows, '_'.toNat < row.image := by
  decide +kernel

theorem underscore_of_mem_lowerChar {c : Char} (member : '_' ∈ lowerChar c) : c = '_' := by
  unfold lowerChar mapCase at member
  split at member
  next image long =>
    have noUnderscore : ∀ entry ∈ longLowercase, '_' ∉ entry.2.map Char.ofNat := by decide
    obtain ⟨before, after, split, -⟩ := List.lookup_eq_some_iff.1 long
    exact absurd member (noUnderscore (c.toNat, image) (by simp [split]))
  next =>
    split at member
    next image mapped =>
      obtain ⟨row, among, mapped⟩ := List.exists_of_findSome?_eq_some mapped
      have apart := List.all_eq_true.1 lowercaseRows_apart row among
      simp only [Bool.and_eq_true] at apart
      have beyond := lowercaseRows_beyond_underscore row among
      have same := congrArg Char.toNat (List.mem_singleton.1 member)
      rw [toNat_ofNat (CaseRow.isValidChar_of_isValid apart.1.1 mapped)] at same
      obtain ⟨-, image⟩ := CaseRow.map?_eq_some_iff.1 mapped
      omega
    next => exact (List.mem_singleton.1 member).symm

theorem lowerChar_ne_nil (c : Char) : lowerChar c ≠ [] := by
  unfold lowerChar mapCase
  split
  next image long =>
    have filled : ∀ entry ∈ longLowercase, entry.2.map Char.ofNat ≠ [] := by decide
    obtain ⟨before, after, split, -⟩ := List.lookup_eq_some_iff.1 long
    exact filled (c.toNat, image) (by simp [split])
  next => split <;> simp

/-- Anything but an underscore is lowered to part of a word. -/
theorem lowerCharIn_word {c : Char} (other : c ≠ '_') (before after : List Char) :
    lowerCharIn before c after ≠ [] ∧ '_' ∉ lowerCharIn before c after := by
  unfold lowerCharIn
  split
  next => split <;> decide
  next => exact ⟨lowerChar_ne_nil c, fun member => other (underscore_of_mem_lowerChar member)⟩

/-- A name in snake case has no empty words, if there were no underscores in it before. -/
theorem nil_notMem_splitOn_lowercaseAfter {c : Char} {rest : List Char} (other : c ≠ '_')
    (noUnderscore : '_' ∉ rest) (before : List Char) :
    [] ∉ (lowercaseAfter before (c :: separateCapitals rest)).splitOn '_' := by
  induction rest generalizing c before with
  | nil =>
    obtain ⟨filled, word⟩ := lowerCharIn_word other before []
    have whole : lowercaseAfter before (c :: separateCapitals []) = lowerCharIn before c [] := by
      simp [separateCapitals, lowercaseAfter]
    rw [whole, List.splitOn_eq_singleton word, List.mem_singleton]
    exact Ne.symm filled
  | cons d rest inductionHypothesis =>
    rw [List.mem_cons, not_or] at noUnderscore
    have onward := inductionHypothesis (Ne.symm noUnderscore.1) noUnderscore.2
    obtain ⟨filled, word⟩ := lowerCharIn_word other before (separateCapitals (d :: rest))
    rw [lowercaseAfter]
    cases upper : d.isUpper with
    | true =>
      -- the underscore ends the word that `c` is in, and `d` begins the next one
      have separated : separateCapitals (d :: rest) = '_' :: d :: separateCapitals rest := by
        simp [separateCapitals, upper]
      have underscore (before after : List Char) : lowerCharIn before '_' after = ['_'] := by
        simp [lowerCharIn, lowerChar_of_ascii]
      rw [separated] at filled word ⊢
      rw [lowercaseAfter, underscore, List.singleton_append,
        List.splitOn_append_cons_self_of_not_mem word, List.mem_cons, not_or]
      exact ⟨Ne.symm filled, onward _⟩
    | false =>
      have separated : separateCapitals (d :: rest) = d :: separateCapitals rest := by
        simp [separateCapitals, upper]
      rw [separated] at word ⊢
      exact nil_notMem_splitOn_append word (onward _)

theorem nil_notMem_splitOn_snakeCase {method : String} (named : snakeCase (localName method) ≠ "") :
    [] ∉ (snakeCase (localName method)).toList.splitOn '_' := by
  have whole := (lastSegment_localName method).whole
  rw [snakeCase, String.toList_ofList]
  cases letters : (localName method).toList with
  | nil =>
    rw [snakeCase, letters] at named
    exact absurd rfl named
  | cons c rest =>
    rw [letters] at whole
    obtain ⟨here, there⟩ := List.forall_mem_cons.1 whole
    exact nil_notMem_splitOn_lowercaseAfter here.1 (fun member => (there '_' member).1 rfl) []

/-! ## Words in titles -/

/-- An ASCII character that is no capital. -/
def IsSmall (c : Char) : Prop :=
  c.toNat < 128 ∧ c.isUpper = false

instance (c : Char) : Decidable (IsSmall c) :=
  inferInstanceAs (Decidable (_ ∧ _))

/-- A small character stands in a title as one that it is the lower case of. -/
theorem titleWord_cons {c : Char} (small : IsSmall c) (afterLetter : Bool) (rest : List Char) :
    ∃ d next, titleWord afterLetter (c :: rest) = d :: titleWord next rest ∧ d.toNat < 128 ∧
      d.toLower = c := by
  obtain ⟨ascii, notUpper⟩ := small
  have lowered : c.toLower = c := toLower_of_not_isUpper notUpper
  have raised : c.toUpper.toNat < 128 ∧ (c.isUpper = false → c.toUpper.toLower = c) :=
    forall_ascii (p := fun c => c.toUpper.toNat < 128 ∧ (c.isUpper = false → c.toUpper.toLower = c))
      (by decide) ascii
  rw [titleWord]
  split
  next =>
    cases afterLetter with
    | true => exact ⟨c, true, by simp [lowerChar_of_ascii ascii, lowered], ascii, lowered⟩
    | false =>
      exact ⟨c.toUpper, true, by simp [upperChar_of_ascii ascii], raised.1, raised.2 notUpper⟩
  next => exact ⟨c, false, rfl, ascii, lowered⟩

theorem map_toLower_titleWord {word : List Char} (small : ∀ c ∈ word, IsSmall c)
    (afterLetter : Bool) : IsAscii (titleWord afterLetter word) ∧
      (titleWord afterLetter word).map Char.toLower = word := by
  induction word generalizing afterLetter with
  | nil => exact ⟨List.forall_mem_nil _, rfl⟩
  | cons c rest inductionHypothesis =>
    obtain ⟨here, there⟩ := List.forall_mem_cons.1 small
    obtain ⟨d, next, written, ascii, lowered⟩ := titleWord_cons here afterLetter rest
    obtain ⟨asciiRest, loweredRest⟩ := inductionHypothesis there next
    rw [written]
    exact ⟨List.forall_mem_cons.2 ⟨ascii, asciiRest⟩, by rw [List.map_cons, lowered, loweredRest]⟩

/-! ## Titles of names -/

/-- A text with underscores for its blanks. -/
def underscored (text : List Char) : List Char :=
  text.map fun c => if c = ' ' then '_' else c

theorem titleCase_eq {name : String} (filled : [] ∉ name.toList.splitOn '_') :
    (titleCase name).toList =
      [' '].intercalate ((name.toList.splitOn '_').map (titleWord false)) := by
  have all : (name.toList.splitOn '_').filter (!·.isEmpty) = name.toList.splitOn '_' := by
    rw [List.filter_eq_self]
    intro word member
    cases word with
    | nil => exact absurd member filled
    | cons => rfl
  rw [titleCase, String.toList_ofList, pieces_eq_splitOn, all, joinWith_eq_intercalate]

section Title

variable {name : String}

/-- The words of a name in small characters are the lower case of those of its title. -/
theorem lowered_titles (small : ∀ c ∈ name.toList, IsSmall c) :
    ∀ word ∈ name.toList.splitOn '_', IsAscii (titleWord false word) ∧
      (titleWord false word).map Char.toLower = word := fun _ among =>
  map_toLower_titleWord (fun c member => small c (mem_of_mem_splitOn among member)) false

theorem lowercase_titleCase (small : ∀ c ∈ name.toList, IsSmall c)
    (filled : [] ∉ name.toList.splitOn '_') :
    lowercase (titleCase name).toList = [' '].intercalate (name.toList.splitOn '_') := by
  have ascii : IsAscii (titleCase name).toList := by
    intro c member
    rw [titleCase_eq filled] at member
    rcases mem_intercalate member with blank | ⟨title, titled, member⟩
    · rw [List.mem_singleton.1 blank]
      decide
    · obtain ⟨word, among, rfl⟩ := List.mem_map.1 titled
      exact (lowered_titles small word among).1 c member
  have lowered : ((name.toList.splitOn '_').map (titleWord false)).map (List.map Char.toLower) =
      name.toList.splitOn '_' := by
    rw [List.map_map]
    exact (List.map_congr_left fun word among => (lowered_titles small word among).2).trans
      (List.map_id _)
  rw [lowercase_of_ascii ascii, titleCase_eq filled, map_intercalate, lowered]
  rfl

/-- The title of a name in small characters is the name again, in lower case and with underscores. -/
theorem underscored_lowercase_titleCase (small : ∀ c ∈ name.toList, IsSmall c)
    (noBlank : ' ' ∉ name.toList) (filled : [] ∉ name.toList.splitOn '_') :
    underscored (lowercase (titleCase name).toList) = name.toList := by
  have kept : ∀ word ∈ name.toList.splitOn '_', underscored word = word := by
    intro word among
    have each : ∀ c ∈ word, (if c = ' ' then '_' else c) = c := by
      intro c member
      refine if_neg ?_
      rintro rfl
      exact noBlank (mem_of_mem_splitOn among member)
    exact (List.map_congr_left each).trans (List.map_id word)
  calc underscored (lowercase (titleCase name).toList)
      = underscored ([' '].intercalate (name.toList.splitOn '_')) := by
        rw [lowercase_titleCase small filled]
    _ = ['_'].intercalate ((name.toList.splitOn '_').map underscored) := map_intercalate _ _ _
    _ = ['_'].intercalate (name.toList.splitOn '_') := by
        rw [List.map_congr_left kept, List.map_id']
    _ = name.toList := List.intercalate_splitOn '_'

/-- A title has the words of the name, so there is something between any two of its blanks. -/
theorem singlySpaced_titleCase (small : ∀ c ∈ name.toList, IsSmall c)
    (noBlank : ' ' ∉ name.toList) (filled : [] ∉ name.toList.splitOn '_') :
    SinglySpaced (titleCase name).toList := by
  have blankless : ∀ title ∈ (name.toList.splitOn '_').map (titleWord false), ' ' ∉ title := by
    intro title titled blank
    obtain ⟨word, among, rfl⟩ := List.mem_map.1 titled
    have inWord : ' ' ∈ word := by
      rw [← (lowered_titles small word among).2]
      exact List.mem_map_of_mem (f := Char.toLower) blank
    exact noBlank (mem_of_mem_splitOn among inWord)
  apply SinglySpaced.of_splitOn
  rw [titleCase_eq filled, List.splitOn_intercalate ' ' blankless (by simp [List.splitOn_ne_nil])]
  intro titled
  obtain ⟨word, among, empty⟩ := List.mem_map.1 titled
  have lowered := (lowered_titles small word among).2
  rw [empty, List.map_nil] at lowered
  exact filled (lowered ▸ among)

end Title

/-! ## Functions without description -/

theorem descriptionOf_of_blank {functionName : String} {description : Option String}
    (blank : ∀ text ∈ description, ∀ c ∈ text.toList, isBlank c = true) :
    Stub.descriptionOf functionName description = titleCase functionName := by
  have nothing : trim (description.getD "").toList = [] := by
    rw [trim_eq_nil_iff]
    cases description with
    | none => exact List.forall_mem_nil _
    | some text => exact blank text rfl
  rw [Stub.descriptionOf, nothing]

theorem ascii_of_isContinue {c : Char} (continues : Identifier.isContinue c = true) :
    c.toNat < 128 := by
  rcases (Identifier.isContinue_iff c).1 continues with (⟨-, atMost⟩ | ⟨-, atMost⟩) | ⟨-, atMost⟩ | rfl
  · exact Nat.lt_of_le_of_lt (UInt32.le_iff_toNat_le.1 atMost) (by decide)
  · exact Nat.lt_of_le_of_lt (UInt32.le_iff_toNat_le.1 atMost) (by decide)
  · exact Nat.lt_of_le_of_lt (UInt32.le_iff_toNat_le.1 atMost) (by decide)
  · decide

theorem description_of_ofMethod {snakeCase : Bool} {method : Method} {stub : Stub}
    (built : Stub.ofMethod snakeCase method = .ok stub) :
    stub.description = Stub.descriptionOf stub.functionName method.description := by
  unfold Stub.ofMethod at built
  split at built
  next => cases built
  next => cases built
  next =>
    cases built
    rfl

/-- Where a method has no description, or one of blanks only, its function in snake case is described
by words with single blanks between them.  In lower case and with underscores for the blanks they are
the name of the function. -/
theorem title_names_function {method : Method} {stub : Stub}
    (blank : ∀ text ∈ method.description, ∀ c ∈ text.toList, isBlank c = true)
    (built : Stub.ofMethod true method = .ok stub) (accepted : stub.check = .ok ()) :
    SinglySpaced stub.description.toList ∧
      underscored (lowercase stub.description.toList) = stub.functionName.toList := by
  have valid := (Stub.check_eq_ok_iff.1 accepted).function.valid
  rw [Stub.heading_functionName] at valid
  have named : stub.functionName = snakeCase (localName method.name) := by
    rw [functionName_of_ofMethod built]
    rfl
  have small : ∀ c ∈ stub.functionName.toList, IsSmall c := by
    intro c member
    refine ⟨ascii_of_isContinue (valid.isContinue_of_mem member), ?_⟩
    rw [named] at member
    exact (settled_of_mem_snakeCase member).isUpper_eq_false
  have noBlank : ' ' ∉ stub.functionName.toList := valid.not_mem (by decide)
  have filled : [] ∉ stub.functionName.toList.splitOn '_' := by
    rw [named]
    apply nil_notMem_splitOn_snakeCase
    rw [← named]
    exact fun empty => valid.toList_ne_nil (by rw [empty]; rfl)
  rw [description_of_ofMethod built, descriptionOf_of_blank blank]
  exact ⟨singlySpaced_titleCase small noBlank filled,
    underscored_lowercase_titleCase small noBlank filled⟩

/-- A method described by blanks, with digits and neighbouring capitals in its name. -/
theorem title_names_get2faTxID :
    ∃ stub, Stub.ofMethod true ⟨"sui_get2faTxID", some " \t", some [], some ⟨"R"⟩⟩ = .ok stub ∧
      stub.check = .ok () ∧ stub.description = "Get2Fa Tx I D" ∧
      SinglySpaced "Get2Fa Tx I D".toList ∧
      underscored (lowercase "Get2Fa Tx I D".toList) = "get2fa_tx_i_d".toList := by
  have built : Stub.ofMethod true ⟨"sui_get2faTxID", some " \t", some [], some ⟨"R"⟩⟩ =
      .ok ⟨"get2fa_tx_i_d", "sui_get2faTxID", [], [], "Get2Fa Tx I D", "R"⟩ :=
    eq_ok_of_toOption (by decide +kernel)
  have accepted :
      Stub.check ⟨"get2fa_tx_i_d", "sui_get2faTxID", [], [], "Get2Fa Tx I D", "R"⟩ = .ok () :=
    eq_ok_of_toOption (by decide +kernel)
  have blank : ∀ text ∈ some " \t", ∀ c ∈ text.toList, isBlank c = true := by
    intro text same
    obtain rfl := Option.some.inj same
    have blank : IsBlankLine " \t".toList := by decide
    exact blank
  exact ⟨_, built, accepted, rfl, title_names_function blank built accepted⟩

end Naming

end RpcStubs
