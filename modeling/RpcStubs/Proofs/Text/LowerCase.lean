import RpcStubs.Text.LetterCase
import Mathlib.Tactic.Common

/-! # Lower case

Lowering a text once is enough.  A character is *settled* if it is its own lower case, every character
of a lowered text is settled (`settled_of_mem_lowercase`), and a text of settled characters stays as
it is (`lowercase_eq_self`).

The one thing to know about the tables is that no row maps what another row, or the same one, gives.
There are too many characters to try them all, so rows are compared as wholes: the images of the one
lie beside the characters that the other maps, or between them (`CaseRow.isApart`).

Context matters to the capital sigma alone, and what it becomes is settled either way.
-/

namespace RpcStubs.Text

/-! ## Rows of a table -/

theorem toNat_ofNat {n : Nat} (valid : n.isValidChar) : (Char.ofNat n).toNat = n := by
  have made : Char.ofNat n = Char.ofNatAux n valid := dif_pos valid
  rw [made]
  rfl

namespace CaseRow

variable {row other : CaseRow} {n image : Nat}

theorem map?_eq_some_iff : row.map? n = some image ↔
    (row.first ≤ n ∧ n ≤ row.last ∧ (n - row.first) % row.step = 0) ∧
      image = row.image + (n - row.first) := by
  rw [map?, Option.ite_none_right_eq_some, Option.some.injEq, eq_comm (a := image)]

theorem map?_eq_none_iff : row.map? n = none ↔
    ¬ (row.first ≤ n ∧ n ≤ row.last ∧ (n - row.first) % row.step = 0) := by
  rw [map?, ite_eq_right_iff]
  simp

/-- Whether the images of a row lie before or behind what another row maps, or between the characters
that it maps: every other one, and those of the wrong parity. -/
def isApart (row other : CaseRow) : Bool :=
  Nat.blt (row.image + (row.last - row.first)) other.first || Nat.blt other.last row.image ||
    ((row.step == 2 || row.first == row.last) && other.step == 2 &&
      (row.image + other.first) % 2 == 1)

theorem map?_of_isApart (apart : row.isApart other = true) (mapped : row.map? n = some image) :
    other.map? image = none := by
  obtain ⟨⟨after, before, onStep⟩, rfl⟩ := map?_eq_some_iff.1 mapped
  simp only [isApart, Bool.or_eq_true, Bool.and_eq_true, Nat.blt_eq, beq_iff_eq] at apart
  rw [map?_eq_none_iff]
  rintro ⟨reached, inside, otherOnStep⟩
  rcases apart with (early | late) | ⟨⟨two | single, otherTwo⟩, parity⟩
  · omega
  · omega
  · rw [two] at onStep
    rw [otherTwo] at otherOnStep
    omega
  · rw [otherTwo] at otherOnStep
    omega

/-- Whether the images of a row are characters. -/
def isValid (row : CaseRow) : Bool :=
  Nat.blt (row.image + (row.last - row.first)) 0xD800 ||
    (Nat.blt 0xDFFF row.image && Nat.blt (row.image + (row.last - row.first)) 0x110000)

theorem isValidChar_of_isValid (valid : row.isValid = true) (mapped : row.map? n = some image) :
    image.isValidChar := by
  obtain ⟨⟨after, before, -⟩, rfl⟩ := map?_eq_some_iff.1 mapped
  simp only [isValid, Bool.or_eq_true, Bool.and_eq_true, Nat.blt_eq] at valid
  unfold Nat.isValidChar
  omega

end CaseRow

/-! ## The lower case of a character -/

/-- A character that is its own lower case. -/
def Settled (c : Char) : Prop :=
  lowerChar c = [c]

instance (c : Char) : Decidable (Settled c) :=
  inferInstanceAs (Decidable (lowerChar c = [c]))

/-- The only character with a long lower case, as a row to compare others with. -/
def longRow : CaseRow :=
  ⟨0x130, 0x130, 1, 0x69⟩

theorem lowercaseRows_apart : (lowercaseRows.all fun row => row.isValid && row.isApart longRow &&
    lowercaseRows.all row.isApart) = true := by
  decide +kernel

theorem settled_of_unmapped {c : Char} (short : longLowercase.lookup c.toNat = none)
    (unmapped : lowercaseRows.findSome? (·.map? c.toNat) = none) : Settled c := by
  rw [Settled, lowerChar, mapCase, short, unmapped]

/-- The image of a character under a row is settled. -/
theorem settled_ofNat {row : CaseRow} (among : row ∈ lowercaseRows) {n image : Nat}
    (mapped : row.map? n = some image) : Settled (Char.ofNat image) := by
  have apart := List.all_eq_true.1 lowercaseRows_apart row among
  simp only [Bool.and_eq_true, List.all_eq_true] at apart
  obtain ⟨⟨valid, apartFromLong⟩, apartFromRows⟩ := apart
  have same := toNat_ofNat (CaseRow.isValidChar_of_isValid valid mapped)
  apply settled_of_unmapped
  · have notLong : image ≠ 0x130 := by
      rintro rfl
      exact CaseRow.map?_eq_none_iff.1 (CaseRow.map?_of_isApart apartFromLong mapped) (by decide)
    rw [same]
    simp [longLowercase, notLong]
  · rw [same, List.findSome?_eq_none_iff]
    intro other otherAmong
    exact CaseRow.map?_of_isApart (apartFromRows other otherAmong) mapped

theorem settled_of_mem_lowerChar {c d : Char} (member : d ∈ lowerChar c) : Settled d := by
  unfold lowerChar mapCase at member
  split at member
  next image long =>
    have settled : ∀ entry ∈ longLowercase, (entry.2.map Char.ofNat).all (Settled ·) = true := by
      decide
    obtain ⟨before, after, split, -⟩ := List.lookup_eq_some_iff.1 long
    have inImage := List.all_eq_true.1 (settled (c.toNat, image) (by simp [split])) d member
    exact of_decide_eq_true inImage
  next short =>
    split at member
    next image mapped =>
      obtain ⟨row, among, mapped⟩ := List.exists_of_findSome?_eq_some mapped
      rw [List.mem_singleton.1 member]
      exact settled_ofNat among mapped
    next unmapped =>
      rw [List.mem_singleton.1 member]
      exact settled_of_unmapped short unmapped

/-! ## ASCII -/

theorem isUpper_iff {c : Char} : c.isUpper = true ↔ 0x41 ≤ c.toNat ∧ c.toNat ≤ 0x5A := by
  change decide ('A'.toNat ≤ c.toNat ∧ c.toNat ≤ 'Z'.toNat) = true ↔ _
  exact decide_eq_true_iff

/-- A fact about ASCII characters can be checked one by one. -/
theorem forall_ascii {p : Char → Prop} (each : ∀ n < 128, p (Char.ofNat n)) {c : Char}
    (ascii : c.toNat < 128) : p c := by
  have here := each c.toNat ascii
  rwa [Char.ofNat_toNat] at here

theorem toLower_of_isUpper {c : Char} (upper : c.isUpper = true) :
    c.toLower ≠ c ∧ c.toLower.toUpper = c := by
  have ascii : c.toNat < 128 := Nat.lt_of_le_of_lt (isUpper_iff.1 upper).2 (by decide)
  revert upper
  exact forall_ascii (p := fun c => c.isUpper = true → c.toLower ≠ c ∧ c.toLower.toUpper = c)
    (by decide) ascii

theorem toLower_of_not_isUpper {c : Char} (notUpper : c.isUpper = false) : c.toLower = c := by
  have outside : ¬ ('A'.val ≤ c.val ∧ c.val ≤ 'Z'.val) := of_decide_eq_false notUpper
  exact dif_neg outside

/-- Tables whose entries beyond the first row are about characters beyond ASCII map ASCII characters as
the first row does. -/
theorem mapCase_of_ascii {long : List (Nat × List Nat)} {first : CaseRow} {rows : List CaseRow}
    (longBeyond : ∀ entry ∈ long, 128 ≤ entry.1) (beyond : ∀ row ∈ rows, 128 ≤ row.first) {c : Char}
    (ascii : c.toNat < 128) :
    mapCase long (first :: rows) c = [((first.map? c.toNat).map Char.ofNat).getD c] := by
  have short : long.lookup c.toNat = none := by
    rw [List.lookup_eq_none_iff]
    intro entry member
    have := longBeyond entry member
    rw [bne_iff_ne]
    omega
  have unmapped : rows.findSome? (·.map? c.toNat) = none := by
    rw [List.findSome?_eq_none_iff]
    intro row among
    have := beyond row among
    rw [CaseRow.map?_eq_none_iff]
    omega
  rw [mapCase, short, List.findSome?_cons, unmapped]
  cases first.map? c.toNat <;> rfl

theorem lowerChar_of_ascii {c : Char} (ascii : c.toNat < 128) : lowerChar c = [c.toLower] := by
  have rows : lowercaseRows = ⟨0x41, 0x5A, 1, 0x61⟩ :: lowercaseRows.tail := rfl
  rw [lowerChar, rows, mapCase_of_ascii (by decide) (by decide +kernel) ascii, List.singleton_inj]
  exact forall_ascii (p := fun c =>
    ((CaseRow.map? ⟨0x41, 0x5A, 1, 0x61⟩ c.toNat).map Char.ofNat).getD c = c.toLower) (by decide) ascii

theorem upperChar_of_ascii {c : Char} (ascii : c.toNat < 128) : upperChar c = [c.toUpper] := by
  have rows : uppercaseRows = ⟨0x61, 0x7A, 1, 0x41⟩ :: uppercaseRows.tail := rfl
  rw [upperChar, rows, mapCase_of_ascii (by decide) (by decide +kernel) ascii, List.singleton_inj]
  exact forall_ascii (p := fun c =>
    ((CaseRow.map? ⟨0x61, 0x7A, 1, 0x41⟩ c.toNat).map Char.ofNat).getD c = c.toUpper) (by decide) ascii

theorem Settled.isUpper_eq_false {c : Char} (settled : Settled c) : c.isUpper = false := by
  rw [← Bool.not_eq_true]
  intro upper
  have ascii : c.toNat < 128 := Nat.lt_of_le_of_lt (isUpper_iff.1 upper).2 (by decide)
  rw [Settled, lowerChar_of_ascii ascii, List.singleton_inj] at settled
  exact (toLower_of_isUpper upper).1 settled

/-! ## The lower case of a text -/

theorem Settled.ne_sigma {c : Char} (settled : Settled c) : c ≠ 'Σ' := by
  rintro rfl
  exact absurd settled (by decide)

/-- The capital sigma apart, the characters of a text are lowered one by one. -/
theorem lowercaseAfter_eq_map {f : Char → Char} {before cs : List Char} (noSigma : 'Σ' ∉ cs)
    (each : ∀ c ∈ cs, lowerChar c = [f c]) : lowercaseAfter before cs = cs.map f := by
  induction cs generalizing before with
  | nil => rfl
  | cons c rest inductionHypothesis =>
    rw [List.mem_cons, not_or] at noSigma
    obtain ⟨here, there⟩ := List.forall_mem_cons.1 each
    rw [lowercaseAfter, lowerCharIn, if_neg (Ne.symm noSigma.1), here,
      inductionHypothesis noSigma.2 there]
    rfl

theorem settled_of_mem_lowerCharIn {before after : List Char} {c d : Char}
    (member : d ∈ lowerCharIn before c after) : Settled d := by
  unfold lowerCharIn at member
  split at member
  next =>
    -- both forms of the small sigma are settled
    split at member
    · rw [List.mem_singleton.1 member]
      decide
    · rw [List.mem_singleton.1 member]
      decide
  next => exact settled_of_mem_lowerChar member

theorem settled_of_mem_lowercaseAfter {before cs : List Char} {d : Char}
    (member : d ∈ lowercaseAfter before cs) : Settled d := by
  induction cs generalizing before with
  | nil => cases member
  | cons c rest inductionHypothesis =>
    rcases List.mem_append.1 member with here | there
    · exact settled_of_mem_lowerCharIn here
    · exact inductionHypothesis there

theorem settled_of_mem_lowercase {cs : List Char} {d : Char} (member : d ∈ lowercase cs) : Settled d :=
  settled_of_mem_lowercaseAfter member

theorem lowercase_eq_self {cs : List Char} (settled : ∀ c ∈ cs, Settled c) : lowercase cs = cs := by
  have noSigma : 'Σ' ∉ cs := fun member => (settled 'Σ' member).ne_sigma rfl
  calc lowercase cs = cs.map id := lowercaseAfter_eq_map noSigma settled
    _ = cs := List.map_id cs

/-- A text of ASCII characters. -/
def IsAscii (cs : List Char) : Prop :=
  ∀ c ∈ cs, c.toNat < 128

instance (cs : List Char) : Decidable (IsAscii cs) :=
  List.decidableBAll _ cs

theorem lowercase_of_ascii {cs : List Char} (ascii : IsAscii cs) :
    lowercase cs = cs.map Char.toLower := by
  have noSigma : 'Σ' ∉ cs := fun member => absurd (ascii 'Σ' member) (by decide)
  exact lowercaseAfter_eq_map noSigma fun c member => lowerChar_of_ascii (ascii c member)

end RpcStubs.Text
