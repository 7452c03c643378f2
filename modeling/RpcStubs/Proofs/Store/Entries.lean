import RpcStubs.Store.Basic
import RpcStubs.Proofs.Except
import Mathlib.Data.List.Basic

/-! # Entries and places

A store is seen through `Store.entry?` alone: putting and erasing act on one place each.

There are no links, so the place that a path names can be told from its text, without a store.  That
is `Path.place`, and `Store.walk_place` says that whatever is found by walking is found there.
-/

namespace RpcStubs

namespace Store

variable {store : Store} {place : Place}

/-! ## Single places -/

theorem lookup_cons {α : Type} (place other : Place) (entry : α) (entries : List (Place × α)) :
    ((place, entry) :: entries).lookup other =
      if other = place then some entry else entries.lookup other := by
  by_cases same : other = place
  · simp [same]
  · simp [List.lookup_cons, beq_false_of_ne same, same]

theorem lookup_replaceEntry {α : Type} (place other : Place) (entry : α) (entries : List (Place × α)) :
    (replaceEntry place entry entries).lookup other =
      if other = place then some entry else entries.lookup other := by
  induction entries with
  | nil => exact lookup_cons place other entry []
  | cons first rest inductionHypothesis =>
    obtain ⟨place', entry'⟩ := first
    by_cases found : place' = place
    · subst found
      simp only [replaceEntry, if_true, lookup_cons]
      split_ifs <;> rfl
    · simp only [replaceEntry, if_neg found, lookup_cons, inductionHypothesis]
      by_cases passed : other = place'
      · subst passed
        simp [found]
      · simp [passed]

theorem lookup_filter_ne {α : Type} (place other : Place) (entries : List (Place × α)) :
    (entries.filter (·.1 ≠ place)).lookup other =
      if other = place then none else entries.lookup other := by
  induction entries with
  | nil => simp
  | cons first rest inductionHypothesis =>
    obtain ⟨place', entry'⟩ := first
    by_cases erased : place' = place
    · subst erased
      simp only [List.filter_cons, ne_eq, not_true, decide_false, Bool.false_eq_true, if_false,
        lookup_cons, inductionHypothesis]
      split_ifs <;> rfl
    · simp only [List.filter_cons, ne_eq, erased, not_false_eq_true, decide_true, if_true,
        lookup_cons, inductionHypothesis]
      by_cases passed : other = place'
      · subst passed
        simp [erased]
      · simp [passed]

@[simp]
theorem entry?_root (store : Store) : store.entry? [] = some .folder :=
  rfl

theorem entry?_put (store : Store) (entry : Entry) (inside : place ≠ []) (other : Place) :
    entry? (store.put place entry) other =
      if other = place then some entry else store.entry? other := by
  by_cases root : other = []
  · subst root
    simp [inside.symm]
  · simp [ entry?, root, put, lookup_replaceEntry]

theorem entry?_erase (store : Store) (inside : place ≠ []) (other : Place) :
    entry? (store.erase place) other = if other = place then none else store.entry? other := by
  by_cases root : other = []
  · subst root
    simp [inside.symm]
  · simp only [ entry?, root, if_false, erase, lookup_filter_ne]

/-! ## Changes that change nothing -/

/-- What is put somewhere is gone when the place is erased. -/
theorem erase_put (store : Store) (place : Place) (entry : Entry) :
    (store.put place entry).erase place = store.erase place := by
  obtain ⟨entries⟩ := store
  have same : (replaceEntry place entry entries).filter (·.1 ≠ place) =
      entries.filter (·.1 ≠ place) := by
    induction entries with
    | nil => simp [replaceEntry]
    | cons first rest inductionHypothesis =>
      rw [replaceEntry]
      split_ifs with found
      · simp [found]
      · simp only [List.filter_cons, inductionHypothesis]
  exact congrArg Store.mk same

/-- Where nothing is, nothing is erased. -/
theorem erase_eq_self (free : store.entry? place = none) : store.erase place = store := by
  have inside : place ≠ [] := by
    rintro rfl
    cases free
  rw [ entry?, if_neg inside, List.lookup_eq_none_iff] at free
  refine congrArg Store.mk (List.filter_eq_self.2 fun listed member => ?_)
  have apart : place ≠ listed.1 := bne_iff_ne.1 (free listed member)
  simpa using apart.symm

/-- What is there already is put there in vain. -/
theorem put_eq_self {entry : Entry} (inside : place ≠ []) (there : store.entry? place = some entry) :
    store.put place entry = store := by
  obtain ⟨entries⟩ := store
  rw [ entry?, if_neg inside] at there
  refine congrArg Store.mk ?_
  induction entries with
  | nil => cases there
  | cons first rest inductionHypothesis =>
    obtain ⟨place', entry'⟩ := first
    rw [lookup_cons] at there
    rw [replaceEntry]
    split_ifs at there with found
    · cases there
      rw [if_pos found.symm, found]
    · rw [if_neg (Ne.symm found), inductionHypothesis there]

end Store

/-! ## The place that a path names -/

/-- Where a piece of a path leads from a place. -/
def follow (here : Place) (piece : String) : Place :=
  if piece = "" ∨ piece = "." then here
  else if piece = ".." then here.dropLast
  else here ++ [piece]

/-- The place that a path names, whether anything is there or not. -/
def Path.place (path : Path) : Place :=
  path.pieces.foldl follow []

@[simp]
theorem follow_empty (here : Place) : follow here "" = here := by
  simp [follow]

theorem follow_name {name : String} (notEmpty : name ≠ "") (notDot : name ≠ ".")
    (notUp : name ≠ "..") : follow here name = here ++ [name] := by
  simp [follow, notEmpty, notDot, notUp]

namespace Store

variable {store old new : Store} {here place : Place} {pieces : List String}

/-- The steps of a walk: each starts from a folder, and one that goes down finds something there. -/
theorem walk_cons_eq_ok_iff {piece : String} :
    walk store here (piece :: pieces) = .ok place ↔
      store.entry? here = some .folder ∧
        walk store (follow here piece) pieces = .ok place ∧
        (piece = "" ∨ piece = "." ∨ piece = ".." ∨
          piece.utf8ByteSize ≤ nameLimit ∧ (store.entry? (here ++ [piece])).isSome) := by
  rw [walk]
  by_cases folder : store.entry? here = some .folder
  swap
  · simp [folder]
  by_cases stays : piece = "" ∨ piece = "."
  · have anyway : piece = "" ∨ piece = "." ∨ piece = ".." ∨
        piece.utf8ByteSize ≤ nameLimit ∧ (store.entry? (here ++ [piece])).isSome :=
      stays.elim .inl fun dot => .inr (.inl dot)
    simp [folder, stays, follow, anyway]
  obtain ⟨notEmpty, notDot⟩ := not_or.1 stays
  by_cases up : piece = ".."
  · simp [folder, up, follow]
  by_cases long : nameLimit < piece.utf8ByteSize
  · simp [folder, up, long, notEmpty, notDot, Nat.not_le.2 long]
  cases found : store.entry? (here ++ [piece]) with
  | none => simp [folder, up, long, notEmpty, notDot]
  | some entry => simp [folder, up, long, notEmpty, notDot, follow, Nat.not_lt.1 long]

theorem walk_place (walked : walk store here pieces = .ok place) :
    place = pieces.foldl follow here := by
  induction pieces generalizing here with
  | nil =>
    cases walked
    rfl
  | cons piece rest inductionHypothesis =>
    obtain ⟨-, onward, -⟩ := walk_cons_eq_ok_iff.1 walked
    exact inductionHypothesis onward

/-- A first step that is taken in one store is taken in another one that has something where it leads. -/
theorem walk_cons_of_there {piece : String} (walked : walk old here (piece :: pieces) = .ok place)
    (folder : new.entry? here = some .folder)
    (there : (new.entry? (follow here piece)).isSome)
    (onward : walk new (follow here piece) pieces = .ok place) :
    walk new here (piece :: pieces) = .ok place := by
  obtain ⟨-, -, step⟩ := walk_cons_eq_ok_iff.1 walked
  refine walk_cons_eq_ok_iff.2 ⟨folder, onward, ?_⟩
  rcases step with empty | dot | up | ⟨short, -⟩
  · exact .inl empty
  · exact .inr (.inl dot)
  · exact .inr (.inr (.inl up))
  · by_cases stays : piece = "" ∨ piece = "." ∨ piece = ".."
    · tauto
    · simp only [not_or] at stays
      rw [follow_name stays.1 stays.2.1 stays.2.2] at there
      exact .inr (.inr (.inr ⟨short, there⟩))

/-- A walk leads to the same place in another store that has all the folders, if there is something at
its end. -/
theorem walk_of_folders_kept (walked : walk old here pieces = .ok place)
    (kept : ∀ place, old.entry? place = some .folder → new.entry? place = some .folder)
    (there : (new.entry? place).isSome) : walk new here pieces = .ok place := by
  induction pieces generalizing here with
  | nil => exact walked
  | cons piece rest inductionHypothesis =>
    obtain ⟨folder, onward, -⟩ := walk_cons_eq_ok_iff.1 walked
    refine walk_cons_of_there walked (kept _ folder) ?_ (inductionHypothesis onward)
    -- what is stepped onto is the end of the walk, or else a folder
    cases rest with
    | nil =>
      cases onward
      exact there
    | cons next rest =>
      obtain ⟨folder, -, -⟩ := walk_cons_eq_ok_iff.1 onward
      rw [kept _ folder]
      rfl

theorem walk_append (store : Store) (here : Place) (first second : List String) :
    walk store here (first ++ second) =
      walk store here first >>= fun there => walk store there second := by
  induction first generalizing here with
  | nil => rfl
  | cons piece rest inductionHypothesis =>
    simp only [List.cons_append, walk, inductionHypothesis]
    split_ifs <;> rfl

end Store

end RpcStubs
