import RpcStubs.Proofs.Store.Changes

/-! # What a path leads to

A path leads to what is at its place, if the way there can be walked.  A change elsewhere can therefore
be seen at a path only by opening a way: a path through `missing/..` leads nowhere until the folder is
made, and then it leads to what has been there all along.  `Store.held?_eq_of_confined` says when that
does not happen either.
-/

namespace RpcStubs.Store

variable {store old new : Store} {here place : Place} {path : Path} {pieces : List String}
  {entry : Entry} {files folders : List Place}

/-- What a path leads to. -/
def held? (store : Store) (path : Path) : Option Entry :=
  (store.resolve path).toOption.bind store.entry?

/-- Everything in a store is in a folder. -/
def Grounded (store : Store) : Prop :=
  ∀ place name, (store.entry? (place ++ [name])).isSome → store.entry? place = some .folder

/-- It is enough to look at what a store lists. -/
theorem grounded_of_entries
    (listed : ∀ entry ∈ store.entries, store.entry? entry.1.dropLast = some .folder) :
    store.Grounded := by
  intro place name there
  obtain ⟨entry, found⟩ := Option.isSome_iff_exists.1 there
  rw [ entry?, if_neg (by simp), List.lookup_eq_some_iff] at found
  obtain ⟨before, after, split, -⟩ := found
  simpa using listed (place ++ [name], entry) (by simp [split])

theorem Grounded.folder_of_append (grounded : store.Grounded) {beyond : Place}
    (further : beyond ≠ []) (there : (store.entry? (here ++ beyond)).isSome) :
    store.entry? here = some .folder := by
  induction beyond generalizing here with
  | nil => exact absurd rfl further
  | cons name rest inductionHypothesis =>
    have split : here ++ name :: rest = here ++ [name] ++ rest := by simp
    rw [split] at there
    apply grounded here name
    cases rest with
    | nil => simpa using there
    | cons next rest =>
      rw [inductionHypothesis (List.cons_ne_nil _ _) there]
      rfl

theorem held?_eq_some_iff :
    store.held? path = some entry ↔ pathFault? path = none ∧
      walk store [] path.pieces = .ok path.place ∧ store.entry? path.place = some entry := by
  unfold held? resolve
  cases pathFault? path with
  | some fault => simp [Except.toOption]
  | none =>
    cases walked : walk store [] path.pieces with
    | error e => simp [Except.toOption]
    | ok place =>
      have same : place = path.place := walk_place walked
      simp [Except.toOption, same]

/-- Something is at every place on the way to where something is. -/
theorem Grounded.isSome_of_append (grounded : store.Grounded) {beyond : Place}
    (there : (store.entry? (here ++ beyond)).isSome) : (store.entry? here).isSome := by
  by_cases further : beyond = []
  · rwa [further, List.append_nil] at there
  · rw [grounded.folder_of_append further there]
    rfl

/-- Without steps back a path only goes down. -/
theorem exists_append_of_walk (direct : ".." ∉ pieces)
    (walked : walk store here pieces = .ok place) : ∃ beyond, place = here ++ beyond := by
  induction pieces generalizing here with
  | nil =>
    cases walked
    exact ⟨[], by simp⟩
  | cons piece rest inductionHypothesis =>
    obtain ⟨notUp, direct⟩ := not_or.1 (List.mem_cons.not.1 direct)
    obtain ⟨-, onward, -⟩ := walk_cons_eq_ok_iff.1 walked
    obtain ⟨beyond, rfl⟩ := inductionHypothesis direct onward
    unfold follow
    split_ifs with stays up
    · exact ⟨beyond, rfl⟩
    · exact absurd up.symm notUp
    · exact ⟨piece :: beyond, by simp⟩

/-- In a grounded store a way without steps back is open if there is something at its end, whatever
other store it was found in. -/
theorem walk_of_grounded (grounded : old.Grounded) (direct : ".." ∉ pieces)
    (walked : walk new here pieces = .ok place) (same : old.entry? place = new.entry? place)
    (there : (old.entry? place).isSome) : walk old here pieces = .ok place := by
  induction pieces generalizing here with
  | nil => exact walked
  | cons piece rest inductionHypothesis =>
    obtain ⟨-, directRest⟩ := not_or.1 (List.mem_cons.not.1 direct)
    obtain ⟨folder, onward, -⟩ := walk_cons_eq_ok_iff.1 walked
    obtain ⟨beyond, down⟩ := exists_append_of_walk direct walked
    obtain ⟨rest', downRest⟩ := exists_append_of_walk directRest onward
    -- where the walk starts is where it ends, or else above what is there
    have folderOld : old.entry? here = some .folder := by
      by_cases further : beyond = []
      · rw [further, List.append_nil] at down
        rw [down] at same
        rw [same, folder]
      · rw [down] at there
        exact grounded.folder_of_append further there
    exact walk_cons_of_there walked folderOld (grounded.isSome_of_append (downRest ▸ there))
      (inductionHypothesis directRest onward)

/-- The way to what a path names is there already, or at least it does not go back. -/
def Passable (store : Store) (path : Path) : Prop :=
  ".." ∉ path.pieces ∨
    ∃ folder, walk store [] path.pieces.dropLast = .ok folder ∧ store.entry? folder = some .folder

/-- An open way leads on to what is there. -/
theorem walk_of_passable (grounded : old.Grounded) (passable : old.Passable path)
    (kept : ∀ place, old.entry? place = some .folder → new.entry? place = some .folder)
    (walked : walk new [] path.pieces = .ok place) (same : old.entry? place = new.entry? place)
    (there : (old.entry? place).isSome) : walk old [] path.pieces = .ok place := by
  rcases passable with direct | ⟨folder, way, isFolder⟩
  · exact walk_of_grounded grounded direct walked same there
  rcases List.eq_nil_or_concat' path.pieces with none | ⟨init, last, split⟩
  · rw [none] at walked ⊢
    exact walked
  rw [split, List.dropLast_concat] at way
  have wayNew := walk_of_folders_kept way kept (by rw [kept _ isFolder]; rfl)
  rw [split, walk_append, wayNew] at walked
  rw [split, walk_append, way]
  have walked : walk new folder [last] = .ok place := walked
  obtain rfl : place = follow folder last := walk_place walked
  exact walk_cons_of_there walked isFolder there rfl

/-- A change that is confined to other places cannot be seen at a path. -/
theorem held?_eq_of_confined (grounded : old.Grounded) (passable : old.Passable path)
    (confined : Confined files folders old new) (noFile : path.place ∉ files)
    (noFolder : path.place ∉ folders) : new.held? path = old.held? path := by
  have same := confined.entry?_eq noFile noFolder
  ext entry
  rw [held?_eq_some_iff, held?_eq_some_iff, same]
  refine and_congr_right fun _ => and_congr_left fun there => ?_
  have isSome : (old.entry? path.place).isSome := by rw [there]; rfl
  constructor
  · intro walked
    exact walk_of_passable grounded passable confined.folderKept walked same.symm isSome
  · intro walked
    exact walk_of_folders_kept walked confined.folderKept (same ▸ isSome)

end RpcStubs.Store
