import RpcStubs.Proofs.Store.Changes

/-! # Operations that are done again

An operation that succeeded finds its target again in every store that has at least the folders
(`Store.target_of_folders_kept`).  So what it comes to there depends on what is at the places it names,
and no longer on the way to them: a folder is not made twice, a file is written and moved as before.
-/

namespace RpcStubs.Store

variable {store old mid new : Store} {place : Place} {path source destination : Path}
  {content moved : ByteArray}

/-! ## Folders -/

theorem resolve_eq_ok_iff : store.resolve path = .ok place ↔
    pathFault? path = none ∧ walk store [] path.pieces = .ok place := by
  unfold resolve
  cases pathFault? path with
  | none => simp
  | some fault => simp

theorem isFolder_iff : store.isFolder path = true ↔
    store.resolve path = .ok path.place ∧ store.entry? path.place = some .folder := by
  unfold isFolder
  cases resolved : store.resolve path with
  | error e => simp
  | ok place =>
    obtain rfl : place = path.place := walk_place (resolve_eq_ok_iff.1 resolved).2
    simp

theorem isFolder_of_folders_kept (folder : old.isFolder path = true)
    (kept : ∀ place, old.entry? place = some .folder → new.entry? place = some .folder) :
    new.isFolder path = true := by
  obtain ⟨resolved, there⟩ := isFolder_iff.1 folder
  obtain ⟨faultless, walked⟩ := resolve_eq_ok_iff.1 resolved
  have still := kept _ there
  have walked := walk_of_folders_kept walked kept (by rw [still]; rfl)
  exact isFolder_iff.2 ⟨resolve_eq_ok_iff.2 ⟨faultless, walked⟩, still⟩

theorem isFolder_of_makeFolder (made : store.makeFolder path = .ok new) :
    new.isFolder path = true := by
  obtain ⟨inside, free, same⟩ := makeFolder_eq_ok made
  obtain ⟨target, found, -⟩ := bind_eq_ok_iff.1 made
  have there : new.entry? path.place = some .folder := by
    rw [same, entry?_put store _ inside, if_pos rfl]
  have resolved :=
    (reached_of_target found).resolve_folder_eq (confined_makeFolder made).folderKept there
  exact isFolder_iff.2 ⟨resolved, there⟩

/-- Where there is a folder none is made, and the reason is that something is there. -/
theorem makeFolder_of_isFolder (folder : store.isFolder path = true) :
    store.makeFolder path = .error .alreadyExists := by
  obtain ⟨resolved, -⟩ := isFolder_iff.1 folder
  obtain ⟨faultless, walked⟩ := resolve_eq_ok_iff.1 resolved
  obtain ⟨slashes, pieces⟩ := pieces_eq_withoutTrailing path.pieces
  rw [pieces, walk_append] at walked
  obtain ⟨here, walked, -⟩ := bind_eq_ok_iff.1 walked
  unfold makeFolder target
  simp only [faultless]
  cases last : (withoutTrailing path.pieces).getLast? with
  | none =>
    -- the path is nothing but slashes
    rw [List.getLast?_eq_none_iff] at last
    rw [last]
    rfl
  | some name =>
    rw [← List.dropLast_append_getLast? _ (Option.mem_def.2 last), walk_append] at walked
    obtain ⟨above, walkedAbove, step⟩ := bind_eq_ok_iff.1 walked
    obtain ⟨isFolder, -, named⟩ := walk_cons_eq_ok_iff.1 step
    simp only [walkedAbove, bind, Except.bind, isFolder]
    rcases named with empty | dot | up | ⟨short, isSome⟩
    · exact absurd empty (getLast?_withoutTrailing last)
    · simp [dot]
    · simp [up]
    · obtain ⟨entry, there⟩ := Option.isSome_iff_exists.1 isSome
      by_cases dots : name = "." ∨ name = ".."
      · simp [dots]
      · simp [dots, Nat.not_lt.2 short, Target.place, there]

/-! ## Files -/

theorem writeFile_of_folders_kept (written : old.writeFile path content = .ok mid)
    (kept : ∀ place, old.entry? place = some .folder → new.entry? place = some .folder)
    (notFolder : new.entry? path.place ≠ some .folder) (other : ByteArray) :
    new.writeFile path other = .ok (new.put path.place (.file other)) := by
  obtain ⟨target, found, written⟩ := bind_eq_ok_iff.1 written
  unfold writeFile
  rw [target_of_folders_kept found kept]
  simp only [bind, Except.bind, (reached_of_target found).place_eq] at written ⊢
  split_ifs at written with slash
  rw [if_neg slash]

theorem renameFile_of_folders_kept (renamed : old.renameFile source destination = .ok mid)
    (kept : ∀ place, old.entry? place = some .folder → new.entry? place = some .folder)
    (there : new.entry? source.place = some (.file moved))
    (notFolder : new.entry? destination.place ≠ some .folder)
    (apart : source.place ≠ destination.place) :
    new.renameFile source destination =
      .ok ((new.erase source.place).put destination.place (.file moved)) := by
  obtain ⟨origin, found, renamed⟩ := bind_eq_ok_iff.1 renamed
  obtain ⟨target, foundTo, renamed⟩ := bind_eq_ok_iff.1 renamed
  unfold renameFile
  rw [target_of_folders_kept found kept]
  simp only [bind, Except.bind]
  rw [target_of_folders_kept foundTo kept]
  simp only [(reached_of_target found).place_eq, (reached_of_target foundTo).place_eq] at renamed ⊢
  have noSlashes : ¬ (origin.trailingSlash = true ∨ target.trailingSlash = true) := by
    intro slashes
    split at renamed
    · cases renamed
    · cases renamed
    · rw [if_pos slashes] at renamed
      cases renamed
  simp only [there]
  rw [if_neg noSlashes, if_neg notFolder, if_neg apart]

end RpcStubs.Store
