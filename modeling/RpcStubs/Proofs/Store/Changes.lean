import RpcStubs.Proofs.Store.Entries
import Mathlib.Data.List.TakeWhile

/-! # What operations change

Every operation on files acts at the places that its paths name (`Path.place`), so what a sequence of
operations changes can be bounded before it is carried out: `Store.Confined files folders` says that
files come, go and change at most at the first places, and folders come at most at the second ones.
Bounds of this kind compose, in whatever order the operations succeed or fail.
-/

namespace RpcStubs.Store

variable {store old mid new : Store} {place : Place} {path source destination : Path}
  {unnamed : FileError} {content : ByteArray}

/-! ## Targets -/

theorem pieces_eq_withoutTrailing (pieces : List String) :
    ∃ slashes, pieces = withoutTrailing pieces ++ List.replicate slashes "" := by
  refine ⟨(pieces.reverse.takeWhile (· = "")).length, ?_⟩
  have empty : pieces.reverse.takeWhile (· = "") =
      List.replicate (pieces.reverse.takeWhile (· = "")).length "" := by
    refine List.eq_replicate_iff.2 ⟨rfl, fun piece member => ?_⟩
    simpa using List.mem_takeWhile_imp member
  have split := congrArg List.reverse
    (List.takeWhile_append_dropWhile (p := (· = "")) (l := pieces.reverse))
  rw [List.reverse_append, List.reverse_reverse, empty, List.reverse_replicate] at split
  exact split.symm

theorem foldl_follow_replicate (here : Place) (slashes : Nat) :
    (List.replicate slashes "").foldl follow here = here := by
  induction slashes with
  | zero => rfl
  | succ n inductionHypothesis => simpa [List.replicate_succ] using inductionHypothesis

theorem walk_replicate {here : Place} (folder : store.entry? here = some .folder) (slashes : Nat) :
    walk store here (List.replicate slashes "") = .ok here := by
  induction slashes with
  | zero => rfl
  | succ n inductionHypothesis =>
    refine walk_cons_eq_ok_iff.2 ⟨folder, ?_, .inl rfl⟩
    rw [follow_empty]
    exact inductionHypothesis

theorem getLast?_withoutTrailing {pieces : List String} {name : String}
    (last : (withoutTrailing pieces).getLast? = some name) : name ≠ "" := by
  rintro rfl
  rw [withoutTrailing, List.getLast?_reverse] at last
  have kept := List.head?_dropWhile_not (p := (· = "")) pieces.reverse
  rw [last] at kept
  simp at kept

/-- What is known of a target: its folder is found by walking, and its name is a name. -/
structure Reached (store : Store) (path : Path) (target : Target) : Prop where
  faultless : pathFault? path = none
  walked : walk store [] (withoutTrailing path.pieces).dropLast = .ok target.folder
  folder : store.entry? target.folder = some .folder
  last : (withoutTrailing path.pieces).getLast? = some target.name
  named : follow target.folder target.name = target.place
  short : target.name.utf8ByteSize ≤ nameLimit
  slash : target.trailingSlash = decide ((withoutTrailing path.pieces).length < path.pieces.length)

theorem reached_of_target {target : Target} (found : store.target path unnamed = .ok target) :
    Reached store path target := by
  unfold Store.target at found
  split at found
  · cases found
  next faultless =>
    obtain ⟨folder, walked, found⟩ := bind_eq_ok_iff.1 found
    split at found
    · cases found
    next name last =>
      split_ifs at found with notFolder dots long
      cases found
      obtain ⟨notDot, notUp⟩ := not_or.1 dots
      exact ⟨faultless, walked, not_not.1 notFolder, last,
        follow_name (getLast?_withoutTrailing last) notDot notUp, Nat.not_lt.1 long, rfl⟩

/-- A target is found in another store that has all the folders. -/
theorem target_of_folders_kept {target : Target} (found : old.target path unnamed = .ok target)
    (kept : ∀ place, old.entry? place = some .folder → new.entry? place = some .folder) :
    new.target path unnamed = .ok target := by
  have reached := reached_of_target found
  have folder := kept _ reached.folder
  have walked := walk_of_folders_kept reached.walked kept (by rw [folder]; rfl)
  unfold Store.target at found ⊢
  simp only [reached.faultless, reached.walked, walked, reached.last, reached.folder, folder,
    bind, Except.bind] at found ⊢
  exact found

/-- A file is read where its path leads. -/
theorem readFile_eq_ok_iff : store.readFile path = .ok content ↔
    ∃ place, store.resolve path = .ok place ∧ store.entry? place = some (.file content) := by
  unfold readFile
  rw [bind_eq_ok_iff]
  refine exists_congr fun place => and_congr_right fun _ => ?_
  cases store.entry? place with
  | none => simp
  | some entry => cases entry <;> simp

theorem Target.place_ne_nil (target : Target) : target.place ≠ [] := by
  simp [Target.place]

namespace Reached

variable {target : Target}

theorem place_eq (reached : Reached store path target) : target.place = path.place := by
  obtain ⟨slashes, pieces⟩ := pieces_eq_withoutTrailing path.pieces
  have split := List.dropLast_append_getLast? _ (Option.mem_def.2 reached.last)
  rw [Path.place, pieces, List.foldl_append, foldl_follow_replicate, ← split, List.foldl_append,
    ← walk_place reached.walked]
  exact reached.named.symm

theorem place_ne_nil (reached : Reached store path target) : path.place ≠ [] :=
  reached.place_eq ▸ target.place_ne_nil

/-- A path leads to its target, but for what slashes may come after it, once something is there. -/
theorem walk_eq (reached : Reached old path target)
    (kept : ∀ place, old.entry? place = some .folder → new.entry? place = some .folder)
    (there : (new.entry? path.place).isSome) :
    walk new [] (withoutTrailing path.pieces) = .ok path.place := by
  have walked := walk_of_folders_kept reached.walked kept (by rw [kept _ reached.folder]; rfl)
  have step : walk new target.folder [target.name] = .ok path.place := by
    refine walk_cons_eq_ok_iff.2 ⟨kept _ reached.folder, ?_, ?_⟩
    · rw [reached.named, reached.place_eq]
      rfl
    · refine .inr (.inr (.inr ⟨reached.short, ?_⟩))
      rw [← reached.place_eq] at there
      exact there
  rw [← List.dropLast_append_getLast? _ (Option.mem_def.2 reached.last), walk_append, walked]
  exact step

/-- A target without a slash after it is where its path leads, once something is there. -/
theorem resolve_eq (reached : Reached old path target) (noSlash : target.trailingSlash = false)
    (kept : ∀ place, old.entry? place = some .folder → new.entry? place = some .folder)
    (there : (new.entry? path.place).isSome) : new.resolve path = .ok path.place := by
  obtain ⟨slashes, pieces⟩ := pieces_eq_withoutTrailing path.pieces
  -- the last piece of the path is the name of the target then
  have same : withoutTrailing path.pieces = path.pieces := by
    have length := congrArg List.length pieces
    rw [reached.slash, decide_eq_false_iff_not] at noSlash
    rw [List.length_append, List.length_replicate] at length
    have none : slashes = 0 := by omega
    rw [none] at pieces
    simpa using pieces.symm
  have walked := reached.walk_eq kept there
  rw [same] at walked
  rw [resolve, reached.faultless]
  exact walked

/-- A folder is where its path leads, also with slashes after it. -/
theorem resolve_folder_eq (reached : Reached old path target)
    (kept : ∀ place, old.entry? place = some .folder → new.entry? place = some .folder)
    (folder : new.entry? path.place = some .folder) : new.resolve path = .ok path.place := by
  obtain ⟨slashes, pieces⟩ := pieces_eq_withoutTrailing path.pieces
  have walked := reached.walk_eq kept (by rw [folder]; rfl)
  rw [resolve, reached.faultless]
  show walk new [] path.pieces = .ok path.place
  rw [pieces, walk_append, walked]
  exact walk_replicate folder slashes

end Reached

/-! ## Single operations -/

theorem makeFolder_eq_ok (made : store.makeFolder path = .ok new) :
    path.place ≠ [] ∧ store.entry? path.place = none ∧ new = store.put path.place .folder := by
  obtain ⟨target, found, made⟩ := bind_eq_ok_iff.1 made
  have reached := reached_of_target found
  rw [reached.place_eq] at made
  split at made
  · cases made
  next free =>
    cases made
    exact ⟨reached.place_ne_nil, free, rfl⟩

theorem writeFile_eq_ok (written : store.writeFile path content = .ok new) :
    path.place ≠ [] ∧ store.entry? path.place ≠ some .folder ∧
      new = store.put path.place (.file content) := by
  obtain ⟨target, found, written⟩ := bind_eq_ok_iff.1 written
  have reached := reached_of_target found
  rw [reached.place_eq] at written
  split_ifs at written
  split at written
  · cases written
  next notFolder =>
    cases written
    exact ⟨reached.place_ne_nil, notFolder, rfl⟩

/-- A file that was moved is at its new path and, if that is another place, no longer at the old one. -/
theorem renameFile_eq_ok (renamed : store.renameFile source destination = .ok new) :
    source.place ≠ [] ∧ destination.place ≠ [] ∧
      ∃ content, store.entry? source.place = some (.file content) ∧
        store.entry? destination.place ≠ some .folder ∧
        ((source.place = destination.place ∧ new = store) ∨
          (source.place ≠ destination.place ∧
            new = (store.erase source.place).put destination.place (.file content))) ∧
        ∃ target, Reached store destination target ∧ target.trailingSlash = false := by
  obtain ⟨origin, found, renamed⟩ := bind_eq_ok_iff.1 renamed
  obtain ⟨target, foundTo, renamed⟩ := bind_eq_ok_iff.1 renamed
  have reached := reached_of_target found
  have reachedTo := reached_of_target foundTo
  rw [reached.place_eq, reachedTo.place_eq] at renamed
  refine ⟨reached.place_ne_nil, reachedTo.place_ne_nil, ?_⟩
  split at renamed
  · cases renamed
  · cases renamed
  next content isFile =>
    split_ifs at renamed with slashes notFolder same
    all_goals
      have noSlash : target.trailingSlash = false := Bool.eq_false_iff.2 (not_or.1 slashes).2
      cases renamed
    · exact ⟨content, isFile, notFolder, .inl ⟨same, rfl⟩, target, reachedTo, noSlash⟩
    · exact ⟨content, isFile, notFolder, .inr ⟨same, rfl⟩, target, reachedTo, noSlash⟩

theorem removeFile_eq_ok (removed : store.removeFile path = .ok new) :
    path.place ≠ [] ∧ (∃ content, store.entry? path.place = some (.file content)) ∧
      new = store.erase path.place := by
  obtain ⟨target, found, removed⟩ := bind_eq_ok_iff.1 removed
  have reached := reached_of_target found
  rw [reached.place_eq] at removed
  split at removed
  · cases removed
  · cases removed
  next content isFile =>
    split_ifs at removed
    cases removed
    exact ⟨reached.place_ne_nil, ⟨content, isFile⟩, rfl⟩

/-! ## Bounds on what changes -/

/-- Files come, go and change at most at the places `files`, and folders come at most at the places
`folders`; no folder goes. -/
structure Confined (files folders : List Place) (old new : Store) : Prop where
  folderKept : ∀ place, old.entry? place = some .folder → new.entry? place = some .folder
  fileKept : ∀ place content, place ∉ files →
    old.entry? place = some (.file content) → new.entry? place = some (.file content)
  fileOld : ∀ place content, place ∉ files →
    new.entry? place = some (.file content) → old.entry? place = some (.file content)
  folderOld : ∀ place, place ∉ folders →
    new.entry? place = some .folder → old.entry? place = some .folder

namespace Confined

variable {files folders moreFiles moreFolders : List Place}

theorem refl (files folders : List Place) (store : Store) : Confined files folders store store :=
  ⟨fun _ => id, fun _ _ _ => id, fun _ _ _ => id, fun _ _ => id⟩

theorem trans (first : Confined files folders old mid) (second : Confined files folders mid new) :
    Confined files folders old new where
  folderKept place folder := second.folderKept place (first.folderKept place folder)
  fileKept place content outside file :=
    second.fileKept place content outside (first.fileKept place content outside file)
  fileOld place content outside file :=
    first.fileOld place content outside (second.fileOld place content outside file)
  folderOld place outside folder :=
    first.folderOld place outside (second.folderOld place outside folder)

theorem mono (confined : Confined files folders old new) (filesIn : files ⊆ moreFiles)
    (foldersIn : folders ⊆ moreFolders) : Confined moreFiles moreFolders old new where
  folderKept := confined.folderKept
  fileKept place content outside :=
    confined.fileKept place content fun member => outside (filesIn member)
  fileOld place content outside :=
    confined.fileOld place content fun member => outside (filesIn member)
  folderOld place outside := confined.folderOld place fun member => outside (foldersIn member)

/-- Elsewhere everything is as it was. -/
theorem entry?_eq (confined : Confined files folders old new) (noFile : place ∉ files)
    (noFolder : place ∉ folders) : new.entry? place = old.entry? place := by
  cases was : old.entry? place with
  | some entry =>
    cases entry with
    | folder => exact confined.folderKept place was
    | file content => exact confined.fileKept place content noFile was
  | none =>
    cases is : new.entry? place with
    | none => rfl
    | some entry =>
      cases entry with
      | folder => exact was ▸ (confined.folderOld place noFolder is).symm
      | file content => exact was ▸ (confined.fileOld place content noFile is).symm

/-- Where no file changes, what is new is a folder where there was nothing. -/
theorem eq_or_made (confined : Confined [] folders old new) (place : Place) :
    new.entry? place = old.entry? place ∨
      place ∈ folders ∧ old.entry? place = none ∧ new.entry? place = some .folder := by
  by_cases outside : place ∉ folders
  · exact .inl (confined.entry?_eq (List.not_mem_nil) outside)
  cases was : old.entry? place with
  | some entry =>
    cases entry with
    | folder => exact .inl (confined.folderKept place was)
    | file content => exact .inl (confined.fileKept place content List.not_mem_nil was)
  | none =>
    cases is : new.entry? place with
    | none => exact .inl rfl
    | some entry =>
      cases entry with
      | folder => exact .inr ⟨not_not.1 outside, rfl, rfl⟩
      | file content =>
        have file := confined.fileOld place content List.not_mem_nil is
        rw [was] at file
        cases file

/-- A change of entries at one place that is no folder, to something that is none either. -/
theorem of_entry? (notFolder : old.entry? place ≠ some .folder)
    (stillNot : new.entry? place ≠ some .folder)
    (same : ∀ other, other ≠ place → new.entry? other = old.entry? other) :
    Confined [place] [] old new where
  folderKept other folder := by
    have apart : other ≠ place := by
      rintro rfl
      exact notFolder folder
    rw [same other apart, folder]
  fileKept other content outside file := by
    rw [same other (by simpa using outside), file]
  fileOld other content outside file := by
    rw [← same other (by simpa using outside), file]
  folderOld other _ folder := by
    have apart : other ≠ place := by
      rintro rfl
      exact stillNot folder
    rw [← same other apart, folder]

theorem put_file (inside : place ≠ []) (notFolder : store.entry? place ≠ some .folder)
    (content : ByteArray) : Confined [place] [] store (store.put place (.file content)) := by
  apply of_entry? notFolder
  · simp [entry?_put store _ inside]
  · intro other apart
    rw [entry?_put store _ inside, if_neg apart]

theorem erase_file (inside : place ≠ []) (notFolder : store.entry? place ≠ some .folder) :
    Confined [place] [] store (store.erase place) := by
  apply of_entry? notFolder
  · simp [entry?_erase store inside]
  · intro other apart
    rw [entry?_erase store inside, if_neg apart]

theorem put_folder (inside : place ≠ []) (free : store.entry? place = none) :
    Confined [] [place] store (store.put place .folder) where
  folderKept other folder := by
    rw [entry?_put store _ inside]
    split_ifs
    · rfl
    · exact folder
  fileKept other content _ file := by
    rw [entry?_put store _ inside, if_neg, file]
    rintro rfl
    rw [free] at file
    cases file
  fileOld other content _ file := by
    rw [entry?_put store _ inside] at file
    split_ifs at file
    · cases file
    · exact file
  folderOld other outside folder := by
    rwa [entry?_put store _ inside, if_neg (by simpa using outside)] at folder

end Confined

theorem confined_makeFolder (made : store.makeFolder path = .ok new) :
    Confined [] [path.place] store new := by
  obtain ⟨inside, free, rfl⟩ := makeFolder_eq_ok made
  exact .put_folder inside free

theorem confined_writeFile (written : store.writeFile path content = .ok new) :
    Confined [path.place] [] store new := by
  obtain ⟨inside, notFolder, rfl⟩ := writeFile_eq_ok written
  exact .put_file inside notFolder content

theorem confined_removeFile (removed : store.removeFile path = .ok new) :
    Confined [path.place] [] store new := by
  obtain ⟨inside, ⟨content, isFile⟩, rfl⟩ := removeFile_eq_ok removed
  exact .erase_file inside (by simp [isFile])

theorem confined_renameFile (renamed : store.renameFile source destination = .ok new) :
    Confined [source.place, destination.place] [] store new := by
  obtain ⟨inside, insideTo, content, isFile, notFolder, ⟨-, rfl⟩ | ⟨apart, rfl⟩, -⟩ :=
    renameFile_eq_ok renamed
  · exact .refl _ _ _
  · have erased := Confined.erase_file inside (by simp [isFile] : store.entry? source.place ≠ _)
    have stillNot : entry? (store.erase source.place) destination.place ≠ some .folder := by
      rwa [entry?_erase store inside, if_neg apart.symm]
    have put := Confined.put_file insideTo stillNot content
    have bound : Confined [source.place, destination.place] [] store (store.erase source.place) :=
      erased.mono (by simp) (List.Subset.refl _)
    exact bound.trans (put.mono (by simp) (List.Subset.refl _))

/-! ## What stays as it was -/

/-- A file that no change touched is read as before. -/
theorem Confined.readFile_eq_ok {files folders : List Place} (confined : Confined files folders old new)
    (outside : path.place ∉ files) (read : old.readFile path = .ok content) :
    new.readFile path = .ok content := by
  obtain ⟨place, resolved, isFile⟩ := readFile_eq_ok_iff.1 read
  unfold resolve at resolved
  split at resolved
  · cases resolved
  next faultless =>
    obtain rfl : place = path.place := walk_place resolved
    have still := confined.fileKept path.place content outside isFile
    have walked := walk_of_folders_kept resolved confined.folderKept (by rw [still]; rfl)
    refine readFile_eq_ok_iff.2 ⟨path.place, ?_, still⟩
    rw [resolve, faultless]
    exact walked

/-- A file that was just written is there and can be removed. -/
theorem removeFile_of_written (written' : old.writeFile path content = .ok store) :
    store.isPresent path = true ∧ store.removeFile path = .ok (store.erase path.place) := by
  obtain ⟨inside, -, same⟩ := writeFile_eq_ok written'
  obtain ⟨target, found, written⟩ := bind_eq_ok_iff.1 written'
  have reached := reached_of_target found
  have kept := (confined_writeFile written').folderKept
  have isFile : store.entry? path.place = some (.file content) := by
    rw [same, entry?_put old _ inside, if_pos rfl]
  have noSlash : target.trailingSlash = false := by
    by_contra slash
    rw [Bool.not_eq_false] at slash
    rw [if_pos slash] at written
    cases written
  constructor
  · have resolved := reached.resolve_eq noSlash kept (by rw [isFile]; rfl)
    rw [isPresent, resolved]
    rfl
  · rw [removeFile, target_of_folders_kept found kept]
    simp only [bind, Except.bind, reached.place_eq, isFile, noSlash]
    rfl

/-- Everything is as it was, but a file at one place may be gone. -/
structure Cleared (place : Place) (old new : Store) : Prop where
  elsewhere : ∀ other, other ≠ place → new.entry? other = old.entry? other
  there : new.entry? place = old.entry? place ∨
    old.entry? place ≠ some .folder ∧ new.entry? place = none

namespace Cleared

theorem refl (place : Place) (store : Store) : Cleared place store store :=
  ⟨fun _ _ => rfl, .inl rfl⟩

theorem erase (inside : place ≠ []) (notFolder : store.entry? place ≠ some .folder) :
    Cleared place store (store.erase place) where
  elsewhere other apart := by rw [entry?_erase store inside, if_neg apart]
  there := .inr ⟨notFolder, by rw [entry?_erase store inside, if_pos rfl]⟩

theorem removeFile (removed : store.removeFile path = .ok new) : Cleared path.place store new := by
  obtain ⟨inside, ⟨content, isFile⟩, rfl⟩ := removeFile_eq_ok removed
  exact .erase inside (by simp [isFile])

/-- No file is new or has another content. -/
theorem file_old (cleared : Cleared place old new) {other : Place}
    (file : new.entry? other = some (.file content)) : old.entry? other = some (.file content) := by
  by_cases apart : other = place
  · subst apart
    rcases cleared.there with same | ⟨-, gone⟩
    · rwa [same] at file
    · rw [gone] at file
      cases file
  · rwa [cleared.elsewhere other apart] at file

theorem folder_iff (cleared : Cleared place old new) (other : Place) :
    new.entry? other = some .folder ↔ old.entry? other = some .folder := by
  by_cases apart : other = place
  · subst apart
    rcases cleared.there with same | ⟨notFolder, gone⟩
    · rw [same]
    · simp [gone, notFolder]
  · rw [cleared.elsewhere other apart]

theorem confined (cleared : Cleared place old new) : Confined [place] [] old new where
  folderKept other := (cleared.folder_iff other).2
  fileKept other content outside file := by
    rwa [cleared.elsewhere other (by simpa using outside)]
  fileOld _ _ _ := cleared.file_old
  folderOld other _ := (cleared.folder_iff other).1

end Cleared

/-- Wherever there is a file, there was one before. -/
def NoFileAdded (old new : Store) : Prop :=
  ∀ place content, new.entry? place = some (.file content) →
    ∃ was, old.entry? place = some (.file was)

namespace NoFileAdded

theorem refl (store : Store) : NoFileAdded store store :=
  fun _ content file => ⟨content, file⟩

theorem trans (first : NoFileAdded old mid) (second : NoFileAdded mid new) : NoFileAdded old new := by
  intro place content file
  obtain ⟨was, file⟩ := second place content file
  exact first place was file

end NoFileAdded

end RpcStubs.Store
