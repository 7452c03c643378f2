import RpcStubs.Proofs.Replacement

/-! # All or nothing

What a replacement leaves, told from the text of its path: the new content and no trace of its
preparation, or all files as they were, but for one that lay at the place for staging.  Either way folders
may have been made, and none but missing ones that the path leads through (`Path.LeadsThrough`).

A path can lead through its own place for staging, as `x.tmp/../x` does.  There the folder that was made
on the way is in the way when the content is to be prepared, and it stays.
-/

namespace RpcStubs

open Script

variable {path : Path} {content : String} {reply : Reply} {old new : Store}
  {result : Except FileError Unit}

/-! ## Folders on the way -/

/-- A path leads through a place if some beginning of it leads there and some step comes after that. -/
def Path.LeadsThrough (path : Path) (place : Place) : Prop :=
  ∃ before after, path.pieces = before ++ after ∧ after.any isStep ∧ place = before.foldl follow []

namespace Path

/-- In a chain of folders each but the last is followed by a step. -/
theorem of_mem_chain {here folder : Path} {before pieces : List String}
    (member : folder ∈ (here :: foldersAfter before pieces).dropLast) :
    folder = here ∧ pieces.any isStep ∨
      ∃ first rest, pieces = first ++ rest ∧ rest.any isStep ∧ folder.pieces = before ++ first := by
  induction pieces generalizing here before with
  | nil => cases member
  | cons piece rest inductionHypothesis =>
    have further {first after : List String} (split : rest = first ++ after) :
        piece :: rest = (piece :: first) ++ after := by rw [split, List.cons_append]
    by_cases step : isStep piece
    · simp only [foldersAfter, step, if_true, List.dropLast_cons_cons] at member
      rcases List.mem_cons.1 member with rfl | member
      · exact .inl ⟨rfl, by simp [step]⟩
      rcases inductionHypothesis member with ⟨rfl, later⟩ | ⟨first, after, split, later, same⟩
      · exact .inr ⟨[piece], rest, rfl, later, rfl⟩
      · exact .inr ⟨piece :: first, after, further split, later, by simp [same]⟩
    · -- the chain goes on with the later pieces
      simp only [foldersAfter, step] at member
      rcases inductionHypothesis member with ⟨rfl, later⟩ | ⟨first, after, split, later, same⟩
      · exact .inl ⟨rfl, by simp [later]⟩
      · exact .inr ⟨piece :: first, after, further split, later, by simp [same]⟩

/-- The folders that are made for a path are places that it leads through. -/
theorem leadsThrough_of_mem_above {folder : Path} (member : folder ∈ path.above) :
    path.LeadsThrough folder.place := by
  rw [above, folders] at member
  split at member
  next rest split =>
    rcases of_mem_chain member with ⟨rfl, later⟩ | ⟨first, after, rfl, later, same⟩
    · exact ⟨["."], rest, split, later, rfl⟩
    · exact ⟨"." :: first, after, split, later, by rw [place, same]; rfl⟩
  next =>
    -- the root comes before all folders
    have member : folder ∈ (⟨[]⟩ :: foldersAfter [] path.pieces).dropLast := by
      cases chain : foldersAfter [] path.pieces with
      | nil => simp [chain] at member
      | cons first others =>
        rw [chain] at member
        exact List.mem_cons_of_mem _ member
    rcases of_mem_chain member with ⟨rfl, later⟩ | ⟨first, after, split, later, same⟩
    · exact ⟨[], path.pieces, rfl, later, rfl⟩
    · exact ⟨first, after, split, later, by rw [place, same]; rfl⟩

theorem leadsThrough_of_mem {place : Place} (member : place ∈ path.above.map Path.place) :
    path.LeadsThrough place := by
  obtain ⟨folder, among, rfl⟩ := List.mem_map.1 member
  exact leadsThrough_of_mem_above among

end Path

/-- Folders may be new where there was nothing and where a path leads through, and none is gone. -/
structure FoldersAdded (path : Path) (old new : Store) : Prop where
  kept : ∀ place, old.entry? place = some .folder → new.entry? place = some .folder
  added : ∀ place, new.entry? place = some .folder →
    old.entry? place = some .folder ∨ old.entry? place = none ∧ path.LeadsThrough place

/-- Making folders for a path adds such folders and leaves all files as they were. -/
theorem foldersAdded_of_confined
    (made : Store.Confined [] (path.above.map Path.place) old new) : FoldersAdded path old new where
  kept := made.folderKept
  added place folder := by
    rcases made.eq_or_made place with same | ⟨member, free, -⟩
    · exact .inl (same ▸ folder)
    · exact .inr ⟨free, Path.leadsThrough_of_mem member⟩

/-! ## What is left -/

/-- What a replacement that succeeds leaves. -/
structure Delivered (path : Path) (content : String) (old new : Store) : Prop where
  holds : new.readFile path = .ok content.toUTF8
  nothingStaged : new.entry? path.staging.place = none
  otherFiles : ∀ place file, place ≠ path.place → place ≠ path.staging.place →
    (new.entry? place = some (.file file) ↔ old.entry? place = some (.file file))
  folders : FoldersAdded path old new

/-- What a replacement that fails leaves. -/
structure Withdrawn (path : Path) (old new : Store) : Prop where
  otherFiles : ∀ place file, place ≠ path.staging.place →
    (new.entry? place = some (.file file) ↔ old.entry? place = some (.file file))
  noFileNew : ∀ place file, new.entry? place = some (.file file) →
    old.entry? place = some (.file file)
  /-- The place for staging is as it was or empty, or a folder on the way was missing there. -/
  staging : new.entry? path.staging.place = old.entry? path.staging.place ∨
    new.entry? path.staging.place = none ∨
    old.entry? path.staging.place = none ∧ new.entry? path.staging.place = some .folder ∧
      path.LeadsThrough path.staging.place
  folders : FoldersAdded path old new

theorem file_iff_of_confined {folders : List Place} (made : Store.Confined [] folders old new)
    (place : Place) (file : ByteArray) :
    new.entry? place = some (.file file) ↔ old.entry? place = some (.file file) :=
  ⟨made.fileOld place file List.not_mem_nil, made.fileKept place file List.not_mem_nil⟩

theorem Replaced.delivered (replaced : Replaced path content old new) :
    Delivered path content old new := by
  obtain ⟨ready, made, entries, folder_iff⟩ := replaced.exists_ready
  have added := foldersAdded_of_confined made
  refine ⟨replaced.readFile_eq, ?_, fun place file apart unstaged => ?_,
    ⟨fun place was => ?_, fun place folder => ?_⟩⟩
  · rw [entries, if_neg path.staging_place_ne, if_pos rfl]
  · rw [entries, if_neg apart, if_neg unstaged]
    exact file_iff_of_confined made place file
  · exact (folder_iff place).2 (added.kept place was)
  · exact added.added place ((folder_iff place).1 folder)

theorem GivenUp.withdrawn (givenUp : GivenUp path old new) : Withdrawn path old new := by
  obtain ⟨made, cleared⟩ := id givenUp
  have added := foldersAdded_of_confined made
  refine ⟨fun place file unstaged => ?_, fun _ _ => givenUp.file_old, ?_, ⟨fun place was => ?_,
    fun place folder => ?_⟩⟩
  · rw [cleared.elsewhere place unstaged]
    exact file_iff_of_confined made place file
  · rcases cleared.there with kept | ⟨-, gone⟩
    · rcases made.eq_or_made path.staging.place with same | ⟨member, free, folder⟩
      · exact .inl (kept.trans same)
      · exact .inr (.inr ⟨free, kept.trans folder, Path.leadsThrough_of_mem member⟩)
    · exact .inr (.inl gone)
  · exact (cleared.folder_iff place).2 (added.kept place was)
  · exact added.added place ((cleared.folder_iff place).1 folder)

/-- A replacement is all or nothing, whatever fails on the way.  What was prepared is removed as the tree
says: nothing else keeps a file from being removed. -/
theorem replaced_or_withdrawn (ending : MayEnd reply (replaceFile path content) old result new) :
    (result = .ok () → Delivered path content old new) ∧
      ∀ e, result = .error e → Withdrawn path old new := by
  rcases replaceFile_mayEnd ending with ⟨rfl, replaced⟩ | ⟨e, rfl, givenUp⟩
  · exact ⟨fun _ => replaced.delivered, fun _ => nofun⟩
  · exact ⟨nofun, fun _ _ => givenUp.withdrawn⟩

/-- A store with a file and a folder, and with files where new content for each would be prepared. -/
def littered : Store :=
  ⟨[(["a"], .file "old".toUTF8), (["a.tmp"], .file "torn".toUTF8), (["b"], .folder),
    (["b.tmp"], .file "torn".toUTF8)]⟩

/-- The file is replaced, though its path leads through a folder that is not there yet, and the folder is
not. -/
theorem replaced_or_withdrawn_littered :
    (((replaceFile (.ofString "new/../a") "new").run .refused littered).value = .ok () ∧
      Delivered (.ofString "new/../a") "new" littered
        ((replaceFile (.ofString "new/../a") "new").run .refused littered).store) ∧
    ((replaceFile (.ofString "b") "new").run .refused littered).value = .error .isAFolder ∧
      Withdrawn (.ofString "b") littered
        ((replaceFile (.ofString "b") "new").run .refused littered).store := by
  have done : ((replaceFile (.ofString "new/../a") "new").run .refused littered).value = .ok () := by
    decide +kernel
  have failed : ((replaceFile (.ofString "b") "new").run .refused littered).value =
      .error .isAFolder := by
    decide +kernel
  refine ⟨⟨done, ?_⟩, failed, ?_⟩
  · exact (replaced_or_withdrawn (mayEnd_run _ .refused littered)).1 done
  · exact (replaced_or_withdrawn (mayEnd_run _ .refused littered)).2 _ failed

/-- A path that leads through its own place for staging: nothing was there, and the folder that is made
there stays when the replacement fails. -/
theorem staging_made_folder :
    ((replaceFile (.ofString "x.tmp/../x") "new").run .refused Store.empty).value = .error .isAFolder ∧
      Store.empty.entry? (Path.ofString "x.tmp/../x").staging.place = none ∧
      ((replaceFile (.ofString "x.tmp/../x") "new").run .refused Store.empty).store.entry?
        (Path.ofString "x.tmp/../x").staging.place = some .folder := by
  decide +kernel

end RpcStubs
