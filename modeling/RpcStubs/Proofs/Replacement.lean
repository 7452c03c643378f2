import RpcStubs.Store.Replace
import RpcStubs.Proofs.Carrying

/-! # Replacing a file

What `replaceFile` leaves behind: when it succeeds the path leads to the new content, and when it fails
nothing has changed but what lies at the place for staging and the folders on the way.  That is so
whenever it fails, on a disk that may fail at any time (`replaceFile_mayEnd`): what was prepared till
then is removed.

The content gets to its path by a rename, which does not ask where a path leads but where its last name
would be.  That reading the path afterwards leads to the same place is `Store.Reached.resolve_eq`.
-/

namespace RpcStubs

open Script

variable {path : Path} {content : String} {reply : Reply} {store : Store}

/-! ## Where it acts -/

namespace Script.ActsAt

variable {files folders : List Place}

theorem ensureFolder {chain : List Path} (among : ∀ folder ∈ chain, folder.place ∈ folders) :
    ActsAt files folders (ensureFolder chain) := by
  induction chain with
  | nil => exact .done _ _ _
  | cons folder above inductionHypothesis =>
    obtain ⟨here, others⟩ := List.forall_mem_cons.1 among
    have making : ActsAt files folders (Script.make folder) := ⟨here, fun _ => .done _ _ _⟩
    have look (e : FileError) : ActsAt (α := Except FileError Unit) files folders
        (Script.folder? folder >>= fun there => if there then pure (.ok ()) else pure (.error e)) := by
      refine .bind (fun _ => .done _ _ _) fun there => ?_
      cases there <;> exact .done _ _ _
    refine .bind making fun made => ?_
    cases made with
    | ok _ => exact .done _ _ _
    | error e =>
      cases e with
      | notFound =>
        refine .bind (inductionHypothesis others) fun ready => ?_
        cases ready with
        | error e => exact .done _ _ _
        | ok _ =>
          refine .bind making fun made => ?_
          cases made with
          | ok _ => exact .done _ _ _
          | error e => exact look e
      | _ => exact look _

theorem ensureParent (path : Path) :
    ActsAt files (path.above.map Path.place) (ensureParent path) := by
  apply ensureFolder
  intro folder member
  exact List.mem_map_of_mem (List.mem_reverse.1 member)

theorem discard {prepared : Path} (among : prepared.place ∈ files) :
    ActsAt files folders (discard prepared) := by
  refine .bind (fun _ => .done _ _ _) fun there => ?_
  cases there with
  | false => exact .done _ _ _
  | true =>
    refine .bind ⟨among, fun _ => .done _ _ _⟩ fun removed => ?_
    cases removed with
    | ok _ => exact .done _ _ _
    | error e => exact fun _ => .done _ _ _

theorem replaceFile (path : Path) (content : String) :
    ActsAt [path.staging.place, path.place] (path.above.map Path.place) (replaceFile path content) := by
  have staged : path.staging.place ∈ [path.staging.place, path.place] := by simp
  have moved : path.place ∈ [path.staging.place, path.place] := by simp
  refine .bind (.ensureParent path) fun made => ?_
  cases made with
  | error e => exact .done _ _ _
  | ok _ =>
    refine .bind ⟨staged, fun _ => .done _ _ _⟩ fun written => ?_
    cases written with
    | error e => exact .bind (.discard staged) fun _ => .done _ _ _
    | ok _ =>
      refine .bind ⟨staged, moved, fun _ => .done _ _ _⟩ fun renamed => ?_
      cases renamed with
      | error e => exact .bind (.discard staged) fun _ => .done _ _ _
      | ok _ => exact .bind (fun _ => .done _ _ _) fun _ => .done _ _ _

end Script.ActsAt

/-- To replace a file prints nothing, however it ends. -/
theorem exists_ends_replaceFile {σ : Type} [Files σ] (path : Path) (content : String) (reply : Reply)
    (files : σ) : ∃ result new, Ends reply (replaceFile path content) files result new "" := by
  have ends := Ends.of_run (replaceFile path content) reply files
  rw [(ActsAt.replaceFile path content).printed_eq] at ends
  exact ⟨_, _, ends⟩

/-! ## Giving up -/

/-- Giving up clears the place for staging at most, and it does clear it if something was written. -/
theorem discard_mayEnd {prepared : Path} {old new : Store} {value : Unit}
    (ending : MayEnd reply (discard prepared) old value new) :
    Store.Cleared prepared.place old new ∧ ∀ before, PartWritten before prepared old →
      new = old.erase prepared.place := by
  obtain ⟨present, old, ⟨looked, rfl⟩, ending⟩ := mayEnd_bind.1 ending
  cases present with
  | false =>
    obtain ⟨-, rfl⟩ := ending
    refine ⟨.refl _ new, ?_⟩
    rintro before ⟨content, written⟩
    cases looked.trans (Store.removeFile_of_written written).1
  | true =>
    obtain ⟨_, _, ⟨rfl, rfl⟩, ending⟩ := mayEnd_bind.1 ending
    cases removal : Files.removeFile old prepared with
    | error e =>
      rw [removal] at ending
      obtain ⟨-, rfl⟩ := ending
      refine ⟨.refl _ new, ?_⟩
      rintro before ⟨content, written⟩
      cases removal.symm.trans (Store.removeFile_of_written written).2
    | ok left =>
      rw [removal] at ending
      obtain ⟨-, rfl⟩ := ending
      exact ⟨.removeFile removal, fun _ _ => (Store.removeFile_eq_ok removal).2.2⟩

/-- What was written before giving up has left no trace. -/
theorem cleared_of_discard {prepared : Path} {ready begun new : Store} {value : Unit}
    (writing : begun = ready ∨ PartWritten ready prepared begun)
    (discarding : MayEnd reply (discard prepared) begun value new) :
    Store.Cleared prepared.place ready new := by
  obtain ⟨cleared, erased⟩ := discard_mayEnd discarding
  rcases writing with rfl | ⟨content, written⟩
  · exact cleared
  · obtain ⟨inside, notFolder, same⟩ := Store.writeFile_eq_ok written
    rw [erased ready ⟨content, written⟩, same, Store.erase_put]
    exact .erase inside notFolder

/-! ## Success and failure -/

/-- The ways that a replacement can end: it goes through all of its stages, or it makes folders at most
and clears the place for staging. -/
inductive Replacing (reply : Reply) (path : Path) (content : String) (old : Store) :
    Except FileError Unit → Store → Prop where
  | done {ready prepared new : Store} (making : MayEnd reply (ensureParent path) old (.ok ()) ready)
      (written : ready.writeFile path.staging content.toUTF8 = .ok prepared)
      (renamed : prepared.renameFile path.staging path = .ok new) :
      Replacing reply path content old (.ok ()) new
  | failed {e : FileError} {made : Except FileError Unit} {ready new : Store}
      (making : MayEnd reply (ensureParent path) old made ready)
      (cleared : Store.Cleared path.staging.place ready new) :
      Replacing reply path content old (.error e) new

/-- Whatever fails on the way, a replacement ends in one of these ways. -/
theorem replacing_of_mayEnd {old new : Store} {result : Except FileError Unit}
    (ending : MayEnd reply (replaceFile path content) old result new) :
    Replacing reply path content old result new := by
  obtain ⟨made, ready, making, ending⟩ := mayEnd_bind.1 ending
  cases made with
  | error e =>
    obtain ⟨rfl, rfl⟩ := ending
    exact .failed making (.refl _ new)
  | ok _ =>
    obtain ⟨written, prepared, ⟨_, _, writing, rfl, rfl⟩, ending⟩ := mayEnd_bind.1 ending
    cases written with
    | error e =>
      obtain ⟨_, left, discarding, rfl, rfl⟩ := mayEnd_bind.1 ending
      exact .failed making (cleared_of_discard writing.of_error discarding)
    | ok _ =>
      obtain ⟨renamed, moved, ⟨_, _, moving, rfl, rfl⟩, ending⟩ := mayEnd_bind.1 ending
      cases renamed with
      | error e =>
        obtain ⟨_, left, discarding, rfl, rfl⟩ := mayEnd_bind.1 ending
        rcases moving.of_error with rfl | none
        · exact .failed making (cleared_of_discard (.inr ⟨_, writing.eq_ok⟩) discarding)
        · exact none.elim
      | ok _ =>
        obtain ⟨rfl, rfl⟩ := ending
        exact .done making writing.eq_ok moving.eq_ok

theorem ensureParent_confined {old new : Store} {made : Except FileError Unit}
    (making : MayEnd reply (ensureParent path) old made new) :
    Store.Confined [] (path.above.map Path.place) old new :=
  (ActsAt.ensureParent path).confined making

/-- The stages of a replacement that succeeds: folders are made, content is prepared and then moved. -/
inductive Replaced (path : Path) (content : String) (old new : Store) : Prop where
  | stages {ready prepared : Store} (folders : Store.Confined [] (path.above.map Path.place) old ready)
      (written : ready.writeFile path.staging content.toUTF8 = .ok prepared)
      (renamed : prepared.renameFile path.staging path = .ok new)

/-- What a replacement that fails leaves: folders on the way, and then nothing else but that the place
for staging may be cleared. -/
inductive GivenUp (path : Path) (old new : Store) : Prop where
  | stages {ready : Store} (folders : Store.Confined [] (path.above.map Path.place) old ready)
      (cleared : Store.Cleared path.staging.place ready new)

/-- What any number of replacements that fail leave: files as they were but for the place for staging,
none of them new, and folders on the way. -/
structure Unreplaced (path : Path) (old new : Store) : Prop where
  bound : Store.Confined [path.staging.place] (path.above.map Path.place) old new
  noneAdded : Store.NoFileAdded old new

namespace Unreplaced

variable {old mid new : Store}

theorem refl (path : Path) (store : Store) : Unreplaced path store store :=
  ⟨.refl _ _ store, .refl store⟩

theorem trans (first : Unreplaced path old mid) (second : Unreplaced path mid new) :
    Unreplaced path old new :=
  ⟨first.bound.trans second.bound, first.noneAdded.trans second.noneAdded⟩

end Unreplaced

namespace GivenUp

variable {old new : Store} {place : Place} {file : ByteArray}

/-- No file is new or has another content. -/
theorem file_old (givenUp : GivenUp path old new) (there : new.entry? place = some (.file file)) :
    old.entry? place = some (.file file) := by
  obtain ⟨folders, cleared⟩ := givenUp
  exact folders.fileOld place file List.not_mem_nil (cleared.file_old there)

theorem bound (givenUp : GivenUp path old new) :
    Store.Confined [path.staging.place] (path.above.map Path.place) old new := by
  obtain ⟨folders, cleared⟩ := givenUp
  have made := folders.mono (List.nil_subset [path.staging.place]) (List.Subset.refl _)
  exact made.trans (cleared.confined.mono (List.Subset.refl _) (List.nil_subset _))

theorem unreplaced (givenUp : GivenUp path old new) : Unreplaced path old new :=
  ⟨givenUp.bound, fun _ _ file => ⟨_, givenUp.file_old file⟩⟩

end GivenUp

/-- Whatever fails on the way, a replacement goes through all of its stages, or it leaves the path
itself alone. -/
theorem replaceFile_mayEnd {old new : Store} {result : Except FileError Unit}
    (ending : MayEnd reply (replaceFile path content) old result new) :
    (result = .ok () ∧ Replaced path content old new) ∨
      ∃ e, result = .error e ∧ GivenUp path old new := by
  cases replacing_of_mayEnd ending with
  | done making written renamed =>
    exact .inl ⟨rfl, .stages (ensureParent_confined making) written renamed⟩
  | failed making cleared =>
    exact .inr ⟨_, rfl, .stages (ensureParent_confined making) cleared⟩

/-- A replacement goes through all of its stages, or it leaves the path itself alone. -/
theorem replaceFile_outcome (path : Path) (content : String) (reply : Reply) (store : Store) :
    ∃ new,
      (Ends reply (replaceFile path content) store (.ok ()) new "" ∧
        Replaced path content store new) ∨
      ∃ e, Ends reply (replaceFile path content) store (.error e) new "" ∧
        Store.Confined [path.staging.place] (path.above.map Path.place) store new := by
  obtain ⟨result, new, ends⟩ := exists_ends_replaceFile path content reply store
  refine ⟨new, ?_⟩
  rcases replaceFile_mayEnd ends.mayEnd with ⟨done, replaced⟩ | ⟨e, failed, givenUp⟩
  · exact .inl ⟨done ▸ ends, replaced⟩
  · exact .inr ⟨e, failed ▸ ends, givenUp.bound⟩

/-! ## The new content -/

theorem Path.addToLast_concat (ending last : String) (init : List String) :
    addToLast ending (init ++ [last]) = init ++ [last ++ ending] := by
  induction init with
  | nil => rfl
  | cons piece rest inductionHypothesis =>
    cases rest with
    | nil => rfl
    | cons next rest =>
      simp only [List.cons_append, addToLast] at inductionHypothesis ⊢
      rw [inductionHypothesis]

/-- New content is prepared at another place than the path's. -/
theorem Path.staging_place_ne (path : Path) : path.staging.place ≠ path.place := by
  obtain ⟨pieces⟩ := path
  rcases List.eq_nil_or_concat' pieces with rfl | ⟨init, last, rfl⟩
  · decide
  have longer (short : String) (few : short.length < 4) : last ++ ".tmp" ≠ short := by
    intro same
    have length := congrArg String.length same
    rw [String.length_append] at length
    have four : ".tmp".length = 4 := rfl
    omega
  have down (here : Place) : follow here (last ++ ".tmp") = here ++ [last ++ ".tmp"] :=
    follow_name (longer "" (by decide)) (longer "." (by decide)) (longer ".." (by decide))
  simp only [Path.place, Path.staging, Path.addToLast_concat, List.foldl_append, List.foldl_cons,
    List.foldl_nil, down]
  generalize init.foldl follow [] = here
  unfold follow
  split_ifs
  · simp
  · intro same
    have length := congrArg List.length same
    rw [List.length_append, List.length_dropLast, List.length_singleton] at length
    omega
  · simp

section

variable {ready prepared new : Store} {bytes : ByteArray}
  (written : ready.writeFile path.staging bytes = .ok prepared)
  (renamed : prepared.renameFile path.staging path = .ok new)

include written renamed

/-- What is moved to the path is what was prepared, and it leaves nothing behind. -/
theorem eq_of_moved :
    path.staging.place ≠ [] ∧ ready.entry? path.staging.place ≠ some .folder ∧
      path.place ≠ [] ∧ ready.entry? path.place ≠ some .folder ∧
      new = (ready.erase path.staging.place).put path.place (.file bytes) := by
  obtain ⟨inside, notFolder, rfl⟩ := Store.writeFile_eq_ok written
  obtain ⟨-, insideTo, moved, isFile, notFolderTo, step, -⟩ := Store.renameFile_eq_ok renamed
  rw [Store.entry?_put _ _ inside, if_pos rfl] at isFile
  cases isFile
  rw [Store.entry?_put _ _ inside, if_neg path.staging_place_ne.symm] at notFolderTo
  rcases step with ⟨same, -⟩ | ⟨-, rfl⟩
  · exact absurd same path.staging_place_ne
  · rw [Store.erase_put]
    exact ⟨inside, notFolder, insideTo, notFolderTo, rfl⟩

theorem entry?_of_moved (place : Place) : new.entry? place =
    if place = path.place then some (.file bytes)
    else if place = path.staging.place then none
    else ready.entry? place := by
  obtain ⟨inside, -, insideTo, -, rfl⟩ := eq_of_moved written renamed
  rw [Store.entry?_put _ _ insideTo, Store.entry?_erase _ inside]

theorem folder_iff_of_moved (place : Place) :
    new.entry? place = some .folder ↔ ready.entry? place = some .folder := by
  obtain ⟨-, notFolder, -, notFolderTo, -⟩ := eq_of_moved written renamed
  rw [entry?_of_moved written renamed]
  split_ifs with there staged
  · rw [there]
    simp [notFolderTo]
  · rw [staged]
    simp [notFolder]
  · rfl

end

namespace Replaced

variable {new : Store}

theorem confined (replaced : Replaced path content store new) :
    Store.Confined [path.staging.place, path.place] (path.above.map Path.place) store new := by
  obtain ⟨folders, written, renamed⟩ := replaced
  have prepared := (Store.confined_writeFile written).mono
    (by simp : [path.staging.place] ⊆ [path.staging.place, path.place])
    (List.nil_subset (path.above.map Path.place))
  have moved := (Store.confined_renameFile renamed).mono (List.Subset.refl _)
    (List.nil_subset (path.above.map Path.place))
  exact ((folders.mono (List.nil_subset _) (List.Subset.refl _)).trans prepared).trans moved

/-- What a replacement leaves, told from what was there once the folders were made. -/
theorem exists_ready (replaced : Replaced path content store new) :
    ∃ ready, Store.Confined [] (path.above.map Path.place) store ready ∧
      (∀ place, new.entry? place =
        if place = path.place then some (.file content.toUTF8)
        else if place = path.staging.place then none
        else ready.entry? place) ∧
      ∀ place, new.entry? place = some .folder ↔ ready.entry? place = some .folder := by
  obtain ⟨folders, written, renamed⟩ := replaced
  exact ⟨_, folders, entry?_of_moved written renamed, folder_iff_of_moved written renamed⟩

theorem entry?_eq (replaced : Replaced path content store new) :
    new.entry? path.place = some (.file content.toUTF8) := by
  obtain ⟨ready, -, entries, -⟩ := replaced.exists_ready
  rw [entries, if_pos rfl]

/-- After a replacement the path leads to the new content. -/
theorem readFile_eq (replaced : Replaced path content store new) :
    new.readFile path = .ok content.toUTF8 := by
  have there := replaced.entry?_eq
  obtain ⟨-, -, renamed⟩ := replaced
  obtain ⟨-, -, -, -, -, -, target, reached, noSlash⟩ := Store.renameFile_eq_ok renamed
  have resolved := reached.resolve_eq noSlash (Store.confined_renameFile renamed).folderKept
    (by rw [there]; rfl)
  exact Store.readFile_eq_ok_iff.2 ⟨_, resolved, there⟩

end Replaced

end RpcStubs
