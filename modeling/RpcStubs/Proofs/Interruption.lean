import RpcStubs.Proofs.Replacement

/-! # Interrupted replacements

A replacement that is cut off never shows a part of a file.  Its actions are looked at in their order, and
each of them may be the last: till the content is moved only the place for staging is written to, and the
move is one action.  That the place for staging is never the place of the path, however the path is
spelled, is `Path.staging_place_ne`.
-/

namespace RpcStubs

open Script

variable {path : Path} {content : String} {reply : Reply} {old cut : Store}

/-- Wherever it is cut off, a replacement has gone through all of its stages, or it has left the path
itself alone. -/
theorem replaceFile_cutOff (cutting : CutOff reply (replaceFile path content) old cut) :
    Store.Confined [path.staging.place] (path.above.map Path.place) old cut ∨
      Replaced path content old cut := by
  have staged : path.staging.place ∈ [path.staging.place] := by simp
  have writes : ActsAt [path.staging.place] (path.above.map Path.place)
      (Script.write path.staging content.toUTF8) := ⟨staged, fun _ => .done _ _ _⟩
  have discards (e : FileError) : ActsAt [path.staging.place] (path.above.map Path.place)
      (discard path.staging >>= fun _ => pure (.error e : Except FileError Unit)) :=
    .bind (.discard staged) fun _ => .done _ _ _
  -- while folders are made
  rcases cutOff_bind.1 cutting with cutting | ⟨made, ready, making, cutting⟩
  · exact .inl ((ActsAt.ensureParent path).confined_cutOff cutting)
  have folders := ensureParent_confined making
  have bound := folders.mono (List.nil_subset [path.staging.place]) (List.Subset.refl _)
  cases made with
  | error e =>
    obtain rfl : cut = ready := cutting
    exact .inl bound
  | ok _ =>
    -- while the content is prepared
    rcases cutOff_bind.1 cutting with cutting | ⟨written, prepared, writing, cutting⟩
    · exact .inl (bound.trans (writes.confined_cutOff cutting))
    have bound := bound.trans (writes.confined writing)
    cases written with
    | error e => exact .inl (bound.trans ((discards e).confined_cutOff cutting))
    | ok _ =>
      obtain ⟨_, _, writing, rfl, rfl⟩ := writing
      -- before it is moved, or once that was tried
      rcases cutting with rfl | ⟨renamed, moved, moving, cutting⟩
      · exact .inl bound
      cases renamed with
      | error e =>
        rcases moving.of_error with rfl | none
        · exact .inl (bound.trans ((discards e).confined_cutOff cutting))
        · exact none.elim
      | ok _ =>
        obtain rfl : cut = moved := cutting
        exact .inr (.stages folders writing.eq_ok moving.eq_ok)

/-- A replacement that is cut off shows no file but as it was before or, at its path, as it is to be,
and none has vanished.  Only at the place for staging can there be anything else. -/
theorem files_whole_when_cutOff (cutting : CutOff reply (replaceFile path content) old cut) :
    (∀ place file, place ≠ path.staging.place → cut.entry? place = some (.file file) →
      old.entry? place = some (.file file) ∨ place = path.place ∧ file = content.toUTF8) ∧
    ∀ place file, place ≠ path.staging.place → old.entry? place = some (.file file) →
      ∃ still, cut.entry? place = some (.file still) := by
  rcases replaceFile_cutOff cutting with bound | replaced
  · have outside {place : Place} (unstaged : place ≠ path.staging.place) :
        place ∉ [path.staging.place] := by simpa using unstaged
    exact ⟨fun place file unstaged there => .inl (bound.fileOld place file (outside unstaged) there),
      fun place file unstaged was => ⟨file, bound.fileKept place file (outside unstaged) was⟩⟩
  · have outside {place : Place} (apart : place ≠ path.place) (unstaged : place ≠ path.staging.place) :
        place ∉ [path.staging.place, path.place] := by simp [apart, unstaged]
    refine ⟨fun place file unstaged there => ?_, fun place file unstaged was => ?_⟩
    · by_cases apart : place = path.place
      · rw [apart, replaced.entry?_eq] at there
        cases there
        exact .inr ⟨apart, rfl⟩
      · exact .inl (replaced.confined.fileOld place file (outside apart unstaged) there)
    · by_cases apart : place = path.place
      · exact ⟨_, apart ▸ replaced.entry?_eq⟩
      · exact ⟨file, replaced.confined.fileKept place file (outside apart unstaged) was⟩

/-! ## A replacement that is cut off while it writes -/

/-- A store with a module in a folder. -/
def settled : Store :=
  ⟨[(["gen"], .folder), (["gen", "api.py"], .file "x = 1
".toUTF8)]⟩

/-- The store when only a beginning of the new module was prepared. -/
def interrupted : Store :=
  ⟨[(["gen"], .folder), (["gen", "api.py"], .file "x = 1
".toUTF8),
    (["gen", "api.py.tmp"], .file "x".toUTF8)]⟩

/-- The module that was there is still there, whole. -/
theorem settled_cutOff :
    CutOff .refused (replaceFile (.ofString "./gen//api.py") "x = 2\n") settled interrupted ∧
      ∃ file, interrupted.entry? ["gen", "api.py"] = some (.file file) ∧
        (settled.entry? ["gen", "api.py"] = some (.file file) ∨
          ["gen", "api.py"] = (Path.ofString "./gen//api.py").place ∧ file = "x = 2\n".toUTF8) := by
  have begun : PartWritten settled (Path.ofString "./gen//api.py").staging interrupted :=
    ⟨"x".toUTF8, rfl⟩
  have parents : MayEnd .refused (ensureParent (.ofString "./gen//api.py")) settled (.ok ()) settled :=
    mayEnd_run _ .refused settled
  have cutting : CutOff .refused (replaceFile (.ofString "./gen//api.py") "x = 2\n") settled
      interrupted :=
    cutOff_bind.2 (.inr ⟨.ok (), settled, parents, .inr (.inl begun)⟩)
  have unstaged : ["gen", "api.py"] ≠ (Path.ofString "./gen//api.py").staging.place := by
    decide +kernel
  obtain ⟨shown, kept⟩ := files_whole_when_cutOff cutting
  obtain ⟨file, there⟩ := kept _ _ unstaged rfl
  exact ⟨cutting, file, there, shown _ _ unstaged there⟩

end RpcStubs
