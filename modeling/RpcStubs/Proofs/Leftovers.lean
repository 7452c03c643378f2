import RpcStubs.Proofs.Acceptance
import RpcStubs.Proofs.AllOrNothing
import RpcStubs.Proofs.FailedRuns
import RpcStubs.Proofs.Histories

/-! # What failed runs leave behind

A run that fails may have saved the copy of a fetched document, may have cleared the places for staging,
and may have made folders on the way to its copy and its output.  That is all (`Module.Leftovers`), at
whatever stage it fails and whatever the disk does: the bound is kept by each stage and composes, and
`Module.Failing` says which stages come before each kind of failure.
-/

namespace RpcStubs.Module

open Script

variable {settings : Settings} {order : Order} {reply : Reply} {old mid new : Store}
  {result : Except Failure Schema.Document} {failure : Failure} {document : Schema.Document}

/-! ## The bound -/

/-- Where the copy of a fetched document goes. -/
def copyPath (settings : Settings) : Path :=
  Path.ofString settings.schemaPath

/-- The most that a run that fails can have changed. -/
structure Leftovers (settings : Settings) (order : Order) (old new : Store) : Prop where
  /-- Files come, go and change at the output's place for staging and, if a document was to be fetched,
  where its copy is prepared and saved. -/
  files : ∀ place file,
    ¬ (new.entry? place = some (.file file) ↔ old.entry? place = some (.file file)) →
    place = order.output.staging.place ∨
      order.mode = .fetch ∧
        (place = (copyPath settings).place ∨ place = (copyPath settings).staging.place)
  /-- Only the copy can be a file that was not there, at a place for staging or anywhere else. -/
  noneStaged : ∀ place file, new.entry? place = some (.file file) →
    old.entry? place = some (.file file) ∨ order.mode = .fetch ∧ place = (copyPath settings).place
  /-- Folders come where the output's path leads through and, if a document was to be fetched, where
  its copy's path does. -/
  folders : ∀ place, new.entry? place = some .folder →
    old.entry? place = some .folder ∨ order.output.LeadsThrough place ∨
      order.mode = .fetch ∧ (copyPath settings).LeadsThrough place
  foldersKept : ∀ place, old.entry? place = some .folder → new.entry? place = some .folder

namespace Leftovers

theorem refl (settings : Settings) (order : Order) (store : Store) :
    Leftovers settings order store store where
  files _ _ differ := absurd Iff.rfl differ
  noneStaged _ _ := .inl
  folders _ := .inl
  foldersKept _ := id

theorem trans (first : Leftovers settings order old mid) (second : Leftovers settings order mid new) :
    Leftovers settings order old new where
  files place file differ := by
    by_cases same : mid.entry? place = some (.file file) ↔ old.entry? place = some (.file file)
    · exact second.files place file fun later => differ (later.trans same)
    · exact first.files place file same
  noneStaged place file there := by
    rcases second.noneStaged place file there with there | copied
    · exact first.noneStaged place file there
    · exact .inr copied
  folders place there := by
    rcases second.folders place there with there | made
    · exact first.folders place there
    · exact .inr made
  foldersKept place was := second.foldersKept place (first.foldersKept place was)

/-- An output that could not be written, or a copy that could not be saved. -/
theorem of_givenUp {path : Path}
    (among : path = order.output ∨ order.mode = .fetch ∧ path = copyPath settings)
    (givenUp : GivenUp path old new) : Leftovers settings order old new where
  files place file differ := by
    have staged : place = path.staging.place := by
      by_contra unstaged
      exact differ (givenUp.withdrawn.otherFiles place file unstaged)
    rcases among with rfl | ⟨fetch, rfl⟩
    · exact .inl staged
    · exact .inr ⟨fetch, .inr staged⟩
  noneStaged _ _ there := .inl (givenUp.file_old there)
  folders place there := by
    refine (givenUp.withdrawn.folders.added place there).imp id fun made => ?_
    rcases among with rfl | ⟨fetch, rfl⟩
    · exact .inl made.2
    · exact .inr ⟨fetch, made.2⟩
  foldersKept := givenUp.withdrawn.folders.kept

/-- A copy that was saved. -/
theorem of_saved {content : String} (fetch : order.mode = .fetch)
    (replaced : Replaced (copyPath settings) content old new) : Leftovers settings order old new where
  files place file differ := .inr ⟨fetch, by
    by_contra elsewhere
    obtain ⟨apart, unstaged⟩ := not_or.1 elsewhere
    exact differ (replaced.delivered.otherFiles place file apart unstaged)⟩
  noneStaged place file there := by
    by_cases apart : place = (copyPath settings).place
    · exact .inr ⟨fetch, apart⟩
    have unstaged : place ≠ (copyPath settings).staging.place := by
      rintro rfl
      rw [replaced.delivered.nothingStaged] at there
      cases there
    exact .inl ((replaced.delivered.otherFiles place file apart unstaged).1 there)
  folders place there :=
    (replaced.delivered.folders.added place there).imp id fun made => .inr ⟨fetch, made.2⟩
  foldersKept := replaced.delivered.folders.kept

end Leftovers

/-! ## Loading -/

/-- Opening a saved copy changes nothing. -/
theorem loading_opened_mayEnd (opened : order.mode = .opened)
    (loads : MayEnd reply (loading settings order) old result new) : new = old := by
  unfold loading at loads
  rw [opened] at loads
  obtain ⟨value, opening, -⟩ := Source.load_mayEnd loads
  obtain ⟨read, old, ⟨-, rfl⟩, ending⟩ := mayEnd_bind.1 opening
  cases read with
  | error e => exact ending.2
  | ok content => exact ending.2

theorem loading_leftovers (loads : MayEnd reply (loading settings order) old result new) :
    Leftovers settings order old new := by
  cases mode : order.mode with
  | opened =>
    rw [loading_opened_mayEnd mode loads]
    exact .refl settings order old
  | fetch =>
    unfold loading at loads
    rw [mode] at loads
    rcases Source.fetched_mayEnd loads with ⟨fault, -, rfl⟩ | ⟨e, -, givenUp⟩ | ⟨value, -, -, replaced⟩
    · exact .refl settings order new
    · exact .of_givenUp (.inr ⟨mode, rfl⟩) givenUp
    · exact .of_saved mode replaced

/-- The failures that come before anything is saved or written. -/
def Early : Failure → Prop
  | .settings _ => True
  | .schemaUnavailable _ _ => True
  | _ => False

/-- A document that could not be had has left no trace. -/
theorem loading_early (early : Early failure)
    (loads : MayEnd reply (loading settings order) old (.error failure) new) : new = old := by
  cases mode : order.mode with
  | opened => exact loading_opened_mayEnd mode loads
  | fetch =>
    unfold loading at loads
    rw [mode] at loads
    rcases Source.fetched_mayEnd loads with ⟨fault, -, same⟩ | ⟨e, failed, -⟩ | ⟨value, -, failed, -⟩
    · exact same
    · cases failed
      exact early.elim
    · obtain ⟨fault, rfl⟩ := Source.decode_eq_error failed.symm
      exact early.elim

/-- A document that makes no module was had, and the settings were checked before. -/
theorem not_early_of_ofDocument (unfit : ofDocument settings document = .error failure) :
    ¬ Early failure := by
  rcases bind_eq_error_iff.1 unfit with failed | ⟨stubs, -, failed⟩
  swap
  · cases failed
  rcases stubs_eq_error_iff.1 failed with failed | ⟨stubs, -, failed⟩
  · obtain ⟨_, method, _, -, -, ⟨-, rfl⟩ | ⟨-, -, rfl⟩⟩ := mapM_ofMethod_eq_error_iff.1 failed
    · exact id
    · exact id
  · cases Stub.checkAll_eq_error_iff.1 failed with
    | name split accepted fault => exact id
    | listedTwice split accepted wellNamed among same twice => exact id
    | collision split accepted wellNamed among same differ => exact id

/-! ## Failing -/

/-- How a run can fail, stage by stage: the settings are wrong, or no document was loaded, or it does not
make a module, or the module could not be written. -/
inductive Failing (settings : Settings) (order : Order) (reply : Reply) (old : Store) :
    Failure → Store → Prop where
  | unchecked {failure : Failure} (checked : settings.check = .error failure) :
      Failing settings order reply old failure old
  | unloaded {failure : Failure} {new : Store}
      (loads : MayEnd reply (loading settings order) old (.error failure) new) :
      Failing settings order reply old failure new
  | unfit {failure : Failure} {document : Schema.Document} {new : Store}
      (loads : MayEnd reply (loading settings order) old (.ok document) new)
      (unfit : ofDocument settings document = .error failure) :
      Failing settings order reply old failure new
  | unwritten {e : FileError} {document : Schema.Document} {loaded new : Store}
      (loads : MayEnd reply (loading settings order) old (.ok document) loaded)
      (givenUp : GivenUp order.output loaded new) :
      Failing settings order reply old (.outputWrite order.outputPath e) new

theorem write_mayEnd_error {parts : Module} {path : String}
    (ending : MayEnd reply (parts.writeAndLog path) old (.error failure) new) :
    ∃ e, failure = .outputWrite path e ∧ GivenUp (Path.ofString path) old new := by
  obtain ⟨written, left, writing, ending⟩ := mayEnd_bind.1 ending
  cases written with
  | ok _ =>
    obtain ⟨_, _, -, failed, -⟩ := mayEnd_bind.1 ending
    cases failed
  | error failed =>
    obtain ⟨⟨⟩, rfl⟩ := ending
    obtain ⟨replaced, left, replacing, ending⟩ := mayEnd_bind.1 writing
    rcases replaceFile_mayEnd replacing with ⟨rfl, -⟩ | ⟨e, rfl, givenUp⟩
    · cases ending.1
    · obtain ⟨⟨⟩, rfl⟩ := ending
      exact ⟨e, rfl, givenUp⟩

theorem failing_of_mayEnd (ending : MayEnd reply (run settings order) old (.error failure) new) :
    Failing settings order reply old failure new := by
  unfold run at ending
  cases checked : settings.check with
  | error e =>
    rw [checked] at ending
    obtain ⟨⟨⟩, rfl⟩ := ending
    exact .unchecked checked
  | ok _ =>
    rw [checked] at ending
    obtain ⟨result, loaded, loads, ending⟩ := mayEnd_bind.1 ending
    cases result with
    | error e =>
      obtain ⟨⟨⟩, rfl⟩ := ending
      exact .unloaded loads
    | ok document =>
      dsimp only at ending
      cases built : ofDocument settings document with
      | error e =>
        rw [built] at ending
        obtain ⟨⟨⟩, rfl⟩ := ending
        exact .unfit loads built
      | ok parts =>
        rw [built] at ending
        cases dry : order.dryRun with
        | true =>
          -- a module is printed without fail
          rw [dry] at ending
          obtain ⟨_, _, ⟨rfl, rfl⟩, failed, -⟩ := mayEnd_bind.1 ending
          cases failed
        | false =>
          rw [dry] at ending
          obtain ⟨delivered, left, delivering, ending⟩ := mayEnd_bind.1 ending
          cases delivered with
          | ok _ => cases ending.1
          | error e =>
            obtain ⟨⟨⟩, rfl⟩ := ending
            obtain ⟨e, rfl, givenUp⟩ := write_mayEnd_error delivering
            exact .unwritten loads givenUp

/-- A run that fails changes only what it may: and nothing at all if its settings are wrong or there was
no document, or if it was to open a copy and did not come to write.  What was prepared is removed as the
tree says: nothing else keeps a file from being removed. -/
theorem failed_run_leftovers
    (ending : MayEnd reply (run settings order) old (.error failure) new) :
    Leftovers settings order old new ∧
      (Early failure ∨ order.mode = .opened ∧ (∀ path cause, failure ≠ .outputWrite path cause) →
        new = old) := by
  cases failing_of_mayEnd ending with
  | unchecked checked => exact ⟨.refl settings order old, fun _ => rfl⟩
  | unloaded loads =>
    refine ⟨loading_leftovers loads, ?_⟩
    rintro (early | ⟨opened, -⟩)
    · exact loading_early early loads
    · exact loading_opened_mayEnd opened loads
  | unfit loads unfit =>
    refine ⟨loading_leftovers loads, ?_⟩
    rintro (early | ⟨opened, -⟩)
    · exact absurd early (not_early_of_ofDocument unfit)
    · exact loading_opened_mayEnd opened loads
  | unwritten loads givenUp =>
    refine ⟨(loading_leftovers loads).trans (.of_givenUp (.inl rfl) givenUp), ?_⟩
    rintro (early | ⟨-, unwritten⟩)
    · exact early.elim
    · exact absurd rfl (unwritten _ _)

/-! ## An output that is a folder -/

/-- An order to fetch a document and to write the module where there is a folder. -/
def misplaced : Order :=
  ⟨.fetch, some "http://[::1]/", "gen", false⟩

/-- A store with that folder, and with a file where the module is to be prepared. -/
def withFolder : Store :=
  ⟨[(["gen"], .folder), (["gen.tmp"], .file "torn".toUTF8)]⟩

theorem misplaced_leftovers : ∃ failure,
    ((run .default misplaced).run Source.sampleReply withFolder).value = .error failure ∧
      failure.kind = "OutputWrite" ∧
      Leftovers .default misplaced withFolder
        ((run .default misplaced).run Source.sampleReply withFolder).store := by
  have kind : ((run .default misplaced).run Source.sampleReply withFolder).value.mapError Failure.kind =
      .error "OutputWrite" := by
    decide +kernel
  obtain ⟨failure, failed, kind⟩ := mapError_eq_error_iff.1 kind
  refine ⟨failure, failed, kind, ?_⟩
  have ending := mayEnd_run (run .default misplaced) Source.sampleReply withFolder
  rw [failed] at ending
  exact (failed_run_leftovers ending).1

end RpcStubs.Module
