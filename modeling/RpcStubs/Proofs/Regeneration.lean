import RpcStubs.Proofs.AllOrNothing
import RpcStubs.Proofs.FailedRuns
import RpcStubs.Proofs.Store.Repeated

/-! # Generating again

A run that is repeated leaves everything as the first one left it.  What the first run leaves is all that
the second one asks for: the folder above the output is there, the place for staging is free, and the
output is no folder.  So the same content is prepared and moved over itself, and even the list of entries
stays the same.

Where the place for staging is a link this is not so (`Module.regenerated_otherwise`): the first run leaves
the link in the output's place.
-/

namespace RpcStubs

open Script

variable {path : Path} {content : String} {reply later : Reply} {old new store : Store}

/-! ## Folders -/

/-- Once a folder was made there is one, however that came about. -/
theorem isFolder_of_ensureFolder {folder : Path} {above : List Path}
    (making : MayEnd reply (ensureFolder (folder :: above)) old (.ok ()) new) :
    new.isFolder folder = true := by
  -- a failed attempt counts only if there is a folder
  have looked {e : FileError} {there : Store} (looking : MayEnd (α := Except FileError Unit) reply
      (folder? folder >>= fun found => if found then pure (.ok ()) else pure (.error e)) there (.ok ())
      new) : new.isFolder folder = true := by
    obtain ⟨found, there, ⟨looked, rfl⟩, ending⟩ := mayEnd_bind.1 looking
    cases found with
    | false => cases ending.1
    | true =>
      rw [ending.2]
      exact looked.symm
  obtain ⟨made, mid, ⟨_, _, attempt, rfl, rfl⟩, ending⟩ := mayEnd_bind.1 making
  cases made with
  | ok _ =>
    rw [ending.2]
    exact Store.isFolder_of_makeFolder attempt.eq_ok
  | error e =>
    cases e with
    | notFound =>
      obtain ⟨ready, left, -, ending⟩ := mayEnd_bind.1 ending
      cases ready with
      | error e => cases ending.1
      | ok _ =>
        obtain ⟨made, mid, ⟨_, _, attempt, rfl, rfl⟩, ending⟩ := mayEnd_bind.1 ending
        cases made with
        | ok _ =>
          rw [ending.2]
          exact Store.isFolder_of_makeFolder attempt.eq_ok
        | error e => exact looked ending
    | _ => exact looked ending

/-- Where the folder is there, nothing is made. -/
theorem ends_ensureFolder_of_isFolder {folder : Path} {above : List Path}
    (there : store.isFolder folder = true) :
    Ends reply (ensureFolder (folder :: above)) store (.ok ()) store "" := by
  have making : Ends reply (make folder) store (.error .alreadyExists) store "" :=
    .make_error reply (Store.makeFolder_of_isFolder there)
  have looking := Ends.look reply folder store
  rw [show Files.isFolder store folder = true from there] at looking
  exact making.bind_silent (looking.bind_silent (.done reply _ store))

/-- The folder above a path is made once. -/
theorem ends_ensureParent_again (making : MayEnd reply (ensureParent path) old (.ok ()) new)
    (kept : ∀ place, new.entry? place = some .folder → store.entry? place = some .folder) :
    Ends later (ensureParent path) store (.ok ()) store "" := by
  unfold ensureParent at making ⊢
  cases chain : path.above.reverse with
  | nil => exact .done later _ store
  | cons folder above =>
    rw [chain] at making
    have there := isFolder_of_ensureFolder making
    exact ends_ensureFolder_of_isFolder (Store.isFolder_of_folders_kept there kept)

/-! ## Files -/

/-- A replacement that is repeated succeeds and changes nothing. -/
theorem ends_replaceFile_again (ending : MayEnd reply (replaceFile path content) old (.ok ()) new) :
    Ends later (replaceFile path content) new (.ok ()) new "" := by
  cases replacing_of_mayEnd ending with
  | @done ready prepared _ making written renamed =>
    obtain ⟨inside, -, insideTo, -, -⟩ := eq_of_moved written renamed
    have entries := entry?_of_moved written renamed
    have kept (place : Place) := (folder_iff_of_moved written renamed place).2
    have there : new.entry? path.place = some (.file content.toUTF8) := by rw [entries, if_pos rfl]
    have free : new.entry? path.staging.place = none := by
      rw [entries, if_neg path.staging_place_ne, if_pos rfl]
    -- the content is prepared again where nothing is
    have writing := Store.writeFile_of_folders_kept written kept (by rw [free]; nofun) content.toUTF8
    generalize again : new.put path.staging.place (.file content.toUTF8) = prepared' at writing
    have entries' (place : Place) : prepared'.entry? place =
        if place = path.staging.place then some (.file content.toUTF8) else new.entry? place := by
      rw [← again, Store.entry?_put new _ inside]
    -- and it is moved over the same content
    have moving : prepared'.renameFile path.staging path = .ok new := by
      have moved : (prepared'.erase path.staging.place).put path.place (.file content.toUTF8) = new := by
        rw [← again, Store.erase_put, Store.erase_eq_self free, Store.put_eq_self insideTo there]
      rw [Store.renameFile_of_folders_kept renamed ?_ ?_ ?_ path.staging_place_ne, moved]
      · intro place folder
        have was := (Store.confined_writeFile written).folderOld place List.not_mem_nil folder
        exact (Store.confined_writeFile writing).folderKept place (kept place was)
      · rw [entries', if_pos rfl]
      · rw [entries', if_neg path.staging_place_ne.symm, there]
        nofun
    refine (ends_ensureParent_again making kept).bind_silent ?_
    refine (Ends.write_ok later writing).bind_silent ?_
    refine (Ends.rename_ok later moving).bind_silent ?_
    exact (Ends.log later _ _ _ new).bind_silent (.done later _ new)

/-! ## Runs -/

namespace Module

variable {settings : Settings} {order : Order} {report : Report} {loaded : Store}
  {result : Except Failure Schema.Document} {printed : String}

/-- The path of the saved copy that a run opens. -/
def openedPath (settings : Settings) (order : Order) : Path :=
  Path.ofString (order.location.getD settings.schemaPath)

/-- What is loaded from a saved copy depends on its bytes alone. -/
theorem ends_loading_of_same_bytes (reply later : Reply) (opened : order.mode = .opened)
    (sameBytes : new.readFile (openedPath settings order) = old.readFile (openedPath settings order)) :
    ∃ result, Ends reply (loading settings order) old result old "" ∧
      Ends later (loading settings order) new result new "" := by
  unfold loading
  rw [opened]
  refine ⟨_, Source.ends_load_saved _ reply old, ?_⟩
  have same : Source.savedValue (order.location.getD settings.schemaPath) new =
      Source.savedValue (order.location.getD settings.schemaPath) old := by
    unfold Source.savedValue
    rw [show Files.readFile new (Path.ofString _) = _ from sameBytes]
    rfl
  rw [← same]
  exact Source.ends_load_saved _ later new

/-- A run that comes to a report and does not print has prepared a module and put it at its output. -/
theorem exists_replacing_of_run (loads : Ends reply (loading settings order) old result loaded "")
    (done : Ends reply (run settings order.real) old (.ok report) new printed) :
    ∃ parts, prepared settings result = .ok parts ∧
      Ends reply (replaceFile order.output parts.text) loaded (.ok ()) new "" ∧
      report = ⟨parts.functions.length, order.outputPath, false⟩ := by
  obtain ⟨value, left, -⟩ := done.eqs
  cases ready : prepared settings result with
  | error e =>
    have loads : Ends reply (loading settings order.real) old result loaded "" := loads
    obtain ⟨_, ends, -⟩ := ends_run_error loads ready
    cases ends.eqs.1.symm.trans value
  | ok parts =>
    obtain ⟨replaced, final, replacing⟩ :=
      exists_ends_replaceFile order.output parts.text reply loaded
    obtain ⟨realValue, realLeft, -⟩ := (ends_real_run loads ready replacing).eqs
    cases replaced with
    | error e => cases realValue.symm.trans value
    | ok _ =>
      obtain rfl : final = new := realLeft.symm.trans left
      cases realValue.symm.trans value
      exact ⟨parts, rfl, replacing, rfl⟩

/-- In a store, a run that opens a saved copy and writes can be repeated as long as the copy stays the
same: it comes to the same report, and nothing changes any more. -/
theorem ends_run_again (later : Reply) (opened : order.mode = .opened) (real : order.dryRun = false)
    (done : Ends reply (run settings order) old (.ok report) new printed)
    (sameBytes : new.readFile (openedPath settings order) = old.readFile (openedPath settings order)) :
    Ends later (run settings order) new (.ok report) new "" ∧
      new.entry? order.output.staging.place = none := by
  have same : order.real = order := by rw [Order.real, ← real]
  rw [← same] at done
  obtain ⟨result, loads, loadsAgain⟩ :=
    ends_loading_of_same_bytes reply later opened sameBytes
  obtain ⟨parts, ready, replacing, rfl⟩ := exists_replacing_of_run loads done
  constructor
  · rw [← same]
    exact ends_real_run loadsAgain ready (ends_replaceFile_again replacing.mayEnd)
  · rcases replaceFile_mayEnd replacing.mayEnd with ⟨-, replaced⟩ | ⟨e, failed, -⟩
    · exact replaced.delivered.nothingStaged
    · cases failed

theorem openedPath_mem_usedPaths (opened : order.mode = .opened) :
    openedPath settings order ∈ usedPaths settings order := by
  unfold usedPaths loadedPaths
  rw [opened]
  exact List.mem_cons_of_mem _ (List.mem_cons_of_mem _ (List.mem_singleton.2 rfl))

/-- A run that opens a saved copy and writes can be repeated as long as the copy stays the same, if no link
lies on the way of the copy, of the output or of the place where that is prepared: it comes to the same
report, everything is afterwards as it was, and nothing is left where the output was prepared.  Both runs
are on a disk that does not fail, where an action fails only for what is in the tree. -/
theorem regeneration_idempotent {tree left : LinkedStore}
    (clear : ∀ path ∈ usedPaths settings order, tree.Clear path)
    (opened : order.mode = .opened) (real : order.dryRun = false)
    (done : Ends reply (run settings order) tree (.ok report) left printed)
    (sameBytes : left.readFile (openedPath settings order) =
      tree.readFile (openedPath settings order)) :
    ∃ again, Ends later (run settings order) left (.ok report) again "" ∧
      (∀ place, again.node? place = left.node? place) ∧
      left.node? order.output.staging.place = none := by
  have simulation := LinkedStore.simulation tree
  have copyClear := clear _ (openedPath_mem_usedPaths opened)
  have staged := clear order.output.staging (by simp [usedPaths])
  -- the first run leaves in the tree what it leaves in the store without the links
  obtain ⟨_, donePlain, links, rfl⟩ := simulation.exists_ends (uses_run clear) (.of_tree tree) done
  have sameBytesPlain : left.plain.readFile (openedPath settings order) =
      tree.plain.readFile (openedPath settings order) := by
    rw [← LinkedStore.readFile_eq copyClear, ← sameBytes]
    exact (LinkedStore.readFile_eq (copyClear.of_sameLinks links)).symm
  obtain ⟨againPlain, free⟩ := ends_run_again later opened real donePlain sameBytesPlain
  -- and so does the second
  obtain ⟨again, doneAgain, linksAgain, plainAgain⟩ :=
    simulation.exists_ends_of_other (uses_run clear) ⟨links, rfl⟩ againPlain
  refine ⟨again, doneAgain, LinkedStore.node?_eq_of_plain_eq (links.symm.trans linksAgain) plainAgain, ?_⟩
  have noLink := (links.linkAt_eq _).trans (staged _ order.output.staging.place_mem_way)
  rw [LinkedStore.node?_eq noLink, free]
  rfl

/-! ## A module that is written twice -/

/-- An order to open a copy and to write a module into a folder. -/
def regenerate : Order :=
  ⟨.opened, some "s.json", "gen/./api.py", false⟩

/-- A tree with a copy and a link in it, and neither the folder nor the module. -/
def ungenerated : LinkedStore :=
  ⟨[(["s.json"],
      .entry (.file "[[[\"sui_getItem\",null,[[\"item\"]],[\"Item\"]]]]".toUTF8)),
    (["latest.py"], .link ⟨.ofString "gen/api.py", by decide +kernel⟩)]⟩

theorem regenerated : ∃ first printed again,
    Ends .refused (run .default regenerate) ungenerated (.ok ⟨1, "gen/./api.py", false⟩) first
      printed ∧
    first.readFile (openedPath .default regenerate) =
      ungenerated.readFile (openedPath .default regenerate) ∧
    Ends .refused (run .default regenerate) first (.ok ⟨1, "gen/./api.py", false⟩) again "" ∧
    ∀ place, again.node? place = first.node? place := by
  have done := Ends.of_run (run .default regenerate) .refused ungenerated
  have reported : ((run .default regenerate).run .refused ungenerated).value =
      .ok ⟨1, "gen/./api.py", false⟩ := eq_ok_of_toOption (by decide +kernel)
  have sameBytes : ((run .default regenerate).run .refused ungenerated).store.readFile
      (openedPath .default regenerate) =
        ungenerated.readFile (openedPath .default regenerate) := by
    decide +kernel
  rw [reported] at done
  obtain ⟨again, doneAgain, same, -⟩ :=
    regeneration_idempotent (by decide +kernel) rfl rfl done sameBytes
  exact ⟨_, _, again, done, sameBytes, doneAgain, same⟩

/-- What a run comes to where the module is prepared at a link to its place. -/
def linkedOver : Outcome (Except Failure Report) LinkedStore :=
  (run .default openAndWrite).run .refused (withLink "api.py.tmp")

/-- The same run once more. -/
def linkedOverAgain : Outcome (Except Failure Report) LinkedStore :=
  (run .default openAndWrite).run .refused linkedOver.store

/-- The first run moves the link over the module, and the second one puts the module in place of the
link. -/
theorem regenerated_otherwise :
    linkedOver.value.toOption = some ⟨0, "api.py", false⟩ ∧
      linkedOverAgain.value.toOption = some ⟨0, "api.py", false⟩ ∧
      linkedOver.store.readFile (openedPath .default openAndWrite) =
        (withLink "api.py.tmp").readFile (openedPath .default openAndWrite) ∧
      linkedOverAgain.store.node? ["api.py"] ≠ linkedOver.store.node? ["api.py"] := by
  decide +kernel

end Module

end RpcStubs
