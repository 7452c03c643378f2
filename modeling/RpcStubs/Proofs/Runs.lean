import RpcStubs.Generation
import RpcStubs.Proofs.Generated
import RpcStubs.Proofs.Loading
import RpcStubs.Proofs.UsedPaths

/-! # Runs

A run loads a document, prepares the module and delivers it.  Up to the delivery it does not matter
whether the module is to be printed or written, so two runs that differ in that alone fail together
until then, whatever the files are kept in (`Module.previews`).  That what is printed is what is written
takes more: a module that was prepared at a link is lost (`Module.written_over_by_link`).

The document is what the run has loaded and not what the store has afterwards, so this holds as well
when the module is written over the saved copy, or prepared where the copy was.
-/

namespace RpcStubs

open Script

/-- The order that prints what this one is about. -/
def Order.dry (order : Order) : Order :=
  { order with dryRun := true }

/-- The order that writes what this one is about. -/
def Order.real (order : Order) : Order :=
  { order with dryRun := false }

namespace Module

variable {σ : Type} [Files σ] {files mid : σ} {settings : Settings} {order : Order} {reply : Reply}
  {store loaded : Store} {result : Except Failure Schema.Document} {failure : Failure} {parts : Module}

/-! ## Loading and preparing -/

/-- The load of a run. -/
def loading (settings : Settings) (order : Order) : Script (Except Failure Schema.Document) :=
  (Source.resolve order.mode order.location settings).load

/-- The place where the copy of a fetched document is prepared, and that of the copy. -/
def copyPlaces (settings : Settings) : List Place :=
  [(Path.ofString settings.schemaPath).staging.place, (Path.ofString settings.schemaPath).place]

/-- The places of the folders that are made for the copy of a fetched document. -/
def copyFolders (settings : Settings) : List Place :=
  (Path.ofString settings.schemaPath).above.map Path.place

theorem ends_loading (settings : Settings) (order : Order) (reply : Reply) (store : Store) :
    ∃ result loaded, Ends reply (loading settings order) store result loaded "" ∧
      (order.mode = .opened → loaded = store) ∧
      Store.Confined (copyPlaces settings) (copyFolders settings) store loaded := by
  unfold loading
  cases mode : order.mode with
  | opened =>
    exact ⟨_, store, Source.ends_load_saved _ reply store, fun _ => rfl, .refl _ _ store⟩
  | fetch =>
    obtain ⟨result, loaded, loads, fetched⟩ :=
      Source.fetched_load (order.location.getD settings.schemaUrl) settings.schemaPath reply store
    exact ⟨result, loaded, loads, nofun, fetched.confined⟩

/-- A load comes to an end and prints nothing, whatever the files are kept in. -/
theorem exists_ends_loading (settings : Settings) (order : Order) (reply : Reply) (files : σ) :
    ∃ result mid, Ends reply (loading settings order) files result mid "" ∧
      (order.mode = .opened → mid = files) := by
  obtain ⟨result, mid, loads, same⟩ :=
    Source.exists_ends_load (Source.resolve order.mode order.location settings) reply files
  refine ⟨result, mid, loads, fun opened => same ?_⟩
  rw [opened]
  exact ⟨_, rfl⟩

/-- The module of what was loaded, or the first failure on the way to it. -/
def prepared (settings : Settings) (result : Except Failure Schema.Document) :
    Except Failure Module :=
  settings.check >>= fun _ => result >>= ofDocument settings

/-- A module that was prepared is the one that generation gives, with a function for each method. -/
theorem generate_of_prepared {document : Schema.Document}
    (ready : prepared settings (.ok document) = .ok parts) :
    generate settings document = .ok parts.text ∧
      parts.functions.length = document.methods.length := by
  obtain ⟨_, checked, rest⟩ := bind_eq_ok_iff.1 ready
  obtain ⟨document, ⟨⟩, built⟩ := bind_eq_ok_iff.1 rest
  obtain ⟨stubs, passed, made⟩ := bind_eq_ok_iff.1 built
  simp only [pure, Except.pure, Except.ok.injEq] at made
  subst made
  refine ⟨generate_eq_ok_iff.2 ⟨checked, stubs, passed, rfl⟩, ?_⟩
  have lengths := (mapM_eq_ok_iff.1 (stubs_eq_ok_iff.1 passed).1).length_eq
  simp [lengths]

/-! ## Delivering -/

/-- A run that has no module to deliver fails as the preparation does, and leaves what was loaded, or
everything as it was. -/
theorem ends_run_error (loads : Ends reply (loading settings order) files result mid "")
    (failed : prepared settings result = .error failure) :
    ∃ new, Ends reply (run settings order) files (.error failure) new "" ∧
      (new = files ∨ new = mid) := by
  unfold run
  unfold prepared at failed
  cases checked : settings.check with
  | error e =>
    rw [checked] at failed
    cases failed
    exact ⟨files, .done reply _ files, .inl rfl⟩
  | ok _ =>
    rw [checked] at failed
    refine ⟨mid, loads.bind_silent ?_, .inr rfl⟩
    cases result with
    | error e =>
      cases failed
      exact .done reply _ mid
    | ok document =>
      have unfit : ofDocument settings document = .error failure := failed
      dsimp only
      rw [unfit]
      exact .done reply _ mid

/-- A run that has a module to deliver goes on from there. -/
theorem ends_run_of_prepared (loads : Ends reply (loading settings order) files result mid "")
    (ready : prepared settings result = .ok parts) {delivered : Except Failure Unit} {new : σ}
    {text : String}
    (delivering : Ends reply
      (if order.dryRun then parts.print else parts.writeAndLog order.outputPath) mid delivered new
      text) :
    Ends reply (run settings order) files
      (delivered.map fun _ => ⟨parts.functions.length, order.outputPath, order.dryRun⟩) new text := by
  obtain ⟨_, checked, ready⟩ := bind_eq_ok_iff.1 ready
  obtain ⟨document, rfl, built⟩ := bind_eq_ok_iff.1 ready
  unfold run
  rw [checked]
  refine loads.silent_bind ?_
  dsimp only
  rw [built]
  dsimp only
  -- the report follows each of the two deliveries, and it follows both in the same way
  cases dry : order.dryRun with
  | false =>
    rw [dry] at delivering
    refine Ends.bind_silent delivering ?_
    cases delivered with
    | error e => exact .done reply _ new
    | ok _ => exact .done reply _ new
  | true =>
    rw [dry] at delivering
    refine Ends.bind_silent delivering ?_
    cases delivered with
    | error e => exact .done reply _ new
    | ok _ => exact .done reply _ new

theorem ends_print (parts : Module) (reply : Reply) (files : σ) :
    Ends reply parts.print files (.ok ()) files parts.text :=
  (Ends.emit reply parts.text files).bind_silent (.done reply _ files)

/-- Writing a module comes to what replacing its file comes to. -/
theorem ends_writeAndLog {path : String} {old new : σ} {replaced : Except FileError Unit}
    (replacing : Ends reply (replaceFile (Path.ofString path) parts.text) old replaced new "") :
    Ends reply (parts.writeAndLog path) old (replaced.mapError (.outputWrite path)) new "" := by
  have writing : Ends reply (parts.write path) old (replaced.mapError (.outputWrite path)) new "" := by
    refine replacing.bind_silent ?_
    cases replaced <;> exact .done reply _ new
  refine writing.bind_silent ?_
  cases replaced with
  | ok _ => exact (Ends.log reply _ _ _ new).bind_silent (.done reply _ new)
  | error e => exact .done reply _ new

/-- A dry run prints the module and leaves what was loaded. -/
theorem ends_dry_run (loads : Ends reply (loading settings order) files result mid "")
    (ready : prepared settings result = .ok parts) :
    Ends reply (run settings order.dry) files
      (.ok ⟨parts.functions.length, order.outputPath, true⟩) mid parts.text := by
  have loads : Ends reply (loading settings order.dry) files result mid "" := loads
  exact ends_run_of_prepared loads ready (ends_print parts reply mid)

/-- A run that writes comes to its report if its output is replaced, and fails for its output if not. -/
theorem ends_real_run (loads : Ends reply (loading settings order) files result mid "")
    (ready : prepared settings result = .ok parts) {replaced : Except FileError Unit} {new : σ}
    (replacing : Ends reply (replaceFile order.output parts.text) mid replaced new "") :
    Ends reply (run settings order.real) files
      ((replaced.mapError (.outputWrite order.outputPath)).map fun _ =>
        ⟨parts.functions.length, order.outputPath, false⟩) new "" := by
  have loads : Ends reply (loading settings order.real) files result mid "" := loads
  exact ends_run_of_prepared loads ready (ends_writeAndLog replacing)

theorem real_run_outcome (loads : Ends reply (loading settings order) store result loaded "")
    (ready : prepared settings result = .ok parts) :
    ∃ new,
      (Ends reply (run settings order.real) store
          (.ok ⟨parts.functions.length, order.outputPath, false⟩) new "" ∧
        Replaced (Path.ofString order.outputPath) parts.text loaded new) ∨
      ∃ e, Ends reply (run settings order.real) store (.error (.outputWrite order.outputPath e)) new
          "" ∧
        Store.Confined [(Path.ofString order.outputPath).staging.place]
          ((Path.ofString order.outputPath).above.map Path.place) loaded new := by
  obtain ⟨new, ⟨replacing, replaced⟩ | ⟨e, failing, bound⟩⟩ :=
    replaceFile_outcome order.output parts.text reply loaded
  · exact ⟨new, .inl ⟨ends_real_run loads ready replacing, replaced⟩⟩
  · exact ⟨new, .inr ⟨e, ends_real_run loads ready failing, bound⟩⟩

/-! ## Previews -/

/-- What a dry run says about the run that writes, under the same settings and from the same files. -/
structure Previews (settings : Settings) (order : Order) (files : σ)
    (loaded : Outcome (Except Failure Schema.Document) σ)
    (dry real : Outcome (Except Failure Report) σ) : Prop where
  /-- A dry run that fails shows how the other fails. -/
  failed : ∀ failure, dry.value = .error failure → real.value = .error failure
  /-- One that succeeds prints what is generated of the document, and does no more than load it. -/
  shown : ∀ report, dry.value = .ok report → ∃ document, loaded.value = .ok document ∧
    generate settings document = .ok dry.printed ∧
    report.methodCount = document.methods.length ∧
    dry.store = loaded.store ∧ (order.mode = .opened → dry.store = files)
  /-- The other succeeds as well then, unless it cannot write. -/
  delivered : ∀ report, dry.value = .ok report →
    (∃ report', real.value = .ok report' ∧ report'.methodCount = report.methodCount) ∨
    ∃ cause, real.value = .error (.outputWrite order.outputPath cause)

omit [Files σ] in
/-- Of a dry run that fails nothing but the failure has to be seen in the other. -/
theorem Previews.of_error {load : Outcome (Except Failure Schema.Document) σ}
    {dry real : Outcome (Except Failure Report) σ} (dryFails : dry.value = .error failure)
    (realFails : real.value = .error failure) : Previews settings order files load dry real where
  failed _ failed := by rw [realFails, ← dryFails, failed]
  shown _ done := by
    rw [dryFails] at done
    cases done
  delivered _ done := by
    rw [dryFails] at done
    cases done

/-- A dry run is a preview, whatever the files are kept in. -/
theorem previews (settings : Settings) (order : Order) (reply : Reply) (files : σ) :
    Previews settings order files ((loading settings order).run reply files)
      ((run settings order.dry).run reply files) ((run settings order.real).run reply files) := by
  obtain ⟨result, mid, loads, sameFiles⟩ := exists_ends_loading settings order reply files
  obtain ⟨loadedValue, loadedFiles, -⟩ := loads.eqs
  -- both runs load and prepare the same, so they part only once there is a module
  cases ready : prepared settings result with
  | error failure =>
    have fails (other : Order) (same : loading settings other = loading settings order) :
        ((run settings other).run reply files).value = .error failure := by
      obtain ⟨_, ends, -⟩ := ends_run_error (same ▸ loads) ready
      exact ends.eqs.1
    exact .of_error (fails order.dry rfl) (fails order.real rfl)
  | ok parts =>
    obtain ⟨dryValue, dryFiles, dryPrinted⟩ := (ends_dry_run loads ready).eqs
    refine ⟨fun failure failed => ?_, fun report done => ?_, fun report done => ?_⟩
    · rw [dryValue] at failed
      cases failed
    · rw [dryValue] at done
      cases done
      obtain ⟨_, -, rest⟩ := bind_eq_ok_iff.1 ready
      obtain ⟨document, rfl, -⟩ := bind_eq_ok_iff.1 rest
      obtain ⟨generated, count⟩ := generate_of_prepared ready
      rw [dryPrinted, dryFiles, loadedFiles]
      exact ⟨document, loadedValue, generated, count, rfl, sameFiles⟩
    · rw [dryValue] at done
      cases done
      obtain ⟨replaced, new, replacing⟩ := exists_ends_replaceFile order.output parts.text reply mid
      have realValue := (ends_real_run loads ready replacing).eqs.1
      cases replaced with
      | ok _ => exact .inl ⟨_, realValue, rfl⟩
      | error e => exact .inr ⟨e, realValue⟩

/-- In a store, what a run has written is what the dry run prints. -/
theorem readFile_of_real_run {report report' : Report}
    (dryDone : ((run settings order.dry).run reply store).value = .ok report)
    (realDone : ((run settings order.real).run reply store).value = .ok report') :
    ((run settings order.real).run reply store).store.readFile order.output =
      .ok ((run settings order.dry).run reply store).printed.toUTF8 := by
  obtain ⟨result, loaded, loads, -⟩ := exists_ends_loading settings order reply store
  cases ready : prepared settings result with
  | error failure =>
    have loads : Ends reply (loading settings order.dry) store result loaded "" := loads
    obtain ⟨_, ends, -⟩ := ends_run_error loads ready
    cases dryDone.symm.trans ends.eqs.1
  | ok parts =>
    rw [(ends_dry_run loads ready).eqs.2.2]
    obtain ⟨new, ⟨ends, replaced⟩ | ⟨e, ends, -⟩⟩ := real_run_outcome loads ready
    · rw [ends.eqs.2.1]
      exact replaced.readFile_eq
    · cases realDone.symm.trans ends.eqs.1

/-- A dry run is a faithful preview: what it prints is what the other run leaves at its output, if no link
lies on the way of the output, of the copy that is loaded or of the places where they are prepared.  All
else that it shows holds wherever links are. -/
theorem dry_run_previews (settings : Settings) (order : Order) (reply : Reply) (tree : LinkedStore) :
    Previews settings order tree ((loading settings order).run reply tree)
        ((run settings order.dry).run reply tree) ((run settings order.real).run reply tree) ∧
      ((∀ path ∈ usedPaths settings order, tree.Clear path) → ∀ report report',
        ((run settings order.dry).run reply tree).value = .ok report →
        ((run settings order.real).run reply tree).value = .ok report' →
        ((run settings order.real).run reply tree).store.readFile (Path.ofString order.outputPath) =
          .ok ((run settings order.dry).run reply tree).printed.toUTF8) := by
  refine ⟨previews settings order reply tree, fun clear report report' dryDone realDone => ?_⟩
  have simulation := LinkedStore.simulation tree
  have dryUses : Uses tree.Clear (run settings order.dry) := uses_run clear
  have realUses : Uses tree.Clear (run settings order.real) := uses_run clear
  have dry := simulation.run dryUses (.of_tree tree) reply
  have real := simulation.run realUses (.of_tree tree) reply
  rw [dry.value] at dryDone
  rw [real.value] at realDone
  rw [dry.printed, ← readFile_of_real_run dryDone realDone]
  exact simulation.readFile (clear _ List.mem_cons_self) real.store

/-! ## A link where the module is prepared -/

/-- An order to open a copy and to write a module. -/
def openAndWrite : Order :=
  ⟨.opened, some "s.json", "api.py", false⟩

/-- A tree with that copy and with a link of this name to the output. -/
def withLink (name : String) : LinkedStore :=
  ⟨[(["s.json"], .entry (.file "\x7b\"methods\":[]\x7d".toUTF8)),
    ([name], .link ⟨.ofString "api.py", by decide +kernel⟩)]⟩

theorem written_beside_link :
    ((run .default openAndWrite.real).run .refused (withLink "latest.py")).value =
        .ok ⟨0, "api.py", false⟩ ∧
      ((run .default openAndWrite.real).run .refused (withLink "latest.py")).store.readFile
          (.ofString "api.py") =
        .ok ((run .default openAndWrite.dry).run .refused (withLink "latest.py")).printed.toUTF8 := by
  have dryDone : ((run .default openAndWrite.dry).run .refused (withLink "latest.py")).value =
      .ok ⟨0, "api.py", true⟩ := eq_ok_of_toOption (by decide +kernel)
  have realDone : ((run .default openAndWrite.real).run .refused (withLink "latest.py")).value =
      .ok ⟨0, "api.py", false⟩ := eq_ok_of_toOption (by decide +kernel)
  refine ⟨realDone, ?_⟩
  exact (dry_run_previews .default openAndWrite .refused (withLink "latest.py")).2 (by decide +kernel)
    _ _ dryDone realDone

/-- The module is written through the link, which is then moved over it and leads to itself: the run
succeeds, and there is no module. -/
theorem written_over_by_link :
    ((run .default openAndWrite.dry).run .refused (withLink "api.py.tmp")).value.toOption =
        some ⟨0, "api.py", true⟩ ∧
      ((run .default openAndWrite.real).run .refused (withLink "api.py.tmp")).value.toOption =
        some ⟨0, "api.py", false⟩ ∧
      ((run .default openAndWrite.real).run .refused (withLink "api.py.tmp")).store.readFile
        (.ofString "api.py") = .error LinkedStore.tooManyLinks := by
  decide +kernel

end Module

end RpcStubs
