import RpcStubs.Proofs.Runs
import RpcStubs.Proofs.Store.Held

/-! # Runs that fail

A run changes files at two paths: where it saves the copy of a fetched document, and where it writes the
module.  Only the latter waits for all checks.  So a run that fails leaves its output alone as long as
the copy has nothing to do with the output (`Module.failed_run_keeps_output`), and nothing in the
program sees to that: the two paths are set independently, and where they meet the output is lost.
-/

namespace RpcStubs

open Script

theorem Order.dry_eq {order : Order} (dry : order.dryRun = true) : order.dry = order := by
  cases order
  cases dry
  rfl

theorem Order.real_eq {order : Order} (real : order.dryRun = false) : order.real = order := by
  cases order
  cases real
  rfl

namespace Module

variable {settings : Settings} {order : Order} {reply : Reply} {store : Store}

/-- A run that fails touches its copy and the place for staging its output, but not the output. -/
theorem failed_run_confined
    (failed : ((run settings order).run reply store).value.toOption = none) :
    Store.Confined (copyPlaces settings ++ [order.output.staging.place])
      (copyFolders settings ++ order.output.above.map Path.place) store
      ((run settings order).run reply store).store := by
  obtain ⟨result, loaded, loads, -, copied⟩ := ends_loading settings order reply store
  have copied : Store.Confined (copyPlaces settings ++ [order.output.staging.place])
      (copyFolders settings ++ order.output.above.map Path.place) store loaded :=
    copied.mono (List.subset_append_left _ _) (List.subset_append_left _ _)
  cases ready : prepared settings result with
  | error e =>
    obtain ⟨new, ends, same | same⟩ := ends_run_error loads ready
    · rw [ends.eqs.2.1, same]
      exact .refl _ _ store
    · rw [ends.eqs.2.1, same]
      exact copied
  | ok parts =>
    cases dry : order.dryRun with
    | true =>
      -- a dry run with a module has nothing left to fail at
      have ends := ends_dry_run loads ready
      rw [Order.dry_eq dry] at ends
      rw [ends.eqs.1] at failed
      cases failed
    | false =>
      have outcome := real_run_outcome loads ready
      rw [Order.real_eq dry] at outcome
      obtain ⟨new, ⟨ends, -⟩ | ⟨e, ends, written⟩⟩ := outcome
      · rw [ends.eqs.1] at failed
        cases failed
      · rw [ends.eqs.2.1]
        exact copied.trans <|
          written.mono (List.subset_append_right _ _) (List.subset_append_right _ _)

/-- A run that fails leaves its output as it was, if neither the copy nor a folder on the way to either
lies there, and if no folder that is made opens the way to it. -/
theorem failed_run_keeps_output (grounded : store.Grounded) (passable : store.Passable order.output)
    (copyApart : order.output.place ∉ copyPlaces settings)
    (noFolder : order.output.place ∉ copyFolders settings ++ order.output.above.map Path.place)
    (failed : ((run settings order).run reply store).value.toOption = none) :
    ((run settings order).run reply store).store.held? order.output =
      store.held? order.output := by
  refine Store.held?_eq_of_confined grounded passable (failed_run_confined failed) ?_ noFolder
  intro member
  rcases List.mem_append.1 member with copied | staged
  · exact copyApart copied
  · exact order.output.staging_place_ne (List.mem_singleton.1 staged).symm

/-! ## A fetched document that is no schema -/

/-- An order to fetch a document and to write over the module that is there. -/
def refetch : Order :=
  ⟨.fetch, some "http://[::1]/", "api.py", false⟩

/-- A reply with a document that is no schema. -/
def unfitReply : Reply :=
  .answered 200 "OK" "\x7b\"methods\":5\x7d".toUTF8 true

/-- A store with a module in it. -/
def withModule : Store :=
  ⟨[(["api.py"], .file "x = 1\n".toUTF8)]⟩

/-- With the built-in settings the copy is saved elsewhere, and the module stays. -/
theorem failed_refetch_keeps_module :
    ((run .default refetch).run unfitReply withModule).value.toOption = none ∧
      ((run .default refetch).run unfitReply withModule).store.held? refetch.output =
        some (.file "x = 1\n".toUTF8) := by
  have failed : ((run .default refetch).run unfitReply withModule).value.toOption = none := by
    decide +kernel
  refine ⟨failed, ?_⟩
  rw [failed_run_keeps_output (Store.grounded_of_entries (by decide)) (.inl (by decide))
    (by decide +kernel) (by decide +kernel) failed]
  decide +kernel

/-- Settings that save the copy where the module goes. -/
def overlapping : Settings :=
  { Settings.default with schemaPath := "api.py" }

/-- A run that fails because the document is no schema has put that document in the module's place. -/
theorem failed_refetch_loses_module :
    ((run overlapping refetch).run unfitReply withModule).value.toOption = none ∧
      withModule.held? refetch.output = some (.file "x = 1\n".toUTF8) ∧
      ((run overlapping refetch).run unfitReply withModule).store.held? refetch.output =
        some (.file "\x7b\n  \"methods\": 5\n\x7d\n".toUTF8) := by
  decide +kernel

end Module

end RpcStubs
