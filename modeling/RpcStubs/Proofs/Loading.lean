import RpcStubs.Source
import RpcStubs.Proofs.Replacement

/-! # Loading a document

A load is a value and its decoding.  The value is taken from a reply or a file without a change to any
file; only then, and only of a fetched one, is a copy saved; and the decoding comes after that.  So
what a load leaves behind is decided before the document is looked at.
-/

namespace RpcStubs.Source

open Script

variable {σ : Type} [Files σ]

/-! ## Values -/

/-- The value that a reply stands for when it was asked for under a text. -/
def fetchedValue (url : String) (reply : Reply) : Except Failure Json.Value :=
  let failed (fault : FetchFault) : Failure := .schemaUnavailable url (.fetch fault)
  match Address.ofString? url with
  | none => .error (failed .noAddress)
  | some address =>
    if address.isWeb then (readAnswer address.text reply).mapError failed
    else .error (failed (.notWeb address.text))

/-- Fetching takes its value from the reply and leaves the store alone. -/
theorem ends_fetchValue (url : String) (reply : Reply) (files : σ) :
    Ends reply (fetchValue url) files (fetchedValue url reply) files "" := by
  unfold fetchValue fetchedValue
  refine (Ends.log reply .info origin _ files).bind_silent ?_
  dsimp only
  cases Address.ofString? url with
  | none => exact Ends.done reply _ files
  | some address =>
    dsimp only
    cases address.isWeb with
    | false => exact Ends.done reply _ files
    | true =>
      have asked : Ends reply (askOnce address) files reply files "" :=
        (Ends.logWith reply _ _ _ _ files).bind_silent <|
          (Ends.ask reply address.text files).bind_silent <|
            (Ends.logWith reply _ _ _ _ files).bind_silent (.done reply reply files)
      refine asked.bind_silent ?_
      exact Ends.done reply _ files

/-- The value of the file at a path. -/
def savedValue (path : String) (files : σ) : Except Failure Json.Value :=
  match Files.readFile files (Path.ofString path) with
  | .error e => .error (.schemaUnavailable path (.file e))
  | .ok content => (readCopy content).mapError (.schemaUnavailable path)

theorem ends_openValue (path : String) (reply : Reply) (files : σ) :
    Ends reply (openValue path) files (savedValue path files) files "" := by
  unfold openValue savedValue
  refine (Ends.read reply (Path.ofString path) files).bind_silent ?_
  cases Files.readFile files (Path.ofString path) with
  | error e => exact .done reply _ files
  | ok content => exact .done reply _ files

/-! ## Documents -/

theorem ends_logMethods (methods : List Schema.Method) (reply : Reply) (files : σ) :
    Ends reply (logMethods methods) files () files "" := by
  induction methods with
  | nil => exact .done reply () files
  | cons method rest inductionHypothesis =>
    exact (Ends.log reply _ _ _ files).bind_silent inductionHypothesis

/-- A load decodes the value of its source, and that changes and prints nothing. -/
theorem ends_load {source : Source} {reply : Reply} {old new : σ}
    {value : Except Failure Json.Value} {printed : String}
    (ends : Ends reply source.value old value new printed) :
    Ends reply source.load old (value >>= decode) new printed := by
  refine ends.bind_silent ?_
  cases value with
  | error e => exact .done reply _ new
  | ok value =>
    show Ends reply _ new (decode value) new ""
    dsimp only
    cases decode value with
    | error e => exact Ends.done reply _ new
    | ok document =>
      refine (Ends.log reply _ _ _ new).bind_silent ?_
      exact (ends_logMethods document.methods reply new).bind_silent (.done reply _ new)

theorem ends_load_saved (path : String) (reply : Reply) (files : σ) :
    Ends reply (saved path).load files (savedValue path files >>= decode) files "" :=
  ends_load (ends_openValue path reply files)

/-! ## Fetched documents -/

variable {url copy : String} {value : Json.Value} {reply : Reply} {old new : σ}
  {replaced : Except FileError Unit}

/-- A copy is saved or not as its file is replaced or not. -/
theorem ends_saveCopy
    (replacing : Ends reply (replaceFile (Path.ofString copy) (copyText value)) old replaced new "") :
    Ends reply (saveCopy copy value) old (replaced.mapError (.outputWrite copy)) new "" := by
  refine replacing.bind_silent ?_
  cases replaced with
  | ok _ => exact (Ends.log reply _ _ _ new).bind_silent (.done reply _ new)
  | error e => exact .done reply _ new

theorem ends_load_unavailable {e : Failure} (copy : String) (files : σ)
    (failed : fetchedValue url reply = .error e) :
    Ends reply (fetched url copy).load files (.error e) files "" := by
  have fetching := ends_fetchValue url reply files
  rw [failed] at fetching
  have valued : Ends reply (fetched url copy).value files (.error e) files "" :=
    fetching.bind_silent (.done reply _ files)
  exact ends_load valued

/-- A value that was fetched is decoded if a copy of it was saved. -/
theorem ends_load_fetched (there : fetchedValue url reply = .ok value)
    (replacing : Ends reply (replaceFile (Path.ofString copy) (copyText value)) old replaced new "") :
    Ends reply (fetched url copy).load old
      (replaced.mapError (.outputWrite copy) >>= fun _ => decode value) new "" := by
  have fetching := ends_fetchValue url reply old
  rw [there] at fetching
  have saving := ends_saveCopy replacing
  cases replaced with
  | ok _ =>
    have valued : Ends reply (fetched url copy).value old (.ok value) new "" :=
      fetching.bind_silent <| saving.bind_silent (.done reply _ new)
    exact ends_load valued
  | error e =>
    have valued : Ends reply (fetched url copy).value old (.error (.outputWrite copy e)) new "" :=
      fetching.bind_silent <| saving.bind_silent (.done reply _ new)
    exact ends_load valued

/-- A load comes to a document or to a failure and prints nothing, and one that opens a copy changes
nothing either. -/
theorem exists_ends_load (source : Source) (reply : Reply) (files : σ) :
    ∃ result new, Ends reply source.load files result new "" ∧
      ((∃ path, source = saved path) → new = files) := by
  cases source with
  | saved path => exact ⟨_, files, ends_load_saved path reply files, fun _ => rfl⟩
  | fetched url copy =>
    cases there : fetchedValue url reply with
    | error e => exact ⟨_, files, ends_load_unavailable copy files there, nofun⟩
    | ok value =>
      obtain ⟨replaced, new, replacing⟩ :=
        exists_ends_replaceFile (Path.ofString copy) (copyText value) reply files
      exact ⟨_, new, ends_load_fetched there replacing, nofun⟩

/-- How a load that fetches can go: what comes of it, and the store that it leaves. -/
inductive Fetched (url copy : String) (reply : Reply) (old : Store) :
    Except Failure Schema.Document → Store → Prop where
  | unavailable {e : Failure} (failed : fetchedValue url reply = .error e) :
      Fetched url copy reply old (.error e) old
  | unsaved {value : Json.Value} {e : FileError} {new : Store}
      (fetched : fetchedValue url reply = .ok value)
      (bound : Store.Confined [(Path.ofString copy).staging.place]
        ((Path.ofString copy).above.map Path.place) old new) :
      Fetched url copy reply old (.error (.outputWrite copy e)) new
  | saved {value : Json.Value} {result : Except Failure Schema.Document} {new : Store}
      (fetched : fetchedValue url reply = .ok value)
      (replaced : Replaced (Path.ofString copy) (copyText value) old new)
      (decoded : decode value = result) : Fetched url copy reply old result new

theorem fetched_load (url copy : String) (reply : Reply) (store : Store) :
    ∃ result new, Ends reply (fetched url copy).load store result new "" ∧
      Fetched url copy reply store result new := by
  cases there : fetchedValue url reply with
  | error e => exact ⟨_, store, ends_load_unavailable copy store there, .unavailable there⟩
  | ok value =>
    obtain ⟨new, ⟨replacing, replaced⟩ | ⟨e, failing, bound⟩⟩ :=
      replaceFile_outcome (Path.ofString copy) (copyText value) reply store
    · exact ⟨_, new, ends_load_fetched there replacing, .saved there replaced rfl⟩
    · exact ⟨_, new, ends_load_fetched there failing, .unsaved there bound⟩

/-- Whatever comes of it, a load that fetches touches only its copy. -/
theorem Fetched.confined {url copy : String} {reply : Reply} {old new : Store}
    {result : Except Failure Schema.Document} (fetched : Fetched url copy reply old result new) :
    Store.Confined [(Path.ofString copy).staging.place, (Path.ofString copy).place]
      ((Path.ofString copy).above.map Path.place) old new := by
  cases fetched with
  | unavailable failed => exact .refl _ _ _
  | unsaved fetched bound => exact bound.mono (by simp) (List.Subset.refl _)
  | saved fetched replaced decoded => exact replaced.confined

end RpcStubs.Source
