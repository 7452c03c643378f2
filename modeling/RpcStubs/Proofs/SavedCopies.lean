import RpcStubs.Proofs.Json.RoundTrip
import RpcStubs.Proofs.Loading
import RpcStubs.Proofs.UsedPaths

/-! # Saved copies

A document that was fetched and the copy that was saved of it are the same document.  The copy is saved
before the document is decoded, so this holds for values that are no documents as well: opening the
copy fails as fetching it did.

A copy that was prepared at a link is lost (`saved_copy_lost`), so the tree may have links, but none on the
way of the copy.
-/

namespace RpcStubs.Source

open Script Json

variable {url copy : String} {reply : Reply} {old new : Store} {value : Json.Value}

/-- What a reply stands for was read from text. -/
theorem fits_of_readAnswer {address : String} (answer : readAnswer address reply = .ok value) :
    value.Fits depthLimit := by
  cases reply with
  | refused => cases answer
  | answered status reason body complete =>
    simp only [readAnswer] at answer
    split_ifs at answer
    all_goals exact Value.fits_of_ofString (mapError_eq_ok_iff.1 answer)

theorem fits_of_fetchedValue (fetched : fetchedValue url reply = .ok value) :
    value.Fits depthLimit := by
  unfold fetchedValue at fetched
  dsimp only at fetched
  cases parsed : Address.ofString? url with
  | none =>
    rw [parsed] at fetched
    cases fetched
  | some address =>
    rw [parsed] at fetched
    dsimp only at fetched
    split_ifs at fetched
    exact fits_of_readAnswer (mapError_eq_ok_iff.1 fetched)

/-- A value that could not be had is unavailable, which is not to be malformed. -/
theorem fetchedValue_eq_error {e : Failure} (failed : fetchedValue url reply = .error e) :
    ∃ fault, e = .schemaUnavailable url (.fetch fault) := by
  unfold fetchedValue at failed
  dsimp only at failed
  cases parsed : Address.ofString? url with
  | none =>
    rw [parsed] at failed
    cases failed
    exact ⟨_, rfl⟩
  | some address =>
    rw [parsed] at failed
    dsimp only at failed
    split_ifs at failed
    · obtain ⟨fault, -, same⟩ := mapError_eq_error_iff.1 failed
      exact ⟨fault, same.symm⟩
    · cases failed
      exact ⟨_, rfl⟩

theorem fromUTF8?_toUTF8 (text : String) : String.fromUTF8? text.toUTF8 = some text := by
  unfold String.fromUTF8?
  rw [String.toUTF8_eq_toByteArray, dif_pos text.isValidUTF8]
  rfl

theorem readCopy_copyText (fits : value.Fits depthLimit)
    (readBack : ∀ x ∈ value.doubles, x.ReadsBack) :
    readCopy (copyText value).toUTF8 = .ok value := by
  unfold readCopy
  rw [fromUTF8?_toUTF8]
  show (Json.Value.ofString (value.indented ++ "\n")).mapError Unavailable.notJson = _
  rw [Value.ofString_indented fits readBack]
  rfl

/-- The saved copy of a value is opened as that value. -/
theorem savedValue_of_replaced (fits : value.Fits depthLimit)
    (readBack : ∀ x ∈ value.doubles, x.ReadsBack)
    (replaced : Replaced (Path.ofString copy) (copyText value) old new) :
    savedValue copy new = .ok value := by
  unfold savedValue
  rw [show Files.readFile new _ = _ from replaced.readFile_eq]
  dsimp only
  rw [readCopy_copyText fits readBack]
  rfl

/-- After a load that fetches, opening the copy comes to the same, unless there was no value or no copy
could be saved of it. -/
theorem Fetched.opened_eq {result : Except Failure Schema.Document}
    (outcome : Fetched url copy reply old result new)
    (readBack : ∀ value, fetchedValue url reply = .ok value → ∀ x ∈ value.doubles, x.ReadsBack) :
    savedValue copy new >>= decode = result ∨
      (∃ fault, result = .error (.schemaUnavailable url (.fetch fault))) ∨
      ∃ e, result = .error (.outputWrite copy e) := by
  cases outcome with
  | unavailable failed =>
    obtain ⟨fault, rfl⟩ := fetchedValue_eq_error failed
    exact .inr (.inl ⟨fault, rfl⟩)
  | unsaved fetched bound => exact .inr (.inr ⟨_, rfl⟩)
  | saved fetched replaced decoded =>
    rw [savedValue_of_replaced (fits_of_fetchedValue fetched) (readBack _ fetched) replaced]
    exact .inl decoded

/-- In a store, opening the copy after a load that fetches comes to the same, unless there was no value or
no copy could be saved of it. -/
theorem opened_eq_fetched (url copy : String) (reply later : Reply) (store : Store)
    (readBack : ∀ value, fetchedValue url reply = .ok value → ∀ x ∈ value.doubles, x.ReadsBack) :
    ((saved copy).load.run later ((fetched url copy).load.run reply store).store).value =
        ((fetched url copy).load.run reply store).value ∨
      (∃ fault, ((fetched url copy).load.run reply store).value =
        .error (.schemaUnavailable url (.fetch fault))) ∨
      ∃ e, ((fetched url copy).load.run reply store).value = .error (.outputWrite copy e) := by
  obtain ⟨result, new, fetching, outcome⟩ := fetched_load url copy reply store
  obtain ⟨fetchedResult, fetchedStore, -⟩ := fetching.eqs
  rw [fetchedResult, fetchedStore, (ends_load_saved copy later new).eqs.1]
  exact outcome.opened_eq readBack

/-- Opening the saved copy comes to what fetching came to, be that a document or the failure to find one
in the value, and it is the configured copy that is opened when nothing else is asked for.  No link may
lie on the way of the copy or of the place where it is prepared, and of the conversions of doubles it is
assumed that those in the value are read back as they were written. -/
theorem saved_copy_agrees (url copy : String) (reply later : Reply) (tree : LinkedStore)
    (clear : tree.Clear (Path.ofString copy)) (staged : tree.Clear (Path.ofString copy).staging)
    (readBack : ∀ value, fetchedValue url reply = .ok value → ∀ x ∈ value.doubles, x.ReadsBack) :
    (∀ document, ((fetched url copy).load.run reply tree).value = .ok document →
      ((saved copy).load.run later ((fetched url copy).load.run reply tree).store).value =
        .ok document) ∧
    (∀ method fault, ((fetched url copy).load.run reply tree).value =
        .error (.schemaShape method fault) →
      ((saved copy).load.run later ((fetched url copy).load.run reply tree).store).value =
        .error (.schemaShape method fault)) ∧
    ∀ (settings : Settings) (location : Option String), ∃ url path,
      resolve .fetch location settings = fetched url path ∧
      resolve .opened none settings = saved path := by
  have simulation := LinkedStore.simulation tree
  have fetching := simulation.run (uses_load_fetched url clear staged) (.of_tree tree) reply
  have opening := simulation.run (uses_load_saved clear) fetching.store later
  have opened := opened_eq_fetched url copy reply later tree.plain readBack
  rw [← opening.value, ← fetching.value] at opened
  refine ⟨fun document done => ?_, fun method fault failed => ?_,
    fun settings location => ⟨_, _, rfl, rfl⟩⟩
  · rcases opened with same | ⟨fault, unavailable⟩ | ⟨e, unwritten⟩
    · exact same.trans done
    · cases done.symm.trans unavailable
    · cases done.symm.trans unwritten
  · rcases opened with same | ⟨fault, unavailable⟩ | ⟨e, unwritten⟩
    · exact same.trans failed
    · cases failed.symm.trans unavailable
    · cases failed.symm.trans unwritten

/-! ## A document with a double -/

/-- One and a half. -/
def sample : Binary64 :=
  ⟨false, ⟨6755399441055744, 1022⟩⟩

/-- A reply with a document that has this double somewhere. -/
def sampleReply : Reply :=
  .answered 200 "OK" "\x7b\"methods\":[],\"scale\":1.5\x7d".toUTF8 true

/-- A tree with a link elsewhere than the copy will be. -/
def linkedAside : LinkedStore :=
  ⟨[(["latest"], .link ⟨.ofString "copy.json", by decide +kernel⟩)]⟩

theorem saved_sample_agrees :
    sample.ReadsBack ∧
      ((saved "copy.json").load.run .refused
        ((fetched "http://[::1]/" "copy.json").load.run sampleReply linkedAside).store).value =
          .ok ⟨[]⟩ := by
  have doubles : (fetchedValue "http://[::1]/" sampleReply).toOption.map Value.doubles =
      some [sample] := by
    decide +kernel
  have sampleReadsBack : sample.ReadsBack := by decide +kernel
  have readBack : ∀ value, fetchedValue "http://[::1]/" sampleReply = .ok value →
      ∀ x ∈ value.doubles, x.ReadsBack := by
    intro value fetched
    rw [fetched] at doubles
    have only : value.doubles = [sample] := Option.some.inj doubles
    rw [only]
    simpa using sampleReadsBack
  have loads : ((fetched "http://[::1]/" "copy.json").load.run sampleReply linkedAside).value =
      .ok ⟨[]⟩ := eq_ok_of_toOption (by decide +kernel)
  exact ⟨sampleReadsBack, (saved_copy_agrees "http://[::1]/" "copy.json" sampleReply .refused linkedAside
    (by decide +kernel) (by decide +kernel) readBack).1 _ loads⟩

/-! ## A link where the copy is prepared -/

/-- A tree in which the place where the copy is prepared is a link to where it goes. -/
def stagedAtCopy : LinkedStore :=
  ⟨[(["copy.json.tmp"], .link ⟨.ofString "copy.json", by decide +kernel⟩)]⟩

/-- The copy is written through the link, which is then moved over it and leads to itself: the load
succeeds, and there is no copy. -/
theorem saved_copy_lost :
    ((fetched "http://[::1]/" "copy.json").load.run sampleReply stagedAtCopy).value.toOption = some ⟨[]⟩ ∧
      ((saved "copy.json").load.run .refused
        ((fetched "http://[::1]/" "copy.json").load.run sampleReply stagedAtCopy).store).value.toOption =
          none ∧
      ((fetched "http://[::1]/" "copy.json").load.run sampleReply stagedAtCopy).store.readFile
        (.ofString "copy.json") = .error LinkedStore.tooManyLinks := by
  decide +kernel

end RpcStubs.Source
