import RpcStubs.Proofs.SavedCopies

/-! # One load after another

Loads that fetch can fail at any time: for want of a connection or of an answer, because the answer is
no value or the value no document, or because the disk fails while the copy is saved.  What a history of
loads leaves of the copy can be told from what came of each of them (`copies_undamaged`): a load that
came to a document, or to a value that is none, has saved its value (`Load.Saved`), and no other load
changes what was saved before.

One load is looked at first (`fetched_stages`, `fetched_mayEnd`).  What holds of a history follows from
there by induction on its length, in a store and then in a tree with links elsewhere.  With a link where
the copy is prepared a load can overwrite any other file (`copies_damaged`).
-/

namespace RpcStubs.Source

open Script

variable {σ : Type} [Files σ] {files left : σ} {url copy : String} {reply : Reply} {old new : Store}

/-! ## One load on a disk that may fail -/

theorem fetchValue_mayEnd {value : Except Failure Json.Value}
    (ending : MayEnd reply (fetchValue url) files value left) :
    value = fetchedValue url reply ∧ left = files := by
  obtain ⟨_, files, ⟨rfl, rfl⟩, asking⟩ := mayEnd_bind.1 ending
  unfold fetchedValue
  dsimp only at asking ⊢
  cases parsed : Address.ofString? url with
  | none =>
    rw [parsed] at asking
    exact asking
  | some address =>
    rw [parsed] at asking
    dsimp only at asking ⊢
    cases web : address.isWeb with
    | false =>
      rw [web] at asking
      exact asking
    | true =>
      rw [web] at asking
      exact asking

theorem logMethods_mayEnd {methods : List Schema.Method} {value : Unit}
    (ending : MayEnd reply (logMethods methods) files value left) : left = files := by
  induction methods with
  | nil => exact ending.2
  | cons method rest inductionHypothesis => exact inductionHypothesis ending

/-- A load decodes the value of its source, and that changes nothing. -/
theorem load_mayEnd {source : Source} {result : Except Failure Schema.Document}
    (ending : MayEnd reply source.load files result left) :
    ∃ value, MayEnd reply source.value files value left ∧ result = value >>= decode := by
  obtain ⟨value, mid, valued, decoding⟩ := mayEnd_bind.1 ending
  cases value with
  | error e =>
    obtain ⟨rfl, rfl⟩ := decoding
    exact ⟨_, valued, rfl⟩
  | ok value =>
    suffices same : result = decode value ∧ left = mid by
      obtain ⟨rfl, rfl⟩ := same
      exact ⟨_, valued, rfl⟩
    dsimp only at decoding
    cases decoded : decode value with
    | error e =>
      rw [decoded] at decoding
      exact decoding
    | ok document =>
      rw [decoded] at decoding
      obtain ⟨_, _, ⟨rfl, rfl⟩, logging⟩ := mayEnd_bind.1 decoding
      obtain ⟨_, _, logging, rfl, rfl⟩ := mayEnd_bind.1 logging
      exact ⟨rfl, logMethods_mayEnd logging⟩

/-- A value that is no document is malformed, and nothing else. -/
theorem decode_eq_error {value : Json.Value} {e : Failure} (failed : decode value = .error e) :
    ∃ fault, e = .schemaShape "<document>" (.undecodable fault) := by
  obtain ⟨fault, -, same⟩ := mapError_eq_error_iff.1 failed
  exact ⟨fault, same.symm⟩

/-- A load that fetches has no value and leaves everything as it was, or it saves a copy of its value and
decodes it then. -/
theorem fetched_stages {result : Except Failure Schema.Document}
    (ending : MayEnd reply (fetched url copy).load files result left) :
    (∃ fault, result = .error (.schemaUnavailable url (.fetch fault)) ∧ left = files) ∨
      ∃ value saved, fetchedValue url reply = .ok value ∧
        MayEnd reply (saveCopy copy value) files saved left ∧ result = saved >>= fun _ => decode value := by
  obtain ⟨value, valued, rfl⟩ := load_mayEnd ending
  obtain ⟨_, mid, fetching, saving⟩ := mayEnd_bind.1 valued
  obtain ⟨rfl, rfl⟩ := fetchValue_mayEnd fetching
  cases fetched : fetchedValue url reply with
  | error e =>
    rw [fetched] at saving
    obtain ⟨rfl, rfl⟩ := saving
    obtain ⟨fault, rfl⟩ := fetchedValue_eq_error fetched
    exact .inl ⟨fault, rfl, rfl⟩
  | ok value =>
    rw [fetched] at saving
    obtain ⟨saved, _, saving, ending⟩ := mayEnd_bind.1 saving
    refine .inr ⟨value, saved, rfl, ?_⟩
    cases saved with
    | ok _ =>
      obtain ⟨rfl, rfl⟩ := ending
      exact ⟨saving, rfl⟩
    | error e =>
      obtain ⟨rfl, rfl⟩ := ending
      exact ⟨saving, rfl⟩

/-- A copy cannot be saved for want of a place to write it, and for nothing else. -/
theorem saveCopy_eq_error {value : Json.Value} {e : Failure}
    (ending : MayEnd reply (saveCopy copy value) files (.error e) left) :
    ∃ cause, e = .outputWrite copy cause := by
  obtain ⟨replaced, mid, -, ending⟩ := mayEnd_bind.1 ending
  cases replaced with
  | ok _ =>
    obtain ⟨_, _, -, failed, -⟩ := mayEnd_bind.1 ending
    cases failed
  | error cause =>
    cases ending.1
    exact ⟨cause, rfl⟩

/-- A load for want of a value changes nothing, whatever the files are kept in. -/
theorem unavailable_mayEnd {location : String} {fault : Unavailable}
    (ending : MayEnd reply (fetched url copy).load files (.error (.schemaUnavailable location fault)) left) :
    left = files := by
  rcases fetched_stages ending with ⟨-, -, same⟩ | ⟨value, saved, -, saving, result⟩
  · exact same
  · cases saved with
    | ok _ =>
      obtain ⟨_, malformed⟩ := decode_eq_error result.symm
      cases malformed
    | error e =>
      obtain ⟨cause, rfl⟩ := saveCopy_eq_error saving
      cases result

theorem saveCopy_mayEnd {value : Json.Value} {result : Except Failure Unit}
    (ending : MayEnd reply (saveCopy copy value) old result new) :
    (result = .ok () ∧ Replaced (Path.ofString copy) (copyText value) old new) ∨
      ∃ e, result = .error (.outputWrite copy e) ∧ GivenUp (Path.ofString copy) old new := by
  obtain ⟨saved, mid, saving, ending⟩ := mayEnd_bind.1 ending
  rcases replaceFile_mayEnd saving with ⟨rfl, replaced⟩ | ⟨e, rfl, givenUp⟩
  · obtain ⟨rfl, rfl⟩ := ending
    exact .inl ⟨rfl, replaced⟩
  · obtain ⟨rfl, rfl⟩ := ending
    exact .inr ⟨e, rfl, givenUp⟩

/-- The ways that a load which fetches can go, whatever fails. -/
theorem fetched_mayEnd {result : Except Failure Schema.Document}
    (ending : MayEnd reply (fetched url copy).load old result new) :
    (∃ fault, result = .error (.schemaUnavailable url (.fetch fault)) ∧ new = old) ∨
      (∃ e, result = .error (.outputWrite copy e) ∧ GivenUp (Path.ofString copy) old new) ∨
      ∃ value, fetchedValue url reply = .ok value ∧ result = decode value ∧
        Replaced (Path.ofString copy) (copyText value) old new := by
  rcases fetched_stages ending with unavailable | ⟨value, saved, fetched, saving, rfl⟩
  · exact .inl unavailable
  · rcases saveCopy_mayEnd saving with ⟨rfl, replaced⟩ | ⟨e, rfl, givenUp⟩
    · exact .inr (.inr ⟨value, fetched, rfl, replaced⟩)
    · exact .inr (.inl ⟨e, rfl, givenUp⟩)

/-! ## Histories -/

/-- A load that fetches: what was asked for, what was replied and what came of it. -/
structure Load where
  url : String
  reply : Reply
  result : Except Failure Schema.Document

/-- The load came to a document, or to a value that is none. -/
def Load.Saved (load : Load) : Prop :=
  (∃ document, load.result = .ok document) ∨
    ∃ method fault, load.result = .error (.schemaShape method fault)

/-- Loads with one place for the copy, one after another, on a disk that may fail. -/
def Loads (copy : String) : List Load → σ → σ → Prop
  | [], old, new => new = old
  | load :: later, old, new =>
    ∃ mid, MayEnd load.reply (fetched load.url copy).load old load.result mid ∧
      Loads copy later mid new

variable {load last : Load} {history earlier later : List Load}

theorem loads_append : Loads copy (earlier ++ later) files left ↔
    ∃ mid, Loads copy earlier files mid ∧ Loads copy later mid left := by
  induction earlier generalizing files with
  | nil => simp [Loads]
  | cons load rest inductionHypothesis =>
    simp only [List.cons_append, Loads, inductionHypothesis]
    grind

/-- A load replaces the copy by its value just if it is one that saves. -/
theorem Load.step (ending : MayEnd load.reply (fetched load.url copy).load old load.result new) :
    (load.Saved ∧ ∃ value, fetchedValue load.url load.reply = .ok value ∧
        Replaced (Path.ofString copy) (copyText value) old new) ∨
      (¬ load.Saved ∧ Unreplaced (Path.ofString copy) old new) := by
  rcases fetched_mayEnd ending with ⟨fault, result, rfl⟩ | ⟨e, result, givenUp⟩ |
    ⟨value, fetched, result, replaced⟩
  · exact .inr ⟨by simp [Load.Saved, result], .refl _ new⟩
  · exact .inr ⟨by simp [Load.Saved, result], givenUp.unreplaced⟩
  · refine .inl ⟨?_, value, fetched, replaced⟩
    cases decoded : decode value with
    | ok document => exact .inl ⟨document, result.trans decoded⟩
    | error e =>
      obtain ⟨fault, rfl⟩ := decode_eq_error decoded
      exact .inr ⟨_, _, result.trans decoded⟩

/-- Loads that save nothing leave the copy alone, however many they are. -/
theorem Loads.unreplaced (loads : Loads copy history old new) (noneSaved : ∀ load ∈ history, ¬ load.Saved) :
    Unreplaced (Path.ofString copy) old new := by
  induction history generalizing old with
  | nil =>
    obtain rfl : new = old := loads
    exact .refl _ new
  | cons load rest inductionHypothesis =>
    obtain ⟨mid, ending, loads⟩ := loads
    obtain ⟨notSaved, others⟩ := List.forall_mem_cons.1 noneSaved
    rcases load.step ending with ⟨saved, -⟩ | ⟨-, unreplaced⟩
    · exact absurd saved notSaved
    · exact unreplaced.trans (inductionHypothesis loads others)

/-- What the last load that saves has saved is read after all others. -/
theorem Loads.readFile_eq (loads : Loads copy (earlier ++ last :: later) old new) (saved : last.Saved)
    (noneSaved : ∀ load ∈ later, ¬ load.Saved) :
    ∃ value, fetchedValue last.url last.reply = .ok value ∧
      new.readFile (Path.ofString copy) = .ok (copyText value).toUTF8 := by
  obtain ⟨before, -, after, ending, loads⟩ := loads_append.1 loads
  rcases last.step ending with ⟨-, value, fetched, replaced⟩ | ⟨notSaved, -⟩
  · refine ⟨value, fetched, (loads.unreplaced noneSaved).bound.readFile_eq_ok ?_ replaced.readFile_eq⟩
    simpa using (Path.ofString copy).staging_place_ne.symm
  · exact absurd saved notSaved

/-- What loads can come to in a tree with links, when none lies on the way, they can come to in the store
without the links. -/
theorem exists_loads_plain {origin tree new : LinkedStore} {store : Store}
    (clear : origin.Clear (Path.ofString copy)) (staged : origin.Clear (Path.ofString copy).staging)
    (holds : LinkedStore.Holds origin tree store) (loads : Loads copy history tree new) :
    ∃ other, Loads copy history store other ∧ LinkedStore.Holds origin new other := by
  induction history generalizing tree store with
  | nil =>
    obtain rfl : new = tree := loads
    exact ⟨store, rfl, holds⟩
  | cons load rest inductionHypothesis =>
    obtain ⟨mid, ending, loads⟩ := loads
    obtain ⟨other, ending, holds⟩ :=
      (LinkedStore.simulation origin).exists_mayEnd (uses_load_fetched load.url clear staged) holds ending
    obtain ⟨final, loads, holds⟩ := inductionHypothesis holds loads
    exact ⟨final, ⟨other, ending, loads⟩, holds⟩

/-- Saved copies are never damaged, if no link lies on the way of the copy or of the place where it is
prepared.  As long as no load has come to a document or to a value that is none, no file but one at the
place for staging has changed, and there is no file more than before; from then on the copy is the value
of the last load that did.  And a load for want of a value changes nothing at all, wherever links are.

What was prepared is removed as the tree says: nothing else keeps a file from being removed. -/
theorem copies_undamaged {initial final : LinkedStore} (clear : initial.Clear (Path.ofString copy))
    (staged : initial.Clear (Path.ofString copy).staging) (loads : Loads copy history initial final) :
    ((∀ load ∈ history, ¬ load.Saved) →
      (∀ place content, place ≠ (Path.ofString copy).staging.place →
        initial.node? place = some (.entry (.file content)) →
        final.node? place = some (.entry (.file content))) ∧
      ∀ place content, final.node? place = some (.entry (.file content)) →
        ∃ was, initial.node? place = some (.entry (.file was))) ∧
    (∀ earlier last later, history = earlier ++ last :: later → last.Saved →
      (∀ load ∈ later, ¬ load.Saved) →
      ∃ value,
        (∀ tree : LinkedStore, ((fetchValue last.url).run last.reply tree).value = .ok value) ∧
        final.readFile (Path.ofString copy) = .ok (value.indented ++ "\n").toUTF8) ∧
    ∀ (url : String) (reply : Reply) (old new : LinkedStore) (location : String) (fault : Unavailable),
      MayEnd reply (fetched url copy).load old (.error (.schemaUnavailable location fault)) new →
      new = old := by
  have start := LinkedStore.Holds.of_tree initial
  obtain ⟨store, loads, holds⟩ := exists_loads_plain clear staged start loads
  refine ⟨fun noneSaved => ⟨fun place content outside file => ?_, fun place content file => ?_⟩, ?_,
    fun url reply old new location fault => unavailable_mayEnd⟩
  · obtain ⟨noLink, file⟩ := start.entry?_of_node? file
    have kept := (loads.unreplaced noneSaved).bound.fileKept place content (by simpa using outside) file
    exact holds.node?_of_entry? noLink kept
  · obtain ⟨noLink, file⟩ := holds.entry?_of_node? file
    obtain ⟨was, before⟩ := (loads.unreplaced noneSaved).noneAdded place content file
    exact ⟨was, start.node?_of_entry? noLink before⟩
  · rintro earlier last later rfl saved noneSaved
    obtain ⟨value, fetched, read⟩ := loads.readFile_eq saved noneSaved
    refine ⟨value, fun tree => ?_, ?_⟩
    · rw [(ends_fetchValue last.url last.reply tree).eqs.1, fetched]
    · exact ((LinkedStore.simulation initial).readFile clear holds).trans read

/-! ## A history with a broken write -/

def noSpace : FileError :=
  .other 28 "No space left on device"

/-- A tree with a copy of which only the first character was written. -/
def brokenOff : LinkedStore :=
  linkedAside.put ["copy.json.tmp"] (.entry (.file "\x7b".toUTF8))

/-- A load during which the disk is full. -/
def brokenLoad : Load :=
  ⟨"http://[::1]/", sampleReply, .error (.outputWrite "copy.json" noSpace)⟩

def sampleLoad : Load :=
  ⟨"http://[::1]/", sampleReply, .ok ⟨[]⟩⟩

/-- A load without a connection. -/
def refusedLoad : Load :=
  ⟨"http://[::1]/", .refused,
    .error (.schemaUnavailable "http://[::1]/" (.fetch (.noConnection "http://[::1]/")))⟩

/-- The first character of the copy was written, and what was written is removed again. -/
theorem brokenLoad_mayEnd :
    MayEnd sampleReply (fetched "http://[::1]/" "copy.json").load linkedAside brokenLoad.result
      linkedAside := by
  obtain ⟨value, found⟩ : ∃ value, fetchedValue "http://[::1]/" sampleReply = .ok value :=
    exists_ok_of_isSome (by decide +kernel)
  have fetching := (ends_fetchValue "http://[::1]/" sampleReply linkedAside).mayEnd
  rw [found] at fetching
  have begun : PartWritten linkedAside (Path.ofString "copy.json").staging brokenOff :=
    ⟨"\x7b".toUTF8, by decide +kernel⟩
  have discarding := mayEnd_run (discard (Path.ofString "copy.json").staging) sampleReply brokenOff
  rw [show (Script.run sampleReply (discard (Path.ofString "copy.json").staging) brokenOff).store =
    linkedAside by decide +kernel] at discarding
  have replacing : MayEnd sampleReply (replaceFile (Path.ofString "copy.json") (copyText value))
      linkedAside (.error noSpace) linkedAside := by
    refine mayEnd_bind.2 ⟨.ok (), linkedAside, ⟨rfl, rfl⟩, ?_⟩
    refine mayEnd_bind.2 ⟨.error noSpace, brokenOff, ⟨_, _, .breaks noSpace begun, rfl, rfl⟩, ?_⟩
    exact mayEnd_bind.2 ⟨(), linkedAside, discarding, rfl, rfl⟩
  have saving : MayEnd sampleReply (saveCopy "copy.json" value) linkedAside
      (.error (.outputWrite "copy.json" noSpace)) linkedAside :=
    mayEnd_bind.2 ⟨_, _, replacing, rfl, rfl⟩
  have valued : MayEnd sampleReply (fetched "http://[::1]/" "copy.json").value linkedAside
      (.error (.outputWrite "copy.json" noSpace)) linkedAside :=
    mayEnd_bind.2 ⟨_, _, fetching, mayEnd_bind.2 ⟨_, _, saving, rfl, rfl⟩⟩
  exact mayEnd_bind.2 ⟨_, _, valued, rfl, rfl⟩

theorem copies_undamaged_sample :
    ∃ final, Loads "copy.json" [brokenLoad, sampleLoad, refusedLoad] linkedAside final ∧
      ∃ value,
        (∀ tree : LinkedStore, ((fetchValue "http://[::1]/").run sampleReply tree).value = .ok value) ∧
        final.readFile (Path.ofString "copy.json") = .ok (value.indented ++ "\n").toUTF8 := by
  have saving := mayEnd_run (fetched "http://[::1]/" "copy.json").load sampleReply linkedAside
  have document : ((fetched "http://[::1]/" "copy.json").load.run sampleReply linkedAside).value =
      .ok ⟨[]⟩ := eq_ok_of_toOption (by decide +kernel)
  generalize ((fetched "http://[::1]/" "copy.json").load.run sampleReply linkedAside).store = final at saving
  rw [document] at saving
  have refused : fetchedValue "http://[::1]/" .refused =
      .error (.schemaUnavailable "http://[::1]/" (.fetch (.noConnection "http://[::1]/"))) := rfl
  have failing := (ends_load_unavailable "copy.json" final refused).mayEnd
  have loads : Loads "copy.json" [brokenLoad, sampleLoad, refusedLoad] linkedAside final :=
    ⟨linkedAside, brokenLoad_mayEnd, final, saving, final, failing, rfl⟩
  have notSaved : ∀ load ∈ [refusedLoad], ¬ load.Saved := by simp [Load.Saved, refusedLoad]
  exact ⟨final, loads, (copies_undamaged (by decide +kernel) (by decide +kernel) loads).2.1 [brokenLoad]
    sampleLoad [refusedLoad] rfl (.inl ⟨_, rfl⟩) notSaved⟩

/-! ## A link where the copy is prepared -/

/-- A tree with a folder where the copy goes, and with a link to another file where it is prepared. -/
def stagedElsewhere : LinkedStore :=
  ⟨[(["copy.json"], .entry .folder), (["other.txt"], .entry (.file "kept".toUTF8)),
    (["copy.json.tmp"], .link ⟨.ofString "other.txt", by decide +kernel⟩)]⟩

/-- A load that fails, because the copy cannot be put where a folder is, has overwritten the other file by
then.  And a load that succeeds has lost its copy, where that is prepared at a link to its place. -/
theorem copies_damaged :
    (((fetched "http://[::1]/" "copy.json").load.run sampleReply stagedElsewhere).value.mapError
          Failure.kind = .error "OutputWrite" ∧
        stagedElsewhere.node? ["other.txt"] = some (.entry (.file "kept".toUTF8)) ∧
        ((fetched "http://[::1]/" "copy.json").load.run sampleReply stagedElsewhere).store.node?
            ["other.txt"] =
          some (.entry (.file "\x7b\n  \"methods\": [],\n  \"scale\": 1.5\n\x7d\n".toUTF8))) ∧
      ((fetched "http://[::1]/" "copy.json").load.run sampleReply stagedAtCopy).value.mapError
          Failure.kind = .ok ⟨[]⟩ ∧
        ((fetched "http://[::1]/" "copy.json").load.run sampleReply stagedAtCopy).store.readFile
          (Path.ofString "copy.json") = .error LinkedStore.tooManyLinks := by
  decide +kernel

end RpcStubs.Source
