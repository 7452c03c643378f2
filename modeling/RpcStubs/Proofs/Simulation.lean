import RpcStubs.Proofs.Carrying

/-! # Files that are kept in two ways

Files can be kept in ways that differ, and still be alike as far as some paths are concerned: whatever is
done with these paths goes alike, and what it leaves is alike again (`Simulation`).  A script that uses no
other path (`Script.Uses`) does not see the difference.  It comes to the same on both
(`Simulation.run`), and what it can come to on a disk that may fail it can come to on both
(`Simulation.exists_mayEnd`).
-/

namespace RpcStubs

variable {α β σ τ : Type}

namespace Script

/-- Whatever its actions come to, a script uses only some paths. -/
def Uses (paths : Path → Prop) : Script α → Prop
  | .done _ => True
  | .readFile path next => paths path ∧ ∀ outcome, (next outcome).Uses paths
  | .isFolder path next => paths path ∧ ∀ outcome, (next outcome).Uses paths
  | .isPresent path next => paths path ∧ ∀ outcome, (next outcome).Uses paths
  | .makeFolder path next => paths path ∧ ∀ outcome, (next outcome).Uses paths
  | .writeFile path _ next => paths path ∧ ∀ outcome, (next outcome).Uses paths
  | .renameFile source destination next =>
    paths source ∧ paths destination ∧ ∀ outcome, (next outcome).Uses paths
  | .removeFile path next => paths path ∧ ∀ outcome, (next outcome).Uses paths
  | .request _ next => ∀ outcome, (next outcome).Uses paths
  | .note _ next => ∀ outcome, (next outcome).Uses paths
  | .print _ next => ∀ outcome, (next outcome).Uses paths

namespace Uses

variable {paths : Path → Prop} {script : Script α} {next : α → Script β}

theorem done (paths : Path → Prop) (value : α) : Uses paths (pure value) :=
  trivial

theorem bind (first : Uses paths script) (then_ : ∀ value, Uses paths (next value)) :
    Uses paths (script >>= next) := by
  show Uses paths (script.bind next)
  induction script with
  | done value => exact then_ value
  | readFile path continuation ih => exact ⟨first.1, fun outcome => ih outcome (first.2 outcome)⟩
  | isFolder path continuation ih => exact ⟨first.1, fun outcome => ih outcome (first.2 outcome)⟩
  | isPresent path continuation ih => exact ⟨first.1, fun outcome => ih outcome (first.2 outcome)⟩
  | makeFolder path continuation ih => exact ⟨first.1, fun outcome => ih outcome (first.2 outcome)⟩
  | writeFile path content continuation ih =>
    exact ⟨first.1, fun outcome => ih outcome (first.2 outcome)⟩
  | renameFile source destination continuation ih =>
    exact ⟨first.1, first.2.1, fun outcome => ih outcome (first.2.2 outcome)⟩
  | removeFile path continuation ih => exact ⟨first.1, fun outcome => ih outcome (first.2 outcome)⟩
  | request address continuation ih => exact fun outcome => ih outcome (first outcome)
  | note entry continuation ih => exact fun outcome => ih outcome (first outcome)
  | print text continuation ih => exact fun outcome => ih outcome (first outcome)

/-- Where no path is forbidden, every script keeps to what is allowed. -/
theorem of_all (allowed : ∀ path, paths path) (script : Script α) : Uses paths script := by
  induction script with
  | done value => trivial
  | renameFile source destination continuation ih => exact ⟨allowed _, allowed _, ih⟩
  | request address continuation ih => exact ih
  | note entry continuation ih => exact ih
  | print text continuation ih => exact ih
  | _ => exact ⟨allowed _, ‹_›⟩

end Uses

end Script

open Script

/-! ## Simulations -/

/-- Two attempts to change files, kept in two ways, that go alike. -/
inductive Alike (Like : σ → τ → Prop) : Except FileError σ → Except FileError τ → Prop where
  | ok {files : σ} {others : τ} (like : Like files others) : Alike Like (.ok files) (.ok others)
  | error (e : FileError) : Alike Like (.error e) (.error e)

namespace Alike

variable {Like : σ → τ → Prop} {files : σ} {others : τ} {done : Except FileError σ}
  {alsoDone : Except FileError τ}

theorem report_eq (alike : Alike Like done alsoDone) : report done = report alsoDone := by
  cases alike with
  | ok like => rfl
  | error e => rfl

theorem leave (alike : Alike Like done alsoDone) (like : Like files others) :
    Like (Script.leave files done) (Script.leave others alsoDone) := by
  cases alike with
  | ok like => exact like
  | error e => exact like

/-- What an attempt can come to on files it can come to on files that are alike. -/
theorem exists_attempt {part : σ → Prop} {alsoPart : τ → Prop} {outcome : Except FileError Unit} {new : σ}
    (alike : Alike Like done alsoDone) (like : Like files others)
    (partly : ∀ mid, part mid → ∃ other, alsoPart other ∧ Like mid other)
    (attempt : Attempt files done part outcome new) :
    ∃ other, Attempt others alsoDone alsoPart outcome other ∧ Like new other := by
  cases attempt with
  | asTheTreeSays => exact ⟨_, alike.report_eq ▸ .asTheTreeSays, alike.leave like⟩
  | fails e => exact ⟨others, .fails e, like⟩
  | breaks e begun =>
    obtain ⟨other, begun, like⟩ := partly _ begun
    exact ⟨other, .breaks e begun, like⟩

end Alike

/-- Ways to keep files that are alike as far as some paths are concerned. -/
structure Simulation [Files σ] [Files τ] (paths : Path → Prop) (Like : σ → τ → Prop) : Prop where
  readFile : ∀ {path files others}, paths path → Like files others →
    Files.readFile files path = Files.readFile others path
  isFolder : ∀ {path files others}, paths path → Like files others →
    Files.isFolder files path = Files.isFolder others path
  isPresent : ∀ {path files others}, paths path → Like files others →
    Files.isPresent files path = Files.isPresent others path
  makeFolder : ∀ {path files others}, paths path → Like files others →
    Alike Like (Files.makeFolder files path) (Files.makeFolder others path)
  writeFile : ∀ {path files others}, paths path → Like files others → ∀ content,
    Alike Like (Files.writeFile files path content) (Files.writeFile others path content)
  renameFile : ∀ {source destination files others}, paths source → paths destination →
    Like files others →
    Alike Like (Files.renameFile files source destination) (Files.renameFile others source destination)
  removeFile : ∀ {path files others}, paths path → Like files others →
    Alike Like (Files.removeFile files path) (Files.removeFile others path)

/-- Outcomes that differ at most in how the files are kept. -/
structure Outcome.Alike (Like : σ → τ → Prop) (outcome : Outcome α σ) (other : Outcome α τ) :
    Prop where
  value : outcome.value = other.value
  store : Like outcome.store other.store
  log : outcome.log = other.log
  printed : outcome.printed = other.printed

namespace Simulation

variable [Files σ] [Files τ] {paths : Path → Prop} {Like : σ → τ → Prop} {script : Script α}
  {reply : Reply} {files new : σ} {others : τ} {result : α}

/-- A script comes to the same on files that are alike. -/
theorem run (simulation : Simulation paths Like) (uses : script.Uses paths)
    (like : Like files others) (reply : Reply) :
    Outcome.Alike Like (script.run reply files) (script.run reply others) := by
  induction script generalizing files others with
  | done value => exact ⟨rfl, like, rfl, rfl⟩
  | readFile path continuation ih =>
    rw [Script.run, Script.run, simulation.readFile uses.1 like]
    exact ih _ (uses.2 _) like
  | isFolder path continuation ih =>
    rw [Script.run, Script.run, simulation.isFolder uses.1 like]
    exact ih _ (uses.2 _) like
  | isPresent path continuation ih =>
    rw [Script.run, Script.run, simulation.isPresent uses.1 like]
    exact ih _ (uses.2 _) like
  | makeFolder path continuation ih =>
    have alike := simulation.makeFolder uses.1 like
    rw [Script.run, Script.run, alike.report_eq]
    exact ih _ (uses.2 _) (alike.leave like)
  | writeFile path content continuation ih =>
    have alike := simulation.writeFile uses.1 like content
    rw [Script.run, Script.run, alike.report_eq]
    exact ih _ (uses.2 _) (alike.leave like)
  | renameFile source destination continuation ih =>
    have alike := simulation.renameFile uses.1 uses.2.1 like
    rw [Script.run, Script.run, alike.report_eq]
    exact ih _ (uses.2.2 _) (alike.leave like)
  | removeFile path continuation ih =>
    have alike := simulation.removeFile uses.1 like
    rw [Script.run, Script.run, alike.report_eq]
    exact ih _ (uses.2 _) (alike.leave like)
  | request address continuation ih => exact ih _ (uses _) like
  | note entry continuation ih =>
    obtain ⟨value, store, log, printed⟩ := ih () (uses ()) like
    exact ⟨value, store, congrArg (entry :: ·) log, printed⟩
  | print text continuation ih =>
    obtain ⟨value, store, log, printed⟩ := ih () (uses ()) like
    exact ⟨value, store, log, congrArg (text ++ ·) printed⟩

/-- What a script comes to on files it comes to on files that are alike. -/
theorem exists_ends {printed : String} (simulation : Simulation paths Like) (uses : script.Uses paths)
    (like : Like files others) (ends : Ends reply script files result new printed) :
    ∃ other, Ends reply script others result other printed ∧ Like new other := by
  obtain ⟨value, rfl, text⟩ := ends.eqs
  have alike := simulation.run uses like reply
  have there := Ends.of_run script reply others
  rw [← alike.value, ← alike.printed, value, text] at there
  exact ⟨_, there, alike.store⟩

theorem exists_ends_of_other {printed : String} {other : τ} (simulation : Simulation paths Like)
    (uses : script.Uses paths) (like : Like files others)
    (ends : Ends reply script others result other printed) :
    ∃ new, Ends reply script files result new printed ∧ Like new other := by
  obtain ⟨value, rfl, text⟩ := ends.eqs
  have alike := simulation.run uses like reply
  have here := Ends.of_run script reply files
  rw [alike.value, alike.printed, value, text] at here
  exact ⟨_, here, alike.store⟩

/-- On a disk that may fail, what a script can come to on files it can come to on files that are alike. -/
theorem exists_mayEnd (simulation : Simulation paths Like) (uses : script.Uses paths)
    (like : Like files others) (ending : MayEnd reply script files result new) :
    ∃ other, MayEnd reply script others result other ∧ Like new other := by
  have noPart (mid : σ) (none : NoPart mid) : ∃ other : τ, NoPart other ∧ Like mid other := none.elim
  induction script generalizing files others with
  | done value =>
    obtain ⟨rfl, rfl⟩ := ending
    exact ⟨others, ⟨rfl, rfl⟩, like⟩
  | readFile path continuation ih =>
    rw [MayEnd, simulation.readFile uses.1 like] at ending
    exact ih _ (uses.2 _) like ending
  | isFolder path continuation ih =>
    rw [MayEnd, simulation.isFolder uses.1 like] at ending
    exact ih _ (uses.2 _) like ending
  | isPresent path continuation ih =>
    rw [MayEnd, simulation.isPresent uses.1 like] at ending
    exact ih _ (uses.2 _) like ending
  | makeFolder path continuation ih =>
    obtain ⟨made, mid, attempt, ending⟩ := ending
    obtain ⟨_, attempt, like⟩ :=
      (simulation.makeFolder uses.1 like).exists_attempt like noPart attempt
    obtain ⟨other, ending, like⟩ := ih _ (uses.2 _) like ending
    exact ⟨other, ⟨made, _, attempt, ending⟩, like⟩
  | writeFile path content continuation ih =>
    obtain ⟨written, mid, attempt, ending⟩ := ending
    -- a part of the content is written alike as well
    have partly (mid : σ) (begun : PartWritten files path mid) :
        ∃ other, PartWritten others path other ∧ Like mid other := by
      obtain ⟨part, begun⟩ := begun
      have alike := simulation.writeFile uses.1 like part
      rw [begun] at alike
      generalize same : Files.writeFile others path part = other at alike
      cases alike with
      | ok like => exact ⟨_, ⟨part, same⟩, like⟩
    obtain ⟨_, attempt, like⟩ :=
      (simulation.writeFile uses.1 like content).exists_attempt like partly attempt
    obtain ⟨other, ending, like⟩ := ih _ (uses.2 _) like ending
    exact ⟨other, ⟨written, _, attempt, ending⟩, like⟩
  | renameFile source destination continuation ih =>
    obtain ⟨renamed, mid, attempt, ending⟩ := ending
    obtain ⟨_, attempt, like⟩ :=
      (simulation.renameFile uses.1 uses.2.1 like).exists_attempt like noPart attempt
    obtain ⟨other, ending, like⟩ := ih _ (uses.2.2 _) like ending
    exact ⟨other, ⟨renamed, _, attempt, ending⟩, like⟩
  | removeFile path continuation ih =>
    have alike := simulation.removeFile uses.1 like
    rw [MayEnd, alike.report_eq] at ending
    exact ih _ (uses.2 _) (alike.leave like) ending
  | request address continuation ih => exact ih _ (uses _) like ending
  | note entry continuation ih => exact ih _ (uses _) like ending
  | print text continuation ih => exact ih _ (uses _) like ending

end Simulation

end RpcStubs
