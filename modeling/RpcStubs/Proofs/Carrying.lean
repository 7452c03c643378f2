import RpcStubs.Proofs.Faults

/-! # Carrying scripts out

A script that consists of two is carried out one after the other: `Script.run_bind`.  What a script
comes to can therefore be derived part by part (`Script.Ends`).  It is one of the ends that the script
may come to on a disk that may fail (`Script.Ends.mayEnd`).
-/

namespace RpcStubs

variable {α β σ : Type}

/-- One outcome followed by another, which has the last word. -/
def Outcome.followedBy (first : Outcome α σ) (second : Outcome β σ) : Outcome β σ :=
  ⟨second.value, second.store, first.log ++ second.log, first.printed ++ second.printed⟩

namespace Script

variable [Files σ] {script : Script α} {next : α → Script β} {reply : Reply} {files : σ}

theorem run_bind (script : Script α) (next : α → Script β) (reply : Reply) (files : σ) :
    (script >>= next).run reply files =
      (script.run reply files).followedBy
        ((next (script.run reply files).value).run reply (script.run reply files).store) := by
  show (script.bind next).run reply files = _
  induction script generalizing files with
  | done value => simp [bind, run, Outcome.followedBy]
  | readFile path continuation ih => exact ih _ _
  | isFolder path continuation ih => exact ih _ _
  | isPresent path continuation ih => exact ih _ _
  | makeFolder path continuation ih => exact ih _ _
  | writeFile path content continuation ih => exact ih _ _
  | renameFile source destination continuation ih => exact ih _ _
  | removeFile path continuation ih => exact ih _ _
  | request address continuation ih => exact ih _ _
  | note entry continuation ih => simp [bind, run, ih, Outcome.followedBy]
  | print text continuation ih => simp [bind, run, ih, Outcome.followedBy, String.append_assoc]

/-! ## What a script comes to -/

/-- Carried out on files, a script comes to a value, leaves files and prints a text, whatever it
logs on the way. -/
def Ends (reply : Reply) (script : Script α) (old : σ) (value : α) (new : σ)
    (printed : String) : Prop :=
  ∃ log, script.run reply old = ⟨value, new, log, printed⟩

namespace Ends

variable {old mid new : σ} {value : α} {result : β} {printed more : String}

theorem of_run (script : Script α) (reply : Reply) (files : σ) :
    Ends reply script files (script.run reply files).value (script.run reply files).store
      (script.run reply files).printed :=
  ⟨_, rfl⟩

theorem eqs (ends : Ends reply script old value new printed) :
    (script.run reply old).value = value ∧ (script.run reply old).store = new ∧
      (script.run reply old).printed = printed := by
  obtain ⟨log, outcome⟩ := ends
  rw [outcome]
  exact ⟨rfl, rfl, rfl⟩

theorem mayEnd (ends : Ends reply script old value new printed) : MayEnd reply script old value new := by
  obtain ⟨rfl, rfl, -⟩ := ends.eqs
  exact mayEnd_run script reply old

theorem done (reply : Reply) (value : α) (files : σ) :
    Ends reply (pure value) files value files "" :=
  ⟨[], rfl⟩

theorem bind (first : Ends reply script old value mid printed)
    (second : Ends reply (next value) mid result new more) :
    Ends reply (script >>= next) old result new (printed ++ more) := by
  obtain ⟨log, first⟩ := first
  obtain ⟨moreLog, second⟩ := second
  refine ⟨log ++ moreLog, ?_⟩
  rw [run_bind, first, second]
  rfl

/-- What prints nothing can follow without a trace in what is printed. -/
theorem bind_silent (first : Ends reply script old value mid printed)
    (second : Ends reply (next value) mid result new "") :
    Ends reply (script >>= next) old result new printed :=
  String.append_empty (s := printed) ▸ first.bind second

theorem silent_bind (first : Ends reply script old value mid "")
    (second : Ends reply (next value) mid result new more) :
    Ends reply (script >>= next) old result new more :=
  String.empty_append (s := more) ▸ first.bind second

theorem log (reply : Reply) (level : Log.Level) (origin message : String) (files : σ) :
    Ends reply (Script.log level origin message) files () files "" :=
  ⟨[{ level, origin, message }], rfl⟩

theorem logWith (reply : Reply) (values : List String) (level : Log.Level) (origin message : String)
    (files : σ) : Ends reply (Script.logWith values level origin message) files () files "" :=
  ⟨[{ level, origin, message, values }], rfl⟩

theorem ask (reply : Reply) (address : String) (files : σ) :
    Ends reply (Script.ask address) files reply files "" :=
  ⟨[], rfl⟩

theorem read (reply : Reply) (path : Path) (files : σ) :
    Ends reply (Script.read path) files (Files.readFile files path) files "" :=
  ⟨[], rfl⟩

theorem look (reply : Reply) (path : Path) (files : σ) :
    Ends reply (Script.folder? path) files (Files.isFolder files path) files "" :=
  ⟨[], rfl⟩

theorem make_error {path : Path} {e : FileError} (reply : Reply)
    (failed : Files.makeFolder files path = .error e) :
    Ends reply (Script.make path) files (.error e) files "" := by
  refine ⟨[], ?_⟩
  simp only [Script.make, run, failed, report, leave]

theorem write_ok {path : Path} {content : ByteArray} (reply : Reply)
    (written : Files.writeFile files path content = .ok new) :
    Ends reply (Script.write path content) files (.ok ()) new "" := by
  refine ⟨[], ?_⟩
  simp only [Script.write, run, written, report, leave]

theorem rename_ok {source destination : Path} (reply : Reply)
    (renamed : Files.renameFile files source destination = .ok new) :
    Ends reply (Script.rename source destination) files (.ok ()) new "" := by
  refine ⟨[], ?_⟩
  simp only [Script.rename, run, renamed, report, leave]

theorem emit (reply : Reply) (text : String) (files : σ) :
    Ends reply (Script.emit text) files () files text :=
  ⟨[], by simp [Script.emit, run]⟩

end Ends

end Script

end RpcStubs
