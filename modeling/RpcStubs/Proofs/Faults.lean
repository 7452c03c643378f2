import RpcStubs.Proofs.Store.Changes
import RpcStubs.Script.Run

/-! # Disks that may fail

Carried out on a store, an action on files fails only for what is in the tree.  On a disk it may fail at
any time as well: `Script.MayEnd` says what a script can come to then.  To make a folder, to write a file
and to move one can fail with any error, and a file whose writing fails may hold something else than
what was to be written; looking at the tree and removing a file go as the tree says.  `Script.CutOff` says what
there can be on such a disk when a script is cut off in the middle.

Which places a script acts at can be told from the script (`Script.ActsAt`).  Whatever fails and wherever
it is cut off, it changes nothing elsewhere.
-/

namespace RpcStubs

variable {α β : Type}

namespace Script

/-! ## Attempts -/

/-- How an attempt can go: as the tree says, or it fails and leaves the old store or, of a kind of work
that is not done at once, a part of the work. -/
inductive Attempt {σ : Type} (old : σ) (whole : Except FileError σ) (part : σ → Prop) :
    Except FileError Unit → σ → Prop where
  | asTheTreeSays : Attempt old whole part (report whole) (leave old whole)
  | fails (e : FileError) : Attempt old whole part (.error e) old
  | breaks (e : FileError) {mid : σ} (begun : part mid) : Attempt old whole part (.error e) mid

namespace Attempt

variable {σ : Type} {old mid : σ} {whole : Except FileError σ} {part : σ → Prop}

theorem eq_ok (attempt : Attempt old whole part (.ok ()) mid) : whole = .ok mid := by
  generalize outcome : (.ok () : Except FileError Unit) = reported at attempt
  cases attempt with
  | asTheTreeSays =>
    cases whole with
    | error e => cases outcome
    | ok new => rfl
  | fails e => cases outcome
  | breaks e begun => cases outcome

/-- What is left of an attempt that failed. -/
theorem of_error {e : FileError} (attempt : Attempt old whole part (.error e) mid) :
    mid = old ∨ part mid := by
  generalize outcome : (.error e : Except FileError Unit) = reported at attempt
  cases attempt with
  | asTheTreeSays =>
    cases whole with
    | error e => exact .inl rfl
    | ok new => cases outcome
  | fails e => exact .inl rfl
  | breaks e begun => exact .inr begun

end Attempt

/-- Work that is done at once or not at all. -/
def NoPart {σ : Type} (_ : σ) : Prop :=
  False

/-- A file that is not written to its end holds something. -/
def PartWritten {σ : Type} [Files σ] (old : σ) (path : Path) (mid : σ) : Prop :=
  ∃ content, Files.writeFile old path content = .ok mid

/-- On a disk that may fail, a script can come to a value and leave files. -/
def MayEnd {σ : Type} [Files σ] (reply : Reply) : Script α → σ → α → σ → Prop
  | .done value, old, result, new => result = value ∧ new = old
  | .readFile path next, old, result, new =>
    (next (Files.readFile old path)).MayEnd reply old result new
  | .isFolder path next, old, result, new =>
    (next (Files.isFolder old path)).MayEnd reply old result new
  | .isPresent path next, old, result, new =>
    (next (Files.isPresent old path)).MayEnd reply old result new
  | .makeFolder path next, old, result, new =>
    ∃ made mid, Attempt old (Files.makeFolder old path) NoPart made mid ∧
      (next made).MayEnd reply mid result new
  | .writeFile path content next, old, result, new =>
    ∃ written mid, Attempt old (Files.writeFile old path content) (PartWritten old path) written mid ∧
      (next written).MayEnd reply mid result new
  | .renameFile source destination next, old, result, new =>
    ∃ renamed mid, Attempt old (Files.renameFile old source destination) NoPart renamed mid ∧
      (next renamed).MayEnd reply mid result new
  | .removeFile path next, old, result, new =>
    (next (report (Files.removeFile old path))).MayEnd reply (leave old (Files.removeFile old path))
      result new
  | .request _ next, old, result, new => (next reply).MayEnd reply old result new
  | .note _ next, old, result, new => (next ()).MayEnd reply old result new
  | .print _ next, old, result, new => (next ()).MayEnd reply old result new

section

variable {σ : Type} [Files σ] {script : Script α} {next : α → Script β} {reply : Reply}
  {old new cut : σ} {value : α} {result : β}

/-- One script after another can come to what the second can from where the first can end. -/
theorem mayEnd_bind : MayEnd reply (script >>= next) old result new ↔
    ∃ value mid, MayEnd reply script old value mid ∧ MayEnd reply (next value) mid result new := by
  show MayEnd reply (script.bind next) old result new ↔ _
  induction script generalizing old with
  | done value => simp [bind, MayEnd]
  | readFile path continuation ih => exact ih _
  | isFolder path continuation ih => exact ih _
  | isPresent path continuation ih => exact ih _
  | removeFile path continuation ih => exact ih _
  | request address continuation ih => exact ih _
  | note entry continuation ih => exact ih _
  | print text continuation ih => exact ih _
  | makeFolder path continuation ih =>
    simp only [bind, MayEnd, ih]
    grind
  | writeFile path content continuation ih =>
    simp only [bind, MayEnd, ih]
    grind
  | renameFile source destination continuation ih =>
    simp only [bind, MayEnd, ih]
    grind

/-- A script can come to what it comes to when nothing fails. -/
theorem mayEnd_run (script : Script α) (reply : Reply) (files : σ) :
    MayEnd reply script files (script.run reply files).value (script.run reply files).store := by
  induction script generalizing files with
  | done value => exact ⟨rfl, rfl⟩
  | readFile path continuation ih => exact ih _ _
  | isFolder path continuation ih => exact ih _ _
  | isPresent path continuation ih => exact ih _ _
  | makeFolder path continuation ih => exact ⟨_, _, .asTheTreeSays, ih _ _⟩
  | writeFile path content continuation ih => exact ⟨_, _, .asTheTreeSays, ih _ _⟩
  | renameFile source destination continuation ih => exact ⟨_, _, .asTheTreeSays, ih _ _⟩
  | removeFile path continuation ih => exact ih _ _
  | request address continuation ih => exact ih _ _
  | note entry continuation ih => exact ih _ _
  | print text continuation ih => exact ih _ _

/-! ## Interruptions -/

/-- On a disk that may fail, a script that is cut off somewhere can leave a store.  It is cut off before
or after an action, or while it writes a file, which then holds something. -/
def CutOff {σ : Type} [Files σ] (reply : Reply) : Script α → σ → σ → Prop
  | .done _, old, cut => cut = old
  | .readFile path next, old, cut => (next (Files.readFile old path)).CutOff reply old cut
  | .isFolder path next, old, cut => (next (Files.isFolder old path)).CutOff reply old cut
  | .isPresent path next, old, cut => (next (Files.isPresent old path)).CutOff reply old cut
  | .makeFolder path next, old, cut =>
    cut = old ∨ ∃ made mid, Attempt old (Files.makeFolder old path) NoPart made mid ∧
      (next made).CutOff reply mid cut
  | .writeFile path content next, old, cut =>
    cut = old ∨ PartWritten old path cut ∨
      ∃ written mid, Attempt old (Files.writeFile old path content) (PartWritten old path) written mid ∧
        (next written).CutOff reply mid cut
  | .renameFile source destination next, old, cut =>
    cut = old ∨ ∃ renamed mid,
      Attempt old (Files.renameFile old source destination) NoPart renamed mid ∧
        (next renamed).CutOff reply mid cut
  | .removeFile path next, old, cut =>
    cut = old ∨ (next (report (Files.removeFile old path))).CutOff reply
      (leave old (Files.removeFile old path)) cut
  | .request _ next, old, cut => (next reply).CutOff reply old cut
  | .note _ next, old, cut => (next ()).CutOff reply old cut
  | .print _ next, old, cut => (next ()).CutOff reply old cut

theorem cutOff_start (script : Script α) (reply : Reply) (files : σ) :
    CutOff reply script files files := by
  induction script with
  | done value => rfl
  | readFile path continuation ih => exact ih _
  | isFolder path continuation ih => exact ih _
  | isPresent path continuation ih => exact ih _
  | makeFolder path continuation ih => exact .inl rfl
  | writeFile path content continuation ih => exact .inl rfl
  | renameFile source destination continuation ih => exact .inl rfl
  | removeFile path continuation ih => exact .inl rfl
  | request address continuation ih => exact ih _
  | note entry continuation ih => exact ih _
  | print text continuation ih => exact ih _

/-- A script can be cut off at its end. -/
theorem MayEnd.cutOff (ending : MayEnd reply script old value new) : CutOff reply script old new := by
  induction script generalizing old with
  | done value => exact ending.2
  | readFile path continuation ih => exact ih _ ending
  | isFolder path continuation ih => exact ih _ ending
  | isPresent path continuation ih => exact ih _ ending
  | makeFolder path continuation ih =>
    obtain ⟨made, mid, attempt, ending⟩ := ending
    exact .inr ⟨made, mid, attempt, ih _ ending⟩
  | writeFile path content continuation ih =>
    obtain ⟨written, mid, attempt, ending⟩ := ending
    exact .inr (.inr ⟨written, mid, attempt, ih _ ending⟩)
  | renameFile source destination continuation ih =>
    obtain ⟨renamed, mid, attempt, ending⟩ := ending
    exact .inr ⟨renamed, mid, attempt, ih _ ending⟩
  | removeFile path continuation ih => exact .inr (ih _ ending)
  | request address continuation ih => exact ih _ ending
  | note entry continuation ih => exact ih _ ending
  | print text continuation ih => exact ih _ ending

/-- One script after another is cut off in the first, or in the second from where the first can end. -/
theorem cutOff_bind : CutOff reply (script >>= next) old cut ↔ CutOff reply script old cut ∨
    ∃ value mid, MayEnd reply script old value mid ∧ CutOff reply (next value) mid cut := by
  show CutOff reply (script.bind next) old cut ↔ _
  induction script generalizing old with
  | done value =>
    -- the end of the first script is the beginning of the second
    have start : cut = old → CutOff reply (next value) old cut := by
      rintro rfl
      exact cutOff_start _ _ _
    simpa [bind, CutOff, MayEnd] using start
  | readFile path continuation ih => exact ih _
  | isFolder path continuation ih => exact ih _
  | isPresent path continuation ih => exact ih _
  | removeFile path continuation ih =>
    simp only [bind, CutOff, MayEnd, ih, or_assoc]
  | request address continuation ih => exact ih _
  | note entry continuation ih => exact ih _
  | print text continuation ih => exact ih _
  | makeFolder path continuation ih =>
    simp only [bind, CutOff, MayEnd, ih]
    grind
  | writeFile path content continuation ih =>
    simp only [bind, CutOff, MayEnd, ih]
    grind
  | renameFile source destination continuation ih =>
    simp only [bind, CutOff, MayEnd, ih]
    grind

end

/-! ## Where a script acts -/

/-- Whatever its actions come to, a script makes folders only at the places `folders`, changes files
only at the places `files` and prints nothing. -/
def ActsAt (files folders : List Place) : Script α → Prop
  | .done _ => True
  | .readFile _ next => ∀ outcome, (next outcome).ActsAt files folders
  | .isFolder _ next => ∀ outcome, (next outcome).ActsAt files folders
  | .isPresent _ next => ∀ outcome, (next outcome).ActsAt files folders
  | .makeFolder path next =>
    path.place ∈ folders ∧ ∀ outcome, (next outcome).ActsAt files folders
  | .writeFile path _ next => path.place ∈ files ∧ ∀ outcome, (next outcome).ActsAt files folders
  | .renameFile source destination next =>
    source.place ∈ files ∧ destination.place ∈ files ∧ ∀ outcome, (next outcome).ActsAt files folders
  | .removeFile path next => path.place ∈ files ∧ ∀ outcome, (next outcome).ActsAt files folders
  | .request _ next => ∀ outcome, (next outcome).ActsAt files folders
  | .note _ next => ∀ outcome, (next outcome).ActsAt files folders
  | .print _ _ => False

variable {script : Script α} {next : α → Script β} {reply : Reply} {old mid new cut : Store} {value : α}
  {whole : Except FileError Store} {part : Store → Prop} {outcome : Except FileError Unit}
  {files folders : List Place}

namespace ActsAt

theorem done (files folders : List Place) (value : α) : ActsAt files folders (pure value) :=
  trivial

theorem bind (first : ActsAt files folders script)
    (then_ : ∀ value, ActsAt files folders (next value)) : ActsAt files folders (script >>= next) := by
  show ActsAt files folders (script.bind next)
  induction script with
  | done value => exact then_ value
  | readFile path continuation ih => exact fun outcome => ih outcome (first outcome)
  | isFolder path continuation ih => exact fun outcome => ih outcome (first outcome)
  | isPresent path continuation ih => exact fun outcome => ih outcome (first outcome)
  | makeFolder path continuation ih =>
    exact ⟨first.1, fun outcome => ih outcome (first.2 outcome)⟩
  | writeFile path content continuation ih =>
    exact ⟨first.1, fun outcome => ih outcome (first.2 outcome)⟩
  | renameFile source destination continuation ih =>
    exact ⟨first.1, first.2.1, fun outcome => ih outcome (first.2.2 outcome)⟩
  | removeFile path continuation ih =>
    exact ⟨first.1, fun outcome => ih outcome (first.2 outcome)⟩
  | request address continuation ih => exact fun outcome => ih outcome (first outcome)
  | note entry continuation ih => exact fun outcome => ih outcome (first outcome)
  | print text continuation ih => exact first.elim

theorem printed_eq {σ : Type} [Files σ] (actsAt : ActsAt files folders script) (reply : Reply)
    (tree : σ) : (script.run reply tree).printed = "" := by
  induction script generalizing tree with
  | done value => rfl
  | readFile path continuation ih => exact ih _ (actsAt _) _
  | isFolder path continuation ih => exact ih _ (actsAt _) _
  | isPresent path continuation ih => exact ih _ (actsAt _) _
  | makeFolder path continuation ih => exact ih _ (actsAt.2 _) _
  | writeFile path content continuation ih => exact ih _ (actsAt.2 _) _
  | renameFile source destination continuation ih => exact ih _ (actsAt.2.2 _) _
  | removeFile path continuation ih => exact ih _ (actsAt.2 _) _
  | request address continuation ih => exact ih _ (actsAt _) _
  | note entry continuation ih => exact ih _ (actsAt _) _
  | print text continuation ih => exact actsAt.elim

end ActsAt

/-- An attempt is within bounds if the whole and every part of it are. -/
theorem Attempt.confined (attempt : Attempt old whole part outcome mid)
    (done : ∀ new, whole = .ok new → Store.Confined files folders old new)
    (partly : ∀ new, part new → Store.Confined files folders old new) :
    Store.Confined files folders old mid := by
  cases attempt with
  | asTheTreeSays =>
    cases attempted : whole with
    | error e => exact .refl files folders old
    | ok new => exact done new attempted
  | fails e => exact .refl files folders old
  | breaks e begun => exact partly mid begun

/-- Wherever it is cut off, what a script leaves differs from what was there at most where the script
acts. -/
theorem ActsAt.confined_cutOff (actsAt : ActsAt files folders script)
    (cutting : CutOff reply script old cut) : Store.Confined files folders old cut := by
  have single {place : Place} {places : List Place} (member : place ∈ places) :
      [place] ⊆ places := by simpa using member
  induction script generalizing old with
  | done result =>
    obtain rfl : cut = old := cutting
    exact .refl files folders cut
  | readFile path continuation ih => exact ih _ (actsAt _) cutting
  | isFolder path continuation ih => exact ih _ (actsAt _) cutting
  | isPresent path continuation ih => exact ih _ (actsAt _) cutting
  | makeFolder path continuation ih =>
    rcases cutting with rfl | ⟨made, mid, attempt, cutting⟩
    · exact .refl files folders cut
    refine (attempt.confined (fun new made => ?_) fun _ => False.elim).trans (ih _ (actsAt.2 _) cutting)
    exact (Store.confined_makeFolder made).mono (List.nil_subset _) (single actsAt.1)
  | writeFile path content continuation ih =>
    have writing (content : ByteArray) (new : Store) (written : old.writeFile path content = .ok new) :
        Store.Confined files folders old new :=
      (Store.confined_writeFile written).mono (single actsAt.1) (List.nil_subset _)
    have partly (new : Store) (begun : PartWritten old path new) :
        Store.Confined files folders old new := by
      obtain ⟨other, written⟩ := begun
      exact writing other new written
    rcases cutting with rfl | begun | ⟨written, mid, attempt, cutting⟩
    · exact .refl files folders cut
    · exact partly cut begun
    · exact (attempt.confined (writing content) partly).trans (ih _ (actsAt.2 _) cutting)
  | renameFile source destination continuation ih =>
    rcases cutting with rfl | ⟨renamed, mid, attempt, cutting⟩
    · exact .refl files folders cut
    refine (attempt.confined (fun new renamed => ?_) fun _ => False.elim).trans
      (ih _ (actsAt.2.2 _) cutting)
    refine (Store.confined_renameFile renamed).mono ?_ (List.nil_subset _)
    exact List.cons_subset.2 ⟨actsAt.1, single actsAt.2.1⟩
  | removeFile path continuation ih =>
    rcases cutting with rfl | cutting
    · exact .refl files folders cut
    have attempt : Attempt old (old.removeFile path) NoPart _ _ := .asTheTreeSays
    refine (attempt.confined (fun new removed => ?_) fun _ => False.elim).trans (ih _ (actsAt.2 _) cutting)
    exact (Store.confined_removeFile removed).mono (single actsAt.1) (List.nil_subset _)
  | request address continuation ih => exact ih _ (actsAt _) cutting
  | note entry continuation ih => exact ih _ (actsAt _) cutting
  | print text continuation ih => exact actsAt.elim

theorem ActsAt.confined (actsAt : ActsAt files folders script)
    (mayEnd : MayEnd reply script old value new) : Store.Confined files folders old new :=
  actsAt.confined_cutOff mayEnd.cutOff

end Script

end RpcStubs
