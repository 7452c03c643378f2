import RpcStubs.Script.Basic

/-!
# Scripts on a store

What a script does when it is carried out on a store, with the one reply that the network gives: its
value, the store that it leaves, what it logged and what it printed. An action that fails leaves the
store as it was.
-/

namespace RpcStubs

/-- What a script comes to, and the state of the files that it leaves. -/
structure Outcome (α : Type) (σ : Type := Store) where
  value : α
  store : σ
  log : List Log.Entry
  printed : String

namespace Script

/-- What an action on files reports about the store that it would leave. -/
def report {σ : Type} : Except FileError σ → Except FileError Unit
  | .ok _ => .ok ()
  | .error e => .error e

/-- The store that an action leaves: a failed one leaves the old store. -/
def leave {σ : Type} (store : σ) : Except FileError σ → σ
  | .ok store => store
  | .error _ => store

/-- Carries a script out on files. -/
def run {α σ : Type} [Files σ] (reply : Reply) : Script α → σ → Outcome α σ
  | .done value, files => ⟨value, files, [], ""⟩
  | .readFile path next, files => (next (Files.readFile files path)).run reply files
  | .isFolder path next, files => (next (Files.isFolder files path)).run reply files
  | .isPresent path next, files => (next (Files.isPresent files path)).run reply files
  | .makeFolder path next, files =>
    (next (report (Files.makeFolder files path))).run reply (leave files (Files.makeFolder files path))
  | .writeFile path content next, files =>
    (next (report (Files.writeFile files path content))).run reply
      (leave files (Files.writeFile files path content))
  | .renameFile source destination next, files =>
    (next (report (Files.renameFile files source destination))).run reply
      (leave files (Files.renameFile files source destination))
  | .removeFile path next, files =>
    (next (report (Files.removeFile files path))).run reply (leave files (Files.removeFile files path))
  | .request _ next, files => (next reply).run reply files
  | .note entry next, files =>
    let outcome := (next ()).run reply files
    { outcome with log := entry :: outcome.log }
  | .print text next, files =>
    let outcome := (next ()).run reply files
    { outcome with printed := text ++ outcome.printed }

end Script

end RpcStubs
