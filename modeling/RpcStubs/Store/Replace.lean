import RpcStubs.Script.Basic

/-!
# Replacing a file at once

New content is prepared beside the file and then moved over it, so that whoever looks at the file
sees all of the old content or all of the new. Missing folders are made first. When a step fails,
what was prepared is removed again.
-/

namespace RpcStubs

open Script

/-- The origin of what is logged here. -/
def replaceOrigin : String := "rpcgen_gen::output"

/-- Makes the first of the folders, and before it the missing ones among the others, each of which
holds the one before it. It is enough that the folder is there in the end. -/
def ensureFolder : List Path → Script (Except FileError Unit)
  | [] => pure (.ok ())
  | folder :: above => do
    match ← make folder with
    | .ok () => return .ok ()
    | .error .notFound =>
      match ← ensureFolder above with
      | .error e => return .error e
      | .ok () =>
        match ← make folder with
        | .ok () => return .ok ()
        | .error e => if ← folder? folder then return .ok () else return .error e
    | .error e => if ← folder? folder then return .ok () else return .error e

/-- Makes the folder that holds what a path names. -/
def ensureParent (path : Path) : Script (Except FileError Unit) :=
  ensureFolder path.above.reverse

/-- Removes what was prepared, if there is any of it. -/
def discard (prepared : Path) : Script Unit := do
  if ← present? prepared then
    match ← remove prepared with
    | .ok () => return ()
    | .error e =>
      log .debug replaceOrigin
        ("Failed to remove temp file " ++ prepared.text ++ ": " ++ e.message)

/-- Puts content at a path, all of it or nothing. -/
def replaceFile (path : Path) (content : String) : Script (Except FileError Unit) := do
  match ← ensureParent path with
  | .error e => return .error e
  | .ok () =>
    match ← write path.staging content.toUTF8 with
    | .error e =>
      discard path.staging
      return .error e
    | .ok () =>
      match ← rename path.staging path with
      | .error e =>
        discard path.staging
        return .error e
      | .ok () =>
        log .debug replaceOrigin
          ("Wrote " ++ toString content.utf8ByteSize ++ " bytes to " ++ path.text)
        return .ok ()

end RpcStubs
