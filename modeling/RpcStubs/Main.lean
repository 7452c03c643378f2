import RpcStubs.Command.Run

/-!
# The command line

Carries the program out on the files of the computer, with the arguments and the environment of the
process. What to do is decided by the command's script; here each of its actions becomes one call of
the system, and each failure of such a call becomes the error that the script continues with. No
connection is ever opened: whatever is asked of the network counts as refused.
-/

namespace RpcStubs.Disk

/-- The error with a number and a wording as some calls give them: the number may be negated, and
the wording may begin with a small letter. -/
def numbered (code : UInt32) (text : String) : FileError :=
  .ofCode (if code < 0x80000000 then code else -code).toNat text.capitalize

def fileError : IO.Error → FileError
  | .alreadyExists _ code text | .otherError code text | .resourceBusy code text
  | .resourceVanished code text | .unsupportedOperation code text | .hardwareFault code text
  | .unsatisfiedConstraints code text | .illegalOperation code text | .protocolError code text
  | .timeExpired code text | .interrupted _ code text | .noFileOrDirectory _ code text
  | .invalidArgument _ code text | .permissionDenied _ code text | .resourceExhausted _ code text
  | .inappropriateType _ code text | .noSuchThing _ code text => numbered code text
  | .unexpectedEof => .other 0 "unexpected end of file"
  | .userError text => .other 0 text

def contentOf (text : String) : IO ByteArray := do
  let file ← IO.FS.Handle.mk text .read
  file.readBinToEnd

/-- Makes a call of the system with the text of a path. A name with a NUL never reaches the system.
-/
def call {α : Type} (path : Path) (action : String → IO α) : IO (Except FileError α) := do
  if path.text.toList.contains '\x00' then return .error .nulInName
  else return (← (action path.text).toBaseIO).mapError fileError

def isPresent (path : Path) : IO Bool := do
  return (← call path fun (text : String) => do
    let _ ← IO.FS.realPath text).toOption.isSome

def isFolder (path : Path) : IO Bool := do
  if path.text = "" then return false
  else
    return (← call path fun (text : String) => do
      let _ ← IO.FS.realPath (text ++ "/.")).toOption.isSome

/-- Removes a file. A folder is left alone, also an empty one. -/
def removeFile (path : Path) : IO (Except FileError Unit) := do
  if ← isFolder path then return .error .isAFolder
  else call path fun (text : String) => IO.FS.removeFile text

/-- Carries a script out on the files of the computer, and gives its value and what it logged. -/
def run {α : Type} : Script α → IO (α × List Log.Entry)
  | .done value => return (value, [])
  | .readFile path next => do
    run (next (← call path contentOf))
  | .isFolder path next => do run (next (← isFolder path))
  | .isPresent path next => do run (next (← isPresent path))
  | .makeFolder path next => do
    run (next (← call path fun (text : String) => IO.FS.createDir text))
  | .writeFile path content next => do
    run (next (← call path fun (text : String) => IO.FS.writeBinFile text content))
  | .renameFile source destination next => do
    if destination.text.toList.contains '\x00' then run (next (.error .nulInName))
    else
      run (next (← call source fun (text : String) => IO.FS.rename text destination.text))
  | .removeFile path next => do run (next (← removeFile path))
  | .request _ next => run (next .refused)
  | .note entry next => do
    let (value, entries) ← run (next ())
    return (value, entry :: entries)
  | .print text next => do
    IO.print text
    run (next ())

/-! ## The environment of the process -/

/-- The file in which the system shows the environment of the process. -/
def environmentFile : Path := .ofString "/proc/self/environ"

/-- The environment in a block of bytes that gives every variable as a name and a value with an
equals sign between them, and a NUL after each variable. -/
def readEnvironment (block : ByteArray) : Environment :=
  (block.toList.splitOnP (· == 0)).filterMap fun (assignment : List UInt8) => do
    let text := (← String.fromUTF8? ⟨assignment.toArray⟩).toList
    let name := text.takeWhile (· ≠ '=')
    if name.length < text.length then
      return (String.ofList name, String.ofList (text.drop (name.length + 1)))
    else none

def environment : IO Environment := do
  match ← call environmentFile contentOf with
  | .ok block => return readEnvironment block
  | .error _ => return []

end RpcStubs.Disk

/-- Runs the program: what it says about itself goes to the error output. -/
def main (words : List String) : IO UInt32 := do
  let (exit, entries) ←
    RpcStubs.Disk.run (RpcStubs.Command.run (← RpcStubs.Disk.environment) words)
  let errorOutput ← IO.getStderr
  for line in RpcStubs.Command.messages exit entries do
    errorOutput.putStrLn line
  return UInt32.ofNat exit.code
