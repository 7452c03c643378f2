import RpcStubs.Module
import RpcStubs.Source

/-!
# Generating a module

One run goes from the schema to the module in a line: the settings are checked, the document is
loaded, all stubs are built and checked, and only then is the module printed or written. A failure
at any stage ends the run.
-/

namespace RpcStubs

open Script

/-- What a successful run did. -/
structure Report where
  methodCount : Nat
  outputPath : String
  dryRun : Bool
  deriving DecidableEq, Repr

def Report.text (report : Report) : String :=
  if report.dryRun then
    "Rendered " ++ toString report.methodCount ++ " methods (dry run, " ++ report.outputPath
      ++ " not written)"
  else
    "Generated " ++ toString report.methodCount ++ " methods to " ++ report.outputPath

/-- What a run is asked to do. -/
structure Order where
  mode : Mode
  location : Option String
  outputPath : String
  /-- Whether the module is printed and not written. -/
  dryRun : Bool
  deriving DecidableEq, Repr

namespace Module

def origin : String := "rpcgen_gen::driver"

def print (parts : Module) : Script (Except Failure Unit) := do
  emit parts.text
  return .ok ()

def write (path : String) (parts : Module) : Script (Except Failure Unit) := do
  match ← replaceFile (Path.ofString path) parts.text with
  | .error e => return .error (.outputWrite path e)
  | .ok () => return .ok ()

def writeAndLog (path : String) (parts : Module) : Script (Except Failure Unit) := do
  match ← parts.write path with
  | .error e => return .error e
  | .ok () =>
    log .info origin
      ("Wrote " ++ toString parts.functions.length ++ " methods to " ++ path)
    return .ok ()

def run (settings : Settings) (order : Order) : Script (Except Failure Report) := do
  match settings.check with
  | .error e => return .error e
  | .ok () =>
    match ← (Source.resolve order.mode order.location settings).load with
    | .error e => return .error e
    | .ok document =>
      match ofDocument settings document with
      | .error e => return .error e
      | .ok parts =>
        match ← if order.dryRun then parts.print else parts.writeAndLog order.outputPath with
        | .error e => return .error e
        | .ok () => return .ok ⟨parts.functions.length, order.outputPath, order.dryRun⟩

end Module

end RpcStubs
