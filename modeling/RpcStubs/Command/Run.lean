import RpcStubs.Command.Arguments
import RpcStubs.Generation
import RpcStubs.Log.Filter
import RpcStubs.Settings.Lookup
import RpcStubs.Text.Replacement

/-!
# The command

A call of the program from its words and its environment to its exit code. A file of variables in
the current folder adds to the environment first. What the program says about itself goes to the
messages: the log lines that the filter shows, then the report or the failure.
-/

namespace RpcStubs.Command

open Script

/-- How a call ends: with a code, and a last message after the log lines. -/
structure Exit where
  code : Nat
  filter : Log.Filter
  message : Option String

def usageText : String :=
  "error: invalid arguments\n\nUsage: rpcgen [OPTIONS] <MODE>\n\n"
    ++ "For more information, try '--help'."

def versionText : String := "rpcgen 0.1.0\n"

def helpText : String :=
  "rpcgen - transforms an OpenRPC method schema into callable client wrappers\n\n"
    ++ "Usage: rpcgen [OPTIONS] <MODE>\n\n"
    ++ "Arguments:\n"
    ++ "  <MODE>  Fetch the schema from its URL, or open the previously saved copy "
    ++ "[possible values: fetch, open]\n\n"
    ++ "Options:\n"
    ++ "  -s, --schema <SCHEMA>  Schema URL (fetch) or file path (open) "
    ++ "overriding the configured one\n"
    ++ "  -o, --output <OUTPUT>  Output file for generated code (defaults to RPCGEN_OUTPUT_PATH)\n"
    ++ "      --dry-run          Print generated code without writing files\n"
    ++ "  -v, --verbose...       Increase verbosity (-v, -vv, -vvv)\n"
    ++ "  -h, --help             Print help\n"
    ++ "  -V, --version          Print version\n"

def variablesFile : String := ".env"

/-- The environment of a call: that of the process, with the variables of the file. -/
def loadEnvironment (environment : Environment) : Script Environment := do
  match ← read (Path.ofString variablesFile) with
  | .ok content => return EnvFile.load environment content
  | .error _ => return environment

/-- The level up to which messages are shown for the count of verbosity options. -/
def levelOf : Nat → Log.Level
  | 0 => .warn
  | 1 => .info
  | 2 => .debug
  | _ => .trace

/-- The filter of a call: that of the environment if it can be read, else that of the options. -/
def filterOf (environment : Environment) (verbosity : Nat) : Log.Filter :=
  ((environment.lookup "RUST_LOG").bind Log.Filter.read?).getD (.upTo (levelOf verbosity))

/-- What makes a terminal write in green. -/
def green : List Char := "\x1b[32m".toList

/-- What makes a terminal write as usual again. -/
def usual : List Char := "\x1b[0m".toList

/-- A text in green: where it goes back to the usual colour, it goes on in green. -/
def inGreen (text : List Char) : List Char :=
  green ++ Text.replaceAll usual (usual ++ green) text ++ usual

/-- A report in green if the environment asks for colours. -/
def coloured (environment : Environment) (text : String) : String :=
  match environment.lookup "CLICOLOR_FORCE" with
  | none => text
  | some value => if value = "0" then text else String.ofList (inGreen text.toList)

def perform (environment : Environment) (call : Call) : Script (Except Failure Report) := do
  match Settings.ofEnvironment environment with
  | .error fault => return .error (.settings fault)
  | .ok settings =>
    log .debug "rpcgen" ("Configuration: " ++ settings.record)
    Module.run settings
      ⟨call.mode, call.schema, call.output.getD settings.outputPath, call.dryRun⟩

def run (environment : Environment) (words : List String) : Script Exit := do
  let environment ← loadEnvironment environment
  match Call.read words with
  | .error .usage => return ⟨2, [], some usageText⟩
  | .error .version =>
    emit versionText
    return ⟨0, [], none⟩
  | .error .help =>
    emit helpText
    return ⟨0, [], none⟩
  | .ok call =>
    let filter := filterOf environment call.verbosity
    match ← perform environment call with
    | .ok report => return ⟨0, filter, some (coloured environment report.text)⟩
    | .error failure => return ⟨1, filter, some ("Error: " ++ failure.record)⟩

/-- All messages of a call that has ended, line by line: the log lines that the filter shows, then
the last message. -/
def messages (exit : Exit) (entries : List Log.Entry) : List String :=
  let shown := (entries.filter exit.filter.shows).map (·.line) ++ exit.message.toList
  let text := String.join (shown.map (· ++ "\n"))
  (Text.lines text.toList).map String.ofList

end RpcStubs.Command
