import RpcStubs.Failure
import RpcStubs.Script.Basic
import RpcStubs.Settings.Basic
import RpcStubs.Text.Count
import RpcStubs.Text.LetterCase

/-!
# Settings from variables

Every setting has a variable of its own, which replaces the built-in value when it is set. A
variable that is set to blanks is refused, and so is a timeout or a flag that cannot be read. The
variables are looked at in a fixed order, and the first one that is refused decides.
-/

namespace RpcStubs.Settings

/-! ## Names of variables -/

def endpointKey : String := "RPCGEN_DEFAULT_ENDPOINT"

def timeoutKey : String := "RPCGEN_DEFAULT_TIMEOUT"

def schemaUrlKey : String := "RPCGEN_SCHEMA_URL"

def schemaPathKey : String := "RPCGEN_SCHEMA_PATH"

def outputPathKey : String := "RPCGEN_OUTPUT_PATH"

def docLinkKey : String := "RPCGEN_API_DOC_LINK"

def transportModuleKey : String := "RPCGEN_TRANSPORT_MODULE"

def exceptionsModuleKey : String := "RPCGEN_EXCEPTIONS_MODULE"

def snakeCaseKey : String := "RPCGEN_SNAKE_CASE"

/-! ## Values -/

/-- Reads a timeout: a positive number of seconds, with blanks around it or not. -/
def readTimeout (value : String) : Except SettingFault UInt64 :=
  match Text.readCount? (Text.trim value.toList) with
  | none => .error (.badTimeout timeoutKey value)
  | some seconds => if seconds = 0 then .error (.zeroTimeout timeoutKey) else .ok seconds

/-- Reads a flag, in upper or lower case, with blanks around it or not. -/
def readFlag (key value : String) : Except SettingFault Bool :=
  let word := String.ofList (Text.lowercase (Text.trim value.toList))
  if ["true", "1", "yes"].contains word then .ok true
  else if ["false", "0", "no"].contains word then .ok false
  else .error (.badFlag key value)

/-- The value of a variable, or of the setting if the variable is not set. -/
def lookUp {α : Type} (lookup : String → Option String) (key : String)
    (read : String → Except SettingFault α) (unset : α) : Except SettingFault α :=
  match lookup key with
  | none => .ok unset
  | some value =>
    if (Text.trim value.toList).isEmpty then .error (.blank key) else read value

/-- The settings that variables give. -/
def ofLookup (lookup : String → Option String) : Except SettingFault Settings := do
  let endpoint ← lookUp lookup endpointKey .ok default.endpoint
  let timeout ← lookUp lookup timeoutKey readTimeout default.timeout
  let schemaUrl ← lookUp lookup schemaUrlKey .ok default.schemaUrl
  let schemaPath ← lookUp lookup schemaPathKey .ok default.schemaPath
  let outputPath ← lookUp lookup outputPathKey .ok default.outputPath
  let docLink ← lookUp lookup docLinkKey .ok default.docLink
  let transportModule ← lookUp lookup transportModuleKey .ok default.transportModule
  let exceptionsModule ← lookUp lookup exceptionsModuleKey .ok default.exceptionsModule
  let snakeCase ← lookUp lookup snakeCaseKey (readFlag snakeCaseKey) default.snakeCase
  return { endpoint, timeout, schemaUrl, schemaPath, outputPath, docLink, transportModule,
           exceptionsModule, snakeCase }

def ofEnvironment (environment : Environment) : Except SettingFault Settings :=
  ofLookup fun (key : String) => environment.lookup key

/-- The settings that the environment and the content of a file give. A variable of the environment
goes before the file, and of several assignments in the file the last one counts. -/
def ofFile (environment : Environment) (path : String) (content : ByteArray) :
    Except SettingFault Settings :=
  match EnvFile.read environment content with
  | .error e => .error (.badFile path e)
  | .ok assignments =>
    ofLookup fun (key : String) =>
      match environment.lookup key with
      | some value => some value
      | none => assignments.reverse.lookup key

def load (environment : Environment) (path : String) : Script (Except Failure Settings) := do
  match ← Script.read (Path.ofString path) with
  | .error e => return .error (.settings (.badFile path (.unreadable e)))
  | .ok content => return (ofFile environment path content).mapError .settings

end RpcStubs.Settings
