import RpcStubs.Json.Reader
import RpcStubs.Schema.Decode
import RpcStubs.Settings.EnvFile
import RpcStubs.Store.FileError
import RpcStubs.Text.Quoted

/-!
# Failures

Everything that can end a run early, by its cause. A cause has one wording, and a failure has two:
the message for its readers, and the one-line record of its fields that the command line shows.
-/

namespace RpcStubs

/-- Why a document could not be fetched. -/
inductive FetchFault where
  | noAddress
  | notWeb (address : String)
  | noConnection (address : String)
  | badStatus (status : Nat) (reason : String) (address : String)
  | cutShort
  | notJson (error : Json.ReadError)
  deriving Repr

def reasonByte (b : UInt8) : List Char :=
  let n := b.toNat
  if n = 10 then ['\\', 'n']
  else if n = 13 then ['\\', 'r']
  else if n = 9 then ['\\', 't']
  else if n = 0 then ['\\', '0']
  else if n = 0x22 ∨ n = 0x5C then ['\\', Char.ofNat n]
  else if 0x20 ≤ n ∧ n < 0x7F then [Char.ofNat n]
  else ['\\', 'x', Nat.digitChar (n / 16), Nat.digitChar (n % 16)]

/-- A reason phrase as messages show it. -/
def reasonText (reason : String) : String :=
  String.ofList (reason.toUTF8.toList.flatMap reasonByte)

def FetchFault.message : FetchFault → String
  | .noAddress => "builder error"
  | .notWeb address => "builder error for url (" ++ address ++ ")"
  | .noConnection address => "error sending request for url (" ++ address ++ ")"
  | .badStatus status reason address =>
    "HTTP status " ++ (if status < 500 then "client" else "server") ++ " error ("
      ++ toString status ++ " " ++ reasonText reason ++ ") for url (" ++ address ++ ")"
  | .cutShort => "failed to read response body: error decoding response body"
  | .notJson error => "response is not valid JSON: " ++ error.message

/-- Why there is no schema document. -/
inductive Unavailable where
  | file (cause : FileError)
  | notText
  | notJson (error : Json.ReadError)
  | fetch (fault : FetchFault)
  deriving Repr

def Unavailable.message : Unavailable → String
  | .file cause => cause.message
  | .notText => "stream did not contain valid UTF-8"
  | .notJson error => "file is not valid JSON: " ++ error.message
  | .fetch fault => fault.message

/-- What is wrong with a schema document or one of its methods. -/
inductive ShapeFault where
  | missing (field : String)
  | listedTwice
  | undecodable (error : Schema.DecodeError)
  deriving Repr

def ShapeFault.message : ShapeFault → String
  | .missing field => "missing required field '" ++ field ++ "'"
  | .listedTwice => "method is listed more than once"
  | .undecodable error => error.message

/-- Why a name cannot be used in a generated module. -/
inductive NameFault where
  | badFunctionName
  | shadowsModuleName
  | badParameterName
  | clashesWithLocal
  | shadowsImport
  | repeated
  deriving DecidableEq, Repr

def NameFault.message : NameFault → String
  | .badFunctionName => "not a valid function name"
  | .shadowsModuleName => "shadows a module-level name of the generated file"
  | .badParameterName => "not a valid parameter name"
  | .clashesWithLocal => "clashes with a name the generated function defines"
  | .shadowsImport => "shadows a name imported by the generated module"
  | .repeated => "parameter appears more than once"

/-- What is wrong with a setting. -/
inductive SettingFault where
  | blank (key : String)
  | badTimeout (key value : String)
  | zeroTimeout (key : String)
  | badFlag (key value : String)
  | badTransportModule (path : String)
  | badExceptionsModule (path : String)
  | badFile (path : String) (error : EnvFile.Error)
  deriving DecidableEq, Repr

def SettingFault.message : SettingFault → String
  | .blank key => "No value for key " ++ key ++ ". Unset it or provide a value"
  | .badTimeout key value => key ++ " must be a whole number of seconds, got '" ++ value ++ "'"
  | .zeroTimeout key => key ++ " must be greater than zero"
  | .badFlag key value => key ++ " must be true or false, got '" ++ value ++ "'"
  | .badTransportModule path =>
    "transport module '" ++ path ++ "' is not a valid Python module path"
  | .badExceptionsModule path =>
    "exceptions module '" ++ path ++ "' is not a valid Python module path"
  | .badFile path error => "Failed to read " ++ path ++ ": " ++ error.message

/-- Why a run ended early. -/
inductive Failure where
  | schemaUnavailable (location : String) (cause : Unavailable)
  | schemaShape (method : String) (fault : ShapeFault)
  | outputWrite (path : String) (cause : FileError)
  | namingCollision (functionName first second : String)
  | invalidIdentifier (method identifier : String) (fault : NameFault)
  | settings (fault : SettingFault)
  deriving Repr

namespace Failure

def kind : Failure → String
  | .schemaUnavailable _ _ => "SchemaUnavailable"
  | .schemaShape _ _ => "SchemaShape"
  | .outputWrite _ _ => "OutputWrite"
  | .namingCollision _ _ _ => "NamingCollision"
  | .invalidIdentifier _ _ _ => "InvalidIdentifier"
  | .settings _ => "Config"

def message : Failure → String
  | .schemaUnavailable location cause =>
    "Schema unavailable from '" ++ location ++ "': " ++ cause.message
  | .schemaShape method fault =>
    "Malformed schema entry for method '" ++ method ++ "': " ++ fault.message
  | .outputWrite path cause => "Failed to write output file '" ++ path ++ "': " ++ cause.message
  | .namingCollision functionName first second =>
    "Naming collision: methods '" ++ first ++ "' and '" ++ second ++ "' both generate function '"
      ++ functionName ++ "'"
  | .invalidIdentifier method identifier fault =>
    "Invalid identifier '" ++ identifier ++ "' in method '" ++ method ++ "': " ++ fault.message
  | .settings fault => "Invalid configuration: " ++ fault.message

/-- A record of named fields on one line. -/
def recordText (name : String) (fields : List (String × String)) : String :=
  let shown := fields.map fun (field : String × String) => field.1 ++ ": " ++ field.2
  name ++ " \x7b " ++ String.intercalate ", " shown ++ " \x7d"

def fileErrorText (e : FileError) : String :=
  match e.code? with
  | some code =>
    recordText "Os"
      [("code", toString code), ("kind", e.kind), ("message", Text.quoted e.description)]
  | none => recordText "Error" [("kind", e.kind), ("message", Text.quoted e.description)]

def record (failure : Failure) : String :=
  match failure with
  | .schemaUnavailable location cause =>
    recordText failure.kind
      [("location", Text.quoted location), ("reason", Text.quoted cause.message)]
  | .schemaShape method fault =>
    recordText failure.kind
      [("method", Text.quoted method), ("reason", Text.quoted fault.message)]
  | .outputWrite path cause =>
    recordText failure.kind [("path", Text.quoted path), ("source", fileErrorText cause)]
  | .namingCollision functionName first second =>
    recordText failure.kind
      [("function_name", Text.quoted functionName), ("first", Text.quoted first),
        ("second", Text.quoted second)]
  | .invalidIdentifier method identifier fault =>
    recordText failure.kind
      [("method", Text.quoted method), ("identifier", Text.quoted identifier),
        ("reason", Text.quoted fault.message)]
  | .settings fault => failure.kind ++ "(" ++ Text.quoted fault.message ++ ")"

end Failure

end RpcStubs
