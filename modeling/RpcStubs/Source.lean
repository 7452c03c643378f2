import RpcStubs.Failure
import RpcStubs.Json.Writer
import RpcStubs.Settings.Basic
import RpcStubs.Store.Replace
import RpcStubs.Text.Lossy
import RpcStubs.Web.Address

/-!
# Sources of schemas

A schema is fetched from an address, and a copy of it is saved, or it is opened from a saved copy.
The copy is saved before the document is decoded, so that also one that is no schema can be looked
at.
-/

namespace RpcStubs

open Script

/-- How a schema is to be had. -/
inductive Mode where
  | fetch
  | opened
  deriving DecidableEq, Repr

/-- Where a schema comes from. -/
inductive Source where
  | fetched (url : String) (copy : String)
  | saved (path : String)
  deriving DecidableEq, Repr

namespace Source

def origin : String := "rpcgen_gen::source"

/-- The source for a mode: the given location, or what the settings say. -/
def resolve (mode : Mode) (location : Option String) (settings : Settings) : Source :=
  match mode with
  | .fetch => .fetched (location.getD settings.schemaUrl) settings.schemaPath
  | .opened => .saved (location.getD settings.schemaPath)

def location : Source → String
  | .fetched url _ => url
  | .saved path => path

/-- The value that an answer from an address stands for. -/
def readAnswer (address : String) : Reply → Except FetchFault Json.Value
  | .refused => .error (.noConnection address)
  | .answered status reason body complete =>
    if 400 ≤ status ∧ status < 600 then .error (.badStatus status reason address)
    else if !complete then .error .cutShort
    else
      let text := if Reply.bodiless status then "" else Text.lossy body
      (Json.Value.ofString text).mapError .notJson

/-- The names of the values that every message about a connection carries. -/
def connectionValues : List String :=
  ["message", "log.target", "log.module_path", "log.file", "log.line"]

/-- Asks for the document at an address. That is done once, whatever comes back. -/
def askOnce (address : Address) : Script Reply := do
  logWith connectionValues .debug "reqwest::connect"
    ("starting new connection: " ++ address.root)
  let reply ← ask address.text
  logWith connectionValues .trace "reqwest::retry" "shouldn't retry!"
  return reply

def fetchValue (url : String) : Script (Except Failure Json.Value) := do
  log .info origin ("Fetching schema from " ++ url)
  let failed (fault : FetchFault) : Failure := .schemaUnavailable url (.fetch fault)
  match Address.ofString? url with
  | none => return .error (failed .noAddress)
  | some address =>
    if address.isWeb then
      return (readAnswer address.text (← askOnce address)).mapError failed
    else
      return .error (failed (.notWeb address.text))

/-- The value that the content of a saved copy stands for. -/
def readCopy (content : ByteArray) : Except Unavailable Json.Value :=
  match String.fromUTF8? content with
  | none => .error .notText
  | some text => (Json.Value.ofString text).mapError .notJson

def openValue (path : String) : Script (Except Failure Json.Value) := do
  match ← read (Path.ofString path) with
  | .error e => return .error (.schemaUnavailable path (.file e))
  | .ok content => return (readCopy content).mapError (.schemaUnavailable path)

/-- The text of a saved copy. -/
def copyText (value : Json.Value) : String :=
  value.indented ++ "\n"

/-- Saves a copy of a value. -/
def saveCopy (path : String) (value : Json.Value) : Script (Except Failure Unit) := do
  match ← replaceFile (Path.ofString path) (copyText value) with
  | .error e => return .error (.outputWrite path e)
  | .ok () =>
    log .info origin ("Saved schema copy to " ++ path)
    return .ok ()

/-- The value of a source; of a fetched one a copy is saved. -/
def value (source : Source) : Script (Except Failure Json.Value) :=
  match source with
  | .saved path => openValue path
  | .fetched url copy => do
    match ← fetchValue url with
    | .error e => return .error e
    | .ok value =>
      match ← saveCopy copy value with
      | .error e => return .error e
      | .ok () => return .ok value

def decode (value : Json.Value) : Except Failure Schema.Document :=
  (Schema.decodeDocument value).mapError fun (e : Schema.DecodeError) =>
    .schemaShape "<document>" (.undecodable e)

def logMethods : List Schema.Method → Script Unit
  | [] => pure ()
  | method :: rest => do
    log .debug origin ("  - " ++ method.name)
    logMethods rest

def load (source : Source) : Script (Except Failure Schema.Document) := do
  match ← source.value with
  | .error e => return .error e
  | .ok value =>
    match decode value with
    | .error e => return .error e
    | .ok document =>
      log .info origin
        ("Loaded " ++ toString document.methods.length ++ " methods from " ++ source.location)
      logMethods document.methods
      return .ok document

end Source

end RpcStubs
