import RpcStubs.PythonText
import RpcStubs.Stub

/-!
# Generated modules

The text of a generated Python module: a preamble with the imports and the defaults, and one
function for each stub, in order. Everything that is not one of the names checked beforehand is
escaped on its way in.
-/

namespace RpcStubs

open Identifier PythonText

/-- The preamble of a module: a notice, the imports, and the defaults of all functions. -/
def Settings.preamble (settings : Settings) : String :=
  "# This code was automatically generated by rpcgen. Do not edit manually.\n"
    ++ "\n"
    ++ "from " ++ settings.transportModule ++ " import " ++ transportFunction ++ "\n"
    ++ "from " ++ settings.exceptionsModule ++ " import (\n"
    ++ "    " ++ timeoutError ++ ",\n"
    ++ "    " ++ invalidReplyError ++ ",\n"
    ++ ")\n"
    ++ "\n"
    ++ defaultEndpoint ++ " = " ++ literal settings.endpoint ++ "\n"
    ++ defaultTimeout ++ " = " ++ toString settings.timeout.toNat ++ "\n"

namespace Stub

def positional (stub : Stub) : String :=
  String.intercalate ", " stub.parameters

/-- The parameters in front of the arguments that every function has. -/
def leading (stub : Stub) : String :=
  if stub.positional = "" then "" else stub.positional ++ ", "

def parameterLine (doc : ParameterDoc) : String :=
  if doc.type = "" then "    " ++ doc.name ++ ": :obj:\n"
  else "    " ++ doc.name ++ ": :obj:`" ++ docstring doc.type ++ "`\n"

/-- The docstring of a function, from its opening to its closing quotes. -/
def docstringText (docLink : String) (stub : Stub) : String :=
  "    \"\"\"\n"
    ++ "    " ++ docstring stub.description ++ "\n"
    ++ "\n"
    ++ "    Parameters\n"
    ++ "    ----------\n"
    ++ String.join (stub.parameterDocs.map parameterLine)
    ++ "    " ++ endpointArgument ++ ": :obj:`str`, optional\n"
    ++ "        Endpoint to send request to\n"
    ++ "    " ++ timeoutArgument ++ ": :obj:`int`, optional\n"
    ++ "        Timeout in seconds\n"
    ++ "\n"
    ++ "    Returns\n"
    ++ "    -------\n"
    ++ "    " ++ docstring stub.result ++ "\n"
    ++ "\n"
    ++ "    Raises\n"
    ++ "    ------\n"
    ++ "    " ++ invalidReplyError ++ "\n"
    ++ "        If received unknown result from endpoint\n"
    ++ "\n"
    ++ "    API Reference\n"
    ++ "    -------------\n"
    ++ "    " ++ docstring docLink ++ "\n"
    ++ "    \"\"\"\n"

def signatureText (stub : Stub) : String :=
  "def " ++ stub.functionName ++ "(" ++ stub.leading
    ++ endpointArgument ++ "=" ++ defaultEndpoint ++ ", "
    ++ timeoutArgument ++ "=" ++ defaultTimeout ++ "):\n"

def bodyText (stub : Stub) : String :=
  "    _method = " ++ literal stub.method ++ "\n"
    ++ "    _params = [" ++ stub.positional ++ "]\n"
    ++ "    _reply = " ++ transportFunction ++ "(_method, params=_params, "
    ++ endpointArgument ++ "=" ++ endpointArgument ++ ", "
    ++ timeoutArgument ++ "=" ++ timeoutArgument ++ ")\n"
    ++ "    try:\n"
    ++ "        return _reply[\"result\"]\n"
    ++ "    except KeyError as _err:\n"
    ++ "        raise " ++ invalidReplyError ++ "(_method, " ++ endpointArgument ++ ") from _err\n"

/-- The function of a stub, after two empty lines. -/
def text (docLink : String) (stub : Stub) : String :=
  "\n\n" ++ stub.signatureText ++ stub.docstringText docLink ++ stub.bodyText

end Stub

/-- The parts of a module, in the order of its text. -/
structure Module where
  preamble : String
  functions : List String
  deriving DecidableEq, Repr

namespace Module

def text (parts : Module) : String :=
  parts.preamble ++ String.join parts.functions

/-- The stubs of a document, all of them checked. -/
def stubs (snakeCase : Bool) (document : Schema.Document) : Except Failure (List Stub) := do
  let stubs ← document.methods.mapM (Stub.ofMethod snakeCase)
  Stub.checkAll stubs
  return stubs

/-- The module of a document, under settings that have been checked. -/
def ofDocument (settings : Settings) (document : Schema.Document) : Except Failure Module := do
  let stubs ← stubs settings.snakeCase document
  return ⟨settings.preamble, stubs.map (Stub.text settings.docLink)⟩

def generate (settings : Settings) (document : Schema.Document) : Except Failure String := do
  settings.check
  return (← ofDocument settings document).text

end Module

end RpcStubs
