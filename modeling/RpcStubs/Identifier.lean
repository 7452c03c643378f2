/-!
# Python identifiers

Which names a generated Python module may bind: the ASCII identifiers of the language that are not
among its hard keywords. Soft keywords are ordinary names.
-/

namespace RpcStubs.Identifier

def keywords : List String :=
  ["False", "None", "True", "and", "as", "assert", "async", "await", "break", "class", "continue",
    "def", "del", "elif", "else", "except", "finally", "for", "from", "global", "if", "import",
    "in", "is", "lambda", "nonlocal", "not", "or", "pass", "raise", "return", "try", "while",
    "with", "yield"]

def isStart (c : Char) : Bool :=
  c.isAlpha || c = '_'

def isContinue (c : Char) : Bool :=
  c.isAlphanum || c = '_'

def hasForm : List Char → Bool
  | [] => false
  | c :: rest => isStart c && rest.all isContinue

def isValid (name : String) : Bool :=
  hasForm name.toList && !keywords.contains name

/-! ## Names that a generated module takes for itself -/

/-- The function that the module imports to send a request. -/
def transportFunction : String := "rpc_request"

/-- The error that the module raises for a reply without result. -/
def invalidReplyError : String := "InvalidReplyError"

/-- The second error that the module imports for its callers. -/
def timeoutError : String := "TxConfirmationTimedoutError"

def defaultEndpoint : String := "_default_endpoint"

def defaultTimeout : String := "_default_timeout"

/-- The argument of every function that overrides the default endpoint. -/
def endpointArgument : String := "endpoint"

/-- The argument of every function that overrides the default timeout. -/
def timeoutArgument : String := "timeout"

/-- The names that the body of every function assigns. -/
def bodyLocals : List String := ["_method", "_params", "_reply", "_err"]

/-- The names that the module imports. -/
def importedNames : List String := [transportFunction, invalidReplyError, timeoutError]

/-- The names that the module binds before its functions. -/
def moduleNames : List String := importedNames ++ [defaultEndpoint, defaultTimeout]

/-- The names that a function binds besides its parameters. -/
def functionNames : List String := [endpointArgument, timeoutArgument] ++ bodyLocals

end RpcStubs.Identifier
