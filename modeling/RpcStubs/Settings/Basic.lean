import RpcStubs.Text.Quoted

/-!
# Settings

The settings of a run, with their built-in values.
-/

namespace RpcStubs

/-- What a run is set to do. -/
structure Settings where
  /-- The endpoint that generated functions use unless told otherwise. -/
  endpoint : String
  /-- The timeout in seconds that generated functions use unless told otherwise. -/
  timeout : UInt64
  /-- Where a schema is fetched from. -/
  schemaUrl : String
  /-- Where a fetched schema is saved, and a saved one is opened. -/
  schemaPath : String
  /-- Where the generated module goes. -/
  outputPath : String
  /-- The reference in the documentation of every generated function. -/
  docLink : String
  /-- The module that the function for sending requests is imported from. -/
  transportModule : String
  /-- The module that the errors are imported from. -/
  exceptionsModule : String
  /-- Whether functions are named in snake case. -/
  snakeCase : Bool
  deriving DecidableEq, Repr

namespace Settings

/-- The built-in settings. -/
def default : Settings where
  endpoint := "http://localhost:9000"
  timeout := 30
  schemaUrl :=
    "https://raw.githubusercontent.com/MystenLabs/sui/main/crates/sui-open-rpc/spec/openrpc.json"
  schemaPath := "data/OUT/JSON/api_data.json"
  outputPath := "pysui/methods/rpc_methods.py"
  docLink := "https://docs.sui.io/build/json-rpc"
  transportModule := "pysui.rpc.request"
  exceptionsModule := "pysui.exceptions"
  snakeCase := true

def record (settings : Settings) : String :=
  "GeneratorConfig \x7b default_endpoint: " ++ Text.quoted settings.endpoint
    ++ ", default_timeout: " ++ toString settings.timeout.toNat
    ++ ", schema_url: " ++ Text.quoted settings.schemaUrl
    ++ ", schema_path: " ++ Text.quoted settings.schemaPath
    ++ ", output_path: " ++ Text.quoted settings.outputPath
    ++ ", api_doc_link: " ++ Text.quoted settings.docLink
    ++ ", transport_module: " ++ Text.quoted settings.transportModule
    ++ ", exceptions_module: " ++ Text.quoted settings.exceptionsModule
    ++ ", snake_case: " ++ (if settings.snakeCase then "true" else "false") ++ " \x7d"

end Settings

end RpcStubs
