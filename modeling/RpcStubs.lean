import RpcStubs.Main
import RpcStubs.Schema.Encode
import RpcStubs.Script.Run
import RpcStubs.Store.Difference
import RpcStubs.Proofs.Except
import RpcStubs.Proofs.Names.Heading
import RpcStubs.Proofs.Names.Check
import RpcStubs.Proofs.Generated
import RpcStubs.Proofs.Acceptance
import RpcStubs.Proofs.AllOrNothing
import RpcStubs.Proofs.Interruption
import RpcStubs.Proofs.Composition
import RpcStubs.Proofs.Python.Literal
import RpcStubs.Proofs.Python.Docstring
import RpcStubs.Proofs.Python.DocstringLines
import RpcStubs.Proofs.Layout
import RpcStubs.Proofs.Function
import RpcStubs.Proofs.Python.Calls
import RpcStubs.Proofs.Translation
import RpcStubs.Proofs.WireCall
import RpcStubs.Proofs.Store.Entries
import RpcStubs.Proofs.Store.Changes
import RpcStubs.Proofs.Carrying
import RpcStubs.Proofs.Replacement
import RpcStubs.Proofs.Loading
import RpcStubs.Proofs.Runs
import RpcStubs.Proofs.Store.Held
import RpcStubs.Proofs.FailedRuns
import RpcStubs.Proofs.Variables
import RpcStubs.Proofs.Json.Fields
import RpcStubs.Proofs.Json.Strings
import RpcStubs.Proofs.Json.Numbers
import RpcStubs.Proofs.Json.WrittenNumbers
import RpcStubs.Proofs.Json.Spelling
import RpcStubs.Proofs.Json.Reading
import RpcStubs.Proofs.Json.Layouts
import RpcStubs.Proofs.Json.RoundTrip
import RpcStubs.Proofs.SchemaRoundTrip
import RpcStubs.Proofs.SavedCopies
import RpcStubs.Proofs.Histories
import RpcStubs.Proofs.Leftovers
import RpcStubs.Proofs.Store.Repeated
import RpcStubs.Proofs.Regeneration
import RpcStubs.Proofs.Python.DocstringText
import RpcStubs.Proofs.Names.Collisions
import RpcStubs.Proofs.Names.SnakeCase
import RpcStubs.Proofs.Names.Title
import RpcStubs.Proofs.Settings.Inverse
import RpcStubs.Proofs.Settings.Timeouts
import RpcStubs.Proofs.UnknownFields
import RpcStubs.Proofs.Signatures
import RpcStubs.Proofs.FreeTexts
import RpcStubs.Proofs.Store.ClearPaths

