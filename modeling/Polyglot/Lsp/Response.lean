import Polyglot.Error
import Polyglot.Lsp.Completion
import Polyglot.Lsp.Diagnostics
import Polyglot.Lsp.Outline
import Polyglot.Lsp.Params

/-!
# Responses and announcements

What the server sends to a client: a response to a request, with an answer or with the reason for
which there is none, and announcements of its own accord.
-/

set_option autoImplicit false

namespace Polyglot.Lsp

/-- The answer to a request. -/
inductive Answer where
  | capabilities
  | farewell
  | completions (items? : Option (List CompletionItem))
  | definition (target? : Option Location)
  | outline (symbols? : Option (List Symbol))
  | actions (offered : List Action)
  | output (text : String)

/-- Why a request has no answer. -/
inductive RequestError where
  | notInitialized
  | invalidRequest
  | unknownMethod (name : String)
  | unservedMethod
  | badParams (cause : ParamsError)
  | unknownCommand (name : String)
  | badArguments
  | refused (error : Error)
  | cancelled
  | failed (message : String)
  | internal

/-- The response to the request with an identifier. -/
structure Response where
  id : Json
  result : Except RequestError Answer

/-- What the server tells a client. -/
inductive Announcement where
  | published (uri : String) (diagnostics : List DiagnosticItem) (version? : Option Int)
  | logged (message : String)
  | shown (message : String)
deriving DecidableEq, Repr

namespace Answer

/-- What the server offers. Texts are sent whole, and completions come complete. -/
def capabilitiesJson : Json :=
  .object [("capabilities", .object [
      ("textDocumentSync", .nat 1),
      ("completionProvider", .object [("resolveProvider", .bool false)]),
      ("definitionProvider", .bool true),
      ("documentSymbolProvider", .bool true),
      ("codeActionProvider", .bool true),
      ("executeCommandProvider", .object [("commands", .array [.string SectionCommand.name])])]),
    ("serverInfo", .object [("name", .string "seclsp"), ("version", .string "0.1.0")])]

/-- The answer as JSON. -/
def toJson : Answer → Json
  | capabilities => capabilitiesJson
  | farewell => .null
  | completions items? => completionResponseJson items?
  | definition target? => .orNull (target?.map Location.toJson)
  | outline symbols? => .orNull (symbols?.map fun symbols => .array (Symbol.listToJson symbols))
  | .actions offered => if offered.isEmpty then .null else .array (offered.map Action.toJson)
  | output text => .string text

end Answer

namespace RequestError

/-- The number of an error. -/
def code : RequestError → Int
  | notInitialized => -32002
  | invalidRequest => -32600
  | unknownMethod _ | unservedMethod => -32601
  | badParams _ | unknownCommand _ | badArguments | refused _ => -32602
  | failed _ | internal => -32603
  | cancelled => -32800

/-- The text of an error. -/
def message : RequestError → String
  | notInitialized => "Server not initialized"
  | invalidRequest => "Invalid request"
  | unknownMethod _ | unservedMethod => "Method not found"
  | badParams cause => cause.message
  | unknownCommand name => "unknown command '" ++ name ++ "'"
  | badArguments => "expected [uri, line, command]"
  | refused error => error.message
  | cancelled => "command cancelled"
  | failed message => message
  | internal => "Internal error"

/-- What else is said of an error: the name of a method that the server does not know. -/
def data? : RequestError → Option Json
  | unknownMethod name => some (.string name)
  | _ => none

/-- The error as JSON. -/
def toJson (e : RequestError) : Json :=
  .ofFields [("code", some (.integer e.code)), ("message", some (.string e.message)),
    ("data", e.data?)]

end RequestError

/-- The version of the protocol in which messages are wrapped. -/
def wrapping : String × Json :=
  ("jsonrpc", .string "2.0")

/-- The response as JSON. -/
def Response.toJson (r : Response) : Json :=
  let outcome := match r.result with
    | .ok answer => ("result", answer.toJson)
    | .error error => ("error", error.toJson)
  .object [wrapping, ("id", r.id), outcome]

namespace Announcement

/-- The method of an announcement. -/
def method : Announcement → String
  | published _ _ _ => "textDocument/publishDiagnostics"
  | logged _ => "window/logMessage"
  | shown _ => "window/showMessage"

/-- The parameters of an announcement. Messages are errors where they are shown, and informations
where they are logged. -/
def params : Announcement → Json
  | published uri diagnostics version? =>
    .ofFields [("uri", some (.string uri)), ("diagnostics", some (diagnosticItemsJson diagnostics)),
      ("version", version?.map Json.integer)]
  | logged message => .object [("type", .nat 3), ("message", .string message)]
  | shown message => .object [("type", .nat 1), ("message", .string message)]

/-- The announcement as JSON. -/
def toJson (a : Announcement) : Json :=
  .object [wrapping, ("method", .string a.method), ("params", a.params)]

end Announcement

end Polyglot.Lsp
