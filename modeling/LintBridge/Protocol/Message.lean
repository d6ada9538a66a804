import LintBridge.Lint.QuickFix
import LintBridge.Protocol.Params

set_option autoImplicit false

/-! # Messages

What the editor sends is a request, a notification or a reply to a request of the server;
anything else is no message. What the server sends is a reply, a refusal, a list of
diagnostics or a request to apply edits.
-/

namespace LintBridge

/-! ## Received messages -/

/-- A message from the editor. -/
inductive Incoming
  | request (id : Json) (method : String) (params : Option Json)
  | notification (method : String) (params : Option Json)
  /-- The reply to a request of the server. -/
  | response (id : Json) (body : List (String × Json))

namespace Incoming

/-- The method of an object, if it has one. -/
def method? (fields : List (String × Json)) : Option String :=
  match Json.Fields.get? fields "method" with
  | some (.string method) => some method
  | _ => none

/-- The message that a value stands for. A method that is no text counts as absent. -/
def ofJson? : Json → Option Incoming
  | .object fields =>
    let params := Json.Fields.get? fields "params"
    match Json.Fields.get? fields "id", method? fields with
    | some id, some method => some (.request id method params)
    | none, some method => some (.notification method params)
    | some id, none =>
      let body := Json.Fields.erase (Json.Fields.erase fields "id") "method"
      if (Json.Fields.get? body "result").isSome || (Json.Fields.get? body "error").isSome then
        some (.response id body)
      else none
    | none, none => none
  | _ => none

end Incoming

/-! ## Sent messages -/

/-- What the editor shows for a violation. -/
structure Diagnostic where
  range : Range
  severity : Nat
  code : String
  source : String
  message : String
  deriving DecidableEq

namespace Diagnostic

/-- The diagnostic for a violation; its source names the linter and the rule. -/
def ofViolation (source : String) (v : Violation) : Diagnostic where
  range := v.range
  severity := v.severity.code
  code := v.rule
  source := source ++ ": " ++ v.rule
  message := v.message

/-- A diagnostic as an object. -/
def toJson (d : Diagnostic) : Json :=
  .object [("code", .string d.code), ("message", .string d.message), ("range", d.range.toJson),
    ("severity", .int d.severity), ("source", .string d.source)]

end Diagnostic

/-- Why a request is refused. -/
inductive Refusal
  | unknownMethod (method : String)
  | badParams (why : Misfit)
  | unknownCommand (command : String)

namespace Refusal

/-- The number of a refusal. -/
def code : Refusal → Int
  | unknownMethod _ => -32601
  | badParams _ | unknownCommand _ => -32602

/-- The wording of a refusal. -/
def message : Refusal → String
  | unknownMethod method => "Method not found: " ++ method
  | badParams why => why.message
  | unknownCommand command => "Unknown command: " ++ command

end Refusal

/-- A message to the editor. -/
inductive Outgoing
  /-- The reply to a request. -/
  | result (id : Json) (value : Json)
  /-- The reply to a request that is refused. -/
  | refusal (id : Json) (why : Refusal)
  /-- The diagnostics of a version of a document, in place of earlier ones. -/
  | diagnostics (uri : String) (version : Int32) (list : List Diagnostic)
  /-- A request to apply edits. -/
  | applyEdits (id : Nat) (edits : DocumentEdits)

namespace Outgoing

/-- The label under which edits are to be applied. -/
def applyLabel : String := "Disable TSQLLint rule"

/-- A message as an object. -/
def toJson : Outgoing → Json
  | result id value => .object [("id", id), ("jsonrpc", .string "2.0"), ("result", value)]
  | refusal id why =>
    .object [("error", .object [("code", .int why.code), ("message", .string why.message)]),
      ("id", id), ("jsonrpc", .string "2.0")]
  | diagnostics uri version list =>
    .object [("jsonrpc", .string "2.0"), ("method", .string "textDocument/publishDiagnostics"),
      ("params", .object [("diagnostics", .array (list.map Diagnostic.toJson)),
        ("uri", .string uri), ("version", .int version.toInt)])]
  | applyEdits id edits =>
    .object [("id", .int id), ("jsonrpc", .string "2.0"), ("method", .string "workspace/applyEdit"),
      ("params", edits.toApplyParams applyLabel)]

end Outgoing

/-! ## Replies -/

/-- The edits of a fix. -/
def QuickFix.documentEdits (f : QuickFix) : DocumentEdits := ⟨f.uri, f.version, f.edits⟩

/-- A fix as a command that the editor can run. -/
def QuickFix.toJson (f : QuickFix) : Json :=
  .object [("arguments", .array f.documentEdits.toArguments), ("command", .string QuickFix.command),
    ("title", .string f.title)]

/-- The name and version of the program. -/
def programName : String := "tsqllint-language-server"

/-- The version of the program. -/
def programVersion : String := "0.0.0"

/-- What the server can do: documents are sent whole at every change, fixes are offered, and
one command is understood. -/
def initializeResult : Json :=
  .object [
    ("capabilities", .object [
      ("codeActionProvider", .bool true),
      ("executeCommandProvider", .object [("commands", .array [.string QuickFix.command])]),
      ("textDocumentSync", .int 1)]),
    ("serverInfo", .object [("name", .string programName), ("version", .string programVersion)])]

end LintBridge
