import LintBridge.Lint.Report
import LintBridge.Protocol.Message

set_option autoImplicit false

/-! # The server

The server is a state machine. Its state holds the open documents, the registry of
violations, whether a shutdown has been requested and the number of its next request. An event
is a value that the editor has sent, the outcome of a lint run, or the end of the input; the
reaction says what is sent, which lint runs are started, and whether the server stops.

A lint run works on a snapshot of a document, and its outcome carries the snapshot along. It
counts only if the document is still open and not stored in a newer version.
-/

namespace LintBridge

/-- A document text to be linted. -/
structure LintJob where
  uri : String
  document : Document
  deriving DecidableEq

/-- What happens to the server. -/
inductive Event
  /-- The editor has sent a value. -/
  | received (v : Json)
  /-- A lint run has ended, with the report lines of the linter or without success. -/
  | linted (job : LintJob) (report : Option (List String))
  /-- The input has ended or cannot be read any further. -/
  | disconnected

/-- Why the server stops. -/
inductive ExitReason
  /-- The editor asked for it, after a shutdown request or without one. -/
  | exit (shutdownRequested : Bool)
  | disconnected
  deriving DecidableEq, Repr

/-- The exit code: 0 only if the editor asked for a shutdown first. -/
def ExitReason.code : ExitReason → Nat
  | exit true => 0
  | exit false | disconnected => 1

/-- What the server does about an event. -/
structure Reaction where
  /-- The messages sent, in order. -/
  sent : List Outgoing := []
  /-- The lint runs started, in order. -/
  started : List LintJob := []
  /-- Whether the server stops, and why. -/
  exit : Option ExitReason := none

/-- The state of the server. -/
structure Server where
  /-- Names the linter in diagnostics. -/
  source : String
  registry : Registry
  documents : DocumentStore := .empty
  shutdownRequested : Bool := false
  /-- The number of the next request to the editor. -/
  nextId : Nat := 1

namespace Server

/-- The server at its start. -/
def init (source : String) (directives : DirectiveSyntax) : Server where
  source := source
  registry := .empty directives

/-! ## Requests -/

/-- Runs a command for the request `id`. -/
def execute (s : Server) (id : Json) (params : Json) : Server × Reaction :=
  match CommandCall.read params with
  | .error why => (s, { sent := [.refusal id (.badParams why)] })
  | .ok call =>
    if call.command ≠ QuickFix.command then
      (s, { sent := [.refusal id (.unknownCommand call.command)] })
    else match DocumentEdits.ofArguments call.arguments with
      | .error why => (s, { sent := [.refusal id (.badParams why)] })
      | .ok edits =>
        ({ s with nextId := s.nextId + 1 },
          { sent := [.applyEdits s.nextId edits, .result id .null] })

/-- Offers fixes for the request `id`. -/
def offer (s : Server) (id : Json) (params : Json) : Outgoing :=
  match FixQuery.read params with
  | .error why => .refusal id (.badParams why)
  | .ok query => .result id (.array ((s.registry.fixes query.uri query.range).map QuickFix.toJson))

/-- Answers a request. Absent parameters count as `null`. -/
def request (s : Server) (id : Json) (method : String) (params : Option Json) :
    Server × Reaction :=
  let params := params.getD .null
  match method with
  | "initialize" => (s, { sent := [.result id initializeResult] })
  | "shutdown" => ({ s with shutdownRequested := true }, { sent := [.result id .null] })
  | "textDocument/codeAction" => (s, { sent := [s.offer id params] })
  | "workspace/executeCommand" => s.execute id params
  | _ => (s, { sent := [.refusal id (.unknownMethod method)] })

/-! ## Notifications -/

/-- Records a text of a document and starts to lint it, unless a newer one is stored. -/
def recordText (s : Server) (t : DocumentText) : Server × Reaction :=
  match DocumentStore.update s.documents t.uri t.document with
  | (_, false) => (s, {})
  | (documents, true) => ({ s with documents }, { started := [⟨t.uri, t.document⟩] })

/-- Closes a document and clears what the editor shows for it. The registry keeps its
violations until the next lint run. -/
def closeDocument (s : Server) (uri : String) : Server × Reaction :=
  match DocumentStore.close s.documents uri with
  | (_, none) => (s, {})
  | (documents, some d) => ({ s with documents }, { sent := [.diagnostics uri d.version []] })

/-- Follows a notification. Those with unfit parameters and those of other methods are
ignored. -/
def notification (s : Server) (method : String) (params : Option Json) : Server × Reaction :=
  let params := params.getD .null
  match method with
  | "exit" => (s, { exit := some (.exit s.shutdownRequested) })
  | "textDocument/didOpen" => match DocumentText.opened params with
    | .ok t => s.recordText t
    | .error _ => (s, {})
  | "textDocument/didChange" => match DocumentText.changed params with
    | .ok (some t) => s.recordText t
    | _ => (s, {})
  | "textDocument/didClose" => match closedUri params with
    | .ok uri => s.closeDocument uri
    | .error _ => (s, {})
  | _ => (s, {})

/-! ## Lint runs -/

/-- Shows and registers the outcome of a lint run, unless its document has been closed or
stored in a newer version. A run without success counts as one that found nothing. -/
def applyLint (s : Server) (job : LintJob) (report : Option (List String)) : Server × Reaction :=
  match s.documents.get? job.uri with
  | none => (s, {})
  | some d =>
    if job.document.version < d.version then (s, {})
    else
      let violations := Violation.ofReport job.document.text (report.getD [])
      ({ s with registry :=
          s.registry.register job.uri job.document.version job.document.text violations },
        { sent := [.diagnostics job.uri job.document.version
            (violations.map (.ofViolation s.source))] })

/-! ## Events -/

/-- Reacts to a value from the editor. -/
def receive (s : Server) (v : Json) : Server × Reaction :=
  match Incoming.ofJson? v with
  | some (.request id method params) => s.request id method params
  | some (.notification method params) => s.notification method params
  | some (.response _ _) | none => (s, {})

/-- Reacts to an event. -/
def step (s : Server) : Event → Server × Reaction
  | .received v => s.receive v
  | .linted job report => s.applyLint job report
  | .disconnected => (s, { exit := some .disconnected })

end Server

end LintBridge
