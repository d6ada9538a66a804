import LintBridge.Proofs.Protocol.Arguments
import LintBridge.Proofs.Server.Heeded
import LintBridge.Proofs.Session.Fixes
import Mathlib.Data.List.Forall2

set_option autoImplicit false

/-! # Offered fixes and their execution

A fix is offered as a command with arguments. When the editor wants it, it sends the command and
the arguments back, and the server makes of them a request that asks the editor to apply the
edits. So the fix is written by one rule, read by another and written anew by a third one. The
main statement is `offered_fix_executes`: whatever has happened in between, the request is for
the document, the version and the edits of the fix that was offered.
-/

namespace LintBridge

/-! ## Requests to apply edits -/

namespace Json

/-- The value at the end of a path of keys. -/
def at? (v : Json) : List String → Option Json
  | [] => some v
  | key :: path => (v.field? key).bind (·.at? path)

/-- The value is an edit. -/
structure IsEdit (v : Json) (e : TextEdit) : Prop where
  newText : v.at? ["newText"] = some (.string e.newText)
  startLine : v.at? ["range", "start", "line"] = some (.int e.range.start.line.toNat)
  startCharacter : v.at? ["range", "start", "character"] = some (.int e.range.start.character.toNat)
  endLine : v.at? ["range", "end", "line"] = some (.int e.range.stop.line.toNat)
  endCharacter : v.at? ["range", "end", "character"] = some (.int e.range.stop.character.toNat)

/-- The value is a change of one version of one document. -/
structure IsChange (v : Json) (e : DocumentEdits) : Prop where
  uri : v.at? ["textDocument", "uri"] = some (.string e.uri)
  version : v.at? ["textDocument", "version"] = some (.int e.version.toInt)
  edits : ∃ items, v.at? ["edits"] = some (.array items) ∧ List.Forall₂ IsEdit items e.edits

/-- The frame is a request for some edits of one document to be applied, and for nothing else. -/
structure AsksToApply (v : Json) (number : Nat) (e : DocumentEdits) : Prop where
  id : v.field? "id" = some (.int number)
  method : v.field? "method" = some (.string "workspace/applyEdit")
  change : ∃ change, change.IsChange e ∧
    v.at? ["params", "edit"] = some (.object [("documentChanges", .array [change])])

/-- The frame calls a command that was offered: its parameters have the name and the arguments
of the command, and maybe other fields. -/
structure Calls (v id command : Json) : Prop where
  requests : v.Requests id "workspace/executeCommand"
  params : ∃ fields, v.field? "params" = some (.object fields) ∧ Fields.Ordered fields ∧
    Fields.get? fields "command" = command.field? "command" ∧
    Fields.get? fields "arguments" = command.field? "arguments"

end Json

theorem TextEdit.isEdit_toJson (e : TextEdit) : e.toJson.IsEdit e := ⟨rfl, rfl, rfl, rfl, rfl⟩

theorem Outgoing.asksToApply (n : Nat) (e : DocumentEdits) :
    (applyEdits n e).toJson.AsksToApply n e := by
  have hedits : List.Forall₂ Json.IsEdit (e.edits.map TextEdit.toJson) e.edits :=
    List.forall₂_map_left_iff.mpr (List.forall₂_same.mpr fun edit _ => edit.isEdit_toJson)
  exact ⟨rfl, rfl, _, ⟨rfl, rfl, _, rfl, hedits⟩, rfl⟩

/-- The call of an offered fix is a command to apply its edits. -/
theorem Json.Calls.commands {v id : Json} {f : QuickFix} (h : v.Calls id f.toJson) :
    v.Commands id f.documentEdits := by
  obtain ⟨requests, fields, hparams, hordered, hcommand, harguments⟩ := h
  have hcall := CommandCall.read_object hordered hcommand harguments
  refine ⟨requests, f.documentEdits.toArguments, ?_, f.documentEdits.ofArguments_toArguments⟩
  rw [Json.params, hparams]
  exact hcall

/-- The frame of an editor that calls an offered fix. -/
def Json.calling (id : Json) (f : QuickFix) : Json :=
  .object [("id", id), ("method", .string "workspace/executeCommand"),
    ("params", .object [("arguments", .array f.documentEdits.toArguments),
      ("command", .string QuickFix.command)])]

theorem Json.calls_calling (id : Json) (f : QuickFix) : (calling id f).Calls id f.toJson := by
  have hlt : "arguments" < "command" := by decide
  exact ⟨⟨rfl, rfl⟩, _, rfl, List.pairwise_pair.mpr hlt, rfl, rfl⟩

namespace Session

/-! ## The way of a fix -/

/-- **An offered fix executes as offered.** The answer to a request for fixes holds one command
for each fix that the registry has at the range, in order. Whichever of them is called, at any
later point of the session or in any other session that has not stopped, the server takes the
call: it sends one request, for exactly the edits of the fix in its version of its document, and
then the empty reply to the call. -/
theorem offered_fix_executes {s : Session} (running : s.exit = none) {v id : Json} {q : FixQuery}
    (queries : v.Queries id q) :
    (s.move (.received v)).2.frames = [.object [("id", id), ("jsonrpc", .string "2.0"),
      ("result", .array ((s.server.registry.fixes q.uri q.range).map QuickFix.toJson))]] ∧
    ∀ f ∈ s.server.registry.fixes q.uri q.range, ∀ (t : Session) (w id' : Json),
      t.exit = none → w.Calls id' f.toJson →
        ∃ own reply : Json, (t.move (.received w)).2.frames = [own, reply] ∧
          own.AsksToApply t.server.nextId ⟨f.uri, f.version, f.edits⟩ ∧
          reply.RepliesTo id' ∧ reply.field? "result" = some .null := by
  constructor
  · simp only [move, react_running running, Server.step, Server.receive_of_queries queries]
    rfl
  · intro f _ t w id' running' calls
    simp only [move, react_running running', Server.step, Server.receive_of_commands calls.commands]
    exact ⟨_, _, rfl, Outgoing.asksToApply _ _, Outgoing.repliesTo_result id' .null, rfl⟩

/-- The fix of a document is called when the document has been closed. -/
theorem offered_fix_executes_linting :
    let s := ((init "TSQLLint" {}).play linting).2
    let t := (s.play [.received (.closing "file:///w/a.sql")]).2
    let q : FixQuery := ⟨"file:///w/a.sql", .point .origin⟩
    s.exit = none ∧ (Json.asking (.int 1) q).Queries (.int 1) q ∧
      lintingFix ∈ s.server.registry.fixes q.uri q.range ∧ t.exit = none ∧
      (Json.calling (.int 2) lintingFix).Calls (.int 2) lintingFix.toJson ∧
      ∃ own reply : Json,
        (t.move (.received (.calling (.int 2) lintingFix))).2.frames = [own, reply] ∧
        own.AsksToApply t.server.nextId ⟨lintingFix.uri, lintingFix.version, lintingFix.edits⟩ ∧
        reply.RepliesTo (.int 2) ∧ reply.field? "result" = some .null := by
  intro s t q
  have hs : s.exit = none := by decide +kernel
  have hfix : lintingFix ∈ s.server.registry.fixes q.uri q.range := by decide +kernel
  have ht : t.exit = none := by decide +kernel
  have hcalls := Json.calls_calling (.int 2) lintingFix
  have hqueries := Json.queries_asking (.int 1) q
  obtain ⟨-, hexecutes⟩ := offered_fix_executes hs hqueries
  exact ⟨hs, hqueries, hfix, ht, hcalls, hexecutes _ hfix t _ _ ht hcalls⟩

end Session

end LintBridge
