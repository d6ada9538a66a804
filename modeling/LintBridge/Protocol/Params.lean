import LintBridge.Document.Store
import LintBridge.Document.Position
import LintBridge.Protocol.Shape

set_option autoImplicit false

/-! # Parameters of messages

For each kind of parameters: their type, their shape, and how the one is made from the values
of the other.
-/

namespace LintBridge

/-! ## Places and edits -/

namespace Position

/-- The shape of a position. -/
def shape : Shape :=
  .group (.record "Position") (.field "line" .uint32 (.field "character" .uint32))

/-- The position with the given fields. -/
def ofFields : shape.Carrier → Position
  | (line, character, _) => ⟨line, character⟩

/-- A position as an object. -/
def toJson (p : Position) : Json :=
  .object [("character", .int p.character.toNat), ("line", .int p.line.toNat)]

end Position

namespace Range

/-- The shape of a range. -/
def shape : Shape :=
  .group (.record "Range") (.field "start" Position.shape (.field "end" Position.shape))

/-- The range with the given fields. -/
def ofFields : shape.Carrier → Range
  | (start, stop, _) => ⟨.ofFields start, .ofFields stop⟩

/-- A range as an object. -/
def toJson (r : Range) : Json := .object [("end", r.stop.toJson), ("start", r.start.toJson)]

end Range

namespace TextEdit

/-- The shape of an edit. -/
def shape : Shape :=
  .group (.record "TextEdit") (.field "range" Range.shape (.field "newText" .text))

/-- The edit with the given fields. -/
def ofFields : shape.Carrier → TextEdit
  | (range, newText, _) => ⟨.ofFields range, newText⟩

/-- An edit as an object. -/
def toJson (e : TextEdit) : Json :=
  .object [("newText", .string e.newText), ("range", e.range.toJson)]

end TextEdit

/-! ## Documents -/

/-- A text of a document as the editor sends it. -/
structure DocumentText where
  uri : String
  document : Document
  deriving DecidableEq

namespace DocumentText

/-- The shape of the parameters for an opened document. -/
def openedShape : Shape :=
  .group (.record "DidOpenParams") (.field "textDocument"
    (.group (.record "TextDocumentItem")
      (.field "uri" .text (.field "version" .int32 (.field "text" .text)))))

/-- The text of an opened document. -/
def opened (v : Json) : Except Misfit DocumentText :=
  (openedShape.read v).map fun ((uri, version, text, _), _) => ⟨uri, ⟨version, text⟩⟩

/-- The shape of the parameters for a changed document. -/
def changedShape : Shape :=
  .group (.record "DidChangeParams")
    (.field "textDocument"
      (.group (.record "VersionedTextDocumentIdentifier")
        (.field "uri" .text (.field "version" .int32)))
    (.field "contentChanges" (.list (.group (.record "ContentChange") (.field "text" .text)))))

/-- The text of a changed document: the last change holds the whole new text. Without any
change there is none. -/
def changed (v : Json) : Except Misfit (Option DocumentText) :=
  (changedShape.read v).map fun ((uri, version, _), changes, _) =>
    changes.getLast?.map fun (text, _) => ⟨uri, ⟨version, text⟩⟩

end DocumentText

/-- The shape of a reference to a document. -/
def documentShape : Shape := .group (.record "TextDocumentIdentifier") (.field "uri" .text)

/-- The shape of the parameters for a closed document. -/
def closedShape : Shape := .group (.record "DidCloseParams") (.field "textDocument" documentShape)

/-- The URI of a closed document. -/
def closedUri (v : Json) : Except Misfit String :=
  (closedShape.read v).map fun ((uri, _), _) => uri

/-! ## Requests -/

/-- A request for the fixes at a range of a document. -/
structure FixQuery where
  uri : String
  range : Range
  deriving DecidableEq

namespace FixQuery

/-- The shape of a request for fixes. -/
def shape : Shape :=
  .group (.record "CodeActionParams")
    (.field "textDocument" documentShape (.field "range" Range.shape))

/-- Reads a request for fixes. -/
def read (v : Json) : Except Misfit FixQuery :=
  (shape.read v).map fun ((uri, _), range, _) => ⟨uri, .ofFields range⟩

end FixQuery

/-- A request to run a command. -/
structure CommandCall where
  command : String
  arguments : List Json

namespace CommandCall

/-- The shape of a request to run a command. Absent arguments are none. -/
def shape : Shape :=
  .group (.record "ExecuteCommandParams")
    (.field "command" .text (.cons "arguments" (.list .any) (some (.array [])) .nil))

/-- Reads a request to run a command. -/
def read (v : Json) : Except Misfit CommandCall :=
  (shape.read v).map fun (command, arguments, _) => ⟨command, arguments⟩

end CommandCall

/-- Edits of one version of a document. -/
structure DocumentEdits where
  uri : String
  version : Int32
  edits : List TextEdit
  deriving DecidableEq

namespace DocumentEdits

/-- The shape of the arguments of the command that applies edits. -/
def shape : Shape :=
  .group .tuple
    (.field "uri" .text (.field "version" .int32 (.field "edits" (.list TextEdit.shape))))

/-- Reads the arguments of the command that applies edits. -/
def ofArguments (arguments : List Json) : Except Misfit DocumentEdits :=
  (shape.read (.array arguments)).map fun (uri, version, edits, _) =>
    ⟨uri, version, edits.map .ofFields⟩

/-- The arguments of the command that applies edits. -/
def toArguments (e : DocumentEdits) : List Json :=
  [.string e.uri, .int e.version.toInt, .array (e.edits.map TextEdit.toJson)]

/-- The parameters by which the editor is asked to apply the edits, under a label. The version
lets it refuse them once the document has moved on. -/
def toApplyParams (e : DocumentEdits) (label : String) : Json :=
  .object [
    ("edit", .object [("documentChanges", .array [.object [
      ("edits", .array (e.edits.map TextEdit.toJson)),
      ("textDocument", .object [("uri", .string e.uri), ("version", .int e.version.toInt)])]])]),
    ("label", .string label)]

end DocumentEdits

end LintBridge
