import LintBridge.Document.UriMap
import LintBridge.Lint.Directive
import LintBridge.Lint.Violation
import LintBridge.Text.Basic

set_option autoImplicit false

/-! # Quick fixes

The registry holds, for each document, the violations of its last lint run, together with the
version that was linted and the edit that silences the violation on its line. Registering a
run replaces all that was held for the document.

Two fixes are offered for a violation: one wraps its line in a pair of suppression comments,
indented like the line, and one puts a single comment at the top of the file.
-/

namespace LintBridge

/-- A violation in the registry. -/
structure RegisteredViolation where
  violation : Violation
  /-- The version of the document that was linted. -/
  version : Int32
  /-- Silences the violation on its line. -/
  lineEdits : List TextEdit
  deriving DecidableEq

/-- A fix that the editor can offer. -/
structure QuickFix where
  title : String
  uri : String
  /-- The version that the edits are meant for. -/
  version : Int32
  edits : List TextEdit
  deriving DecidableEq

/-- The command by which the editor asks for the edits of a fix to be applied. -/
def QuickFix.command : String := "_tsql-lint.change"

namespace DirectiveSyntax

/-- Wraps the line of a violation in comments that disable and enable its rule. -/
def lineEdit (s : DirectiveSyntax) (lines : List (List Char)) (v : Violation) : TextEdit :=
  let line := lines[v.line.toNat]?.getD []
  let indent := String.ofList (Text.indentation line)
  { range := ⟨⟨v.line, 0⟩, v.range.stop⟩
    newText := indent ++ s.disableMarker v.rule ++ "\n" ++ String.ofList line ++ "\n" ++
      indent ++ s.enableMarker v.rule ++ "\n" }

/-- Puts a comment that disables a rule at the top of the file. -/
def fileEdit (s : DirectiveSyntax) (rule : String) : TextEdit :=
  .insert .origin (s.disableMarker rule ++ "\n")

end DirectiveSyntax

/-- The violations of the last lint run of each document. -/
structure Registry where
  directives : DirectiveSyntax
  documents : UriMap (List RegisteredViolation)

namespace Registry

/-- The registry before any lint run. -/
def empty (directives : DirectiveSyntax) : Registry := ⟨directives, .empty⟩

/-- A violation found in version `version` of a text, given by its lines. -/
def enter (directives : DirectiveSyntax) (version : Int32) (lines : List (List Char))
    (v : Violation) : RegisteredViolation :=
  ⟨v, version, [directives.lineEdit lines v]⟩

/-- Records the violations found in a version of a document. -/
def register (r : Registry) (uri : String) (version : Int32) (text : String)
    (violations : List Violation) : Registry :=
  let lines := Text.lines text.toList
  { r with documents :=
      r.documents.insert uri (violations.map (enter r.directives version lines)) }

/-- What is held for a document, in the order of the lint run. -/
def entries (r : Registry) (uri : String) : List RegisteredViolation :=
  (r.documents.get? uri).getD []

/-- The violations of a document whose range overlaps another. -/
def overlapping (r : Registry) (uri : String) (query : Range) : List RegisteredViolation :=
  (r.entries uri).filter (·.violation.range.overlaps query)

/-- Silences a violation on its line. -/
def lineFix (uri : String) (e : RegisteredViolation) : QuickFix where
  title := "Disable: " ++ e.violation.rule ++ " for this line"
  uri := uri
  version := e.version
  edits := e.lineEdits

/-- Silences the rule of a violation in the whole file. -/
def fileFix (directives : DirectiveSyntax) (uri : String) (e : RegisteredViolation) :
    QuickFix where
  title := "Disable: " ++ e.violation.rule ++ " for this file"
  uri := uri
  version := e.version
  edits := [directives.fileEdit e.violation.rule]

/-- The fixes for some violations: first those for a line, then those for the file. -/
def fixesFor (r : Registry) (uri : String) (es : List RegisteredViolation) : List QuickFix :=
  es.map (lineFix uri) ++ es.map (fileFix r.directives uri)

/-- The fixes for what overlaps a range. -/
def fixes (r : Registry) (uri : String) (query : Range) : List QuickFix :=
  r.fixesFor uri (r.overlapping uri query)

/-- The number of documents with a recorded lint run. -/
def documentCount (r : Registry) : Nat := r.documents.size

end Registry

end LintBridge
