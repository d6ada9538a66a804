import LintBridge.Document.UriMap

set_option autoImplicit false

/-! # Open documents

The store holds, for each open document, the newest text that the editor has sent. Versions
are chosen by the editor; an update with a version below the stored one is out of order and
refused, one with the same version replaces the text.
-/

namespace LintBridge

/-- A text of a document, with the version that the editor gave it. -/
structure Document where
  version : Int32
  text : String
  deriving DecidableEq

/-- The open documents. -/
abbrev DocumentStore := UriMap Document

namespace DocumentStore

/-- Whether the store holds a newer text than version `version`. -/
def isNewer (stored : Option Document) (version : Int32) : Bool :=
  match stored with
  | none => false
  | some d => decide (version < d.version)

/-- Records a text and says whether it was accepted. -/
def update (s : DocumentStore) (uri : String) (d : Document) : DocumentStore × Bool :=
  if isNewer (s.get? uri) d.version then (s, false) else (s.insert uri d, true)

/-- Forgets a document and yields its last text. -/
def close (s : DocumentStore) (uri : String) : DocumentStore × Option Document :=
  (s.erase uri, s.get? uri)

end DocumentStore

end LintBridge
