import LintBridge.Machine.Path
import LintBridge.Url.Reader

set_option autoImplicit false

/-! # Temporary files

The linter reads from a file, so the text of a document is put into a temporary one. Its name
has a unique part, and the extension of the document's URI, which some linters look at.
-/

namespace LintBridge.TempFile

/-- The extension for a document: that of the path of its URI, or a default without the periods
at its front. -/
def extensionChars (uri fallback : List Char) : List Char :=
  match ((Url.path? uri).bind Path.extension?).filter (· ≠ []) with
  | some extension => extension
  | none => fallback.dropWhile (· = '.')

/-- The extension for a document. -/
def extension (uri fallback : String) : String :=
  String.ofList (extensionChars uri.toList fallback.toList)

/-- The name of a temporary file. -/
def name (unique extension : List Char) : List Char :=
  "tsqllint-".toList ++ unique ++ '.' :: extension

end LintBridge.TempFile
