import LintBridge.Document.Position
import LintBridge.Text.Basic

set_option autoImplicit false

/-! # Applying an edit

What an editor does with a text edit: it cuts the document at the two ends of the range and
puts the new text between the pieces. A column past the end of its line stands for the end of
the line, a line past the end of the document for the end of the document.
-/

namespace LintBridge

/-- The document before the position `units` code units into line `line`. -/
def Position.textBefore (line units : Nat) (cs : List Char) : List Char :=
  match line with
  | 0 => Text.takeUnits units (cs.takeWhile (· ≠ '\n'))
  | line + 1 => match cs with
    | [] => []
    | c :: cs => c :: textBefore (if c = '\n' then line else line + 1) units cs

/-- The document cut at a position. -/
def Position.cut (p : Position) (cs : List Char) : List Char × List Char :=
  let before := textBefore p.line.toNat p.character.toNat cs
  (before, cs.drop before.length)

/-- The document after an edit. -/
def TextEdit.apply (e : TextEdit) (document : List Char) : List Char :=
  (e.range.start.cut document).1 ++ e.newText.toList ++ (e.range.stop.cut document).2

end LintBridge
