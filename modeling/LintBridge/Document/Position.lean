set_option autoImplicit false

/-! # Positions, ranges and edits

A position is a line and a column, both counted from zero; columns count UTF-16 code units.
Positions are ordered by line first. A range has two ends and includes both of them.
-/

namespace LintBridge

/-- A place in a document. -/
structure Position where
  line : UInt32
  character : UInt32
  deriving DecidableEq, Repr

namespace Position

/-- Which of two positions comes first. -/
def compare (a b : Position) : Ordering :=
  (Ord.compare a.line b.line).then (Ord.compare a.character b.character)

/-- `a` comes strictly before `b`. -/
def before (a b : Position) : Prop :=
  a.line < b.line ∨ (a.line = b.line ∧ a.character < b.character)

instance : LT Position := ⟨before⟩

instance : LE Position := ⟨fun a b => ¬ b < a⟩

instance (a b : Position) : Decidable (a < b) :=
  inferInstanceAs (Decidable (a.line < b.line ∨ (a.line = b.line ∧ a.character < b.character)))

instance (a b : Position) : Decidable (a ≤ b) := inferInstanceAs (Decidable (¬ b < a))

/-- The first position of every document. -/
def origin : Position := ⟨0, 0⟩

end Position

/-- A stretch of a document, both ends included. -/
structure Range where
  start : Position
  stop : Position
  deriving DecidableEq, Repr

namespace Range

/-- The stretch that consists of one position. -/
def point (p : Position) : Range := ⟨p, p⟩

/-- Neither range ends before the other starts. -/
def overlaps (r s : Range) : Bool := !(decide (r.stop < s.start) || decide (s.stop < r.start))

end Range

/-- Replaces the text of a range. -/
structure TextEdit where
  range : Range
  newText : String
  deriving DecidableEq, Repr

/-- Inserts a text at a position. -/
def TextEdit.insert (p : Position) (newText : String) : TextEdit := ⟨.point p, newText⟩

end LintBridge
