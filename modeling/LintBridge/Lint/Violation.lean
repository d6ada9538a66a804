import LintBridge.Document.Position

set_option autoImplicit false

/-! # Violations

A violation is one breach of a linter rule, at a range of the text that was linted.
-/

namespace LintBridge

/-- How grave a violation is. -/
inductive Severity
  | error
  | warning
  | information
  deriving DecidableEq, Repr

namespace Severity

/-- The severity that the linter names by a word. Words other than `error` and `warning`, in
this spelling, stand for information. -/
def ofWord (word : String) : Severity :=
  if word = "error" then .error
  else if word = "warning" then .warning
  else .information

/-- The number by which editors know a severity. -/
def code : Severity → Nat
  | error => 1
  | warning => 2
  | information => 3

end Severity

/-- One breach of a rule. -/
structure Violation where
  range : Range
  message : String
  rule : String
  severity : Severity
  deriving DecidableEq

/-- The line on which a violation starts. -/
def Violation.line (v : Violation) : UInt32 := v.range.start.line

end LintBridge
