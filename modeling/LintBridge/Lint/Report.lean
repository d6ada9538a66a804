import LintBridge.Lint.Violation
import LintBridge.Text.Basic

set_option autoImplicit false

/-! # The linter's report

The linter reports a violation on a line of its own:

    (line,column): severity rule : message

Blanks may stand around every part, the message runs to the end and may hold colons, and
both numbers are 64-bit integers with an optional sign. Lines of any other form are noise,
such as banners and summaries, and are left out.

The reported column is not used. A violation covers its line from the first character that
is not blank to the end; if the text has no such line, it sits at the start of it.
-/

namespace LintBridge

/-- A violation as the linter reports it, with lines counted from one. -/
structure ReportedViolation where
  line : Int
  column : Int
  severity : Severity
  rule : String
  message : String
  deriving DecidableEq

namespace ReportedViolation

/-! ## Reading a report line -/

/-- The text behind an expected character. -/
def expect (c : Char) : List Char → Option (List Char)
  | [] => none
  | d :: rest => if d = c then some rest else none

/-- The value of a run of ASCII digits. -/
def digitsValue (ds : List Char) : Nat :=
  ds.foldl (fun n c => n * 10 + (c.toNat - '0'.toNat)) 0

/-- An integer at the front of a text: an optional sign and at least one ASCII digit, with a
value between `-2 ^ 63` and `2 ^ 63 - 1`. -/
def readInt (cs : List Char) : Option (Int × List Char) :=
  let (negative, cs) := match cs with
    | '-' :: rest => (true, rest)
    | '+' :: rest => (false, rest)
    | _ => (false, cs)
  let ds := cs.takeWhile Char.isDigit
  let value : Int := if negative then -digitsValue ds else digitsValue ds
  if ds = [] ∨ value < -9223372036854775808 ∨ 9223372036854775807 < value then none
  else some (value, cs.dropWhile Char.isDigit)

/-- Splits the part between the colons into the word for the severity and the rule. -/
def splitHead (head : List Char) : Option (List Char × List Char) :=
  let head := Text.trim head
  let rule := Text.trim (head.dropWhile (!Text.isBlank ·))
  if rule = [] then none else some (head.takeWhile (!Text.isBlank ·), rule)

/-- Reads a report line. -/
def ofChars? (cs : List Char) : Option ReportedViolation := do
  let cs ← expect '(' cs
  let (line, cs) ← readInt (Text.trimStart cs)
  let cs ← expect ',' (Text.trimStart cs)
  let (column, cs) ← readInt (Text.trimStart cs)
  let cs ← expect ')' (Text.trimStart cs)
  let cs ← expect ':' (Text.trimStart cs)
  let (word, rule) ← splitHead (cs.takeWhile (· ≠ ':'))
  let message ← expect ':' (cs.dropWhile (· ≠ ':'))
  if '\n' ∈ message then none
  else some {
    line, column
    severity := .ofWord (String.ofList word)
    rule := String.ofList rule
    message := String.ofList (Text.trim message) }

/-- Reads a report line. -/
def parse? (line : String) : Option ReportedViolation := ofChars? line.toList

/-! ## Anchoring in the text -/

/-- The line counted from zero, the first one for numbers below one; nothing if the number
does not fit a position. -/
def targetLine (r : ReportedViolation) : Option UInt32 :=
  let n := (r.line - 1).toNat
  if n < 4294967296 then some (UInt32.ofNat n) else none

/-- The columns of the first character that is not blank and of the end of a line. -/
def columns (line : Option (List Char)) : UInt32 × UInt32 :=
  match line with
  | none => (0, 0)
  | some cs =>
    (UInt32.ofNat (Text.utf16Length (Text.indentation cs)), UInt32.ofNat (Text.utf16Length cs))

/-- Places a reported violation in the linted text, given by its lines. -/
def anchor (lines : List (List Char)) (r : ReportedViolation) : Option Violation := do
  let line ← r.targetLine
  let (first, last) := columns lines[line.toNat]?
  pure {
    range := ⟨⟨line, first⟩, ⟨line, last⟩⟩
    message := r.message
    rule := r.rule
    severity := r.severity }

end ReportedViolation

/-- The violations that a report states of a text, in the order of the report. -/
def Violation.ofReport (text : String) (report : List String) : List Violation :=
  let lines := Text.lines text.toList
  report.filterMap fun line => (ReportedViolation.parse? line).bind (·.anchor lines)

/-- The part of an output line that may be a report line: from the first opening parenthesis
on, without blanks at the end. The linter puts the path of the linted file before it. -/
def reportPart? (line : List Char) : Option (List Char) :=
  match line.dropWhile (· ≠ '(') with
  | [] => none
  | part => some (Text.trimEnd part)

end LintBridge
