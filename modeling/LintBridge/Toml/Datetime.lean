set_option autoImplicit false

/-! # Dates and times in TOML

A date (`1979-05-27`), a time (`07:32`, `07:32:00`, `07:32:00.5`), or both with a `T` or a space
between them and an optional offset (`Z`, `-07:00`) behind. Every number has a fixed number of
digits but the fraction, and must exist in the calendar and on the clock. A minute may have a
leap second.
-/

namespace LintBridge.Toml.Datetime

/-- Reads a number of exactly so many digits, from `low` to `high`. -/
def readNumber (digits low high : Nat) (cs : List Char) : Option (Nat × List Char) :=
  let ds := cs.takeWhile Char.isDigit
  let n := ds.foldl (fun n c => n * 10 + (c.toNat - '0'.toNat)) 0
  if ds.length = digits ∧ low ≤ n ∧ n ≤ high then some (n, cs.dropWhile Char.isDigit) else none

/-- The text behind an expected character. -/
def expect (c : Char) : List Char → Option (List Char)
  | [] => none
  | d :: rest => if d = c then some rest else none

/-- The number of days in a month. -/
def daysIn (year month : Nat) : Nat :=
  if month = 2 then
    if year % 4 = 0 ∧ (year % 100 ≠ 0 ∨ year % 400 = 0) then 29 else 28
  else if month = 4 ∨ month = 6 ∨ month = 9 ∨ month = 11 then 30
  else 31

/-- Reads a date and yields what follows. -/
def readDate (cs : List Char) : Option (List Char) := do
  let (year, cs) ← readNumber 4 0 9999 cs
  let (month, cs) ← readNumber 2 1 12 (← expect '-' cs)
  let (_, cs) ← readNumber 2 1 (daysIn year month) (← expect '-' cs)
  pure cs

/-- Reads a fraction of a second, if there is one. -/
def readFraction : List Char → Option (List Char)
  | '.' :: c :: rest => if c.isDigit then some (rest.dropWhile Char.isDigit) else none
  | ['.'] => none
  | cs => some cs

/-- Reads a time and yields what follows. -/
def readTime (cs : List Char) : Option (List Char) := do
  let (_, cs) ← readNumber 2 0 23 cs
  let (_, cs) ← readNumber 2 0 59 (← expect ':' cs)
  match cs with
  | ':' :: cs => do
    let (_, cs) ← readNumber 2 0 60 cs
    readFraction cs
  | _ => pure cs

/-- Whether a text is an offset or nothing. -/
def isOffset : List Char → Bool
  | [] => true
  | [c] => c = 'Z' || c = 'z'
  | c :: cs =>
    let rest := do
      let (_, cs) ← readNumber 2 0 23 cs
      let (_, cs) ← readNumber 2 0 59 (← expect ':' cs)
      pure cs
    (c = '+' || c = '-') && rest = some []

/-- Whether a character stands between a date and a time. -/
def isSeparator (c : Char) : Bool := c = 'T' || c = 't' || c = ' '

/-- Whether a text is a date, a time, or both. -/
def isValid (cs : List Char) : Bool :=
  match readDate cs with
  | some [] => true
  | some (c :: rest) => isSeparator c && (readTime rest).any isOffset
  | none => readTime cs = some []

end LintBridge.Toml.Datetime
