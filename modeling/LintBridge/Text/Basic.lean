set_option autoImplicit false

/-! # Blanks, lines and UTF-16 lengths

Text is read as a list of characters. This file fixes three notions that the rest of the
library shares: a character is *blank* when it has the Unicode property `White_Space`; a
text is cut into *lines* at the line feed and nowhere else, so that a carriage return
belongs to its line; and a piece of text is measured in UTF-16 code units, the unit in which
editors count columns.
-/

namespace LintBridge.Text

/-! ## Blank characters -/

/-- The Unicode property `White_Space`. -/
def isBlank (c : Char) : Bool :=
  let n := c.toNat
  (0x9 ≤ n && n ≤ 0xD) || n == 0x20 || n == 0x85 || n == 0xA0 || n == 0x1680 ||
    (0x2000 ≤ n && n ≤ 0x200A) || n == 0x2028 || n == 0x2029 || n == 0x202F ||
    n == 0x205F || n == 0x3000

/-- `cs` without its leading blanks. -/
def trimStart (cs : List Char) : List Char := cs.dropWhile isBlank

/-- `cs` without its trailing blanks. -/
def trimEnd (cs : List Char) : List Char := (cs.reverse.dropWhile isBlank).reverse

/-- `cs` without blanks at either end. -/
def trim (cs : List Char) : List Char := trimEnd (trimStart cs)

/-- Nothing but blanks, possibly nothing at all. -/
def isAllBlank (cs : List Char) : Bool := cs.all isBlank

/-- The leading run of blanks. -/
def indentation (cs : List Char) : List Char := cs.takeWhile isBlank

theorem indentation_append_trimStart (cs : List Char) : indentation cs ++ trimStart cs = cs :=
  List.takeWhile_append_dropWhile

/-! ## Lines -/

/-- The pieces of `cs` between occurrences of `sep`; there is always at least one. -/
def splitAt (sep : Char) (cs : List Char) : List (List Char) :=
  cs.foldr (fun c pieces =>
    if c = sep then [] :: pieces
    else match pieces with
      | [] => [[c]]
      | piece :: rest => (c :: piece) :: rest) [[]]

/-- A text cut at its line feeds. -/
def lines (cs : List Char) : List (List Char) := splitAt '\n' cs

theorem splitAt_nil (sep : Char) : splitAt sep [] = [[]] := rfl

theorem splitAt_cons (sep c : Char) (cs : List Char) :
    splitAt sep (c :: cs) =
      if c = sep then [] :: splitAt sep cs
      else match splitAt sep cs with
        | [] => [[c]]
        | piece :: rest => (c :: piece) :: rest := rfl

/-- `line` without one carriage return at its end. -/
def dropReturn (line : List Char) : List Char :=
  if line.getLast? = some '\r' then line.dropLast else line

/-- The lines of a program's output: each is ended by a line feed, before which one carriage
return is dropped. What follows the last line feed is a line if it is not empty. -/
def outputLines (cs : List Char) : List (List Char) :=
  let pieces := lines cs
  let ended := pieces.dropLast.map dropReturn
  match pieces.getLast? with
  | none | some [] => ended
  | some last => ended ++ [last]

/-! ## UTF-16 -/

/-- The number of UTF-16 code units of a character. -/
def units (c : Char) : Nat := if c.toNat < 0x10000 then 1 else 2

/-- The number of UTF-16 code units of a text. -/
def utf16Length (cs : List Char) : Nat := cs.foldl (fun n c => n + units c) 0

/-- The part of `cs` that starts `n` code units in. A cut inside a surrogate pair falls
behind the pair, and a cut past the end at the end. -/
def dropUnits : Nat → List Char → List Char
  | _, [] => []
  | 0, cs => cs
  | n + 1, c :: cs => dropUnits (n + 1 - units c) cs

/-- The part of `cs` before the cut of `dropUnits`. -/
def takeUnits : Nat → List Char → List Char
  | _, [] => []
  | 0, _ => []
  | n + 1, c :: cs => c :: takeUnits (n + 1 - units c) cs

theorem takeUnits_append_dropUnits (n : Nat) (cs : List Char) :
    takeUnits n cs ++ dropUnits n cs = cs := by
  induction cs generalizing n with
  | nil => cases n <;> rfl
  | cons c cs ih => cases n with
    | zero => rfl
    | succ n => simp [takeUnits, dropUnits, ih]

end LintBridge.Text
