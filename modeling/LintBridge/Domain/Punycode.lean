import LintBridge.Text.Basic

set_option autoImplicit false

/-! # Punycode

A text that is not ASCII can be written in ASCII: first the characters that are ASCII, then,
behind a hyphen if there are any, numbers that say which other characters to insert and where. A
number is written with the digits `a` to `z` and `0` to `9`, the least first; how many values of a
digit end a number depends on its place and on the numbers before.
-/

namespace LintBridge.Domain.Punycode

/-! ## Numbers -/

/-- The value of a digit. -/
def digit? (c : Char) : Option Nat :=
  if 'a' ≤ c ∧ c ≤ 'z' then some (c.toNat - 'a'.toNat)
  else if '0' ≤ c ∧ c ≤ '9' then some (c.toNat - '0'.toNat + 26)
  else none

/-- The least value with which the digit at a place does not end a number. -/
def threshold (place bias : Nat) : Nat := min 26 (max 1 (36 * place - bias))

/-- Reads the rest of a number from a place on, where a digit counts `weight` times. -/
def readNumber (bias : Nat) (weight sum : Nat) : Nat → List Char → Option (Nat × List Char)
  | _, [] => none
  | place, c :: cs => (digit? c).bind fun d =>
    let sum := sum + d * weight
    if d < threshold place bias then some (sum, cs)
    else readNumber bias (weight * (36 - threshold place bias)) sum (place + 1) cs

/-- Divides a number by 35 until it is at most 455, and yields how often, and the quotient. -/
def shrink (times n : Nat) : Nat × Nat :=
  if 455 < n then shrink (times + 1) (n / 35) else (times, n)
termination_by n
decreasing_by exact Nat.div_lt_self (by omega) (by omega)

/-- The bias for the next number, from the last one and how many characters there are now. -/
def adapt (first : Bool) (delta size : Nat) : Nat :=
  let delta := if first then delta / 700 else delta / 2
  let (times, delta) := shrink 0 (delta + delta / size)
  36 * times + 36 * delta / (delta + 38)

/-! ## Texts -/

/-- Inserts characters into a text. Each number says how far to go on from the last place and
character: all places of the text come before the next character. -/
def insertAll : Nat → Nat → Nat → Nat → List Char → List Char → Option (List Char)
  | _, _, _, _, text, [] => some text
  | 0, _, _, _, _, _ => none
  | fuel + 1, code, place, bias, text, cs => (readNumber bias 1 0 1 cs).bind fun (delta, cs) =>
    let size := text.length + 1
    let code := code + (place + delta) / size
    let next := (place + delta) % size
    if code.isValidChar then
      insertAll fuel code (next + 1) (adapt (decide (place = 0)) delta size)
        (text.insertIdx next (Char.ofNat code)) cs
    else none

/-- The text in front of the last hyphen, and the text behind it. -/
def splitBasic (cs : List Char) : List Char × List Char :=
  match cs.reverse.dropWhile (· ≠ '-') with
  | [] => ([], cs)
  | _ :: basic => (basic.reverse, (cs.reverse.takeWhile (· ≠ '-')).reverse)

/-- The text that an ASCII text is written for. -/
def decode? (cs : List Char) : Option (List Char) :=
  let (basic, rest) := splitBasic cs
  insertAll rest.length 128 0 72 basic rest

end LintBridge.Domain.Punycode
