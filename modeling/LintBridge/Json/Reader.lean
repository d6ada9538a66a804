import LintBridge.Json.Value
import LintBridge.Text.Utf8

set_option autoImplicit false

/-! # Reading JSON

The reader follows the JSON grammar to the letter: no trailing commas, no blanks but space,
tab, line feed and carriage return, no control characters in strings, surrogate escapes only
in pairs. Arrays and objects nest at most `maxDepth` deep, and a number that is too great for
a floating-point number is refused.

Every function yields a value together with the rest of the text. The recursion is bounded by
a number of steps that the wrapper takes from the length of the text: a value takes two steps
for each bracket it opens, a list one for each item.
-/

namespace LintBridge.Json

/-- How deep arrays and objects may nest. -/
def maxDepth : Nat := 127

/-- Whether a character may stand between tokens. -/
def isSpace (c : Char) : Bool := c = ' ' || c = '\t' || c = '\n' || c = '\r'

/-- The text without leading spaces. -/
def skipSpace (cs : List Char) : List Char := cs.dropWhile isSpace

/-! ## Strings -/

/-- The value of a hexadecimal digit of either case. -/
def hexDigit? (c : Char) : Option Nat :=
  if '0' ≤ c ∧ c ≤ '9' then some (c.toNat - '0'.toNat)
  else if 'a' ≤ c ∧ c ≤ 'f' then some (c.toNat - 'a'.toNat + 10)
  else if 'A' ≤ c ∧ c ≤ 'F' then some (c.toNat - 'A'.toNat + 10)
  else none

/-- The value of four hexadecimal digits at the front of a text. -/
def readHex4 : List Char → Option (Nat × List Char)
  | a :: b :: c :: d :: rest => do
    pure (((← hexDigit? a) * 16 + (← hexDigit? b)) * 256 +
      ((← hexDigit? c) * 16 + (← hexDigit? d)), rest)
  | _ => none

/-- A character given by its code point; a high surrogate needs a low one behind it. -/
def readCodePoint (cs : List Char) : Option (Char × List Char) := do
  let (n, rest) ← readHex4 cs
  if 0xD800 ≤ n ∧ n ≤ 0xDBFF then
    match rest with
    | '\\' :: 'u' :: rest => do
      let (m, rest) ← readHex4 rest
      if 0xDC00 ≤ m ∧ m ≤ 0xDFFF then
        some (Char.ofNat (0x10000 + (n - 0xD800) * 1024 + (m - 0xDC00)), rest)
      else none
    | _ => none
  else if 0xDC00 ≤ n ∧ n ≤ 0xDFFF then none
  else some (Char.ofNat n, rest)

/-- An escape, behind its backslash. -/
def readEscape : List Char → Option (Char × List Char)
  | '"' :: rest => some ('"', rest)
  | '\\' :: rest => some ('\\', rest)
  | '/' :: rest => some ('/', rest)
  | 'b' :: rest => some ('\x08', rest)
  | 'f' :: rest => some ('\x0C', rest)
  | 'n' :: rest => some ('\n', rest)
  | 'r' :: rest => some ('\r', rest)
  | 't' :: rest => some ('\t', rest)
  | 'u' :: rest => readCodePoint rest
  | _ => none

/-- A string behind its opening quote, with the characters read so far in reverse order. -/
def readString (done : List Char) : Nat → List Char → Option (String × List Char)
  | 0, _ | _, [] => none
  | fuel + 1, c :: cs =>
    if c = '"' then some (String.ofList done.reverse, cs)
    else if c = '\\' then match readEscape cs with
      | none => none
      | some (c, rest) => readString (c :: done) fuel rest
    else if c.toNat < 0x20 then none
    else readString (c :: done) fuel cs

/-! ## Values -/

mutual
/-- A value at the front of a text, spaces before it skipped. -/
def readValue (depth : Nat) : Nat → List Char → Option (Json × List Char)
  | 0, _ => none
  | fuel + 1, cs => match skipSpace cs with
    | 'n' :: 'u' :: 'l' :: 'l' :: rest => some (.null, rest)
    | 't' :: 'r' :: 'u' :: 'e' :: rest => some (.bool true, rest)
    | 'f' :: 'a' :: 'l' :: 's' :: 'e' :: rest => some (.bool false, rest)
    | '"' :: rest => (readString [] fuel rest).map fun (s, rest) => (.string s, rest)
    | '[' :: rest =>
      if depth = 0 then none
      else match skipSpace rest with
        | ']' :: rest => some (.array [], rest)
        | rest => readItems (depth - 1) [] fuel rest
    | '{' :: rest =>
      if depth = 0 then none
      else match skipSpace rest with
        | '}' :: rest => some (.object [], rest)
        | rest => readFields (depth - 1) [] fuel rest
    | cs => (Number.read cs).map fun (n, rest) => (.number n, rest)

/-- The items of an array and its closing bracket, with the items read so far in reverse
order. -/
def readItems (depth : Nat) (done : List Json) : Nat → List Char → Option (Json × List Char)
  | 0, _ => none
  | fuel + 1, cs => match readValue depth fuel cs with
    | none => none
    | some (v, rest) => match skipSpace rest with
      | ',' :: rest => readItems depth (v :: done) fuel rest
      | ']' :: rest => some (.array (v :: done).reverse, rest)
      | _ => none

/-- The fields of an object and its closing brace, with the fields read so far in reverse
order. -/
def readFields (depth : Nat) (done : List (String × Json)) :
    Nat → List Char → Option (Json × List Char)
  | 0, _ => none
  | fuel + 1, cs => match skipSpace cs with
    | '"' :: rest => match readString [] fuel rest with
      | none => none
      | some (key, rest) => match skipSpace rest with
        | ':' :: rest => match readValue depth fuel rest with
          | none => none
          | some (v, rest) => match skipSpace rest with
            | ',' :: rest => readFields depth ((key, v) :: done) fuel rest
            | '}' :: rest => some (ofFields ((key, v) :: done).reverse, rest)
            | _ => none
        | _ => none
    | _ => none
end

/-- The value that a text consists of. -/
def parse? (cs : List Char) : Option Json :=
  match readValue maxDepth (2 * cs.length + 2) cs with
  | none => none
  | some (v, rest) => if (skipSpace rest).isEmpty then some v else none

/-- The value that some bytes consist of, read as UTF-8. -/
def ofBytes? (bytes : List UInt8) : Option Json :=
  match Text.Utf8.decode bytes with
  | .error _ => none
  | .ok cs => parse? cs

end LintBridge.Json
