import LintBridge.Json.Number
import LintBridge.Json.Reader
import LintBridge.Toml.Datetime
import LintBridge.Toml.Value

set_option autoImplicit false

/-! # Scalars in TOML

A value without quotes and brackets: a boolean, an integer, a float, or a date or time. Single
underscores may stand between digits, and one behind a sign. A decimal number has no leading
zeros, and integers to the bases 16, 8 and 2 have no sign.

The shape of an integer admits more than its value: behind a separator, hexadecimal digits make
a decimal integer too, though one without a value.
-/

namespace LintBridge.Toml.Scalar

/-! ## Digits -/

/-- The text without the underscores that stand between two digits; nothing if one stands
elsewhere. `afterDigit` says whether what comes before counts as a digit. -/
def dropSeparators (isDigit : Char → Bool) (afterDigit : Bool) : List Char → Option (List Char)
  | [] => some []
  | c :: rest =>
    if c = '_' then
      if afterDigit && rest.head?.any isDigit then dropSeparators isDigit false rest else none
    else (dropSeparators isDigit (isDigit c) rest).map (c :: ·)

/-- The value of a digit to a base of at most 16. -/
def digit? (base : Nat) (c : Char) : Option Nat := (Json.hexDigit? c).filter (· < base)

/-- The value of some digits to a base, behind those that make up `n`. -/
def digitsValue? (base n : Nat) : List Char → Option Nat
  | [] => some n
  | c :: cs => (digit? base c).bind fun d => digitsValue? base (n * base + d) cs

/-- An integer of at most 128 bits: from `-2 ^ 127` to `2 ^ 128 - 1`. -/
def integer (n : Int) : Option Int :=
  if -(Binary64.pow2 127 : Nat) ≤ n ∧ n < (Binary64.pow2 128 : Nat) then some n else none

/-- Reads the digits of an integer to a base, with separators between digits. -/
def readDigits (base : Nat) (cs : List Char) : Option Toml := do
  let ds ← dropSeparators (fun c => (digit? base c).isSome) false cs
  if ds = [] then pure (.integer none)
  else pure (.integer (integer (← digitsValue? base 0 ds)))

/-! ## Decimal numbers -/

/-- Whether a run of digits has no superfluous zero at its front. -/
def isCanonical (ds : List Char) : Bool := ds.length = 1 || (ds ≠ [] && ds.head? ≠ some '0')

/-- The float `± n · 10 ^ k`, without its value if it is too great. -/
def float (negative : Bool) (n : Nat) (k : Int) : Toml :=
  let size : Int := (Number.digits n).length + k
  let magnitude : Option Nat :=
    if n = 0 ∨ size < -400 then some 0
    else if 310 < size then none
    else Binary64.ofQuotient (n * Binary64.pow10 k.toNat) (Binary64.pow10 (-k).toNat)
  .float (magnitude.map (Binary64.ofMagnitude negative))

/-- Reads the exponent of a float. -/
def readExponent (cs : List Char) : Option Int :=
  let (negative, ds) := match cs with
    | '-' :: rest => (true, rest)
    | '+' :: rest => (false, rest)
    | _ => (false, cs)
  if ds = [] then none
  else (digitsValue? 10 0 ds).map fun n => if negative then -n else n

/-- Finishes a float with the digits `n` before the point or exponent. -/
def readFloat (negative : Bool) (whole : List Char) : List Char → Option Toml
  | '.' :: rest =>
    let places := rest.takeWhile Char.isDigit
    if places = [] then none
    else do
      let n ← digitsValue? 10 0 (whole ++ places)
      match rest.dropWhile Char.isDigit with
      | [] => pure (float negative n (-places.length))
      | c :: rest =>
        if c = 'e' ∨ c = 'E' then
          pure (float negative n ((← readExponent rest) - places.length))
        else none
  | c :: rest =>
    if c = 'e' ∨ c = 'E' then do
      pure (float negative (← digitsValue? 10 0 whole) (← readExponent rest))
    else none
  | [] => none

/-- The sign of a number. -/
inductive Sign
  | none
  | plus
  | minus
  deriving DecidableEq

/-- Whether a text holds a point or an exponent. -/
def isFractional (cs : List Char) : Bool := cs.any fun c => c = '.' || c = 'e' || c = 'E'

/-- Reads a decimal integer behind its sign. It starts with a digit or a separator, and what is
not a digit starts with a separator. -/
def readInteger (sign : Sign) (cs : List Char) : Option Toml :=
  let rest := cs.dropWhile Char.isDigit
  if cs = ['0'] ∨ cs.head? ≠ some '0' ∧ (rest = [] ∨ rest.head? = some '_') then
    (dropSeparators (fun c => (digit? 16 c).isSome) (decide (sign ≠ .none)) cs).map fun ds =>
      .integer ((digitsValue? 10 0 ds).bind fun n => integer (if sign = .minus then -n else n))
  else none

/-- Reads an integer or float behind its sign. -/
def readDecimal (sign : Sign) (cs : List Char) : Option Toml :=
  if cs = [] then none
  else if isFractional cs then do
    let ds ← dropSeparators Char.isDigit (decide (sign ≠ .none)) cs
    let whole := ds.takeWhile Char.isDigit
    if isCanonical whole ∨ cs.head? = some '_' then
      readFloat (decide (sign = .minus)) whole (ds.dropWhile Char.isDigit)
    else none
  else readInteger sign cs

/-- Reads what may stand behind a sign. -/
def readSigned (sign : Sign) (cs : List Char) : Option Toml :=
  if cs = ['i', 'n', 'f'] then some (.float (some (.infinity (decide (sign = .minus)))))
  else if cs = ['n', 'a', 'n'] then
    some (.float (some (.notANumber (decide (sign = .minus)))))
  else readDecimal sign cs

/-! ## All scalars -/

/-- Reads a scalar. -/
def read (cs : List Char) : Option Toml :=
  match cs with
  | '+' :: rest => readSigned .plus rest
  | '-' :: rest => readSigned .minus rest
  | '0' :: 'x' :: rest => readDigits 16 rest
  | '0' :: 'o' :: rest => readDigits 8 rest
  | '0' :: 'b' :: rest => readDigits 2 rest
  | _ =>
    if cs = ['t', 'r', 'u', 'e'] then some (.boolean true)
    else if cs = ['f', 'a', 'l', 's', 'e'] then some (.boolean false)
    else if Datetime.isValid cs then some .datetime
    else readSigned .none cs

/-! ## The extent of a scalar -/

/-- Whether a character ends a scalar. -/
def isEnd (c : Char) : Bool :=
  c = '=' || c = ',' || c = '[' || c = ']' || c = '\x7B' || c = '\x7D' || c = '#' || c = ' ' ||
    c = '\t' || c = '\r' || c = '\n'

/-- Splits a scalar off the front of a text. A time may follow a date after a space. -/
def split (cs : List Char) : List Char × List Char :=
  let word := cs.takeWhile (!isEnd ·)
  let rest := cs.dropWhile (!isEnd ·)
  match rest with
  | ' ' :: c :: _ =>
    if c.isDigit && Datetime.readDate word = some [] then
      let time := (rest.drop 1).takeWhile (!isEnd ·)
      (word ++ ' ' :: time, (rest.drop 1).dropWhile (!isEnd ·))
    else (word, rest)
  | _ => (word, rest)

end LintBridge.Toml.Scalar
