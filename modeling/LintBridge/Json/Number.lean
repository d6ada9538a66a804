import LintBridge.Json.Binary64

set_option autoImplicit false

/-! # Numbers in JSON

A literal without point and exponent whose value lies between `-2 ^ 63` and `2 ^ 64 - 1` is an
integer, except for `-0`. Every other literal is a floating-point number. It is read in two
steps: the digits are gathered into an integer below `2 ^ 64` and a power of ten, dropping
digits that no longer fit, and the integer is then multiplied or divided by the power of ten
in floating-point arithmetic.
-/

namespace LintBridge

/-- A number of a JSON text. -/
inductive Number
  | int (n : Int)
  | float (x : Binary64)
  deriving DecidableEq, Repr

namespace Number

/-! ## Writing -/

/-- The decimal digits of a natural number. -/
def digits (n : Nat) : List Char := Nat.toDigits 10 n

/-- Which floating-point numbers are written positionally: those from `10 ^ least` to below
`10 ^ most`. The others have an exponent. -/
structure FloatStyle where
  least : Int
  most : Int

/-- Numbers from 0.00001 to below 10000000000000000 are positional. -/
def style : FloatStyle := ⟨-5, 16⟩

/-- Writes `d · 10 ^ k`. A positional number keeps at least one digit after the point; an
exponent has a sign and follows a mantissa with one digit before the point. -/
def renderDecimal (d : Nat) (k : Int) : List Char :=
  let ds := digits d
  let size : Int := ds.length + k
  if style.least < size ∧ size ≤ style.most then
    if 0 ≤ k then ds ++ List.replicate k.toNat '0' ++ ['.', '0']
    else if 0 < size then ds.take size.toNat ++ '.' :: ds.drop size.toNat
    else ['0', '.'] ++ List.replicate (-size).toNat '0' ++ ds
  else
    let mantissa := match ds with
      | c :: c' :: rest => c :: '.' :: c' :: rest
      | _ => ds
    let exponent := size - 1
    mantissa ++ 'e' :: (if exponent < 0 then '-' else '+') :: digits exponent.natAbs

/-- Writes a floating-point number. -/
def renderFloat (x : Binary64) : List Char :=
  let body :=
    if x.magnitude = 0 then ['0', '.', '0']
    else
      let (d, k) := x.shortest
      renderDecimal d k
  if x.isNegative then '-' :: body else body

/-- Writes an integer. -/
def renderInt (n : Int) : List Char :=
  if n < 0 then '-' :: digits n.natAbs else digits n.natAbs

/-- Writes a number. -/
def render : Number → List Char
  | int n => renderInt n
  | float x => renderFloat x

/-! ## Reading -/

/-- The value of a decimal digit. -/
def digit? (c : Char) : Option Nat :=
  if '0' ≤ c ∧ c ≤ '9' then some (c.toNat - '0'.toNat) else none

/-- Integers from `2 ^ 64` on do not fit. -/
def limit : Nat := 18446744073709551616

/-- Digits gathered from the front of a text. -/
structure Gathered where
  /-- The integer that the gathered digits were added to. -/
  value : Nat
  /-- How many digits were gathered. -/
  count : Nat
  /-- How many more digits stood there but did not fit. -/
  skipped : Nat
  /-- What follows the digits. -/
  rest : List Char

/-- Gathers digits onto `n` while the result stays below the limit. From the first digit that
does not fit on, all are skipped. -/
def gather (n count : Nat) : List Char → Gathered
  | [] => ⟨n, count, 0, []⟩
  | c :: cs => match digit? c with
    | none => ⟨n, count, 0, c :: cs⟩
    | some d =>
      if n * 10 + d < limit then gather (n * 10 + d) (count + 1) cs
      else ⟨n, count, 1 + (cs.takeWhile Char.isDigit).length, cs.dropWhile Char.isDigit⟩

/-- Divides by `10 ^ k`, by at most `10 ^ 308` at a time. The first argument bounds the number
of divisions. -/
def divideInSteps : Nat → Binary64 → Nat → Option Binary64
  | 0, x, _ => some x
  | fuel + 1, x, k =>
    if k ≤ 308 then x.divPow10 k
    else if x.magnitude = 0 then some x
    else (x.divPow10 308).bind (divideInSteps fuel · (k - 308))

/-- The floating-point number `± n · 10 ^ k` for `n` below the limit, or nothing if it is too
great. Two divisions by `10 ^ 308` leave nothing of any such `n`. -/
def scale (negative : Bool) (n : Nat) (k : Int) : Option Binary64 :=
  let x := Binary64.ofNat negative n
  if k < 0 then divideInSteps 3 x k.natAbs
  else if k ≤ 308 then x.mulPow10 k.toNat
  else if n = 0 then some x
  else none

/-- Reads an exponent after its letter. Yields the exponent and what follows. -/
def readExponent (cs : List Char) : Option (Int × List Char) :=
  let (negative, cs) := match cs with
    | '-' :: rest => (true, rest)
    | '+' :: rest => (false, rest)
    | _ => (false, cs)
  let ds := cs.takeWhile Char.isDigit
  if ds.isEmpty then none
  else
    let value : Nat := ds.foldl (fun n c => min 2147483648 (n * 10 + (c.toNat - '0'.toNat))) 0
    some (if negative then -value else value, cs.drop ds.length)

/-- Finishes a floating-point number `± n · 10 ^ k` at an optional exponent. -/
def readScale (negative : Bool) (n : Nat) (k : Int) (cs : List Char) :
    Option (Number × List Char) :=
  match cs with
  | 'e' :: rest | 'E' :: rest => do
    let (e, rest) ← readExponent rest
    pure (float (← scale negative n (k + e)), rest)
  | _ => do pure (float (← scale negative n k), cs)

/-- The number of an integer literal: `-0` and what lies outside the range of integers is a
floating-point number. -/
def ofLiteral (negative : Bool) (n : Nat) : Number :=
  if negative then
    if n = 0 ∨ 9223372036854775808 < n then float (Binary64.ofNat true n) else int (-n)
  else int n

/-- Reads an unsigned literal at the front of a text. A leading zero stands alone. -/
def readUnsigned (negative : Bool) (cs : List Char) : Option (Number × List Char) :=
  let whole := gather 0 0 cs
  if whole.count = 0 ∨ (cs.head? = some '0' ∧ whole.count ≠ 1) then none
  else match whole.rest with
    | '.' :: after =>
      let places := gather whole.value 0 after
      if places.count = 0 ∧ places.skipped = 0 then none
      else readScale negative places.value (whole.skipped - places.count) places.rest
    | 'e' :: _ | 'E' :: _ => readScale negative whole.value whole.skipped whole.rest
    | rest =>
      if whole.skipped ≠ 0 then readScale negative whole.value whole.skipped rest
      else some (ofLiteral negative whole.value, rest)

/-- Reads a number at the front of a text. -/
def read (cs : List Char) : Option (Number × List Char) :=
  match cs with
  | '-' :: rest => readUnsigned true rest
  | _ => readUnsigned false cs

end Number

end LintBridge
