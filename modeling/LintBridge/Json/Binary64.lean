set_option autoImplicit false

/-! # Binary64 numbers, exactly

A 64-bit floating-point number is kept as its bits, and all arithmetic is done on natural
numbers: a finite number is `m · 2 ^ e`, an operation computes the exact quotient of two
natural numbers, and `ofQuotient` rounds it to the nearest representable number, ties to the
even one.

`shortest` finds the decimal with the fewest digits that reads back as a given number, and
among those the nearest.
-/

namespace LintBridge

/-- A 64-bit floating-point number, by its bits. -/
structure Binary64 where
  bits : UInt64
  deriving DecidableEq, Repr

namespace Binary64

/-- A power of two. -/
def pow2 (e : Nat) : Nat := Nat.pow 2 e

/-- A power of ten. -/
def pow10 (e : Nat) : Nat := Nat.pow 10 e

/-- Whether the sign bit is set. -/
def isNegative (x : Binary64) : Bool := decide (pow2 63 ≤ x.bits.toNat)

/-- The bits without the sign. -/
def magnitude (x : Binary64) : Nat := x.bits.toNat % pow2 63

/-- The number `(-1) ^ sign · m · 2 ^ (e - 1074)` has significand `m` and exponent `e`. -/
def parts (x : Binary64) : Nat × Nat :=
  let field := x.magnitude / pow2 52
  let fraction := x.magnitude % pow2 52
  if field = 0 then (fraction, 0) else (fraction + pow2 52, field - 1)

/-- The number with the given sign and magnitude bits. -/
def ofMagnitude (negative : Bool) (magnitude : Nat) : Binary64 :=
  ⟨UInt64.ofNat (magnitude + if negative then pow2 63 else 0)⟩

/-- The infinity of the given sign. -/
def infinity (negative : Bool) : Binary64 := ofMagnitude negative (2047 * pow2 52)

/-- The number of the given sign that stands for none. -/
def notANumber (negative : Bool) : Binary64 := ofMagnitude negative (2047 * pow2 52 + pow2 51)

/-! ## Rounding -/

/-- The natural number nearest to `num / den`, ties to the even one. -/
def roundDiv (num den : Nat) : Nat :=
  let q := num / den
  let r := num % den
  if den < 2 * r ∨ (den = 2 * r ∧ q % 2 = 1) then q + 1 else q

/-- The magnitude bits of the number nearest to `num / den`, or nothing if that is past the
greatest finite one. In units of `2 ^ (e - 1074)` the significand must stay below `2 ^ 53`,
and the least `e` that achieves this is found from the sizes of `num` and `den`. -/
def ofQuotient (num den : Nat) : Option Nat :=
  if num = 0 then some 0
  else
    -- `2 ^ (s - 1) < num / den < 2 ^ (s + 1)` where `s = size num - size den`
    let size : Int := (num.log2 : Int) - (den.log2 : Int)
    let e₀ : Nat := (size - 53 + 1074).toNat
    let scaled (e : Nat) : Nat :=
      if e ≤ 1074 then roundDiv (num * pow2 (1074 - e)) den
      else roundDiv num (den * pow2 (e - 1074))
    let e := if scaled e₀ < pow2 53 then e₀ else e₀ + 1
    -- the leading bit of a normal significand counts as one in the exponent field
    let bits := e * pow2 52 + scaled e
    if bits < 2047 * pow2 52 then some bits else none

/-- The nearest number to a natural number below `2 ^ 1024`. -/
def ofNat (negative : Bool) (n : Nat) : Binary64 :=
  ofMagnitude negative ((ofQuotient n 1).getD 0)

/-- The product of `x` with the number nearest to `10 ^ k`, keeping the sign of `x`; nothing
if it is too great. -/
def mulPow10 (x : Binary64) (k : Nat) : Option Binary64 := do
  let (m, e) := x.parts
  let (m', e') := (ofMagnitude false (← ofQuotient (pow10 k) 1)).parts
  let bits ← ofQuotient (m * m' * pow2 (e + e')) (pow2 2148)
  pure (ofMagnitude x.isNegative bits)

/-- The quotient of `x` and the number nearest to `10 ^ k`, keeping the sign of `x`. -/
def divPow10 (x : Binary64) (k : Nat) : Option Binary64 := do
  let (m, e) := x.parts
  let (m', e') := (ofMagnitude false (← ofQuotient (pow10 k) 1)).parts
  let bits ← ofQuotient (m * pow2 e) (m' * pow2 e')
  pure (ofMagnitude x.isNegative bits)

/-! ## The shortest decimal

The numbers that round to `x` form an interval around it, whose ends belong to it exactly
when the significand of `x` is even. On the grid of decimals with `n` digits, the two
neighbours of `x` are tested; the first grid with a hit wins. -/

/-- The exact value and the interval of a positive number, as numerators over a common
denominator. -/
structure Interval where
  value : Nat
  low : Nat
  high : Nat
  closed : Bool
  den : Nat

/-- The interval of numbers that round to `x`. -/
def interval (x : Binary64) : Interval :=
  let (m, e) := x.parts
  -- below a power of two the grid is twice as fine
  let isPower := m == pow2 52 && e != 0
  let low := if isPower then 4 * m - 1 else 4 * m - 2
  let (up, down) := if e ≤ 1074 then (1, pow2 (1074 - e)) else (pow2 (e - 1074), 1)
  { value := 4 * m * up, low := low * up, high := (4 * m + 2) * up,
    closed := m % 2 == 0, den := 4 * down }

/-- Whether the decimal `d · 10 ^ k` lies in the interval. -/
def Interval.contains (i : Interval) (d : Nat) (k : Int) : Bool :=
  let lhs := d * pow10 k.toNat * i.den
  let scale := pow10 (-k).toNat
  if i.closed then i.low * scale ≤ lhs && lhs ≤ i.high * scale
  else i.low * scale < lhs && lhs < i.high * scale

/-- The number of decimal digits before the point of `num / den`, counting zeros after the
point negatively: `10 ^ (k - 1) ≤ num / den < 10 ^ k`. -/
def decimalSize (num den : Nat) : Int :=
  -- a first guess from the binary size, at most one too small
  let guess : Int := ((num.log2 : Int) - (den.log2 : Int) - 1) * 30103 / 100000
  let above (k : Int) : Bool := num * pow10 (-k).toNat < den * pow10 k.toNat
  if above guess then guess else if above (guess + 1) then guess + 1
  else if above (guess + 2) then guess + 2 else guess + 3

/-- The decimal `d · 10 ^ k` on the first grid with a hit, from `digits` digits on and over at
most `fuel` grids. -/
def shortestFrom (i : Interval) (size : Int) : Nat → Nat → Nat × Int
  | 0, _ => (0, 0)
  | fuel + 1, digits =>
    let k : Int := size - digits
    let num := i.value * pow10 (-k).toNat
    let den := i.den * pow10 k.toNat
    let below := num / den
    let lowHit := i.contains below k && below != 0
    let highHit := i.contains (below + 1) k
    let nearerHigh : Bool := den < 2 * (num % den) || (den == 2 * (num % den) && below % 2 == 1)
    if lowHit && !(highHit && nearerHigh) then (below, k)
    else if highHit then
      -- a power of ten has one digit on every grid
      if below + 1 = pow10 digits then (1, size) else (below + 1, k)
    else shortestFrom i size fuel (digits + 1)

/-- The decimal `d · 10 ^ k` with the fewest digits that reads back as the positive number
`x`, the nearest of them, the even one of two as near. Seventeen digits always suffice. -/
def shortest (x : Binary64) : Nat × Int :=
  let i := x.interval
  shortestFrom i (decimalSize i.value i.den) 18 1

end Binary64

end LintBridge
