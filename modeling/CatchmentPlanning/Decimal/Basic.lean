import CatchmentPlanning.Powers

/-!
# Decimals and binary floating point

A **decimal** is a sign, a whole number of digits and a power of ten. Decimals
are what people write; the program computes with 64-bit binary floating point.
This module says which float a decimal stands for – the nearest one, a half
going to the even neighbour – in exact arithmetic on natural numbers, so that
nothing depends on how a machine scales a number.

The non-negative floats, infinity included, are numbered consecutively by their
bits. A magnitude `m · 2^q` with `q ≥ -1074` has the number
`(q + 1074) · 2^52 + m`, whether or not it is subnormal and also when rounding
has carried `m` up to `2^53`; this is the one formula both directions use.
-/

namespace CatchmentPlanning

/-- A decimal number: `± digits · 10^exponent`. -/
structure Decimal where
  /-- Whether the number carries a minus sign. Zero may carry one too. -/
  negative : Bool
  /-- The digits, as one whole number. -/
  digits : Nat
  /-- The power of ten they are scaled by. -/
  exponent : Int
deriving Repr, DecidableEq

/-- A quotient rounded to the nearest whole number, a half to the even one. -/
def roundHalfEven (num den : Nat) : Nat :=
  let q := num / den
  let r := num % den
  if 2 * r < den then q
  else if den < 2 * r then q + 1
  else q + q % 2

/-- What a float is: no number, an infinity, or `± mantissa · 2^exponent`. -/
inductive FloatView where
  | nan
  | infinite (negative : Bool)
  | finite (negative : Bool) (mantissa : Nat) (exponent : Int)
deriving Repr, DecidableEq

namespace FloatView

/-- The number of infinity among the non-negative floats. -/
def infinityIndex : Nat := 0x7ff * 2 ^ 52

/-- Reads a float off its bits. -/
def ofFloat (x : Float) : FloatView :=
  let bits := x.toBits.toNat
  let negative := decide (2 ^ 63 ≤ bits)
  let index := bits % 2 ^ 63
  if infinityIndex < index then nan
  else if index = infinityIndex then infinite negative
  else if index < 2 ^ 52 then finite negative index (-1074)
  else finite negative (2 ^ 52 + index % 2 ^ 52) ((index / 2 ^ 52 : Nat) - 1075)

end FloatView

namespace Decimal

/-- `num · 2^(-q) / den` as a pair of natural numbers. -/
def scaledByTwo (num den : Nat) (q : Int) : Nat × Nat :=
  if 0 ≤ q then (num, den * 2 ^ q.toNat) else (num * 2 ^ (-q).toNat, den)

/-- The largest `l` with `2^l ≤ num / den`, for positive `num` and `den`. -/
def binaryOrder (num den : Nat) : Int :=
  let l : Int := (num.log2 : Int) - (den.log2 : Int)
  let (n, d) := scaledByTwo num den l
  if d ≤ n then l else l - 1

/-- The number, among the non-negative floats, of the float nearest to the
positive quotient `num / den`. What would pass the largest float is infinity. -/
def nearestIndex (num den : Nat) : Nat :=
  let q := max (-1074) (binaryOrder num den - 52)
  let (n, d) := scaledByTwo num den q
  min FloatView.infinityIndex ((q + 1074).toNat * 2 ^ 52 + roundHalfEven n d)

/-- The number of the float nearest to `digits · 10^exponent`. Powers of ten far
outside the range of floats are not computed. -/
def magnitudeIndex (digits : Nat) (exponent : Int) : Nat :=
  if digits = 0 then 0
  else if 400 < exponent then FloatView.infinityIndex
  else if exponent + digits.log2 < -400 then 0
  else if 0 ≤ exponent then nearestIndex (digits * 10 ^ exponent.toNat) 1
  else nearestIndex digits (10 ^ (-exponent).toNat)

/-- The float nearest to a decimal; its sign is kept, also on zero. -/
def toFloat (d : Decimal) : Float :=
  let index := magnitudeIndex d.digits d.exponent
  Float.ofBits (UInt64.ofNat (if d.negative then 2 ^ 63 + index else index))

/-- The float nearest to a whole number. -/
def floatOfInt (n : Int) : Float :=
  toFloat ⟨decide (n < 0), n.natAbs, 0⟩

/-- A quotient that comes out even needs no rounding. -/
theorem roundHalfEven_mul (n : Nat) {d : Nat} (hd : 0 < d) : roundHalfEven (n * d) d = n := by
  simp [roundHalfEven, Nat.mul_div_cancel _ hd, hd]

end Decimal

end CatchmentPlanning
