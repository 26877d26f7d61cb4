import CatchmentPlanning.Decimal.Basic

/-!
# Scaling by powers of ten

A decimal can be turned into a float in floating-point arithmetic alone: its
digits are rounded to a float, and that float is multiplied or divided by a
power of ten, which is rounded too. Each step rounds again, so what comes out is
close to the decimal but not always the float nearest to it.

Floats hold powers of ten up to `10^308`. A decimal that asks for a smaller
scale is divided in several steps; one that asks for a larger scale is out of
range, unless it is zero.
-/

namespace CatchmentPlanning

namespace Decimal

/-- The largest power of ten that a float holds. -/
def largestPower : Nat := 308

/-- The float nearest to a power of ten. -/
def powerOfTen (exponent : Nat) : Float := toFloat ⟨false, 1, exponent⟩

/-- Divides a float by `10^exponent`, by at most `10^308` at a time. Nothing is
left to do once it has become zero. -/
def dividedByPower (x : Float) (exponent : Nat) : Float :=
  if exponent ≤ largestPower then x / powerOfTen exponent
  else if x == 0.0 then x
  else dividedByPower (x / powerOfTen largestPower) (exponent - largestPower)
termination_by exponent
decreasing_by simp [largestPower] at *; omega

/-- Multiplies a float by `10^exponent`, unless the product is out of range. -/
def timesPower? (x : Float) (exponent : Nat) : Option Float :=
  if exponent ≤ largestPower then
    let y := x * powerOfTen exponent
    if y.isFinite then some y else none
  else if x == 0.0 then some x
  else none

/-- The float that a decimal is scaled to; its sign is kept, also on zero. A
decimal that is out of range has none. -/
def scaled? (d : Decimal) : Option Float :=
  let x := toFloat ⟨false, d.digits, 0⟩
  let scaled :=
    if 0 ≤ d.exponent then timesPower? x d.exponent.toNat
    else some (dividedByPower x (-d.exponent).toNat)
  scaled.map fun y => if d.negative then -y else y

end Decimal

end CatchmentPlanning
