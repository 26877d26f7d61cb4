import CatchmentPlanning.Decimal.Basic

/-!
# The fewest digits that read back

A float is written with as few digits as still single it out. The reals that
round to `m · 2^q` form an interval, closed exactly when `m` is even. Take the
grids `10^g` from coarse to fine: the first grid with a point in the interval
gives the fewest digits, and of its points in the interval only the two
neighbours of the float itself can be nearest to it. Where both lie in the
interval at the same distance, the format decides (`Tie`).
-/

namespace CatchmentPlanning

/-- Which of two equally near decimals is written. -/
inductive Tie where
  /-- The one whose last digit is even. -/
  | toEven
  /-- The larger one. -/
  | up
deriving Repr, DecidableEq

namespace Decimal

/-- The point of the grid `10^g` that is written for `m · 2^q`, if the grid has
a point among the reals that round to this float. Below a power of two the
floats lie twice as densely, so the interval is narrower on that side. -/
def onGrid? (tie : Tie) (m : Nat) (q g : Int) : Option Nat :=
  -- everything is measured in quarters of `2^q`, over the common factors `a` and `b`
  let u := q - 2
  let a := 2 ^ u.toNat * 10 ^ (-g).toNat
  let b := 2 ^ (-u).toNat * 10 ^ g.toNat
  let low := if m = 2 ^ 52 ∧ -1074 < q then 4 * m - 1 else 4 * m - 2
  let high := 4 * m + 2
  let inside (d : Nat) : Bool :=
    if m % 2 = 0 then decide (low * a ≤ d * b) && decide (d * b ≤ high * a)
    else decide (low * a < d * b) && decide (d * b < high * a)
  let below := 4 * m * a / b
  let above := below + 1
  match inside below, inside above with
  | true, false => some below
  | false, true => some above
  | false, false => none
  | true, true =>
    -- compare twice the float with the sum of its neighbours
    match compare (2 * (4 * m * a)) ((below + above) * b) with
    | .lt => some below
    | .gt => some above
    | .eq =>
      match tie with
      | .up => some above
      | .toEven => if below % 2 = 0 then some below else some above

/-- An exponent `e` with `m · 2^q < 10^e`, less than three above the smallest. -/
def decimalOrder (m : Nat) (q : Int) : Int :=
  ((m.log2 : Int) + q) * 30103 / 100000 + 3

/-- All digits of `m · 2^q`. -/
def exactly (negative : Bool) (m : Nat) (q : Int) : Decimal :=
  if 0 ≤ q then ⟨negative, m * 2 ^ q.toNat, 0⟩ else ⟨negative, m * 5 ^ (-q).toNat, q⟩

/-- The decimal with the fewest digits that reads back as `± m · 2^q`, the
nearest one to it of that length. -/
def shortest (tie : Tie) (negative : Bool) (m : Nat) (q : Int) : Decimal :=
  if m = 0 then ⟨negative, 0, 0⟩
  else
    let order := decimalOrder m q
    let found := (List.range 20).findSome? fun (n : Nat) =>
      let g := order - 1 - (n : Int)
      (onGrid? tie m q g).map fun d => (d, g)
    match found with
    | some (d, g) => ⟨negative, d, g⟩
    | none => exactly negative m q

end Decimal

end CatchmentPlanning
