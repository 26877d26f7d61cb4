import CatchmentPlanning.Decimal.Shortest

/-!
# How a float is laid out

The program writes floats in two ways. Inside JSON a number must stay a JSON
number that is visibly a float; inside messages it is written out in full. Both
write the same digits, but for ties: `Layout` holds what they differ in.
-/

namespace CatchmentPlanning

namespace Decimal

/-- The decisions of one way to write floats. -/
structure Layout where
  /-- Which of two equally near decimals is written. -/
  tie : Tie
  /-- Whether a whole number keeps a fraction, as in `1000.0`. -/
  fraction : Bool
  /-- Where the decimal point may stand, counted from the first digit, for the
  number to be written without an exponent; `none` if it always is. -/
  positional : Option (Int × Int)
deriving Repr

/-- Floats inside JSON: an exponent from `1e+16` up and below `1e-5`, and a
fraction on every whole number. -/
def Layout.json : Layout := ⟨.toEven, true, some (-4, 16)⟩

/-- Floats inside messages: every digit is written out, and a whole number has
no fraction. -/
def Layout.plain : Layout := ⟨.up, false, none⟩

/-- The digits of a positive decimal in front of and behind its point, which
stands after `point` digits. -/
def positionalText (layout : Layout) (digits : List Char) (point : Int) : String :=
  if point ≤ 0 then
    "0." ++ String.ofList (List.replicate (-point).toNat '0' ++ digits)
  else if point < digits.length then
    String.ofList (digits.take point.toNat) ++ "." ++ String.ofList (digits.drop point.toNat)
  else
    String.ofList (digits ++ List.replicate (point.toNat - digits.length) '0')
      ++ (if layout.fraction then ".0" else "")

/-- The digits of a positive decimal in exponent form. -/
def exponentText (digits : List Char) (point : Int) : String :=
  let e := point - 1
  let mantissa :=
    match digits with
    | d :: d' :: rest => String.ofList (d :: '.' :: d' :: rest)
    | ds => String.ofList ds
  mantissa ++ (if 0 ≤ e then "e+" else "e-") ++ toString e.natAbs

/-- The text of a decimal. -/
def text (layout : Layout) (d : Decimal) : String :=
  let digits := Nat.toDigits 10 d.digits
  let point := digits.length + d.exponent
  let body :=
    match layout.positional with
    | none => positionalText layout digits point
    | some (least, most) =>
      if least ≤ point ∧ point ≤ most then positionalText layout digits point
      else exponentText digits point
  if d.negative then "-" ++ body else body

/-- The text of a finite float; there is none for an infinity or no number. -/
def finiteText? (layout : Layout) (x : Float) : Option String :=
  match FloatView.ofFloat x with
  | .finite negative m q => some (text layout (shortest layout.tie negative m q))
  | _ => none

/-- The text of a float inside a message. -/
def plainText (x : Float) : String :=
  match FloatView.ofFloat x with
  | .finite negative m q => text .plain (shortest Layout.plain.tie negative m q)
  | .infinite negative => if negative then "-inf" else "inf"
  | .nan => "NaN"

end Decimal

end CatchmentPlanning
