import CatchmentPlanning.Decimal.Basic
import CatchmentPlanning.Text.Numeral

/-!
# Reading floats

A float in a table cell is an optional sign followed either by one of the words
`inf`, `infinity` and `nan`, in any letter case, or by digits with an optional
point among or around them and an optional exponent. There is at least one
digit, and nothing else – no blanks, no grouping.
-/

namespace CatchmentPlanning

namespace Decimal

/-- The leading digits of a text, continuing the number `n`, with their count. -/
def leadingDigits (n count : Nat) : List Char → Nat × Nat × List Char
  | [] => (n, count, [])
  | c :: cs =>
    match Text.digitValue? c with
    | some d => leadingDigits (10 * n + d) (count + 1) cs
    | none => (n, count, c :: cs)

/-- Splits an optional sign off; `true` stands for a minus. -/
def signOf : List Char → Bool × List Char
  | '-' :: cs => (true, cs)
  | '+' :: cs => (false, cs)
  | cs => (false, cs)

/-- Reads what may follow the digits: nothing, or an exponent. -/
def exponent? : List Char → Option Int
  | [] => some 0
  | c :: cs =>
    if c = 'e' ∨ c = 'E' then
      let (negative, cs) := signOf cs
      match leadingDigits 0 0 cs with
      | (n, count, []) =>
        if count = 0 then none else some (if negative then -(n : Int) else n)
      | _ => none
    else none

/-- Reads an unsigned decimal. -/
def unsigned? (negative : Bool) (cs : List Char) : Option Decimal :=
  let (whole, wholeCount, rest) := leadingDigits 0 0 cs
  let (digits, count, rest) :=
    match rest with
    | '.' :: cs => leadingDigits whole 0 cs
    | cs => (whole, 0, cs)
  if wholeCount + count = 0 then none
  else (exponent? rest).map fun e => ⟨negative, digits, e - count⟩

/-- The infinity of a sign. -/
def infinity (negative : Bool) : Float :=
  if negative then -(1.0 / 0.0) else 1.0 / 0.0

/-- Reads a float. -/
def readFloat? (s : String) : Option Float :=
  let (negative, cs) := signOf s.toList
  let word := String.ofList (cs.map Char.toLower)
  if word = "inf" ∨ word = "infinity" then some (infinity negative)
  else if word = "nan" then some (0.0 / 0.0)
  else (unsigned? negative cs).map toFloat

end Decimal

end CatchmentPlanning
