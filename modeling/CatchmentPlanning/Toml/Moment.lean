import CatchmentPlanning.Text.Numeral

/-!
# Dates and times

A moment is a date, a time of day, or a date with a time behind it, which may
then carry its offset from universal time. No setting is a moment, so a moment
is only recognised: the readers answer what is left behind it, and nothing if
there is none.
-/

namespace CatchmentPlanning

namespace Toml

/-- Reads a number of two digits that lies in a range. -/
def twoDigits? (low high : Nat) : List Char → Option (Nat × List Char)
  | a :: b :: rest => do
    let n := 10 * (← Text.digitValue? a) + (← Text.digitValue? b)
    if low ≤ n ∧ n ≤ high then some (n, rest) else none
  | _ => none

/-- What follows a character that has to stand in front. -/
def behind? (c : Char) : List Char → Option (List Char)
  | d :: rest => if d = c then some rest else none
  | [] => none

/-- How many days a month has. -/
def daysOf (year month : Nat) : Nat :=
  if month = 2 then
    if year % 4 = 0 ∧ (year % 100 ≠ 0 ∨ year % 400 = 0) then 29 else 28
  else if month = 4 ∨ month = 6 ∨ month = 9 ∨ month = 11 then 30
  else 31

/-- Reads a date: a year of four digits, a month, and a day that the month
has. -/
def date? (cs : List Char) : Option (List Char) := do
  let (century, cs) ← twoDigits? 0 99 cs
  let (year, cs) ← twoDigits? 0 99 cs
  let (month, cs) ← twoDigits? 1 12 (← behind? '-' cs)
  let (_, cs) ← twoDigits? 1 (daysOf (100 * century + year) month) (← behind? '-' cs)
  return cs

/-- What follows the fraction of a second, if there is one. -/
def skipFraction (cs : List Char) : List Char :=
  match cs with
  | '.' :: c :: rest =>
    if c.isDigit then rest.dropWhile Char.isDigit else cs
  | cs => cs

/-- Reads a time of day. A leap second is the sixty-first of its minute. -/
def time? (cs : List Char) : Option (List Char) := do
  let (_, cs) ← twoDigits? 0 23 cs
  let (_, cs) ← twoDigits? 0 59 (← behind? ':' cs)
  let (_, cs) ← twoDigits? 0 60 (← behind? ':' cs)
  return skipFraction cs

/-- Reads an offset from universal time. -/
def offset? : List Char → Option (List Char)
  | [] => none
  | c :: cs =>
    if c = 'Z' ∨ c = 'z' then some cs
    else if c = '+' ∨ c = '-' then do
      let (_, cs) ← twoDigits? 0 23 cs
      let (_, cs) ← twoDigits? 0 59 (← behind? ':' cs)
      return cs
    else none

/-- What follows the time behind a date, if there is one. -/
def skipTime (cs : List Char) : List Char :=
  match cs with
  | [] => []
  | c :: rest =>
    if c = 'T' ∨ c = 't' ∨ c = ' ' then
      match time? rest with
      | some rest => (offset? rest).getD rest
      | none => cs
    else cs

/-- Reads a moment. -/
def moment? (cs : List Char) : Option (List Char) :=
  match date? cs with
  | some rest => some (skipTime rest)
  | none => time? cs

end Toml

end CatchmentPlanning
