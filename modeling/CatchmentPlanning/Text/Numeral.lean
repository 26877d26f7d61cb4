import CatchmentPlanning.Powers

/-!
# Numerals

Planning-unit ids, ports, cache ages and queue lengths are written as plain
decimal numerals: an optional `+`, then at least one of the ten ASCII digits,
leading zeros allowed, and a value below a bound that the reader of the numeral
sets. Hex digits are ASCII too, and count in either case.
-/

namespace CatchmentPlanning

namespace Text

/-- The value of an ASCII digit. -/
def digitValue? (c : Char) : Option Nat :=
  if '0' ≤ c ∧ c ≤ '9' then some (c.toNat - '0'.toNat) else none

/-- The value of an ASCII hex digit, in either case. -/
def hexValue? (c : Char) : Option Nat :=
  if '0' ≤ c ∧ c ≤ '9' then some (c.toNat - '0'.toNat)
  else if 'a' ≤ c ∧ c ≤ 'f' then some (c.toNat - 'a'.toNat + 10)
  else if 'A' ≤ c ∧ c ≤ 'F' then some (c.toNat - 'A'.toNat + 10)
  else none

/-- The number that a run of digits continues `n` to. -/
def digitsValue? (n : Nat) : List Char → Option Nat
  | [] => some n
  | c :: cs =>
    match digitValue? c with
    | some d => digitsValue? (10 * n + d) cs
    | none => none

/-- The number that a run of hex digits continues `n` to. -/
def hexDigitsValue? (n : Nat) : List Char → Option Nat
  | [] => some n
  | c :: cs =>
    match hexValue? c with
    | some d => hexDigitsValue? (16 * n + d) cs
    | none => none

/-- Reads an unsigned numeral, sign and all. -/
def numeralValue? : List Char → Option Nat
  | '+' :: c :: cs => digitsValue? 0 (c :: cs)
  | c :: cs => digitsValue? 0 (c :: cs)
  | [] => none

/-- Reads an unsigned numeral below `bound`. -/
def unsigned? (bound : Nat) (s : String) : Option Nat :=
  (numeralValue? s.toList).filter (· < bound)

/-- A numeral that is read stands for a number below the bound. -/
theorem lt_of_unsigned? {bound n : Nat} {s : String} (h : unsigned? bound s = some n) :
    n < bound := by
  simpa using (Option.filter_eq_some_iff.mp h).2

/-- Every decimal digit is a hex digit of the same value. -/
theorem hexValue?_of_digitValue? {c : Char} {d : Nat} (h : digitValue? c = some d) :
    hexValue? c = some d := by
  unfold digitValue? at h
  split at h
  · next hc => simpa [hexValue?, hc] using h
  · simp at h

end Text

end CatchmentPlanning
