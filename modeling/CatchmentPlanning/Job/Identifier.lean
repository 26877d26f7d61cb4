import CatchmentPlanning.Text.Numeral

/-!
# Job identifiers

A job is known by a number of 128 bits. Its text is 32 lower-case hex digits in
groups of 8, 4, 4, 4 and 12 with hyphens between them. It is read in either
case, in groups or without any hyphen; the grouped form may also stand in
braces or behind `urn:uuid:`, in any letter case.
-/

namespace CatchmentPlanning

/-- What a job is known by. -/
structure JobId where
  bits : BitVec 128
deriving Repr, DecidableEq

namespace JobId

/-- The identifier of a random number: 122 of its bits, and six that mark it as
random. -/
def ofRandom (n : Nat) : JobId :=
  let high := n / 2 ^ 80 % 2 ^ 48 * 2 ^ 80
  let middle := (0x4000 + n / 2 ^ 64 % 2 ^ 12) * 2 ^ 64
  let low := 2 ^ 63 + n % 2 ^ 62
  ⟨BitVec.ofNat 128 (high + middle + low)⟩

/-- The lowest `count` hex digits of a number, the highest one first. -/
def hexDigits (n : Nat) : Nat → List Char
  | 0 => []
  | count + 1 => Nat.digitChar (n / 16 ^ count % 16) :: hexDigits n count

@[simp] theorem length_hexDigits (n count : Nat) : (hexDigits n count).length = count := by
  induction count with
  | zero => rfl
  | succ count ih => simp [hexDigits, ih]

/-- Puts hyphens between the groups of 32 hex digits. -/
def grouped (digits : List Char) : List Char :=
  digits.take 8 ++ '-' :: (digits.drop 8).take 4 ++ '-' :: (digits.drop 12).take 4
    ++ '-' :: (digits.drop 16).take 4 ++ '-' :: digits.drop 20

/-- The text of an identifier. -/
def text (id : JobId) : String := String.ofList (grouped (hexDigits id.bits.toNat 32))

/-- Takes the hyphens between the groups out again. -/
def ungrouped? (cs : List Char) : Option (List Char) :=
  let digits := cs.take 8 ++ (cs.drop 9).take 4 ++ (cs.drop 14).take 4 ++ (cs.drop 19).take 4
    ++ cs.drop 24
  if digits.length = 32 ∧ grouped digits = cs then some digits else none

/-- Reads 32 hex digits. -/
def ofDigits? (digits : List Char) : Option JobId :=
  if digits.length = 32 then (Text.hexDigitsValue? 0 digits).map fun n => ⟨BitVec.ofNat 128 n⟩
  else none

/-- What stands inside braces or behind `urn:uuid:`. -/
def unwrapped (cs : List Char) : List Char :=
  if (cs.take 9).map Char.toLower = "urn:uuid:".toList then cs.drop 9
  else
    match cs with
    | '{' :: rest => if rest.getLast? = some '}' then rest.dropLast else cs
    | cs => cs

/-- Reads an identifier. -/
def read? (s : String) : Option JobId :=
  let cs := s.toList
  if cs.length = 32 then ofDigits? cs else (ungrouped? (unwrapped cs)).bind ofDigits?

end JobId

end CatchmentPlanning
