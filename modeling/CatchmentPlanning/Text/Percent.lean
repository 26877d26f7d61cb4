/-!
# Percent-encoded text

A path segment stands for a sequence of bytes: `%` followed by two hex digits is
the byte they name, and every other byte – a `+` and a `%` without its two
digits included – is itself. The segment reads as text only if those bytes are
UTF-8.
-/

namespace CatchmentPlanning

namespace Text

/-- The value of an ASCII hex digit, in either case. -/
def hexByteValue? (b : UInt8) : Option UInt8 :=
  if '0'.toUInt8 ≤ b ∧ b ≤ '9'.toUInt8 then some (b - '0'.toUInt8)
  else if 'A'.toUInt8 ≤ b ∧ b ≤ 'F'.toUInt8 then some (b - 'A'.toUInt8 + 10)
  else if 'a'.toUInt8 ≤ b ∧ b ≤ 'f'.toUInt8 then some (b - 'a'.toUInt8 + 10)
  else none

/-- The bytes that percent-encoded bytes stand for. -/
def percentDecoded : List UInt8 → List UInt8
  | b :: hi :: lo :: rest =>
    if b = '%'.toUInt8 then
      match hexByteValue? hi, hexByteValue? lo with
      | some h, some l => (16 * h + l) :: percentDecoded rest
      | _, _ => b :: percentDecoded (hi :: lo :: rest)
    else
      b :: percentDecoded (hi :: lo :: rest)
  | bytes => bytes

/-- Bytes without a `%` stand for themselves. -/
theorem percentDecoded_of_not_mem {bytes : List UInt8} (h : '%'.toUInt8 ∉ bytes) :
    percentDecoded bytes = bytes := by
  fun_induction percentDecoded bytes <;> simp_all

/-- The text that a percent-encoded segment stands for, if it is UTF-8. -/
def percentDecode? (segment : String) : Option String :=
  String.fromUTF8? ⟨(percentDecoded segment.toUTF8.toList).toArray⟩

end Text

end CatchmentPlanning
