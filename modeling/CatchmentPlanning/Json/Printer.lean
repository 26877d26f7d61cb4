import CatchmentPlanning.Json.Basic
import CatchmentPlanning.Decimal.Layout

/-!
# JSON text

Values are written compactly, with nothing between their tokens. A string
escapes the quote, the backslash and the control characters, and nothing else.
A float that is not finite has no JSON number and is written `null`.
-/

namespace CatchmentPlanning

namespace Json

/-- The lower-case hex digit of a value below sixteen. -/
def hexDigit (n : Nat) : Char :=
  if n < 10 then Char.ofNat ('0'.toNat + n) else Char.ofNat ('a'.toNat + (n - 10))

/-- How a character stands inside a string. -/
def escaped (c : Char) : String :=
  if c = '"' then "\\\""
  else if c = '\\' then "\\\\"
  else if c = '\n' then "\\n"
  else if c = '\r' then "\\r"
  else if c = '\t' then "\\t"
  else if c = '\x08' then "\\b"
  else if c = '\x0c' then "\\f"
  else if c.toNat < 0x20 then
    "\\u00" ++ String.ofList [hexDigit (c.toNat / 16), hexDigit (c.toNat % 16)]
  else c.toString

/-- Writes a string value behind `acc`. -/
def appendString (acc s : String) : String :=
  (s.toList.foldl (fun acc c => acc ++ escaped c) (acc ++ "\"")) ++ "\""

mutual

/-- Writes a value behind `acc`. -/
def append (acc : String) : Json → String
  | null => acc ++ "null"
  | bool b => acc ++ (if b then "true" else "false")
  | int n => acc ++ toString n
  | float x => acc ++ (Decimal.finiteText? .json x).getD "null"
  | str s => appendString acc s
  | arr [] => acc ++ "[]"
  | arr (v :: rest) => appendItems (append (acc ++ "[") v) rest ++ "]"
  | obj [] => acc ++ "\x7b\x7d"
  | obj ((name, v) :: rest) =>
    appendEntries (append (appendString (acc ++ "\x7b") name ++ ":") v) rest ++ "\x7d"

/-- Writes the remaining items of an array. -/
def appendItems (acc : String) : List Json → String
  | [] => acc
  | v :: rest => appendItems (append (acc ++ ",") v) rest

/-- Writes the remaining entries of an object. -/
def appendEntries (acc : String) : List (String × Json) → String
  | [] => acc
  | (name, v) :: rest => appendEntries (append (appendString (acc ++ ",") name ++ ":") v) rest

end

/-- The JSON text of a value. -/
def compact (v : Json) : String := append "" v

end Json

end CatchmentPlanning
