import CatchmentPlanning.Json.Basic
import CatchmentPlanning.Decimal.Reading
import CatchmentPlanning.Decimal.Scaling

/-!
# Reading JSON

The reader takes strict JSON: no comments, no trailing commas, no raw control
characters in strings, no unpaired surrogates, nothing behind the value. How
deep containers may nest is the caller's choice.

A number without a fraction and an exponent stays whole if it fits a signed or an
unsigned 64-bit word and is not `-0`. Every other number is read quickly rather
than exactly: as many of its digits as fit an unsigned 64-bit word are kept, and
what they make is scaled in floating-point arithmetic. A number that this takes
beyond the largest float is a fault.
-/

namespace CatchmentPlanning

namespace Json

/-- Why a text is no JSON value. -/
inductive Fault where
  | endOfText
  | unexpected (found : Char)
  | unfinishedString
  | badEscape
  | unpairedSurrogate
  | controlCharacter
  | numberOutOfRange
  | tooDeep
  | textAfterValue
deriving Repr, DecidableEq

/-- What is wrong, in words. -/
def Fault.message : Fault → String
  | endOfText => "the text ends inside a value"
  | unexpected c => "unexpected character " ++ c.toString
  | unfinishedString => "the text ends inside a string"
  | badEscape => "invalid escape in a string"
  | unpairedSurrogate => "unpaired surrogate in a string"
  | controlCharacter => "control character in a string"
  | numberOutOfRange => "number out of range"
  | tooDeep => "containers are nested too deeply"
  | textAfterValue => "unexpected text after the value"

/-- Whether a character may stand between tokens. -/
def isSpace (c : Char) : Bool :=
  c = ' ' || c = '\n' || c = '\t' || c = '\r'

/-- What follows the space in front of a token. -/
def skipSpace (cs : List Char) : List Char := cs.dropWhile isSpace

/-! ## Strings -/

/-- The 16-bit unit that four hex digits stand for. -/
def hexUnit? (a b c d : Char) : Option Nat :=
  Text.hexDigitsValue? 0 [a, b, c, d]

/-- The character behind a one-letter escape. -/
def escapedChar? : Char → Option Char
  | '"' => some '"'
  | '\\' => some '\\'
  | '/' => some '/'
  | 'b' => some '\x08'
  | 'f' => some '\x0c'
  | 'n' => some '\n'
  | 'r' => some '\r'
  | 't' => some '\t'
  | _ => none

/-- Whether a 16-bit unit opens, or closes, a surrogate pair. -/
def isLeading (u : Nat) : Bool := 0xd800 ≤ u && u < 0xdc00

@[inherit_doc isLeading]
def isTrailing (u : Nat) : Bool := 0xdc00 ≤ u && u < 0xe000

/-- The rest of a string behind its opening quote; `acc` holds the characters
read so far, last one first. -/
def stringRest (acc : List Char) : List Char → Except Fault (String × List Char)
  | [] => .error .unfinishedString
  | '"' :: rest => .ok (String.ofList acc.reverse, rest)
  | '\\' :: 'u' :: a :: b :: c :: d :: rest =>
    match hexUnit? a b c d with
    | none => .error .badEscape
    | some u =>
      if isTrailing u then .error .unpairedSurrogate
      else if isLeading u then
        match rest with
        | '\\' :: 'u' :: a :: b :: c :: d :: rest =>
          match hexUnit? a b c d with
          | none => .error .badEscape
          | some v =>
            if isTrailing v then
              stringRest (Char.ofNat (0x10000 + (u - 0xd800) * 0x400 + (v - 0xdc00)) :: acc) rest
            else .error .unpairedSurrogate
        | _ => .error .unpairedSurrogate
      else stringRest (Char.ofNat u :: acc) rest
  | '\\' :: c :: rest =>
    match escapedChar? c with
    | some c => stringRest (c :: acc) rest
    | none => .error .badEscape
  | c :: rest =>
    if c = '\\' then .error .unfinishedString
    else if c.toNat < 0x20 then .error .controlCharacter
    else stringRest (c :: acc) rest

/-! ## Numbers -/

/-- A run of digits of which the first ones are kept. -/
structure Digits where
  /-- What the kept digits make, behind those of an earlier run. -/
  value : Nat
  kept : Nat
  dropped : Nat
deriving Repr, DecidableEq

/-- The run of digits in front of a text. A digit is kept as long as the value
does not pass the limit; the digits behind the first one that is dropped are
dropped too. -/
def leadingDigits (limit : Nat) (run : Digits) : List Char → Digits × List Char
  | [] => (run, [])
  | c :: cs =>
    match Text.digitValue? c with
    | some d =>
      let value := 10 * run.value + d
      if run.dropped = 0 ∧ value ≤ limit then
        leadingDigits limit ⟨value, run.kept + 1, 0⟩ cs
      else leadingDigits limit ⟨run.value, run.kept, run.dropped + 1⟩ cs
    | none => (run, c :: cs)

/-- The value stays within the limit. -/
theorem value_leadingDigits_le {limit : Nat} {run : Digits} (h : run.value ≤ limit)
    (cs : List Char) : (leadingDigits limit run cs).1.value ≤ limit := by
  induction cs generalizing run with
  | nil => exact h
  | cons c cs ih =>
    cases hc : Text.digitValue? c with
    | none => simpa [leadingDigits, hc] using h
    | some d =>
      simp only [leadingDigits, hc]
      split
      · next hv => exact ih hv.2
      · exact ih h

/-- Reads at least one digit, continuing the number `n`. -/
def digits (limit n : Nat) (cs : List Char) : Except Fault (Digits × List Char) :=
  let (run, rest) := leadingDigits limit ⟨n, 0, 0⟩ cs
  if run.kept + run.dropped = 0 then
    match rest with
    | [] => .error .endOfText
    | c :: _ => .error (.unexpected c)
  else .ok (run, rest)

/-- The largest value that the digits of a number make. -/
def digitLimit : Nat := 2 ^ 64 - 1

/-- The largest exponent that is told apart from larger ones; no number that is
not zero comes near it. -/
def exponentLimit : Nat := 2 ^ 31 - 1

/-- The float that a decimal is scaled to, as a value. -/
def floatValue (d : Decimal) : Except Fault Json :=
  match d.scaled? with
  | some x => .ok (.float x)
  | none => .error .numberOutOfRange

/-- The value of a whole number whose last digits may have been dropped. -/
def wholeValue (negative : Bool) (run : Digits) : Except Fault Json :=
  let n := run.value
  if 0 < run.dropped then floatValue ⟨negative, n, run.dropped⟩
  else if negative then
    if 0 < n ∧ n ≤ 2 ^ 63 then .ok (.int (-(n : Int))) else floatValue ⟨true, n, 0⟩
  else .ok (.int n)

/-- Reads the exponent of a number, behind its letter. -/
def exponentRest (cs : List Char) : Except Fault (Int × List Char) := do
  let (negative, cs) := Decimal.signOf cs
  let (run, rest) ← digits exponentLimit 0 cs
  return (if negative then -(run.value : Int) else run.value, rest)

/-- Reads what is left of a number behind the digits `n` of its whole part and
fraction, which are scaled by `exponent` powers of ten. -/
def fractionRest (negative : Bool) (n : Nat) (exponent : Int) (cs : List Char) :
    Except Fault (Json × List Char) :=
  match cs with
  | 'e' :: rest | 'E' :: rest => do
    let (e, rest) ← exponentRest rest
    return (← floatValue ⟨negative, n, exponent + e⟩, rest)
  | rest => do
    return (← floatValue ⟨negative, n, exponent⟩, rest)

/-- Reads the rest of a number behind its whole part. -/
def numberRest (negative : Bool) (whole : Digits) (cs : List Char) :
    Except Fault (Json × List Char) :=
  match cs with
  | '.' :: rest => do
    let (run, rest) ← digits digitLimit whole.value rest
    fractionRest negative run.value (whole.dropped - run.kept) rest
  | 'e' :: _ | 'E' :: _ => fractionRest negative whole.value whole.dropped cs
  | rest => do
    return (← wholeValue negative whole, rest)

/-- Reads a number, sign and all. A whole part of several digits does not start
with a zero. -/
def number (cs : List Char) : Except Fault (Json × List Char) :=
  let (negative, cs) :=
    match cs with
    | '-' :: cs => (true, cs)
    | cs => (false, cs)
  match cs with
  | '0' :: c :: rest =>
    if (Text.digitValue? c).isSome then .error (.unexpected c)
    else numberRest negative ⟨0, 1, 0⟩ (c :: rest)
  | cs => do
    let (run, rest) ← digits digitLimit 0 cs
    numberRest negative run rest

/-! ## Values -/

mutual

/-- Reads a value. `depth` containers may still be opened; `fuel` bounds the
number of values read and is never short of the length of the text. -/
def value (fuel depth : Nat) (cs : List Char) : Except Fault (Json × List Char) :=
  match fuel with
  | 0 => .error .endOfText
  | fuel + 1 =>
    match skipSpace cs with
    | [] => .error .endOfText
    | 'n' :: 'u' :: 'l' :: 'l' :: rest => .ok (.null, rest)
    | 't' :: 'r' :: 'u' :: 'e' :: rest => .ok (.bool true, rest)
    | 'f' :: 'a' :: 'l' :: 's' :: 'e' :: rest => .ok (.bool false, rest)
    | '"' :: rest => (stringRest [] rest).map fun (s, rest) => (.str s, rest)
    | '[' :: rest =>
      match depth with
      | 0 => .error .tooDeep
      | depth + 1 =>
        match skipSpace rest with
        | ']' :: rest => .ok (.arr [], rest)
        | rest => items fuel depth [] rest
    | '{' :: rest =>
      match depth with
      | 0 => .error .tooDeep
      | depth + 1 =>
        match skipSpace rest with
        | '}' :: rest => .ok (.obj [], rest)
        | rest => entries fuel depth [] rest
    | cs => number cs

/-- Reads the items of an array up to its closing bracket; `acc` holds those
read so far, last one first. -/
def items (fuel depth : Nat) (acc : List Json) (cs : List Char) :
    Except Fault (Json × List Char) :=
  match fuel with
  | 0 => .error .endOfText
  | fuel + 1 =>
    match value fuel depth cs with
    | .error e => .error e
    | .ok (v, rest) =>
      match skipSpace rest with
      | ',' :: rest => items fuel depth (v :: acc) rest
      | ']' :: rest => .ok (.arr (v :: acc).reverse, rest)
      | c :: _ => .error (.unexpected c)
      | [] => .error .endOfText

/-- Reads the entries of an object up to its closing brace; `acc` holds those
read so far, last one first. -/
def entries (fuel depth : Nat) (acc : List (String × Json)) (cs : List Char) :
    Except Fault (Json × List Char) :=
  match fuel with
  | 0 => .error .endOfText
  | fuel + 1 =>
    match skipSpace cs with
    | '"' :: rest =>
      match stringRest [] rest with
      | .error e => .error e
      | .ok (name, rest) =>
        match skipSpace rest with
        | ':' :: rest =>
          match value fuel depth rest with
          | .error e => .error e
          | .ok (v, rest) =>
            match skipSpace rest with
            | ',' :: rest => entries fuel depth ((name, v) :: acc) rest
            | '}' :: rest => .ok (.obj ((name, v) :: acc).reverse, rest)
            | c :: _ => .error (.unexpected c)
            | [] => .error .endOfText
        | c :: _ => .error (.unexpected c)
        | [] => .error .endOfText
    | c :: _ => .error (.unexpected c)
    | [] => .error .endOfText

end

/-- Reads a text that is one value, in which at most `depth` containers are
nested. -/
def read (depth : Nat) (text : String) : Except Fault Json :=
  let cs := text.toList
  match value (2 * cs.length + 2) depth cs with
  | .error e => .error e
  | .ok (v, rest) => if (skipSpace rest).isEmpty then .ok v else .error .textAfterValue

end Json

end CatchmentPlanning
