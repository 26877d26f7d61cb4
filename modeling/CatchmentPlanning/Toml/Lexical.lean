import CatchmentPlanning.Toml.Basic
import CatchmentPlanning.Decimal.Reading

/-!
# The pieces of a TOML document

Blanks and comments, strings in their four notations, numbers, and keys. Every
reader takes the characters that are left and answers what it read together
with what is left behind it.
-/

namespace CatchmentPlanning

namespace Toml

/-- The fault of finding something that does not belong there. -/
def misplaced {α : Type} : List Char → Except Fault α
  | [] => .error .endOfText
  | c :: _ => .error (.unexpected c)

/-! ## Blanks, comments and line ends -/

/-- Whether a character is a blank within a line. -/
def isGap (c : Char) : Bool := c = ' ' || c = '\t'

/-- What follows the blanks. -/
def skipGap (cs : List Char) : List Char := cs.dropWhile isGap

/-- Whether a character may stand in a comment or, quotes and backslashes
apart, in a string: a tab, or anything that is no control character. -/
def isPlain (c : Char) : Bool := c = '\t' || (0x20 ≤ c.toNat && c.toNat ≠ 0x7f)

/-- What follows a line end; the end of the text counts as one. -/
def lineEnd : List Char → Except Fault (List Char)
  | [] => .ok []
  | '\n' :: rest => .ok rest
  | '\r' :: '\n' :: rest => .ok rest
  | c :: _ => .error (.unexpected c)

/-- What follows the rest of a line that may hold only blanks and a comment. -/
def lineRest (cs : List Char) : Except Fault (List Char) :=
  match skipGap cs with
  | '#' :: rest => lineEnd (rest.dropWhile isPlain)
  | cs => lineEnd cs

/-- What follows the blanks, comments and line ends between the items of an
array. -/
def skipFiller (comment : Bool) : List Char → Except Fault (List Char)
  | [] => .ok []
  | '\r' :: '\n' :: rest => skipFiller false rest
  | c :: rest =>
    if c = '\n' then skipFiller false rest
    else if comment then
      if isPlain c then skipFiller true rest else .error (.unexpected c)
    else if c = '#' then skipFiller true rest
    else if isGap c then skipFiller false rest
    else .ok (c :: rest)

/-! ## Strings -/

/-- The character behind a one-letter escape. -/
def escapedChar? : Char → Option Char
  | 'b' => some '\x08'
  | 't' => some '\t'
  | 'n' => some '\n'
  | 'f' => some '\x0c'
  | 'r' => some '\r'
  | '"' => some '"'
  | '\\' => some '\\'
  | _ => none

/-- The character with the code that hex digits name. -/
def codeChar? (digits : List Char) : Option Char := do
  let n ← Text.hexDigitsValue? 0 digits
  if n < 0x110000 ∧ ¬ (0xd800 ≤ n ∧ n < 0xe000) then some (Char.ofNat n) else none

/-- The rest of a basic string of one line, behind its opening quote; `acc`
holds the characters read so far, last one first. -/
def basicRest (acc : List Char) : List Char → Except Fault (String × List Char)
  | [] => .error .endOfText
  | '"' :: rest => .ok (String.ofList acc.reverse, rest)
  | '\\' :: 'u' :: a :: b :: c :: d :: rest =>
    match codeChar? [a, b, c, d] with
    | some x => basicRest (x :: acc) rest
    | none => .error .badEscape
  | '\\' :: 'U' :: a :: b :: c :: d :: e :: f :: g :: h :: rest =>
    match codeChar? [a, b, c, d, e, f, g, h] with
    | some x => basicRest (x :: acc) rest
    | none => .error .badEscape
  | '\\' :: c :: rest =>
    match escapedChar? c with
    | some x => basicRest (x :: acc) rest
    | none => .error .badEscape
  | c :: rest =>
    if c ≠ '\\' ∧ isPlain c then basicRest (c :: acc) rest else .error (.unexpected c)

/-- Whether nothing but blanks stands in front of the next line end. -/
def closesLine (cs : List Char) : Bool :=
  match skipGap cs with
  | '\n' :: _ => true
  | '\r' :: '\n' :: _ => true
  | _ => false

/-- The rest of a basic string of several lines, behind its opening quotes. Up
to two quotes may stand right in front of the closing ones. `joining` says that
a backslash at the end of a line swallows blanks and line ends here. -/
def basicLinesRest (joining : Bool) (acc : List Char) :
    List Char → Except Fault (String × List Char)
  | [] => .error .endOfText
  | '"' :: '"' :: '"' :: '"' :: '"' :: rest =>
    .ok (String.ofList ('"' :: '"' :: acc).reverse, rest)
  | '"' :: '"' :: '"' :: '"' :: rest => .ok (String.ofList ('"' :: acc).reverse, rest)
  | '"' :: '"' :: '"' :: rest => .ok (String.ofList acc.reverse, rest)
  | '\\' :: 'u' :: a :: b :: c :: d :: rest =>
    match codeChar? [a, b, c, d] with
    | some x => basicLinesRest false (x :: acc) rest
    | none => .error .badEscape
  | '\\' :: 'U' :: a :: b :: c :: d :: e :: f :: g :: h :: rest =>
    match codeChar? [a, b, c, d, e, f, g, h] with
    | some x => basicLinesRest false (x :: acc) rest
    | none => .error .badEscape
  | '\\' :: c :: rest =>
    match escapedChar? c with
    | some x => basicLinesRest false (x :: acc) rest
    | none =>
      if closesLine (c :: rest) then basicLinesRest true acc (c :: rest) else .error .badEscape
  | '\r' :: '\n' :: rest => basicLinesRest joining (if joining then acc else '\n' :: acc) rest
  | c :: rest =>
    if joining && (isGap c || c = '\n') then basicLinesRest true acc rest
    else if c = '\n' then basicLinesRest false (c :: acc) rest
    else if c ≠ '\\' ∧ isPlain c then basicLinesRest false (c :: acc) rest
    else .error (.unexpected c)

/-- The rest of a literal string of one line, behind its opening quote. -/
def literalRest (acc : List Char) : List Char → Except Fault (String × List Char)
  | [] => .error .endOfText
  | '\'' :: rest => .ok (String.ofList acc.reverse, rest)
  | c :: rest => if isPlain c then literalRest (c :: acc) rest else .error (.unexpected c)

/-- The rest of a literal string of several lines, behind its opening quotes. -/
def literalLinesRest (acc : List Char) : List Char → Except Fault (String × List Char)
  | [] => .error .endOfText
  | '\'' :: '\'' :: '\'' :: '\'' :: '\'' :: rest =>
    .ok (String.ofList ('\'' :: '\'' :: acc).reverse, rest)
  | '\'' :: '\'' :: '\'' :: '\'' :: rest => .ok (String.ofList ('\'' :: acc).reverse, rest)
  | '\'' :: '\'' :: '\'' :: rest => .ok (String.ofList acc.reverse, rest)
  | '\r' :: '\n' :: rest => literalLinesRest ('\n' :: acc) rest
  | c :: rest =>
    if c = '\n' ∨ isPlain c then literalLinesRest (c :: acc) rest else .error (.unexpected c)

/-- What follows a line end right behind the opening quotes of a string of
several lines; it does not belong to the string. -/
def skipFirstLineEnd : List Char → List Char
  | '\n' :: rest => rest
  | '\r' :: '\n' :: rest => rest
  | cs => cs

/-- Reads a string in any of its four notations. -/
def string? : List Char → Option (Except Fault (String × List Char))
  | '"' :: '"' :: '"' :: rest => some (basicLinesRest false [] (skipFirstLineEnd rest))
  | '"' :: rest => some (basicRest [] rest)
  | '\'' :: '\'' :: '\'' :: rest => some (literalLinesRest [] (skipFirstLineEnd rest))
  | '\'' :: rest => some (literalRest [] rest)
  | _ => none

/-! ## Numbers -/

/-- Reads further digits, each of which may have one `_` in front of it, and
continues the number `n` with them. Also counts them. -/
def moreDigits (base : Nat) (value? : Char → Option Nat) (n count : Nat) :
    List Char → Except Fault ((Nat × Nat) × List Char)
  | [] => .ok ((n, count), [])
  | ['_'] => .error .endOfText
  | '_' :: c :: rest =>
    match value? c with
    | some d => moreDigits base value? (base * n + d) (count + 1) rest
    | none => .error (.unexpected c)
  | c :: rest =>
    match value? c with
    | some d => moreDigits base value? (base * n + d) (count + 1) rest
    | none => .ok ((n, count), c :: rest)

/-- Reads a run of digits that starts with a digit, and continues the number `n`
with it. -/
def digitRun (base : Nat) (value? : Char → Option Nat) (n : Nat) :
    List Char → Except Fault ((Nat × Nat) × List Char)
  | [] => .error .endOfText
  | c :: rest =>
    match value? c with
    | some d => moreDigits base value? (base * n + d) 1 rest
    | none => .error (.unexpected c)

/-- The value of a binary, or an octal, digit. -/
def binaryValue? (c : Char) : Option Nat := (Text.digitValue? c).filter (· < 2)

@[inherit_doc binaryValue?]
def octalValue? (c : Char) : Option Nat := (Text.digitValue? c).filter (· < 8)

/-- A whole number, which must fit the signed 64-bit range. -/
def wholeNumber (n : Int) (rest : List Char) : Except Fault (Value × List Char) :=
  if -(2 ^ 63 : Int) ≤ n ∧ n < (2 ^ 63 : Int) then .ok (.integer n, rest)
  else .error .numberOutOfRange

/-- A float from its digits. A literal may not stand for positive infinity. -/
def floatNumber (negative : Bool) (digits : Nat) (exponent : Int) (rest : List Char) :
    Except Fault (Value × List Char) :=
  let x := Decimal.toFloat ⟨negative, digits, exponent⟩
  if x == Decimal.infinity false then .error .numberOutOfRange else .ok (.float x, rest)

/-- Reads the exponent of a float, behind its letter. -/
def exponentRest (cs : List Char) : Except Fault (Int × List Char) := do
  let (negative, cs) := Decimal.signOf cs
  let ((n, _), rest) ← digitRun 10 Text.digitValue? 0 cs
  return (if negative then -(n : Int) else n, rest)

/-- Reads the rest of a number behind the digits of its whole part. -/
def numberRest (negative : Bool) (n : Nat) : List Char → Except Fault (Value × List Char)
  | '.' :: rest => do
    let ((digits, count), rest) ← digitRun 10 Text.digitValue? n rest
    match rest with
    | 'e' :: rest | 'E' :: rest =>
      let (e, rest) ← exponentRest rest
      floatNumber negative digits (e - count) rest
    | rest => floatNumber negative digits (-(count : Int)) rest
  | 'e' :: rest | 'E' :: rest => do
    let (e, rest) ← exponentRest rest
    floatNumber negative n e rest
  | rest => wholeNumber (if negative then -(n : Int) else n) rest

/-- Reads a number. Only a number without sign may have a base of its own, and
a whole part of several digits does not start with a zero. -/
def number (cs : List Char) : Except Fault (Value × List Char) :=
  match cs with
  | '0' :: 'x' :: rest => do
    let ((n, _), rest) ← digitRun 16 Text.hexValue? 0 rest
    wholeNumber n rest
  | '0' :: 'o' :: rest => do
    let ((n, _), rest) ← digitRun 8 octalValue? 0 rest
    wholeNumber n rest
  | '0' :: 'b' :: rest => do
    let ((n, _), rest) ← digitRun 2 binaryValue? 0 rest
    wholeNumber n rest
  | cs =>
    let (negative, cs) := Decimal.signOf cs
    match cs with
    | 'i' :: 'n' :: 'f' :: rest => .ok (.float (Decimal.infinity negative), rest)
    | 'n' :: 'a' :: 'n' :: rest => .ok (.float (0.0 / 0.0), rest)
    | '0' :: rest => numberRest negative 0 rest
    | cs => do
      let ((n, _), rest) ← digitRun 10 Text.digitValue? 0 cs
      numberRest negative n rest

/-! ## Keys -/

/-- Whether a character may stand in a key without quotes. -/
def isBareKeyChar (c : Char) : Bool :=
  c.isAlphanum || c = '_' || c = '-'

/-- Reads one part of a key. -/
def keyPart : List Char → Except Fault (String × List Char)
  | '"' :: rest => basicRest [] rest
  | '\'' :: rest => literalRest [] rest
  | cs =>
    match cs.span isBareKeyChar with
    | ([], rest) => misplaced rest
    | (part, rest) => .ok (String.ofList part, rest)

/-- Reads the parts of a dotted key, blanks around them included; `acc` holds
those read so far, last one first. `fuel` is never short of the length of the
text. -/
def keyParts (fuel : Nat) (acc : List String) (cs : List Char) :
    Except Fault (List String × List Char) :=
  match fuel with
  | 0 => .error .endOfText
  | fuel + 1 =>
    match keyPart (skipGap cs) with
    | .error e => .error e
    | .ok (part, rest) =>
      match skipGap rest with
      | '.' :: rest => keyParts fuel (part :: acc) rest
      | rest => .ok ((part :: acc).reverse, rest)

/-- How many parts a key may have, and how deeply values may be nested. -/
def nestingLimit : Nat := 79

/-- Reads a key: the parts in front of its last one, and the last one. `fuel` is
never short of the length of the text. -/
def key (fuel : Nat) (cs : List Char) :
    Except Fault ((List String × String) × List Char) := do
  let (parts, rest) ← keyParts fuel [] cs
  if nestingLimit < parts.length then throw .tooDeep
  return ((parts.dropLast, parts.getLastD ""), rest)

end Toml

end CatchmentPlanning
