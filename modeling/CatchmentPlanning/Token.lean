import CatchmentPlanning.Text.Numeral
import CatchmentPlanning.Text.Pieces

/-!
# Action tokens

Which of a catchment's management actions are active is a sequence of flags, one
for each action in order. A **token** is a short name for such a sequence. Put a
closing `1` behind the flags and cut the result into words of 64 flags, the last
one as short as it comes out. Each word is a binary number with its first flag
as the lowest bit; written as upper-case hex numerals without leading zeros and
with `:` between them, the words are the token.

The closing flag makes the number of actions part of the token, so that tokens
of different lengths never coincide, and it keeps the last word from being zero.
Reading accepts hex digits in either case and nothing that writing would not
produce.
-/

namespace CatchmentPlanning

namespace Token

/-- The number of flags in a word. -/
def wordSize : Nat := 64

/-- The number of words in a token for so many actions. -/
def wordCount (actions : Nat) : Nat := actions / wordSize + 1

/-! ## Writing -/

/-- The binary number with the given bits, lowest bit first. -/
def binary : List Bool → Nat
  | [] => 0
  | b :: bs => b.toNat + 2 * binary bs

/-- The words that bits are cut into, each as a number; only the last one may be
short. -/
def packed (bits : List Bool) : List Nat :=
  match bits with
  | [] => []
  | b :: bs => binary ((b :: bs).take wordSize) :: packed ((b :: bs).drop wordSize)
termination_by bits.length
decreasing_by simp only [wordSize, List.length_drop, List.length_cons]; omega

/-- The words of a sequence of flags. -/
def words (flags : List Bool) : List Nat := packed (flags ++ [true])

/-- The upper-case hex numeral of a number, without leading zeros. -/
def numeral (n : Nat) : List Char := (Nat.toDigits 16 n).map Char.toUpper

/-- The token of a sequence of flags. -/
def encode (flags : List Bool) : String :=
  String.ofList (Text.joined ':' ((words flags).map numeral))

/-! ## Reading -/

/-- Why a text is no token for a number of actions. -/
inductive Fault where
  /-- A character at some position is neither a hex digit nor `:`. -/
  | invalidCharacter (character : Char) (position : Nat)
  | groupCount (expected found actions : Nat)
  | emptyGroup (index : Nat)
  | leadingZero (index : Nat)
  /-- A group is too long for a word. -/
  | groupOverflow (index : Nat)
  /-- The closing flag is not where the number of actions puts it. -/
  | lengthMismatch (actions : Nat)
deriving Repr, DecidableEq

/-- What is wrong, in words. -/
def Fault.message : Fault → String
  | invalidCharacter c position =>
    "invalid character [" ++ c.toString ++ "] at position " ++ toString position
      ++ "; tokens only contain hex digits and ':'"
  | groupCount expected found actions =>
    "expected " ++ toString expected ++ " group(s) for " ++ toString actions
      ++ " actions, found " ++ toString found
  | emptyGroup index => "group " ++ toString index ++ " is empty"
  | leadingZero index => "group " ++ toString index ++ " has a leading zero"
  | groupOverflow index => "group " ++ toString index ++ " exceeds 64 bits"
  | lengthMismatch actions =>
    "token does not describe exactly " ++ toString actions ++ " actions"

/-- Whether a character may occur in a token. -/
def isTokenChar (c : Char) : Bool := (Text.hexValue? c).isSome || c == ':'

/-- Whether a text is made of the characters of tokens. -/
def isShaped (token : String) : Bool := token.toList.all isTokenChar

/-- The first character that may not occur in a token, with its position. -/
def firstInvalid? (cs : List Char) : Option (Char × Nat) :=
  cs.zipIdx.find? fun (c, _) => !isTokenChar c

/-- Reads the group at an index as a word. -/
def word (index : Nat) : List Char → Except Fault Nat
  | [] => .error (.emptyGroup index)
  | c :: cs =>
    if c = '0' ∧ cs ≠ [] then .error (.leadingZero index)
    else if wordSize / 4 < (c :: cs).length then .error (.groupOverflow index)
    else
      match Text.hexDigitsValue? 0 (c :: cs) with
      | some n => .ok n
      | none => .error (.groupOverflow index)

/-- Reads the groups from an index on, each as a word. The first bad group
decides the fault. -/
def wordsFrom (index : Nat) : List (List Char) → Except Fault (List Nat)
  | [] => .ok []
  | group :: groups => do
    let w ← word index group
    let ws ← wordsFrom (index + 1) groups
    return w :: ws

/-- The lowest `count` bits of a number, lowest bit first. -/
def bits (count n : Nat) : List Bool := (List.range count).map n.testBit

/-- The flags that a token names for a number of actions. -/
def decode (actions : Nat) (token : String) : Except Fault (List Bool) := do
  let cs := token.toList
  match firstInvalid? cs with
  | some (c, position) => throw (.invalidCharacter c position)
  | none =>
    let groups := Text.pieces ':' cs
    unless groups.length = wordCount actions do
      throw (.groupCount (wordCount actions) groups.length actions)
    let ws ← wordsFrom 0 groups
    -- the closing flag is the highest bit of the last word
    unless (ws.getLastD 0) / 2 ^ (actions % wordSize) = 1 do
      throw (.lengthMismatch actions)
    return (ws.flatMap (bits wordSize)).take actions

/-- Whether two tokens differ at most in the case of their letters. -/
def sameIgnoringCase (s t : String) : Bool := s.toUpper == t.toUpper

/-! ## First facts -/

/-- There is a word for every 64 bits and one for what is left of them. -/
theorem length_packed (bits : List Bool) :
    (packed bits).length = (bits.length + (wordSize - 1)) / wordSize := by
  fun_induction packed bits with
  | case1 => rfl
  | case2 b bs ih =>
    rw [List.length_cons, ih, List.length_drop, List.length_cons, wordSize]
    omega

@[simp] theorem length_words (flags : List Bool) :
    (words flags).length = wordCount flags.length := by
  simp only [words, length_packed, List.length_append, List.length_singleton, wordCount, wordSize]
  omega

@[simp] theorem length_bits (count n : Nat) : (bits count n).length = count := by
  simp [bits]

/-- The empty sequence has the bare closing flag as its token. -/
theorem encode_nil : encode [] = "1" := by
  simp [encode, words, packed, binary, wordSize, numeral, Text.joined]
  decide

theorem sameIgnoringCase_refl (s : String) : sameIgnoringCase s s = true := by
  simp [sameIgnoringCase]

end Token

end CatchmentPlanning
