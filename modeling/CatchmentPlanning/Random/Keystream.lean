/-!
# A stream of random words

Annealing runs draw from the keystream of ChaCha with twelve rounds. A block of
the stream is sixteen 32-bit words, computed from a key of eight words and the
number of the block; the stream consists of the blocks in order, read as 64-bit
words with the lower half first. The key comes from a 64-bit seed, so that a
seed fixes every draw.
-/

namespace CatchmentPlanning

namespace Random

/-- The words of a block. -/
abbrev Block := Vector UInt32 16

/-- Rotates a word to the left. -/
def rotateLeft (x : UInt32) (k : UInt32) : UInt32 := (x <<< k) ||| (x >>> (32 - k))

/-- Mixes four words of a block. -/
def quarterRound (s : Block) (a b c d : Fin 16) : Block :=
  let s := s.set a (s[a] + s[b])
  let s := s.set d (rotateLeft (s[d] ^^^ s[a]) 16)
  let s := s.set c (s[c] + s[d])
  let s := s.set b (rotateLeft (s[b] ^^^ s[c]) 12)
  let s := s.set a (s[a] + s[b])
  let s := s.set d (rotateLeft (s[d] ^^^ s[a]) 8)
  let s := s.set c (s[c] + s[d])
  s.set b (rotateLeft (s[b] ^^^ s[c]) 7)

/-- Two rounds: one down the columns of the block, one along its diagonals. -/
def doubleRound (s : Block) : Block :=
  let s := quarterRound s 0 4 8 12
  let s := quarterRound s 1 5 9 13
  let s := quarterRound s 2 6 10 14
  let s := quarterRound s 3 7 11 15
  let s := quarterRound s 0 5 10 15
  let s := quarterRound s 1 6 11 12
  let s := quarterRound s 2 7 8 13
  quarterRound s 3 4 9 14

/-- What a block is mixed from: four constants, the key, the number of the
block, and two words that are zero. -/
def blockInput (key : Vector UInt32 8) (number : UInt64) : Block :=
  #v[0x61707865, 0x3320646e, 0x79622d32, 0x6b206574,
    key[0], key[1], key[2], key[3], key[4], key[5], key[6], key[7],
    number.toUInt32, (number >>> 32).toUInt32, 0, 0]

/-- A block of the stream. -/
def block (key : Vector UInt32 8) (number : UInt64) : Block :=
  let input := blockInput key number
  let mixed := doubleRound (doubleRound (doubleRound (doubleRound (doubleRound
    (doubleRound input)))))
  Vector.zipWith (· + ·) mixed input

/-- Consecutive 32-bit words as 64-bit words, lower half first. -/
def wide : List UInt32 → List UInt64
  | low :: high :: rest => (low.toUInt64 ||| (high.toUInt64 <<< 32)) :: wide rest
  | _ => []

/-! ## Keys from seeds -/

/-- The next state of the generator that expands seeds. -/
def expand (state : UInt64) : UInt64 :=
  state * 6364136223846793005 + 11634580027462260723

/-- The word that a state of the generator gives. -/
def output (state : UInt64) : UInt32 :=
  let x := (((state >>> 18) ^^^ state) >>> 27).toUInt32
  let r := (state >>> 59).toUInt32
  (x >>> r) ||| (x <<< ((32 - r) % 32))

/-- The outputs of the next states. -/
def outputs : Nat → UInt64 → List UInt32
  | 0, _ => []
  | n + 1, state => output (expand state) :: outputs n (expand state)

@[simp] theorem length_outputs (n : Nat) (state : UInt64) : (outputs n state).length = n := by
  induction n generalizing state with
  | zero => rfl
  | succ n ih => simp [outputs, ih]

/-- The key of a seed. -/
def keyOfSeed (seed : UInt64) : Vector UInt32 8 :=
  ⟨(outputs 8 seed).toArray, by simp⟩

/-! ## The stream -/

/-- A place in the stream of a key. -/
structure Keystream where
  key : Vector UInt32 8
  /-- The number of the next block. -/
  number : UInt64
  /-- What is left of the block before it. -/
  pending : List UInt64

namespace Keystream

/-- The start of the stream of a seed. -/
def ofSeed (seed : UInt64) : Keystream := ⟨keyOfSeed seed, 0, []⟩

/-- The next word of the stream. -/
def next (k : Keystream) : UInt64 × Keystream :=
  match k.pending with
  | x :: rest => (x, { k with pending := rest })
  | [] =>
    let words := wide (block k.key k.number).toList
    (words.headD 0, { k with number := k.number + 1, pending := words.tail })

end Keystream

end Random

end CatchmentPlanning
