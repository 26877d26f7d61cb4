import CatchmentPlanning.Powers

/-!
# Draws

What is drawn from a stream of 64-bit words: a coin, an index, and a fraction.
The stream is anything with a state and a next word, so that a run can be
reasoned about for every stream there may be.
-/

namespace CatchmentPlanning

namespace Random

/-- A stream of 64-bit words with states of some type. -/
structure Stream (σ : Type) where
  next : σ → UInt64 × σ

namespace Stream

variable {σ : Type}

/-- Tosses a coin. -/
def coin (r : Stream σ) (s : σ) : Bool × σ :=
  let (x, s) := r.next s
  (decide (x < 0x8000000000000000), s)

/-- Tosses a number of coins. -/
def coins (r : Stream σ) : Nat → σ → List Bool × σ
  | 0, s => ([], s)
  | n + 1, s =>
    let (b, s) := r.coin s
    let (bs, s) := r.coins n s
    (b :: bs, s)

@[simp] theorem length_coins (r : Stream σ) (n : Nat) (s : σ) :
    (r.coins n s).1.length = n := by
  induction n generalizing s with
  | zero => rfl
  | succ n ih => simp [coins, ih]

/-- The largest lower half that is accepted for an index below `n`. The accepted
products fill each index equally often. -/
def acceptedUpTo (n : Nat) : Nat :=
  -- `n` moved up to the top of a 64-bit word, less one
  n * 2 ^ (63 - n.log2) - 1

/-- Draws until a word is accepted; the index is the upper half of its product
with `n`. Every second draw at least is accepted, so the bound on their number
stands for no bound at all. -/
def indexWithin (r : Stream σ) (n : Nat) : Nat → σ → Nat × σ
  | 0, s => (0, s)
  | tries + 1, s =>
    let (x, s) := r.next s
    let product := x.toNat * n
    if tries = 0 ∨ product % 2 ^ 64 ≤ acceptedUpTo n then (product / 2 ^ 64, s)
    else r.indexWithin n tries s

/-- Draws an index below `n`, each equally likely. -/
def index (r : Stream σ) (n : Nat) (s : σ) : Nat × σ := r.indexWithin n 1000 s

theorem indexWithin_lt (r : Stream σ) {n : Nat} (hn : 0 < n) (tries : Nat) (s : σ) :
    (r.indexWithin n tries s).1 < n := by
  induction tries generalizing s with
  | zero => exact hn
  | succ tries ih =>
    rw [indexWithin]
    dsimp only
    split
    · have hx : (r.next s).1.toNat < 2 ^ 64 := (r.next s).1.toNat_lt
      exact Nat.div_lt_of_lt_mul (Nat.mul_lt_mul_of_pos_right hx hn)
    · exact ih _

/-- An index that is drawn is one of those asked for. -/
theorem index_lt (r : Stream σ) {n : Nat} (hn : 0 < n) (s : σ) : (r.index n s).1 < n :=
  indexWithin_lt r hn 1000 s

/-- Draws a number from zero up to one, which is excluded: 53 bits behind the
binary point. -/
def fraction (r : Stream σ) (s : σ) : Float × σ :=
  let (x, s) := r.next s
  ((x >>> 11).toFloat / 9007199254740992.0, s)

end Stream

end Random

end CatchmentPlanning
