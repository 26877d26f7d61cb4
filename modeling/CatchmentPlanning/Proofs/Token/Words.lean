import CatchmentPlanning.Token

/-!
# Flags as words

Flags are cut into words of 64 behind a closing flag, and read back by laying
the bits of the words end to end and keeping as many as there are actions. This
module shows that the two undo each other, whatever the number of flags is a
multiple of.

Not every list of words comes from flags. What singles those out is that there
are as many words as the number of actions asks for, that each has at most 64
bits, and that the highest bit of the last word is the closing flag, where the
number of actions puts it (`eq_words_iff`). The last condition also rules out
bits above the closing flag, which reading would otherwise drop in silence.
-/

namespace CatchmentPlanning

namespace Token

/-! ## Binary numbers -/

theorem testBit_binary (bs : List Bool) (i : Nat) :
    (binary bs).testBit i = bs.getD i false := by
  induction bs generalizing i with
  | nil => simp [binary]
  | cons b bs ih =>
    rw [binary]
    cases i with
    | zero => cases b <;> simp
    | succ i =>
      have hhalf : (b.toNat + 2 * binary bs) / 2 = binary bs := by
        cases b <;> simp only [Bool.toNat_false, Bool.toNat_true] <;> omega
      rw [Nat.testBit_succ, hhalf, ih, List.getD_cons_succ]

theorem binary_lt (bs : List Bool) : binary bs < 2 ^ bs.length := by
  induction bs with
  | nil => simp [binary]
  | cons b bs ih =>
    rw [binary, List.length_cons, Nat.pow_succ]
    have := Bool.toNat_le b
    omega

theorem binary_append (as bs : List Bool) :
    binary (as ++ bs) = binary as + 2 ^ as.length * binary bs := by
  induction as with
  | nil => simp [binary]
  | cons a as ih =>
    rw [List.cons_append, binary, ih, binary, List.length_cons, Nat.pow_succ]
    grind

/-- The bits of a binary number are the bits it was made of, as far as they
go. -/
theorem bits_binary {k : Nat} {bs : List Bool} (h : k ≤ bs.length) :
    bits k (binary bs) = bs.take k := by
  refine List.ext_getElem (by simp [h]) fun i h₁ h₂ => ?_
  have hi : i < bs.length := by simp at h₂; omega
  simp [bits, testBit_binary, hi]

/-- The lowest bits of a number make up what is left of it below their count. -/
theorem binary_bits (k n : Nat) : binary (bits k n) = n % 2 ^ k := by
  refine Nat.eq_of_testBit_eq fun i => ?_
  rw [testBit_binary, Nat.testBit_mod_two_pow]
  by_cases hi : i < k <;> simp [bits, hi]

theorem take_bits {k count : Nat} (h : k ≤ count) (n : Nat) :
    (bits count n).take k = bits k n := by
  rw [bits, bits, ← List.map_take, List.take_range, Nat.min_eq_left h]

theorem length_flatMap_bits (count : Nat) (ws : List Nat) :
    (ws.flatMap (bits count)).length = count * ws.length := by
  induction ws with
  | nil => rfl
  | cons w ws ih =>
    rw [List.flatMap_cons, List.length_append, length_bits, ih, List.length_cons, Nat.mul_succ,
      Nat.add_comm]

/-! ## Cutting into words -/

theorem packed_of_length_le {bs : List Bool} (hne : bs ≠ []) (h : bs.length ≤ wordSize) :
    packed bs = [binary bs] := by
  obtain ⟨b, bs, rfl⟩ := List.exists_cons_of_ne_nil hne
  rw [packed, List.take_of_length_le h, List.drop_of_length_le h, packed]

theorem packed_append {as : List Bool} (h : as.length = wordSize) (bs : List Bool) :
    packed (as ++ bs) = binary as :: packed bs := by
  cases as with
  | nil => exact absurd h (by decide)
  | cons a as =>
    rw [List.cons_append, packed, ← List.cons_append, ← h, List.take_left, List.drop_left]

/-- Fewer flags than fill a word make a single word with the closing flag. -/
theorem words_of_length_lt {flags : List Bool} (h : flags.length < wordSize) :
    words flags = [binary (flags ++ [true])] :=
  packed_of_length_le (by simp) (by rw [List.length_append]; exact h)

/-- Flags that fill a word are cut off as one. -/
theorem words_append {as : List Bool} (h : as.length = wordSize) (flags : List Bool) :
    words (as ++ flags) = binary as :: words flags := by
  rw [words, List.append_assoc, packed_append h, words]

/-- Flags are fewer than fill a word, or a full word and then flags again. -/
theorem words_induction {P : List Bool → Prop}
    (short : ∀ flags, flags.length < wordSize → P flags)
    (long : ∀ as flags, as.length = wordSize → P flags → P (as ++ flags))
    (flags : List Bool) : P flags := by
  induction hn : flags.length using Nat.strongRecOn generalizing flags with
  | ind n ih =>
    by_cases h : flags.length < wordSize
    · exact short flags h
    · have hdrop : (flags.drop wordSize).length < n := by
        rw [List.length_drop, ← hn, wordSize] at *
        omega
      rw [← List.take_append_drop wordSize flags]
      exact long _ _ (by rw [List.length_take]; omega) (ih _ hdrop _ rfl)

theorem words_ne_nil (flags : List Bool) : words flags ≠ [] := by
  rw [← List.length_pos_iff, length_words]
  exact Nat.succ_pos _

/-! ## What the words of flags are like -/

/-- No word has more than 64 bits. -/
theorem lt_of_mem_words {flags : List Bool} {w : Nat} (h : w ∈ words flags) :
    w < 2 ^ wordSize := by
  induction flags using words_induction with
  | short flags hshort =>
    rw [words_of_length_lt hshort, List.mem_singleton] at h
    rw [h]
    refine Nat.lt_of_lt_of_le (binary_lt _) (Nat.pow_le_pow_right (by decide) ?_)
    rw [List.length_append, List.length_singleton]
    exact hshort
  | long as flags has ih =>
    rw [words_append has] at h
    rcases List.mem_cons.mp h with rfl | h
    · rw [← has]
      exact binary_lt as
    · exact ih h

/-- The highest bit of the last word is the closing flag. -/
theorem getLastD_words (flags : List Bool) :
    (words flags).getLastD 0 / 2 ^ (flags.length % wordSize) = 1 := by
  induction flags using words_induction with
  | short flags hshort =>
    have hlt := binary_lt flags
    rw [words_of_length_lt hshort, Nat.mod_eq_of_lt hshort, List.getLastD_cons, List.getLastD_nil,
      binary_append, show binary [true] = 1 from rfl, Nat.mul_one,
      Nat.add_div_right _ (Nat.two_pow_pos _), Nat.div_eq_of_lt hlt]
  | long as flags has ih =>
    obtain ⟨w, ws, hws⟩ := List.exists_cons_of_ne_nil (words_ne_nil flags)
    rw [words_append has, List.length_append, has, Nat.add_mod_left, List.getLastD_cons, hws]
    rw [hws] at ih
    exact ih

/-- The bits of the words, as many as there are flags, are the flags. -/
theorem take_flatMap_bits_words (flags : List Bool) :
    ((words flags).flatMap (bits wordSize)).take flags.length = flags := by
  induction flags using words_induction with
  | short flags hshort =>
    rw [words_of_length_lt hshort, List.flatMap_singleton, take_bits (Nat.le_of_lt hshort),
      bits_binary (by simp), List.take_left]
  | long as flags has ih =>
    have hbits : bits wordSize (binary as) = as := by
      rw [← has, bits_binary (Nat.le_refl _), List.take_length]
    rw [words_append has, List.flatMap_cons, hbits, List.length_append, List.take_length_add_append,
      ih]

/-! ## Which words come from flags -/

/-- Words that keep to the three conditions are the words of their bits. -/
theorem words_take_flatMap_bits {ws : List Nat} {n : Nat} (hcount : ws.length = wordCount n)
    (hlt : ∀ w ∈ ws, w < 2 ^ wordSize) (hlast : ws.getLastD 0 / 2 ^ (n % wordSize) = 1) :
    words ((ws.flatMap (bits wordSize)).take n) = ws := by
  induction ws generalizing n with
  | nil => exact absurd hcount (by simp [wordCount])
  | cons w ws ih =>
    cases ws with
    | nil =>
      -- the one word: its bits below the closing flag, which is its highest bit
      have hn : n < wordSize := by
        simp only [List.length_singleton, wordCount, wordSize] at hcount ⊢
        omega
      rw [Nat.mod_eq_of_lt hn, List.getLastD_cons, List.getLastD_nil] at hlast
      have hsplit := Nat.div_add_mod w (2 ^ n)
      rw [hlast] at hsplit
      rw [List.flatMap_singleton, take_bits (Nat.le_of_lt hn),
        words_of_length_lt (by simpa using hn), binary_append, binary_bits, length_bits,
        show binary [true] = 1 from rfl, Nat.add_comm, hsplit]
    | cons w' ws =>
      have hn : wordSize ≤ n := by
        simp only [List.length_cons, wordCount, wordSize] at hcount ⊢
        omega
      obtain ⟨m, rfl⟩ := Nat.exists_eq_add_of_le hn
      have hcount' : (w' :: ws).length = wordCount m := by
        simp only [List.length_cons, wordCount, wordSize] at hcount ⊢
        omega
      rw [Nat.add_mod_left, List.getLastD_cons] at hlast
      have hrest := ih hcount' (fun v hv => hlt v (List.mem_cons_of_mem _ hv)) hlast
      have hw : w % 2 ^ wordSize = w := Nat.mod_eq_of_lt (hlt w List.mem_cons_self)
      have htake : ((w :: w' :: ws).flatMap (bits wordSize)).take (wordSize + m)
          = bits wordSize w ++ ((w' :: ws).flatMap (bits wordSize)).take m := by
        rw [List.flatMap_cons, List.take_append, length_bits, Nat.add_sub_cancel_left,
          List.take_of_length_le (by rw [length_bits]; exact Nat.le_add_right _ _)]
      rw [htake, words_append (length_bits _ _), binary_bits, hw, hrest]

/-- **The lists of words that flags are cut into.** -/
theorem eq_words_iff {ws : List Nat} {flags : List Bool} {n : Nat} :
    flags.length = n ∧ ws = words flags ↔
      ws.length = wordCount n ∧ (∀ w ∈ ws, w < 2 ^ wordSize)
        ∧ ws.getLastD 0 / 2 ^ (n % wordSize) = 1
        ∧ flags = (ws.flatMap (bits wordSize)).take n := by
  constructor
  · rintro ⟨rfl, rfl⟩
    exact ⟨length_words flags, fun _ => lt_of_mem_words, getLastD_words flags,
      (take_flatMap_bits_words flags).symm⟩
  · rintro ⟨hcount, hlt, hlast, rfl⟩
    refine ⟨?_, (words_take_flatMap_bits hcount hlt hlast).symm⟩
    rw [List.length_take, length_flatMap_bits, hcount, wordCount, wordSize]
    omega

end Token

end CatchmentPlanning
