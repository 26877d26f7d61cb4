import CatchmentPlanning.Proofs.Token.Exactness

/-!
# Different flags have different tokens

A token does not say how many actions it is for. That is left to the closing flag,
and leading zeros are dropped word by word, so it is not plain that a token cannot
be one for two numbers of actions: an active flag at the end of a longer sequence
might pass for the closing flag of a shorter one.

It cannot. Every word has a numeral of its own, so a token determines its words.
Their number says how often 64 goes into the number of actions, and the highest bit
of the last word, which is the closing flag, says what is left over
(`length_eq_of_words_eq`). With the number of actions known, the words determine the
flags (`words_injective`).
-/

namespace CatchmentPlanning

namespace Token

/-- **Different numbers have different numerals.** -/
theorem numeral_injective : Function.Injective numeral := by
  intro n m h
  have hvalue := hexDigitsValue?_numeral n
  rw [h, hexDigitsValue?_numeral] at hvalue
  exact (Option.some.inj hvalue).symm

/-- The position of the highest bit of a number. -/
theorem eq_of_div_two_pow_eq_one {w a b : Nat} (ha : w / 2 ^ a = 1) (hb : w / 2 ^ b = 1) :
    a = b := by
  have hle : ∀ {a b : Nat}, w / 2 ^ a = 1 → w / 2 ^ b = 1 → a ≤ b := by
    intro a b ha hb
    have hlow : 2 ^ a ≤ w := (Nat.div_pos_iff.mp (by rw [ha]; exact Nat.one_pos)).2
    have hhigh : w < 2 ^ (b + 1) := by
      rw [Nat.pow_succ, Nat.mul_comm, ← Nat.div_lt_iff_lt_mul (Nat.two_pow_pos b), hb]
      decide
    exact Nat.lt_succ_iff.mp
      ((Nat.pow_lt_pow_iff_right (by decide)).mp (Nat.lt_of_le_of_lt hlow hhigh))
  exact Nat.le_antisymm (hle ha hb) (hle hb ha)

/-- **The words say how many flags there are**: their number says it up to what is
left of a word, and the closing flag says the rest. -/
theorem length_eq_of_words_eq {f g : List Bool} (h : words f = words g) :
    f.length = g.length := by
  have hcount : f.length / wordSize = g.length / wordSize := by
    have hwords := congrArg List.length h
    rw [length_words, length_words] at hwords
    exact Nat.succ.inj hwords
  have hrest : f.length % wordSize = g.length % wordSize := by
    have hf := getLastD_words f
    rw [h] at hf
    exact eq_of_div_two_pow_eq_one hf (getLastD_words g)
  rw [← Nat.div_add_mod f.length wordSize, hcount, hrest, Nat.div_add_mod]

/-- **Different flags have different words**, also where they are different in
number. -/
theorem words_injective : Function.Injective words := by
  intro f g h
  rw [← take_flatMap_bits_words f, h, length_eq_of_words_eq h, take_flatMap_bits_words]

/-- **Different flags have different tokens**, also where they are different in
number. -/
theorem encode_injective : Function.Injective encode := by
  intro f g h
  have hgroups := congrArg (fun token : String => Text.pieces ':' token.toList) h
  simp only [pieces_encode] at hgroups
  rw [List.map_inj_right fun _ _ heq => numeral_injective heq] at hgroups
  exact words_injective hgroups

/-- **Tokens do not collide**: no two sequences of flags have one token, whatever
their lengths, and no text, in whatever letter case, is a token for two numbers of
actions. -/
theorem tokens_do_not_collide :
    (∀ f g : List Bool, encode f = encode g → f = g)
      ∧ ∀ (s t : String) (n m : Nat), s.toUpper = t.toUpper →
        (decode n s).isOk → (decode m t).isOk → n = m := by
  refine ⟨fun f g h => encode_injective h, fun s t n m hcase hs ht => ?_⟩
  obtain ⟨f, hf⟩ := Checks.isOk_iff.mp hs
  obtain ⟨g, hg⟩ := Checks.isOk_iff.mp ht
  obtain ⟨rfl, hsf⟩ := decode_eq_ok_iff.mp hf
  obtain ⟨rfl, htg⟩ := decode_eq_ok_iff.mp hg
  rw [encode_injective (hsf.symm.trans (hcase.trans htg))]

/-- The last flag of a longer sequence does not pass for the closing flag of a
shorter one: `c0` says that the last of seven actions is taken, in either letter
case, and is no token for six. -/
theorem tokens_do_not_collide_at_six_and_seven :
    "c0".toUpper = "C0".toUpper ∧ (decode 7 "c0").isOk ∧ (decode 7 "C0").isOk
      ∧ ¬ (decode 6 "C0").isOk := by
  have hseven : (decode 7 "c0").isOk := by decide +kernel
  refine ⟨by decide +kernel, hseven, by decide +kernel, fun hsix => ?_⟩
  have heq := tokens_do_not_collide.2 "c0" "C0" 7 6 (by decide +kernel) hseven hsix
  cases heq

end Token

end CatchmentPlanning
