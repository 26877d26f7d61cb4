import CatchmentPlanning.Token

/-!
# Words as hex numerals

A word is written as an upper-case hex numeral without leading zeros, and a
group of a token is read as a word in either case. The two were written apart:
writing divides by sixteen from the right, reading multiplies by sixteen from
the left, and the rules about empty groups, leading zeros and the length of a
group belong to reading alone.

They agree all the same: a group is read as a word exactly if its upper-case
form is the numeral of that word and the word has at most 64 bits
(`word_eq_ok_iff`). The rules of reading are what makes this an equivalence – a
group with a leading zero would name the same number a second time.
-/

namespace CatchmentPlanning

namespace Token

open Text (hexValue? hexDigitsValue?)

/-! ## Hex digits -/

/-- The upper-case hex digit of a value below sixteen. -/
def hexDigit (d : Nat) : Char := (Nat.digitChar d).toUpper

/-- The value of a hex digit by the code of the character. -/
theorem hexValue?_eq (c : Char) :
    hexValue? c =
      if 48 ≤ c.toNat ∧ c.toNat ≤ 57 then some (c.toNat - 48)
      else if 97 ≤ c.toNat ∧ c.toNat ≤ 102 then some (c.toNat - 97 + 10)
      else if 65 ≤ c.toNat ∧ c.toNat ≤ 70 then some (c.toNat - 65 + 10)
      else none := by
  simp only [hexValue?, Char.le_def, UInt32.le_iff_toNat_le]
  rfl

/-- Upper case takes 32 off the codes of the small letters. -/
theorem toNat_toUpper (c : Char) :
    c.toUpper.toNat = if 97 ≤ c.toNat ∧ c.toNat ≤ 122 then c.toNat - 32 else c.toNat := by
  unfold Char.toUpper
  split
  · next h =>
    have hlo : 97 ≤ c.toNat := UInt32.le_iff_toNat_le.mp h.1
    have hhi : c.toNat ≤ 122 := UInt32.le_iff_toNat_le.mp h.2
    rw [if_pos ⟨hlo, hhi⟩]
    rw [Char.toNat, UInt32.toNat_add]
    simp
    omega
  · next h =>
    rw [if_neg fun hc => h ⟨UInt32.le_iff_toNat_le.mpr hc.1, UInt32.le_iff_toNat_le.mpr hc.2⟩]

/-- The value of a hex digit does not depend on its case. -/
theorem hexValue?_toUpper (c : Char) : hexValue? c.toUpper = hexValue? c := by
  rw [hexValue?_eq, hexValue?_eq, toNat_toUpper]
  grind

theorem toNat_hexDigit {d : Nat} (h : d < 16) :
    (hexDigit d).toNat = if d < 10 then 48 + d else 55 + d := by
  revert d
  decide

/-- A digit has the value it was written for. -/
theorem hexValue?_hexDigit {d : Nat} (h : d < 16) : hexValue? (hexDigit d) = some d := by
  revert d
  decide

/-- A character that has a value is, in upper case, the digit of that value. -/
theorem toUpper_eq_hexDigit {c : Char} {d : Nat} (h : hexValue? c = some d) :
    d < 16 ∧ c.toUpper = hexDigit d := by
  have hd : d < 16 := by
    rw [hexValue?_eq] at h
    grind
  refine ⟨hd, Char.toNat_inj.mp ?_⟩
  rw [toNat_hexDigit hd, toNat_toUpper]
  rw [hexValue?_eq] at h
  grind

/-- The colon is the only character whose upper case is a colon. -/
theorem toUpper_eq_colon_iff {c : Char} : c.toUpper = ':' ↔ c = ':' := by
  rw [← Char.toNat_inj, ← Char.toNat_inj, toNat_toUpper]
  show _ = 58 ↔ c.toNat = 58
  grind

theorem hexDigit_ne_colon {d : Nat} (h : d < 16) : hexDigit d ≠ ':' := by
  revert d
  decide

/-! ## Numerals -/

theorem numeral_of_lt {n : Nat} (h : n < 16) : numeral n = [hexDigit n] := by
  rw [numeral, Nat.toDigits_of_lt_base h]
  rfl

/-- The last digit of a numeral is written behind the numeral of the rest. -/
theorem numeral_append_digit {n d : Nat} (hn : 0 < n) (hd : d < 16) :
    numeral (16 * n + d) = numeral n ++ [hexDigit d] := by
  rw [numeral, ← Nat.toDigits_append_toDigits (by decide) hn hd, List.map_append,
    Nat.toDigits_of_lt_base hd]
  rfl

theorem numeral_ne_nil (n : Nat) : numeral n ≠ [] := by
  simp [numeral]

/-- **Numerals are made of upper-case hex digits.** -/
theorem exists_hexDigit_of_mem_numeral {n : Nat} {c : Char} (h : c ∈ numeral n) :
    ∃ d, d < 16 ∧ c = hexDigit d := by
  induction n using Nat.strongRecOn with
  | ind n ih =>
    by_cases hn : n < 16
    · rw [numeral_of_lt hn] at h
      exact ⟨n, hn, List.mem_singleton.mp h⟩
    · rw [show n = 16 * (n / 16) + n % 16 by omega,
        numeral_append_digit (by omega) (by omega)] at h
      rcases List.mem_append.mp h with h | h
      · exact ih (n / 16) (by omega) h
      · exact ⟨n % 16, by omega, List.mem_singleton.mp h⟩

/-- A word of at most 64 bits has a numeral of at most sixteen digits. -/
theorem length_numeral_le_iff {n : Nat} : (numeral n).length ≤ wordSize / 4 ↔ n < 2 ^ wordSize := by
  rw [numeral, List.length_map, Nat.length_toDigits_le_iff (by decide) (by decide)]
  rfl

/-! ## Reading numerals -/

theorem hexDigitsValue?_append (n : Nat) (as bs : List Char) :
    hexDigitsValue? n (as ++ bs) = (hexDigitsValue? n as).bind (hexDigitsValue? · bs) := by
  induction as generalizing n with
  | nil => rfl
  | cons a as ih =>
    simp only [List.cons_append, hexDigitsValue?]
    cases hexValue? a with
    | none => rfl
    | some d => exact ih _

/-- The value of a run of hex digits does not depend on their case. -/
theorem hexDigitsValue?_map_toUpper (n : Nat) (cs : List Char) :
    hexDigitsValue? n (cs.map Char.toUpper) = hexDigitsValue? n cs := by
  induction cs generalizing n with
  | nil => rfl
  | cons c cs ih =>
    simp only [List.map_cons, hexDigitsValue?, hexValue?_toUpper]
    cases hexValue? c with
    | none => rfl
    | some d => exact ih _

/-- **A numeral is read as the number it was written for.** -/
theorem hexDigitsValue?_numeral (n : Nat) : hexDigitsValue? 0 (numeral n) = some n := by
  induction n using Nat.strongRecOn with
  | ind n ih =>
    by_cases hn : n < 16
    · rw [numeral_of_lt hn]
      simp [hexDigitsValue?, hexValue?_hexDigit hn]
    · have hd : n % 16 < 16 := by omega
      rw [show n = 16 * (n / 16) + n % 16 by omega,
        numeral_append_digit (by omega) hd, hexDigitsValue?_append, ih (n / 16) (by omega)]
      simp [hexDigitsValue?, hexValue?_hexDigit hd]

/-- Only the digit zero has the value zero. -/
theorem hexValue?_eq_some_zero_iff {c : Char} : hexValue? c = some 0 ↔ c = '0' := by
  rw [← Char.toNat_inj, hexValue?_eq]
  show _ ↔ c.toNat = 48
  grind

/-- Behind a number that is not zero, every run of digits continues its
numeral. -/
theorem numeral_eq_append {n m : Nat} {cs : List Char} (hn : 0 < n)
    (h : hexDigitsValue? n cs = some m) : numeral m = numeral n ++ cs.map Char.toUpper := by
  induction cs generalizing n with
  | nil =>
    have : n = m := by simpa [hexDigitsValue?] using h
    simp [this]
  | cons c cs ih =>
    cases hc : hexValue? c with
    | none => simp [hexDigitsValue?, hc] at h
    | some d =>
      obtain ⟨hd, hup⟩ := toUpper_eq_hexDigit hc
      simp only [hexDigitsValue?, hc] at h
      rw [ih (by omega) h, numeral_append_digit hn hd, List.map_cons, hup, List.append_assoc,
        List.singleton_append]

/-- **A run of digits without a leading zero is the numeral of its value**, but
for the case of its letters. -/
theorem map_toUpper_eq_numeral {c : Char} {cs : List Char} {n : Nat}
    (hzero : c = '0' → cs = []) (h : hexDigitsValue? 0 (c :: cs) = some n) :
    (c :: cs).map Char.toUpper = numeral n := by
  cases hc : hexValue? c with
  | none => simp [hexDigitsValue?, hc] at h
  | some d =>
    obtain ⟨hd, hup⟩ := toUpper_eq_hexDigit hc
    have hcs : hexDigitsValue? d cs = some n := by simpa [hexDigitsValue?, hc] using h
    rcases Nat.eq_zero_or_pos d with rfl | hpos
    · -- the leading digit is zero, so it stands alone
      obtain rfl := hzero (hexValue?_eq_some_zero_iff.mp hc)
      have : 0 = n := by simpa [hexDigitsValue?] using hcs
      rw [← this, numeral_of_lt (by decide), List.map_singleton, hup]
    · rw [numeral_eq_append hpos hcs, numeral_of_lt hd, List.map_cons, hup, List.singleton_append]

/-! ## Reading a group -/

/-- Only the numeral of zero starts with the digit zero, and it has no other
digit. -/
theorem eq_nil_of_numeral_eq_zero_cons {n : Nat} {cs : List Char} (h : numeral n = '0' :: cs) :
    cs = [] := by
  induction n using Nat.strongRecOn generalizing cs with
  | ind n ih =>
    by_cases hn : n < 16
    · rw [numeral_of_lt hn] at h
      exact (List.cons.inj h).2.symm
    · rw [show n = 16 * (n / 16) + n % 16 by omega,
        numeral_append_digit (by omega) (by omega)] at h
      -- the first digit belongs to the numeral of `n / 16`, which is not zero
      obtain ⟨c, rest, hrest⟩ := List.exists_cons_of_ne_nil (numeral_ne_nil (n / 16))
      rw [hrest, List.cons_append] at h
      obtain ⟨rfl, -⟩ := List.cons.inj h
      obtain rfl := ih (n / 16) (by omega) hrest
      have hvalue := hexDigitsValue?_numeral (n / 16)
      rw [hrest] at hvalue
      have hzero : 0 = n / 16 := by simpa [hexDigitsValue?, hexValue?_eq_some_zero_iff.mpr] using hvalue
      omega

/-- What reading a group checks. -/
theorem word_cons_eq_ok_iff {index n : Nat} {c : Char} {cs : List Char} :
    word index (c :: cs) = .ok n ↔
      (c = '0' → cs = []) ∧ (c :: cs).length ≤ wordSize / 4
        ∧ hexDigitsValue? 0 (c :: cs) = some n := by
  rw [word]
  by_cases hzero : c = '0' ∧ cs ≠ []
  · simp [hzero]
  · have hz : c = '0' → cs = [] := by simpa using hzero
    rw [if_neg hzero]
    by_cases hlong : wordSize / 4 < (c :: cs).length
    · rw [if_pos hlong]
      exact iff_of_false nofun fun h => Nat.not_lt.mpr h.2.1 hlong
    · rw [if_neg hlong]
      cases hexDigitsValue? 0 (c :: cs) with
      | none => simp
      | some m =>
        refine ⟨fun h => ⟨hz, Nat.not_lt.mp hlong, ?_⟩, fun h => ?_⟩
        · simpa using h
        · simpa using h.2.2

/-- **A group is read as a word exactly if it is the word's numeral**, but for
the case of its letters. -/
theorem word_eq_ok_iff {index n : Nat} {cs : List Char} :
    word index cs = .ok n ↔ n < 2 ^ wordSize ∧ cs.map Char.toUpper = numeral n := by
  cases cs with
  | nil => simp [word, (numeral_ne_nil n).symm]
  | cons c cs =>
    rw [word_cons_eq_ok_iff]
    constructor
    · rintro ⟨hzero, hlen, hvalue⟩
      have hnum := map_toUpper_eq_numeral hzero hvalue
      refine ⟨length_numeral_le_iff.mp ?_, hnum⟩
      rw [← hnum, List.length_map]
      exact hlen
    · rintro ⟨hlt, hnum⟩
      refine ⟨?_, ?_, ?_⟩
      · rintro rfl
        exact List.map_eq_nil_iff.mp (eq_nil_of_numeral_eq_zero_cons hnum.symm)
      · rw [← List.length_map Char.toUpper, hnum]
        exact length_numeral_le_iff.mpr hlt
      · rw [← hexDigitsValue?_map_toUpper, hnum, hexDigitsValue?_numeral]

end Token

end CatchmentPlanning
