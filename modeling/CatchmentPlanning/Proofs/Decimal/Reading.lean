import CatchmentPlanning.Decimal.Reading
import CatchmentPlanning.Proofs.Decimal.Rounding
import CatchmentPlanning.Proofs.Text.Numeral

/-!
# What is read as a float

A decimal is read digit by digit: the digits in front of the point and those behind it make one
number, and each digit behind the point takes a place off the exponent. What matters is the
magnitude that comes of it (`IsNumeral`), since it decides which float is read.

A text that is read as a float has no blanks in it, whether it is a number or a word
(`isBlank_eq_false_of_readFloat?`).
-/

namespace CatchmentPlanning

namespace Decimal

open Text (digitsValue? digitValue?)

variable {whole fraction rest ds cs : List Char} {n k w count : Nat} {negative : Bool} {e : Int}
  {v : ℚ}

/-! ## Digits -/

/-- No digit comes next. -/
def NoDigit (rest : List Char) : Prop := ∀ c ∈ rest.head?, digitValue? c = none

theorem noDigit_cons {c : Char} (h : digitValue? c = none) (rest : List Char) :
    NoDigit (c :: rest) := by
  rintro _ ⟨⟩
  exact h

/-- Leading digits are taken up to the first character that is none. -/
theorem leadingDigits_append (hrest : NoDigit rest) (h : digitsValue? n ds = some k) :
    leadingDigits n count (ds ++ rest) = (k, count + ds.length, rest) := by
  induction ds generalizing n count with
  | nil =>
    cases h
    cases rest with
    | nil => rfl
    | cons c rest =>
      have hc : digitValue? c = none := hrest c rfl
      simp [leadingDigits, hc]
  | cons c ds ih =>
    simp only [digitsValue?] at h
    split at h
    · rename_i d hd
      simp only [List.cons_append, leadingDigits, hd, ih h, List.length_cons]
      rw [Nat.add_assoc, Nat.add_comm 1]
    · cases h

/-- Zeros behind a number are places. -/
theorem digitsValue?_zeros (n k : Nat) :
    digitsValue? n (List.replicate k '0') = some (n * 10 ^ k) := by
  induction k generalizing n with
  | zero => simp [digitsValue?]
  | succ k ih =>
    have hzero : digitValue? '0' = some 0 := by decide
    rw [List.replicate_succ]
    simp only [digitsValue?, hzero, ih]
    congr 1
    ring

theorem exists_digitChar_of_digitValue? {c : Char} (h : (digitValue? c).isSome = true) :
    ∃ d, d < 10 ∧ c = d.digitChar := by
  refine Text.exists_digitChar_of_isDigit ?_
  unfold digitValue? at h
  split at h
  · rename_i hc
    simp only [Char.isDigit, Bool.and_eq_true, decide_eq_true_eq]
    exact hc
  · cases h

/-! ## Numbers -/

/-- **The text is read as a number of magnitude `v`**, whatever its sign is. -/
def IsNumeral (cs : List Char) (v : ℚ) : Prop :=
  ∀ negative, ∃ d, unsigned? negative cs = some d ∧ d.negative = negative ∧ d.magnitude = v

theorem isNumeral_fraction (hwhole : digitsValue? 0 whole = some w) (hne : 0 < whole.length)
    (hfraction : digitsValue? w fraction = some n) (hrest : NoDigit rest)
    (he : exponent? rest = some e) :
    IsNumeral (whole ++ '.' :: (fraction ++ rest)) (n * 10 ^ (e - fraction.length)) := by
  intro negative
  refine ⟨⟨negative, n, e - fraction.length⟩, ?_, rfl, rfl⟩
  have hpoint : NoDigit ('.' :: (fraction ++ rest)) := noDigit_cons (by decide) _
  unfold unsigned?
  simp only [leadingDigits_append hpoint hwhole, leadingDigits_append hrest hfraction,
    Nat.zero_add, he]
  rw [if_neg (by omega)]
  rfl

theorem isNumeral_whole (hwhole : digitsValue? 0 whole = some n) (hne : 0 < whole.length)
    (hrest : NoDigit rest) (hpoint : rest.head? ≠ some '.') (he : exponent? rest = some e) :
    IsNumeral (whole ++ rest) (n * 10 ^ e) := by
  intro negative
  refine ⟨⟨negative, n, e⟩, ?_, rfl, rfl⟩
  unfold unsigned?
  simp only [leadingDigits_append hrest hwhole, Nat.zero_add]
  split
  · exact absurd rfl hpoint
  · show (if whole.length + 0 = 0 then none else Option.map _ (exponent? rest)) = _
    rw [if_neg (by omega), he]
    simp

/-- A number starts with a digit or with its point. -/
theorem IsNumeral.head (h : IsNumeral cs v) :
    ∃ c rest, cs = c :: rest ∧ (c = '.' ∨ (digitValue? c).isSome = true) := by
  obtain ⟨d, hd, -⟩ := h false
  cases cs with
  | nil => cases hd
  | cons c cs =>
    refine ⟨c, cs, rfl, or_iff_not_imp_right.mpr fun hdigit => ?_⟩
    rw [Bool.not_eq_true, Option.isSome_eq_false_iff, Option.isNone_iff_eq_none] at hdigit
    by_contra hpoint
    simp [unsigned?, leadingDigits, hdigit, hpoint] at hd

/-- **A number is read with its sign**, and is not taken for a word. -/
theorem readFloat?_of_isNumeral (negative : Bool) {body : String} (h : IsNumeral body.toList v) :
    ∃ d : Decimal, readFloat? (if negative then "-" ++ body else body) = some d.toFloat
      ∧ d.negative = negative ∧ d.magnitude = v := by
  obtain ⟨c, cs, hcons, hc⟩ := h.head
  obtain ⟨d, hd, hnegative, hv⟩ := h negative
  have hsign : signOf (if negative then "-" ++ body else body).toList
      = (negative, body.toList) := by
    cases negative with
    | true => simp [signOf]
    | false =>
      have hne : c ≠ '-' ∧ c ≠ '+' := by
        constructor <;> (rintro rfl; revert hc; decide)
      simp [hcons, signOf, hne]
  have hword (word : String)
      (hhead : word.toList.head? = some 'i' ∨ word.toList.head? = some 'n') :
      String.ofList (body.toList.map Char.toLower) ≠ word := by
    have hletter : ¬(c.toLower = 'i' ∨ c.toLower = 'n') := by
      obtain rfl | hdigit := hc
      · decide
      · obtain ⟨k, hk, rfl⟩ := exists_digitChar_of_digitValue? hdigit
        exact (by decide : ∀ k < 10, ¬(k.digitChar.toLower = 'i' ∨ k.digitChar.toLower = 'n')) k hk
    rintro rfl
    rw [String.toList_ofList, hcons, List.map_cons, List.head?_cons, Option.some.injEq,
      Option.some.injEq] at hhead
    exact hletter hhead
  refine ⟨d, ?_, hnegative, hv⟩
  unfold readFloat?
  rw [hsign]
  show (if _ ∨ _ then _ else if _ then _ else _) = _
  rw [if_neg (not_or.mpr ⟨hword "inf" (by decide), hword "infinity" (by decide)⟩),
    if_neg (hword "nan" (by decide)), hd]
  rfl

/-! ## Blanks -/

theorem isBlank_eq_false_of_digitValue? {c : Char} (h : (digitValue? c).isSome = true) :
    Text.isBlank c = false := by
  obtain ⟨k, hk, rfl⟩ := exists_digitChar_of_digitValue? h
  revert k
  decide

theorem mem_of_leadingDigits {n' count' : Nat} (h : leadingDigits n count cs = (n', count', rest)) :
    ∀ c ∈ cs, (digitValue? c).isSome = true ∨ c ∈ rest := by
  induction cs generalizing n count with
  | nil => exact nofun
  | cons c cs ih =>
    simp only [leadingDigits] at h
    split at h
    · rename_i d hd
      rintro c' (_ | ⟨_, hc'⟩)
      · exact .inl (hd ▸ rfl)
      · exact ih h c' hc'
    · cases h
      exact fun c' hc' => .inr hc'

theorem mem_of_signOf (cs : List Char) : ∀ c ∈ cs, Text.isBlank c = false ∨ c ∈ (signOf cs).2 := by
  unfold signOf
  split
  · rintro c (_ | ⟨_, hc⟩)
    · exact .inl (by decide)
    · exact .inr hc
  · rintro c (_ | ⟨_, hc⟩)
    · exact .inl (by decide)
    · exact .inr hc
  · exact fun c hc => .inr hc

theorem isBlank_eq_false_of_exponent? (h : exponent? cs = some e) :
    ∀ c ∈ cs, Text.isBlank c = false := by
  cases cs with
  | nil => exact nofun
  | cons c cs =>
    simp only [exponent?] at h
    split at h
    · rename_i hletter
      split at h
      · rename_i hdigits
        rintro c' (_ | ⟨_, hc'⟩)
        · obtain rfl | rfl := hletter <;> decide
        · obtain hc' | hc' := mem_of_signOf cs c' hc'
          · exact hc'
          · obtain hc' | hc' := mem_of_leadingDigits hdigits c' hc'
            · exact isBlank_eq_false_of_digitValue? hc'
            · cases hc'
      · cases h
    · cases h

theorem isBlank_eq_false_of_unsigned? {d : Decimal} (h : unsigned? negative cs = some d) :
    ∀ c ∈ cs, Text.isBlank c = false := by
  unfold unsigned? at h
  split at h
  rename_i whole wholeCount rest hwhole
  split at h
  rename_i digits count rest' hdigits
  split at h
  · cases h
  · obtain ⟨e, he, -⟩ := Option.map_eq_some_iff.mp h
    have hexponent := isBlank_eq_false_of_exponent? he
    have hrest : ∀ c ∈ rest, Text.isBlank c = false := by
      split at hdigits
      · rintro c (_ | ⟨_, hc⟩)
        · decide
        · exact (mem_of_leadingDigits hdigits c hc).elim isBlank_eq_false_of_digitValue?
            (hexponent c)
      · cases hdigits
        exact hexponent
    exact fun c hc => (mem_of_leadingDigits hwhole c hc).elim isBlank_eq_false_of_digitValue?
      (hrest c)

/-- No blank is a capital letter. -/
theorem toLower_of_isBlank {c : Char} (h : Text.isBlank c = true) : c.toLower = c := by
  unfold Char.toLower
  split
  · rename_i hupper
    have hletter : ∀ k < 26, Text.isBlank (Char.ofNat (65 + k)) = false := by decide
    have hrange : 65 ≤ c.toNat ∧ c.toNat ≤ 90 := hupper
    have hc := hletter (c.toNat - 65) (by omega)
    rw [Nat.add_sub_cancel' hrange.1, Char.ofNat_toNat, h] at hc
    cases hc
  · rfl

theorem isBlank_eq_false_of_word {word : String}
    (hword : word.toList.any Text.isBlank = false)
    (h : String.ofList (cs.map Char.toLower) = word) : ∀ c ∈ cs, Text.isBlank c = false := by
  intro c hc
  by_contra hblank
  rw [Bool.not_eq_false] at hblank
  have hmem : c.toLower ∈ word.toList := by
    rw [← h, String.toList_ofList]
    exact List.mem_map_of_mem hc
  rw [toLower_of_isBlank hblank] at hmem
  exact List.any_eq_false.mp hword c hmem hblank

/-- **A text that is read as a float has no blanks.** -/
theorem isBlank_eq_false_of_readFloat? {s : String} {x : Float} (h : readFloat? s = some x) :
    ∀ c ∈ s.toList, Text.isBlank c = false := by
  intro c hc
  obtain hc | hc := mem_of_signOf _ c hc
  · exact hc
  unfold readFloat? at h
  split at h
  rename_i negative cs hsign
  rw [hsign] at hc
  suffices hblank : ∀ c ∈ cs, Text.isBlank c = false from hblank c hc
  extract_lets word at h
  split at h
  · rename_i hword
    obtain hword | hword := hword
    · exact isBlank_eq_false_of_word (by decide) hword
    · exact isBlank_eq_false_of_word (by decide) hword
  · split at h
    · rename_i hword
      exact isBlank_eq_false_of_word (by decide) hword
    · obtain ⟨d, hd, -⟩ := Option.map_eq_some_iff.mp h
      exact isBlank_eq_false_of_unsigned? hd

end Decimal

end CatchmentPlanning
