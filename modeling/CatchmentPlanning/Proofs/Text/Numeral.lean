import CatchmentPlanning.Proofs.Text.Blank
import CatchmentPlanning.Text.Numeral

/-!
# Decimal numerals

The service writes the id of a planning unit without sign and leading zeros, and it
reads any numeral. What it has written it reads as the same number
(`unsigned?_toString`). A numeral has no blanks, so it is not changed by trimming.
-/

namespace CatchmentPlanning

namespace Text

/-! ## Digits -/

theorem toNat_digitChar {d : Nat} (h : d < 10) : d.digitChar.toNat = d + 48 := by
  revert d
  decide

/-- There are ten digits. -/
theorem exists_digitChar_of_isDigit {c : Char} (h : c.isDigit = true) :
    ∃ d, d < 10 ∧ c = d.digitChar := by
  have hrange : 48 ≤ c.toNat ∧ c.toNat ≤ 57 := by
    simpa [Char.isDigit, UInt32.le_iff_toNat_le] using h
  refine ⟨c.toNat - 48, by omega, Char.toNat_inj.mp ?_⟩
  rw [toNat_digitChar (by omega), Nat.sub_add_cancel hrange.1]

theorem digitValue?_digitChar {d : Nat} (h : d < 10) : digitValue? d.digitChar = some d := by
  revert d
  decide

theorem digitsValue?_append (n : Nat) (as bs : List Char) :
    digitsValue? n (as ++ bs) = (digitsValue? n as).bind (digitsValue? · bs) := by
  induction as generalizing n with
  | nil => rfl
  | cons a as ih =>
    simp only [List.cons_append, digitsValue?]
    cases digitValue? a with
    | none => rfl
    | some d => exact ih _

/-- **The digits of a number are read as the number.** -/
theorem digitsValue?_toDigits (n : Nat) : digitsValue? 0 (Nat.toDigits 10 n) = some n := by
  induction n using Nat.strongRecOn with
  | ind n ih =>
    by_cases hn : n < 10
    · rw [Nat.toDigits_of_lt_base hn]
      simp [digitsValue?, digitValue?_digitChar hn]
    · -- the last digit stands behind the digits of a smaller number
      have hd : n % 10 < 10 := Nat.mod_lt _ (by decide)
      have hdigits : Nat.toDigits 10 n
          = Nat.toDigits 10 (n / 10) ++ Nat.toDigits 10 (n % 10) := by
        rw [Nat.toDigits_append_toDigits (by decide) (by omega) hd, Nat.div_add_mod]
      rw [hdigits, digitsValue?_append, ih (n / 10) (by omega), Nat.toDigits_of_lt_base hd]
      simp [digitsValue?, digitValue?_digitChar hd]
      omega

theorem isDigit_of_mem_toString {n : Nat} {c : Char} (h : c ∈ (toString n).toList) :
    c.isDigit = true := by
  rw [Nat.toString_eq_ofList_toDigits, String.toList_ofList] at h
  exact Nat.isDigit_of_mem_toDigits (by decide) (by decide) h

theorem toString_ne_empty (n : Nat) : (toString n).toList ≠ [] := by
  rw [Nat.toString_eq_ofList_toDigits, String.toList_ofList]
  exact Nat.toDigits_ne_nil

/-! ## Numerals -/

/-- A digit is no sign. -/
theorem numeralValue?_of_isDigit {cs : List Char} (hne : cs ≠ [])
    (h : ∀ c ∈ cs, c.isDigit = true) : numeralValue? cs = digitsValue? 0 cs := by
  cases cs with
  | nil => exact absurd rfl hne
  | cons c cs =>
    have hplus : c ≠ '+' := by
      rintro rfl
      exact absurd (h '+' List.mem_cons_self) (by decide)
    unfold numeralValue?
    split
    · rename_i heq
      exact absurd (List.cons.inj heq).1 hplus
    · rename_i heq
      rw [heq]
    · rename_i heq
      cases heq

/-- **A number below the bound is read as it was written.** -/
theorem unsigned?_toString {bound n : Nat} (h : n < bound) :
    unsigned? bound (toString n) = some n := by
  rw [unsigned?, numeralValue?_of_isDigit (toString_ne_empty n) fun _ => isDigit_of_mem_toString,
    Nat.toString_eq_ofList_toDigits, String.toList_ofList, digitsValue?_toDigits,
    Option.filter_some, if_pos (decide_eq_true h)]

/-! ## Blanks -/

theorem isBlank_eq_false_of_isDigit {c : Char} (h : c.isDigit = true) : isBlank c = false := by
  obtain ⟨d, hd, rfl⟩ := exists_digitChar_of_isDigit h
  revert d
  decide

theorem trim_toString (n : Nat) : trim (toString n) = toString n := by
  rw [trim, trimmed_eq_self fun c hc => isBlank_eq_false_of_isDigit (isDigit_of_mem_toString hc),
    String.ofList_toList]

end Text

end CatchmentPlanning
