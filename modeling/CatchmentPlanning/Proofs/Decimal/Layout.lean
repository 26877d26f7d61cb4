import CatchmentPlanning.Decimal.Layout
import CatchmentPlanning.Proofs.Decimal.Reading
import CatchmentPlanning.Proofs.Decimal.Shortest

/-!
# Floats are read back from their texts

A layout decides where the point of a decimal stands, whether zeros are filled in, and whether
there is an exponent. None of this changes the magnitude of what is written
(`readFloat?_text`), and the shortest decimal of a float is nearest to no other float. So every
float is read back from its text, in any layout (`readFloat?_cellText`).
-/

namespace CatchmentPlanning

namespace Decimal

open Text (digitsValue? digitValue?)

variable {ds : List Char} {n : Nat}

/-! ## Where the point can stand -/

/-- The point can stand in front of all digits, with zeros behind it. -/
theorem isNumeral_behind_point (h : digitsValue? 0 ds = some n) (k : Nat) :
    IsNumeral ("0." ++ String.ofList (List.replicate k '0' ++ ds)).toList
      (n * 10 ^ (-(k + ds.length : Int))) := by
  have hfraction : digitsValue? 0 (List.replicate k '0' ++ ds) = some n := by
    rw [Text.digitsValue?_append, digitsValue?_zeros, Nat.zero_mul]
    exact h
  have hread := @isNumeral_fraction ['0'] _ [] _ _ 0 rfl (by decide) hfraction nofun rfl
  rw [List.length_append, List.length_replicate, Nat.cast_add, zero_sub, List.append_nil] at hread
  simpa using hread

/-- The point can stand among the digits. -/
theorem isNumeral_around_point (h : digitsValue? 0 ds = some n) {p : Nat} (hp : 0 < p)
    (hlength : 0 < ds.length) :
    IsNumeral (ds.take p ++ '.' :: ds.drop p) (n * 10 ^ (-((ds.length - p : Nat) : Int))) := by
  rw [← List.take_append_drop p ds, Text.digitsValue?_append] at h
  obtain ⟨w, hwhole, hfraction⟩ := Option.bind_eq_some_iff.mp h
  have hread := @isNumeral_fraction _ _ [] _ _ 0 hwhole
    (by rw [List.length_take]; omega) hfraction nofun rfl
  rwa [List.length_drop, zero_sub, List.append_nil] at hread

/-- The point can stand behind all digits, with zeros in front of it, and it can be left out. -/
theorem isNumeral_before_point (h : digitsValue? 0 ds = some n) (hlength : 0 < ds.length)
    (k : Nat) :
    IsNumeral (ds ++ List.replicate k '0') (n * 10 ^ (k : Int))
      ∧ IsNumeral (ds ++ List.replicate k '0' ++ ['.', '0']) (n * 10 ^ (k : Int)) := by
  have hwhole : digitsValue? 0 (ds ++ List.replicate k '0') = some (n * 10 ^ k) := by
    rw [Text.digitsValue?_append, h, Option.bind_some, digitsValue?_zeros]
  have hne : 0 < (ds ++ List.replicate k '0').length := by
    rw [List.length_append]
    omega
  constructor
  · have hread := @isNumeral_whole _ [] _ 0 hwhole hne nofun nofun rfl
    simpa using hread
  · have hread : IsNumeral (ds ++ List.replicate k '0' ++ ['.', '0'])
        ((10 * (n * 10 ^ k) + 0 : Nat) * 10 ^ (0 - (['0'].length : Int))) :=
      @isNumeral_fraction _ ['0'] [] _ _ 0 hwhole hne rfl nofun rfl
    have hsame : ((10 * (n * 10 ^ k) + 0 : Nat) : ℚ) * 10 ^ (0 - (['0'].length : Int))
        = n * 10 ^ (k : Int) := by
      norm_num
      ring
    rwa [hsame] at hread

theorem length_toDigits_pos (n : Nat) : 0 < (Nat.toDigits 10 n).length :=
  List.length_pos_of_ne_nil Nat.toDigits_ne_nil

/-- **The digits of a decimal are read as its magnitude, wherever its point stands.** -/
theorem isNumeral_positionalText (layout : Layout) (d : Decimal) :
    IsNumeral (positionalText layout (Nat.toDigits 10 d.digits)
      ((Nat.toDigits 10 d.digits).length + d.exponent)).toList d.magnitude := by
  have hvalue := Text.digitsValue?_toDigits d.digits
  have hlength := length_toDigits_pos d.digits
  unfold magnitude
  generalize Nat.toDigits 10 d.digits = ds at *
  unfold positionalText
  split
  · have hread := isNumeral_behind_point hvalue (-(ds.length + d.exponent)).toNat
    have hexponent : -(((-(ds.length + d.exponent)).toNat : Int) + ds.length) = d.exponent := by
      omega
    rwa [hexponent] at hread
  · generalize hp : (ds.length + d.exponent).toNat = p
    split
    · have hread := isNumeral_around_point hvalue (p := p) (by omega) hlength
      have hexponent : -((ds.length - p : Nat) : Int) = d.exponent := by omega
      rw [hexponent] at hread
      simpa using hread
    · obtain ⟨hwhole, hfraction⟩ := isNumeral_before_point hvalue hlength (p - ds.length)
      have hexponent : ((p - ds.length : Nat) : Int) = d.exponent := by omega
      rw [hexponent] at hwhole hfraction
      split
      · simpa using hfraction
      · simpa using hwhole

/-! ## Exponents -/

theorem exponent?_toString (e : Int) :
    exponent? ((if 0 ≤ e then "e+" else "e-") ++ toString e.natAbs).toList = some e := by
  have hdigits : leadingDigits 0 0 (Nat.toDigits 10 e.natAbs)
      = (e.natAbs, (Nat.toDigits 10 e.natAbs).length, []) := by
    have hall := @leadingDigits_append [] _ 0 _ 0 nofun (Text.digitsValue?_toDigits e.natAbs)
    rwa [List.append_nil, Nat.zero_add] at hall
  have hlength := length_toDigits_pos e.natAbs
  rw [String.toList_append, Nat.toString_eq_ofList_toDigits, String.toList_ofList]
  generalize hk : e.natAbs = k at *
  split
  · show exponent? ('e' :: '+' :: Nat.toDigits 10 k) = _
    simp [exponent?, signOf, hdigits]
    omega
  · show exponent? ('e' :: '-' :: Nat.toDigits 10 k) = _
    simp [exponent?, signOf, hdigits]
    omega

/-- **So they are with an exponent.** -/
theorem isNumeral_exponentText (d : Decimal) :
    IsNumeral (exponentText (Nat.toDigits 10 d.digits)
      ((Nat.toDigits 10 d.digits).length + d.exponent)).toList d.magnitude := by
  have hvalue := Text.digitsValue?_toDigits d.digits
  have hlength := length_toDigits_pos d.digits
  unfold magnitude
  generalize Nat.toDigits 10 d.digits = ds at *
  unfold exponentText
  extract_lets e mantissa
  have hread := exponent?_toString e
  rw [String.append_assoc, String.toList_append]
  generalize hrest : ((if 0 ≤ e then "e+" else "e-") ++ toString e.natAbs).toList = rest
    at hread ⊢
  have hhead : rest.head? = some 'e' := by
    rw [← hrest]
    split <;> rw [String.toList_append] <;> rfl
  have hletter : NoDigit rest := by
    intro c hc
    rw [hhead] at hc
    cases hc
    decide
  cases ds with
  | nil => cases hlength
  | cons c ds =>
    cases ds with
    | nil =>
      have hexponent : e = d.exponent := by
        simp only [e, List.length_singleton]
        omega
      have hread := isNumeral_whole hvalue hlength hletter (by rw [hhead]; decide) hread
      rw [hexponent] at hread
      simpa [mantissa] using hread
    | cons c' ds =>
      have hsplit : digitsValue? 0 ([c] ++ (c' :: ds)) = some d.digits := hvalue
      rw [Text.digitsValue?_append] at hsplit
      obtain ⟨w, hwhole, hfraction⟩ := Option.bind_eq_some_iff.mp hsplit
      have hexponent : e - (c' :: ds).length = d.exponent := by
        simp only [e, List.length_cons]
        omega
      have hread := isNumeral_fraction hwhole Nat.one_pos hfraction hletter hread
      rw [hexponent] at hread
      simpa [mantissa] using hread

/-- **A decimal is read back from its text**, but for how its magnitude is written. -/
theorem readFloat?_text (layout : Layout) (d : Decimal) :
    ∃ d' : Decimal, readFloat? (text layout d) = some d'.toFloat ∧ d'.negative = d.negative
      ∧ d'.magnitude = d.magnitude := by
  have hpositional := isNumeral_positionalText layout d
  have hexponent := isNumeral_exponentText d
  unfold text
  extract_lets digits point body
  refine readFloat?_of_isNumeral d.negative ?_
  simp only [body]
  split
  · exact hpositional
  · split
    · exact hpositional
    · exact hexponent

/-- **A finite float is read back from its text.** -/
theorem readFloat?_finiteText? {layout : Layout} {x : Float} {s : String}
    (h : finiteText? layout x = some s) : readFloat? s = some x := by
  have hfinite : x.isFinite = true := by
    unfold finiteText? at h
    split at h
    · exact FloatView.isFinite_of_ofFloat ‹_›
    · cases h
  obtain ⟨negative, m, q, hview, hm, rfl⟩ := FloatView.exists_of_isFinite hfinite
  unfold finiteText? at h
  rw [hview] at h
  cases h
  obtain ⟨d, hread, hnegative, hmagnitude⟩ :=
    readFloat?_text layout (shortest layout.tie negative m q)
  rw [negative_shortest] at hnegative
  rw [hread, toFloat_eq hm, hnegative]
  · intro hpos
    rw [hmagnitude]
    exact roundsTo_shortest hpos _ _ _
  · rintro rfl
    have hzero : d.magnitude = 0 := by
      rw [hmagnitude]
      simp [shortest, magnitude]
    have hdigits := (mul_eq_zero.mp hzero).resolve_right (zpow_ne_zero _ (by norm_num))
    exact_mod_cast hdigits

/-- The text of a float as a cell of a table: its shortest decimal in a layout, or else a
word. -/
def cellText (layout : Layout) (x : Float) : String :=
  (finiteText? layout x).getD (plainText x)

/-- **Every float is read back from its text.** -/
theorem readFloat?_cellText (layout : Layout) (x : Float) :
    readFloat? (cellText layout x) = some x := by
  unfold cellText
  cases htext : finiteText? layout x with
  | some s => exact readFloat?_finiteText? htext
  | none =>
    have hfinite : x.isFinite = false := by
      by_contra hfinite
      rw [Bool.not_eq_false] at hfinite
      obtain ⟨negative, m, q, hview, -⟩ := FloatView.exists_of_isFinite hfinite
      unfold finiteText? at htext
      rw [hview] at htext
      cases htext
    obtain rfl | rfl | rfl := FloatView.eq_of_isFinite_eq_false hfinite <;> decide +kernel

end Decimal

end CatchmentPlanning
