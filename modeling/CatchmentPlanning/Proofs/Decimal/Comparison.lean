import CatchmentPlanning.Decimal.Reading
import CatchmentPlanning.Proofs.Decimal.Floats

/-!
# The order of floats

Floats that are numbers are compared by sign, then exponent, then mantissa, so that each has
a place in a linear order (`rank`) and one is less than another if its place is lower
(`lt_iff`), and at most another if its place is not higher (`le_iff`). What is not a number is
neither less nor greater than anything.

The comparison is therefore transitive, and every finite float lies between the two infinities.
-/

namespace CatchmentPlanning

namespace FloatView

open Float.Model
open UnpackedFloat (Sign)

/-- The place of a number in the order of the numbers. -/
def rank : UnpackedFloat → ℤ ×ₗ ℤ ×ₗ ℤ
  | .infinity .negative => toLex (-2, toLex (0, 0))
  | .finite .negative m e _ => toLex (-1, toLex (-e, -m))
  | .zero _ | .notANumber => toLex (0, toLex (0, 0))
  | .finite .positive m e _ => toLex (1, toLex (e, m))
  | .infinity .positive => toLex (2, toLex (0, 0))

/-- The comparison of numbers is that of their places. -/
theorem lt_iff_rank {f g : UnpackedFloat} :
    f.lt g = true ↔ f ≠ .notANumber ∧ g ≠ .notANumber ∧ rank f < rank g := by
  have hsign : ∀ s t : Sign, compare s t = .lt ↔ s = .negative ∧ t = .positive := by
    rintro (_ | _) (_ | _) <;> simp [compare]
  have hlt (e e' : ℤ) (m m' : ℕ) :
      (compare e e').then (compare m m') = .lt ↔ e < e' ∨ e = e' ∧ m < m' := by
    rw [Ordering.then_eq_lt, compare_lt_iff_lt, compare_eq_iff_eq, compare_lt_iff_lt]
  have hgt (e e' : ℤ) (m m' : ℕ) :
      (compare e e').then (compare m m') = .gt ↔ e' < e ∨ e = e' ∧ m' < m := by
    rw [Ordering.then_eq_gt, compare_gt_iff_gt, compare_eq_iff_eq, compare_gt_iff_gt]
  cases f with
  | notANumber => simp [UnpackedFloat.lt, UnpackedFloat.compare]
  | infinity s | zero s | finite s =>
    cases g with
    | notANumber => cases s <;> simp [UnpackedFloat.lt, UnpackedFloat.compare]
    | infinity t | zero t | finite t =>
      cases s <;> cases t <;>
        simp [UnpackedFloat.lt, UnpackedFloat.compare, rank, Prod.Lex.lt_iff, hsign, hlt, hgt]

@[inherit_doc lt_iff_rank]
theorem le_iff_rank {f g : UnpackedFloat} :
    f.le g = true ↔ f ≠ .notANumber ∧ g ≠ .notANumber ∧ rank f ≤ rank g := by
  have hsign : ∀ s t : Sign, (compare s t).isLE = true ↔ s = .negative ∨ t = .positive := by
    rintro (_ | _) (_ | _) <;> simp [compare]
  have hle (e e' : ℤ) (m m' : ℕ) :
      ((compare e e').then (compare m m')).isLE = true ↔ e < e' ∨ e = e' ∧ m ≤ m' := by
    rw [Ordering.isLE_iff_eq_lt_or_eq_eq, Ordering.then_eq_lt, Ordering.then_eq_eq,
      compare_lt_iff_lt, compare_eq_iff_eq, compare_lt_iff_lt, compare_eq_iff_eq]
    omega
  have hge (e e' : ℤ) (m m' : ℕ) :
      ((compare e e').then (compare m m')).isGE = true ↔ e' < e ∨ e = e' ∧ m' ≤ m := by
    rw [Ordering.isGE_iff_eq_gt_or_eq_eq, Ordering.then_eq_gt, Ordering.then_eq_eq,
      compare_gt_iff_gt, compare_eq_iff_eq, compare_gt_iff_gt, compare_eq_iff_eq]
    omega
  cases f with
  | notANumber => simp [UnpackedFloat.le, UnpackedFloat.compare]
  | infinity s | zero s | finite s =>
    cases g with
    | notANumber => cases s <;> simp [UnpackedFloat.le, UnpackedFloat.compare]
    | infinity t | zero t | finite t =>
      cases s <;> cases t <;>
        simp [UnpackedFloat.le, UnpackedFloat.compare, rank, Prod.Lex.le_iff, hsign, hle, hge]

variable {x y z : Float}

theorem ne_notANumber_iff : x.toModel.unpack ≠ .notANumber ↔ x.isNaN = false := by
  show _ ↔ x.toModel.unpack.isNaN = false
  cases x.toModel.unpack <;> simp [UnpackedFloat.isNaN]

/-- **A float is less than another if both are numbers and its place is lower.** -/
theorem lt_iff : x < y ↔ x.isNaN = false ∧ y.isNaN = false
    ∧ rank x.toModel.unpack < rank y.toModel.unpack := by
  rw [← ne_notANumber_iff, ← ne_notANumber_iff, ← lt_iff_rank]
  show decide (_ = true) = true ↔ _
  rw [decide_eq_true_iff]
  rfl

/-- **A float is at most another if both are numbers and its place is not higher.** -/
theorem le_iff : x ≤ y ↔ x.isNaN = false ∧ y.isNaN = false
    ∧ rank x.toModel.unpack ≤ rank y.toModel.unpack := by
  rw [← ne_notANumber_iff, ← ne_notANumber_iff, ← le_iff_rank]
  show decide (_ = true) = true ↔ _
  rw [decide_eq_true_iff]
  rfl

/-- Of two numbers one is at most the other unless it is greater. -/
theorem le_of_not_lt (hx : x.isNaN = false) (hy : y.isNaN = false) (h : ¬y < x) : x ≤ y :=
  le_iff.mpr ⟨hx, hy, not_lt.mp fun hrank => h (lt_iff.mpr ⟨hy, hx, hrank⟩)⟩

theorem lt_trans (hxy : x < y) (hyz : y < z) : x < z := by
  obtain ⟨hx, -, hxy⟩ := lt_iff.mp hxy
  obtain ⟨-, hz, hyz⟩ := lt_iff.mp hyz
  exact lt_iff.mpr ⟨hx, hz, hxy.trans hyz⟩

theorem not_lt_of_isNaN (h : x.isNaN = true) : ¬y < x := by
  intro hlt
  rw [(lt_iff.mp hlt).2.1] at h
  cases h

/-! ## Between the infinities -/

theorem isNaN_of_isFinite (h : x.isFinite = true) : x.isNaN = false := by
  change x.toModel.unpack.isFinite = true at h
  show x.toModel.unpack.isNaN = false
  cases hx : x.toModel.unpack with
  | notANumber | infinity =>
    rw [hx] at h
    cases h
  | zero | finite => rfl

/-- A finite float has neither the lowest place nor the highest. -/
theorem rank_of_isFinite (h : x.isFinite = true) :
    toLex (-2, toLex (0, 0)) < rank x.toModel.unpack
      ∧ rank x.toModel.unpack < toLex (2, toLex (0, 0)) := by
  change x.toModel.unpack.isFinite = true at h
  cases hx : x.toModel.unpack with
  | notANumber | infinity =>
    rw [hx] at h
    cases h
  | zero s | finite s => cases s <;> simp [rank, Prod.Lex.lt_iff]

theorem lt_infinity (h : x.isFinite = true) : x < Decimal.infinity false := by
  have hrank : rank (Decimal.infinity false).toModel.unpack = toLex (2, toLex (0, 0)) := by
    decide +kernel
  refine lt_iff.mpr ⟨isNaN_of_isFinite h, by decide +kernel, ?_⟩
  rw [hrank]
  exact (rank_of_isFinite h).2

theorem neg_infinity_lt (h : x.isFinite = true) : Decimal.infinity true < x := by
  have hrank : rank (Decimal.infinity true).toModel.unpack = toLex (-2, toLex (0, 0)) := by
    decide +kernel
  refine lt_iff.mpr ⟨by decide +kernel, isNaN_of_isFinite h, ?_⟩
  rw [hrank]
  exact (rank_of_isFinite h).1

/-- Every number is at most infinity. -/
theorem le_infinity_iff : x ≤ Decimal.infinity false ↔ x.isNaN = false := by
  have hrank : rank (Decimal.infinity false).toModel.unpack = toLex (2, toLex (0, 0)) := by
    decide +kernel
  have hle : rank x.toModel.unpack ≤ toLex (2, toLex (0, 0)) := by
    rcases x.toModel.unpack with (_ | _) | _ | _ | ⟨_ | _⟩ <;> simp [rank, Prod.Lex.le_iff]
  rw [le_iff, hrank, and_iff_left ⟨by decide +kernel, hle⟩]

theorem isFinite_eq_false_of_isInf (h : x.isInf = true) : x.isFinite = false := by
  change x.toModel.unpack.isInf = true at h
  show x.toModel.unpack.isFinite = false
  cases hx : x.toModel.unpack with
  | infinity | notANumber => rfl
  | zero | finite =>
    rw [hx] at h
    cases h

/-- What is not finite is not a number or one of the infinities. -/
theorem isNaN_or_eq_infinity (h : x.isFinite = false) :
    x.isNaN = true ∨ x = Decimal.infinity true ∨ x = Decimal.infinity false := by
  obtain rfl | rfl | rfl := eq_of_isFinite_eq_false h
  · exact .inr (.inr (by decide +kernel))
  · exact .inr (.inl (by decide +kernel))
  · exact .inl (by decide +kernel)

end FloatView

end CatchmentPlanning
