import CatchmentPlanning.Decimal.Basic
import Mathlib

/-!
# Floats and their bits

A float is a word of sign, exponent and mantissa bits. Arithmetic unpacks its operands and
packs its result, and unpacking loses nothing, so a float is determined by its bits
(`Float.ofBits_toBits`). The bits of a finite float are its sign and the number of its magnitude
among the non-negative floats (`exists_of_isFinite`).

Of the arithmetic itself little is needed: a finite float less itself is zero (`sub_self`), and
what is made of numbers that are not negative by packing, taking the absolute value and
multiplying is not negative either (`IsNonneg`).
-/

namespace CatchmentPlanning

namespace FloatView

open Float.Model
open UnpackedFloat (Sign packComponents unpackExponent)

variable {spec : Format} {b : BitVec spec.numBits}

/-! ## Finite floats -/

theorem isFinite_unpack :
    (UnpackedFloat.unpack spec b).isFinite = true ↔ unpackExponent b ≠ -1#_ := by
  unfold UnpackedFloat.unpack
  extract_lets mantissa exponent e _ sign
  change _ ↔ exponent ≠ _
  split
  · rename_i hones
    split <;> simp [UnpackedFloat.isFinite, hones]
  · rename_i hones
    split
    · split <;> simp [UnpackedFloat.isFinite, hones]
    · simp [UnpackedFloat.isFinite, hones]

theorem toNat_unpackExponent (b : BitVec Format.binary64.numBits) :
    (unpackExponent b).toNat = b.toNat / 2 ^ 52 % 2 ^ 11 := by
  show (BitVec.extractLsb 62 52 b).toNat = _
  rw [BitVec.extractLsb_toNat, Nat.shiftRight_eq_div_pow]

/-- The finite floats come in front of infinity. -/
theorem isFinite_iff {x : Float} :
    x.isFinite = true ↔ x.toBits.toNat % 2 ^ 63 < infinityIndex := by
  show (UnpackedFloat.unpack Format.binary64 x.toBits.toBitVec).isFinite = true ↔ _
  rw [isFinite_unpack, ne_eq, ← BitVec.toNat_inj, toNat_unpackExponent]
  have hbits := x.toBits.toNat_lt
  show ¬x.toBits.toNat / 2 ^ 52 % 2 ^ 11 = 2047 ↔ _ < 2047 * 2 ^ 52
  omega

/-- **The magnitudes `m · 2^q` of the finite floats.** -/
structure IsMagnitude (m : Nat) (q : Int) : Prop where
  lt : m < 2 ^ 53
  low : -1074 ≤ q
  high : q ≤ 971
  /-- Only the magnitudes of the least exponent have fewer digits. -/
  normal : -1074 < q → 2 ^ 52 ≤ m

/-- The number of a magnitude among the non-negative floats. -/
def index (m : Nat) (q : Int) : Nat := (q + 1074).toNat * 2 ^ 52 + m

/-- The float with a sign and the number of its magnitude. -/
def signed (negative : Bool) (index : Nat) : Float :=
  Float.ofBits (UInt64.ofNat (if negative then 2 ^ 63 + index else index))

/-- **A finite float is its sign and its magnitude.** -/
theorem exists_of_isFinite {x : Float} (h : x.isFinite = true) :
    ∃ negative m q, ofFloat x = .finite negative m q ∧ IsMagnitude m q
      ∧ signed negative (index m q) = x := by
  have hfinite := isFinite_iff.mp h
  have hx (index : Nat) (hindex : index = x.toBits.toNat % 2 ^ 63) :
      signed (decide (2 ^ 63 ≤ x.toBits.toNat)) index = x := by
    have hbits := x.toBits.toNat_lt
    have hsum : (if decide (2 ^ 63 ≤ x.toBits.toNat) = true then 2 ^ 63 + index else index)
        = x.toBits.toNat := by
      simp only [decide_eq_true_eq]
      split <;> omega
    rw [signed, hsum, UInt64.ofNat_toNat, Float.ofBits_toBits]
  unfold ofFloat
  extract_lets bits negative position
  change position < infinityIndex at hfinite
  change ∀ index, index = position → signed negative index = x at hx
  rw [if_neg (by omega), if_neg (by omega)]
  unfold infinityIndex at hfinite
  split
  · refine ⟨_, _, _, rfl, ⟨by omega, by omega, by omega, by omega⟩, hx _ ?_⟩
    simp [index]
  · refine ⟨_, _, _, rfl, ⟨by omega, by omega, by omega, by omega⟩, hx _ ?_⟩
    unfold index
    omega

theorem isFinite_of_ofFloat {x : Float} {negative : Bool} {m : Nat} {q : Int}
    (h : ofFloat x = .finite negative m q) : x.isFinite = true := by
  refine isFinite_iff.mpr (Decidable.byContradiction fun hlarge => ?_)
  unfold ofFloat at h
  extract_lets bits sign position at h
  change ¬position < infinityIndex at hlarge
  by_cases hinfinity : position = infinityIndex
  · rw [if_neg (by omega), if_pos hinfinity] at h
    cases h
  · rw [if_pos (by omega)] at h
    cases h

/-- Unpacking loses nothing. -/
theorem ofModel_pack_unpack (x : Float) : Float.ofModel (.pack x.toModel.unpack) = x :=
  Float.ofBits_toBits x

/-- There are three floats that are not finite. -/
theorem eq_of_isFinite_eq_false {x : Float} (h : x.isFinite = false) :
    x = 1.0 / 0.0 ∨ x = -(1.0 / 0.0) ∨ x = 0.0 / 0.0 := by
  rw [← ofModel_pack_unpack x]
  change x.toModel.unpack.isFinite = false at h
  cases hx : x.toModel.unpack with
  | infinity s =>
    cases s with
    | positive => exact .inl (by decide +kernel)
    | negative => exact .inr (.inl (by decide +kernel))
  | notANumber => exact .inr (.inr (by decide +kernel))
  | zero s =>
    rw [hx] at h
    cases h
  | finite s m e hm =>
    rw [hx] at h
    cases h

/-! ## Arithmetic -/

/-- A finite float less itself is zero. -/
theorem sub_self {x : Float} (h : x.isFinite = true) : x - x = 0.0 := by
  have hzero : (0.0 : Float) = .ofModel (.pack (.zero .positive)) := by decide +kernel
  rw [hzero]
  refine congrArg (fun f => Float.ofModel (.pack f)) ?_
  change x.toModel.unpack.isFinite = true at h
  cases hx : x.toModel.unpack with
  | infinity | notANumber =>
    rw [hx] at h
    cases h
  | zero s => cases s <;> rfl
  | finite s m e hm => simp [UnpackedFloat.sub, UnpackedFloat.normalize]

/-- **Not below zero, and a number.** -/
def IsNonneg : UnpackedFloat → Prop
  | .notANumber => False
  | .infinity s | .zero s | .finite s _ _ _ => s = .positive

theorem isNonneg_unpack_packComponents {exponent : BitVec spec.exponentBits}
    {mantissa : BitVec spec.mantissaBitsWithoutImplicit} (h : exponent = -1#_ → mantissa = 0#_) :
    IsNonneg (UnpackedFloat.unpack spec (packComponents spec .positive exponent mantissa)) := by
  unfold UnpackedFloat.unpack
  simp only [UnpackedFloat.unpackExponent_packComponents,
    UnpackedFloat.unpackMantissa_packComponents, UnpackedFloat.unpackSign_packComponents,
    Sign.ofBitVec_toBitVec]
  split
  · rename_i hones
    rw [if_pos (h hones)]
    rfl
  · split
    · split <;> rfl
    · rfl

/-- Packing rounds nothing below zero. -/
theorem IsNonneg.unpack_pack {f : UnpackedFloat} (h : IsNonneg f) :
    IsNonneg (UnpackedFloat.unpack spec (UnpackedFloat.pack spec f)) := by
  have hpow : 2 ≤ 2 ^ spec.exponentBits := Nat.pow_le_pow_right (n := 2) (by decide) spec.he
  have hones {exponent : BitVec spec.exponentBits} (hexponent : exponent = -1#_) :
      exponent.toNat = 2 ^ spec.exponentBits - 1 := by
    rw [hexponent, BitVec.neg_one_eq_allOnes, BitVec.toNat_allOnes]
  fun_cases UnpackedFloat.pack spec f with
  | case1 => cases h
  | case2 s | case3 s | case4 s m e hm biased hover =>
    cases h
    exact isNonneg_unpack_packComponents fun _ => rfl
  | case5 s m e hm bits biased hover hnormal =>
    cases h
    refine isNonneg_unpack_packComponents fun hexponent => ?_
    have := hones hexponent
    rw [BitVec.toNat_ofNat, Nat.mod_eq_of_lt (by omega)] at this
    omega
  | case6 s m e hm bits biased hover hnormal =>
    cases h
    refine isNonneg_unpack_packComponents fun hexponent => ?_
    have := hones hexponent
    rw [BitVec.toNat_zero] at this
    omega

theorem isNonneg_abs {f : UnpackedFloat} (h : f ≠ .notANumber) : IsNonneg f.abs := by
  cases f with
  | notANumber => exact absurd rfl h
  | infinity | zero | finite => rfl

/-- A positive number that is not infinite. -/
def isPositive : UnpackedFloat → Bool
  | .finite .positive _ _ _ => true
  | _ => false

theorem isNonneg_of_isPositive {f : UnpackedFloat} (h : isPositive f = true) : IsNonneg f := by
  unfold isPositive at h
  split at h
  · rfl
  · cases h

theorem isNonneg_roundWithAccuracy (m : Nat) (e : Int) (accuracy : UnpackedFloat.Accuracy) :
    IsNonneg (UnpackedFloat.roundWithAccuracy spec .positive m e accuracy) := by
  show IsNonneg (if _ : _ then _ else _)
  split <;> rfl

theorem IsNonneg.mul {f g : UnpackedFloat} (hg : IsNonneg g) (hf : isPositive f = true) :
    IsNonneg (UnpackedFloat.mul spec f g) := by
  unfold isPositive at hf
  split at hf
  · cases g with
    | notANumber => cases hg
    | infinity s | zero s =>
      cases hg
      rfl
    | finite s m e hm =>
      cases hg
      exact isNonneg_roundWithAccuracy _ _ _
  · cases hf

theorem IsNonneg.zero_le {f : UnpackedFloat} (h : IsNonneg f) :
    UnpackedFloat.le (.zero .positive) f = true := by
  cases f with
  | notANumber => cases h
  | infinity s | zero s | finite s =>
    cases h
    rfl

end FloatView

end CatchmentPlanning
