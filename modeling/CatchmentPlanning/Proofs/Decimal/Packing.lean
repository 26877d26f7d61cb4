import CatchmentPlanning.Proofs.Decimal.Floats

/-!
# Packing floats

Arithmetic on floats unpacks its operands and packs its result. What is unpacked has the form of
floats (`isMagnitude_unpack`), with a mantissa of 53 bits unless the exponent is the least one.
What has this form comes back unchanged when it is packed, unless it is too large and becomes
infinite (`unpack_pack`).
-/

namespace CatchmentPlanning

namespace FloatView

open Float.Model
open UnpackedFloat (Sign packComponents unpackSign unpackExponent unpackMantissa)

variable {b : BitVec Format.binary64.numBits} {f : UnpackedFloat} {s : Sign} {m : Nat} {e : Int}

/-! ## The form of floats -/

/-- **In the form that floats have**, apart from an exponent that may be too large. -/
def IsCanonical : UnpackedFloat → Prop
  | .finite _ m e _ => m < 2 ^ 53 ∧ -1074 ≤ e ∧ (-1074 < e → 2 ^ 52 ≤ m)
  | _ => True

/-- The magnitude of a finite number. -/
def size : UnpackedFloat → ℚ
  | .finite _ m e _ => m * 2 ^ e
  | _ => 0

@[simp] theorem size_zero (s : Sign) : size (.zero s) = 0 := rfl

/-! ## Unpacking -/

theorem unpack_normal (hones : unpackExponent b ≠ -1#11) (hzero : unpackExponent b ≠ 0#11) :
    ∃ hm, UnpackedFloat.unpack Format.binary64 b
      = .finite (Sign.ofBitVec (unpackSign b)) (2 ^ 52 + (unpackMantissa b).toNat)
          ((unpackExponent b).toNat - 1075) hm := by
  refine ⟨by positivity, ?_⟩
  unfold UnpackedFloat.unpack
  rw [if_neg hones, if_neg hzero, UnpackedFloat.finite.injEq]
  refine ⟨rfl, ?_, rfl⟩
  rw [BitVec.toNat_append, BitVec.toNat_ofNat,
    ← Nat.shiftLeft_add_eq_or_of_lt (unpackMantissa b).isLt]
  rfl

theorem unpack_subnormal (hexponent : unpackExponent b = 0#11) (hm : unpackMantissa b ≠ 0#52) :
    ∃ hm, UnpackedFloat.unpack Format.binary64 b
      = .finite (Sign.ofBitVec (unpackSign b)) (unpackMantissa b).toNat (-1074) hm := by
  refine ⟨Nat.pos_of_ne_zero fun hzero => hm (BitVec.eq_of_toNat_eq hzero), ?_⟩
  unfold UnpackedFloat.unpack
  simp only [hexponent]
  rw [if_neg (by decide), if_pos trivial, dif_neg hm]
  rfl

/-- **What is unpacked has the form of floats.** -/
theorem isMagnitude_unpack {hm : 0 < m}
    (h : UnpackedFloat.unpack Format.binary64 b = .finite s m e hm) : IsMagnitude m e := by
  have hfinite : unpackExponent b ≠ -1#11 := isFinite_unpack.mp (by rw [h]; rfl)
  have hmantissa : (unpackMantissa b).toNat < 2 ^ 52 := (unpackMantissa b).isLt
  by_cases hzero : unpackExponent b = 0#11
  · by_cases hnone : unpackMantissa b = 0#52
    · unfold UnpackedFloat.unpack at h
      simp only [hzero] at h
      rw [if_neg (by decide), if_pos trivial, dif_pos hnone] at h
      cases h
    · obtain ⟨_, hunpack⟩ := unpack_subnormal hzero hnone
      obtain ⟨-, rfl, rfl⟩ := UnpackedFloat.finite.inj (hunpack.symm.trans h)
      exact ⟨by omega, by omega, by omega, by omega⟩
  · obtain ⟨_, hunpack⟩ := unpack_normal hfinite hzero
    obtain ⟨-, rfl, rfl⟩ := UnpackedFloat.finite.inj (hunpack.symm.trans h)
    have hexponent : (unpackExponent b).toNat < 2 ^ 11 := (unpackExponent b).isLt
    have hpos : (unpackExponent b).toNat ≠ 0 := fun h => hzero (BitVec.eq_of_toNat_eq h)
    have hlt : (unpackExponent b).toNat ≠ 2047 := fun h => hfinite (BitVec.eq_of_toNat_eq h)
    exact ⟨by omega, by omega, by omega, by omega⟩

theorem isCanonical_unpack (x : Float) : IsCanonical x.toModel.unpack := by
  cases hx : x.toModel.unpack with
  | finite s m e hm =>
    have h := isMagnitude_unpack hx
    exact ⟨h.lt, h.low, h.normal⟩
  | infinity | zero | notANumber => trivial

theorem size_unpack_lt (x : Float) : size x.toModel.unpack < 2 ^ 1024 := by
  cases hx : x.toModel.unpack with
  | finite s m e hm =>
    have h := isMagnitude_unpack hx
    have hlong : (m : ℚ) < 2 ^ 53 := by exact_mod_cast h.lt
    calc (m : ℚ) * 2 ^ e < 2 ^ 53 * 2 ^ e := by gcongr
      _ ≤ 2 ^ 53 * 2 ^ (971 : Int) := by
        gcongr
        · norm_num
        · exact h.high
      _ = 2 ^ 1024 := by
        rw [← zpow_natCast, ← zpow_natCast, ← zpow_add₀ (by norm_num)]
        rfl
  | infinity | zero | notANumber => exact pow_pos two_pos 1024

/-! ## Packing -/

/-- **A float survives packing** if its exponent is not too large. -/
theorem unpack_pack_finite {hm : 0 < m} (h : IsCanonical (.finite s m e hm)) (he : e ≤ 971) :
    UnpackedFloat.unpack Format.binary64 (UnpackedFloat.pack Format.binary64 (.finite s m e hm))
      = .finite s m e hm := by
  obtain ⟨hlong, hlow, hnormal⟩ := h
  have hbias : (Format.binary64.exponentBias : Int) = 1023 := by decide
  obtain ⟨biased, hbiased⟩ := Int.eq_ofNat_of_zero_le (show 0 ≤ e + 1023 + (52 : Nat) by omega)
  have hlog : m.log2 + 1 = 53 ↔ 2 ^ 52 ≤ m := by
    rw [show m.log2 + 1 = 53 ↔ m.log2 = 52 by omega, Nat.log2_eq_iff hm.ne']
    exact and_iff_left hlong
  have hmantissa := BitVec.toNat_ofNat m 52
  unfold UnpackedFloat.pack
  simp only [hbias]
  rw [hbiased, Int.toNat_natCast, if_neg (show ¬2 ^ 11 ≤ biased + 1 by omega)]
  split
  · rename_i hbits
    have hle : 2 ^ 52 ≤ m := hlog.mp hbits
    have hexponent : (BitVec.ofNat 11 biased).toNat = biased := by
      rw [BitVec.toNat_ofNat]
      omega
    have hones : BitVec.ofNat 11 biased ≠ -1#11 := fun hones => by
      rw [hones] at hexponent
      change 2047 = biased at hexponent
      omega
    have hzero : BitVec.ofNat 11 biased ≠ 0#11 := fun hzero => by
      rw [hzero] at hexponent
      change 0 = biased at hexponent
      omega
    obtain ⟨_, hunpack⟩ := @unpack_normal
      (packComponents Format.binary64 s (.ofNat 11 biased) (.ofNat 52 m))
      (by simpa using hones) (by simpa using hzero)
    rw [hunpack, UnpackedFloat.finite.injEq]
    simp only [UnpackedFloat.unpackExponent_packComponents,
      UnpackedFloat.unpackMantissa_packComponents, UnpackedFloat.unpackSign_packComponents,
      Sign.ofBitVec_toBitVec, hexponent, true_and]
    exact ⟨by omega, by omega⟩
  · rename_i hbits
    have hlt : ¬2 ^ 52 ≤ m := fun h => hbits (hlog.mpr h)
    have hzero : BitVec.ofNat 52 m ≠ 0#52 := fun hzero => by
      rw [hzero] at hmantissa
      change 0 = _ at hmantissa
      omega
    obtain ⟨_, hunpack⟩ := @unpack_subnormal
      (packComponents Format.binary64 s 0#11 (.ofNat 52 m)) (by simp) (by simpa using hzero)
    rw [hunpack, UnpackedFloat.finite.injEq]
    simp only [UnpackedFloat.unpackMantissa_packComponents,
      UnpackedFloat.unpackSign_packComponents, Sign.ofBitVec_toBitVec, true_and]
    exact ⟨by omega, by omega⟩

/-- What is packed with an exponent that is too large is infinite. -/
theorem unpack_pack_of_lt {hm : 0 < m} (he : 971 < e) :
    UnpackedFloat.unpack Format.binary64 (UnpackedFloat.pack Format.binary64 (.finite s m e hm))
      = .infinity s := by
  have hbias : (Format.binary64.exponentBias : Int) = 1023 := by decide
  unfold UnpackedFloat.pack
  simp only [hbias]
  rw [if_pos (show 2 ^ 11 ≤ (e + 1023 + (52 : Nat)).toNat + 1 by omega)]
  cases s <;> rfl

theorem le_size_of_lt {hm : 0 < m} (h : IsCanonical (.finite s m e hm)) (he : 971 < e) :
    (2 : ℚ) ^ 1024 ≤ size (.finite s m e hm) := by
  have hm : (2 ^ 52 : ℚ) ≤ m := by exact_mod_cast h.2.2 (by omega)
  have hpow : (2 : ℚ) ^ 1024 = 2 ^ 52 * 2 ^ (972 : Int) := by
    rw [← zpow_natCast, ← zpow_natCast, ← zpow_add₀ (by norm_num)]
    rfl
  rw [hpow]
  show _ ≤ (m : ℚ) * 2 ^ e
  gcongr
  · norm_num
  · omega

theorem unpack_pack_of_isFinite_eq_false (h : f.isFinite = false) :
    (Float.Model.pack f).unpack = f := by
  cases f with
  | zero | finite => cases h
  | notANumber => rfl
  | infinity s => cases s <;> rfl

/-- **Packing** keeps what is in the form of floats, or makes it infinite if it is too large. -/
theorem unpack_pack (h : IsCanonical f) :
    (Float.Model.pack f).unpack = f
      ∨ (Float.Model.pack f).unpack.isInf = true ∧ (2 : ℚ) ^ 1024 ≤ size f := by
  show UnpackedFloat.unpack Format.binary64 (UnpackedFloat.pack Format.binary64 f) = f ∨ _
  cases f with
  | notANumber | infinity s => exact .inl (unpack_pack_of_isFinite_eq_false rfl)
  | zero s => cases s <;> exact .inl rfl
  | finite s m e hm =>
    obtain he | he := le_or_gt e 971
    · exact .inl (unpack_pack_finite h he)
    · refine .inr ⟨?_, le_size_of_lt h he⟩
      show (UnpackedFloat.unpack Format.binary64
        (UnpackedFloat.pack Format.binary64 (.finite s m e hm))).isInf = true
      rw [unpack_pack_of_lt he]
      rfl

theorem unpack_pack_of_isFinite (h : IsCanonical f)
    (hfinite : (Float.Model.pack f).unpack.isFinite = true) : (Float.Model.pack f).unpack = f := by
  refine (unpack_pack h).resolve_right fun hlarge => ?_
  cases hf : (Float.Model.pack f).unpack with
  | infinity =>
    rw [hf] at hfinite
    cases hfinite
  | zero | finite | notANumber =>
    rw [hf] at hlarge
    cases hlarge.1

end FloatView

end CatchmentPlanning
