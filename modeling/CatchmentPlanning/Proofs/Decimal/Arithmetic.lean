import CatchmentPlanning.Proofs.Decimal.Comparison
import CatchmentPlanning.Proofs.Decimal.Packing
import CatchmentPlanning.Proofs.Decimal.Rounding

/-!
# Floating-point arithmetic in numbers

An operation on floats works on the numbers that they stand for and rounds what comes out. A
result is rounded by shifting bits out of its mantissa, of which two residual bits keep what is
needed (`Shifted`); so it is at most half a unit of the last place away from the exact number
(`roundWithAccuracy_spec`). For differences and products this is a relative error of one part in
`2^53`, or an absolute one below the least positive float (`IsRounded`).

What is rounded is packed, and comes back as it was unless it is too large. So a difference of
floats that is finite and a product that is not too large are those of the numbers, rounded
(`isRounded_sub_of_isFinite`, `isRounded_mul_of_le`). Floats that are not negative are compared by
their magnitudes (`size_le_of_le`).
-/

namespace CatchmentPlanning

namespace FloatView

open Float.Model
open UnpackedFloat (Sign ExtendedMantissa roundWithAccuracy shiftToTargetExponent shiftToExponent
  decreaseExponent)

variable {f g : UnpackedFloat} {s : Sign} {em : ExtendedMantissa} {m k rest : Nat} {e e₁ : Int}

/-! ## Rounding a mantissa -/

/-- **What is left of a mantissa after `k` shifts**, and what the residual bits tell of the rest. -/
structure Shifted (m k : Nat) (em : ExtendedMantissa) (rest : Nat) : Prop where
  lt : rest < 2 ^ k
  eq : m = em.mantissa * 2 ^ k + rest
  /-- The rest is at least a half. -/
  roundBit : em.roundBit = true ↔ 2 ^ k ≤ 2 * rest
  /-- The rest is neither nothing nor exactly a half. -/
  stickyBit : em.stickyBit = true ↔ 2 * rest ≠ 0 ∧ 2 * rest ≠ 2 ^ k

/-- The bit that is shifted out goes to the rest. -/
theorem Shifted.shiftRightOne (h : Shifted m k em rest) :
    Shifted m (k + 1) em.shiftRightOne (em.mantissa % 2 * 2 ^ k + rest) := by
  obtain ⟨hlt, heq, hround, hsticky⟩ := h
  have hpow := pow_succ 2 k
  have hproduct : em.mantissa * 2 ^ k
      = em.mantissa / 2 * 2 ^ (k + 1) + em.mantissa % 2 * 2 ^ k := by
    rw [hpow, ← mul_assoc, mul_right_comm, ← add_mul, Nat.div_add_mod']
  have hround' : em.shiftRightOne.roundBit = true ↔ em.mantissa % 2 ≠ 0 := bne_iff_ne
  have hsticky' : em.shiftRightOne.stickyBit = true
      ↔ em.roundBit = true ∨ em.stickyBit = true := Bool.or_eq_true_iff
  rw [hround, hsticky] at hsticky'
  have hmantissa : em.shiftRightOne.mantissa * 2 ^ (k + 1) = em.mantissa / 2 * 2 ^ (k + 1) := rfl
  obtain hbit | hbit := Nat.mod_two_eq_zero_or_one em.mantissa
  · rw [hbit, zero_mul] at hproduct ⊢
    refine ⟨by omega, by omega, hround'.trans (by omega), hsticky'.trans (by omega)⟩
  · rw [hbit, one_mul] at hproduct ⊢
    refine ⟨by omega, by omega, hround'.trans (by omega), hsticky'.trans (by omega)⟩

theorem exists_shifted (m k : Nat) :
    ∃ rest, Shifted m k (ExtendedMantissa.mk m false false >>> k) rest := by
  induction k with
  | zero =>
    have hbit (p : Prop) (hp : ¬p) : false = true ↔ p := iff_of_false Bool.false_ne_true hp
    exact ⟨0, by decide, (Nat.mul_one m).symm, hbit _ (by decide), hbit _ (by decide)⟩
  | succ k ih =>
    obtain ⟨rest, h⟩ := ih
    exact ⟨_, h.shiftRightOne⟩

/-- **Rounding to nearest** is off by at most a half. -/
theorem Shifted.roundedMantissa (h : Shifted m k em rest) :
    2 * (em.roundedMantissa * 2 ^ k) ≤ 2 * m + 2 ^ k
      ∧ 2 * m ≤ 2 * (em.roundedMantissa * 2 ^ k) + 2 ^ k
      ∧ em.mantissa ≤ em.roundedMantissa ∧ em.roundedMantissa ≤ em.mantissa + 1 := by
  obtain ⟨hlt, rfl, hround, hsticky⟩ := h
  suffices h : em.roundedMantissa = em.mantissa ∧ 2 * rest ≤ 2 ^ k
      ∨ em.roundedMantissa = em.mantissa + 1 ∧ 2 ^ k ≤ 2 * rest by
    obtain ⟨hr, hrest⟩ | ⟨hr, hrest⟩ := h
    · rw [hr]
      omega
    · rw [hr, add_mul, one_mul]
      omega
  obtain ⟨mantissa, _ | _, _ | _⟩ := em <;>
    simp only [Bool.false_eq_true, false_iff, true_iff] at hround hsticky
  · exact .inl ⟨rfl, by omega⟩
  · exact .inl ⟨rfl, by omega⟩
  · -- exactly a half goes to the even neighbour
    obtain hbit | hbit := Nat.mod_two_eq_zero_or_one mantissa
    · exact .inl ⟨congrArg (mantissa + ·) hbit, by omega⟩
    · exact .inr ⟨congrArg (mantissa + ·) hbit, by omega⟩
  · exact .inr ⟨rfl, by omega⟩

/-! ## Rounding a number -/

/-- The exponent that a number is rounded at. -/
def scale (m : Nat) (e : Int) : Int := max (m.log2 + e - 52) (-1074)

theorem targetExponent_eq (m : Nat) (e : Int) :
    Format.binary64.targetExponent (totalExponent m e) = scale m e := by
  simp only [Format.targetExponent, totalExponent, Format.mantissaBits, Format.minExponent, scale]
  norm_num
  omega

theorem shiftToTargetExponent_eq (m : Nat) (e : Int) :
    shiftToTargetExponent Format.binary64 m e .exact
      = (ExtendedMantissa.mk m false false >>> (scale m e - e).toNat,
          e + (scale m e - e).toNat) := by
  rw [← targetExponent_eq]
  rfl

/-- A mantissa of the right length is not shifted any further. -/
theorem shiftToTargetExponent_of_lt (hm : m < 2 ^ 53) (he : -1074 ≤ e) :
    shiftToTargetExponent Format.binary64 m e .exact = (ExtendedMantissa.mk m false false, e) := by
  have hlog : m.log2 ≤ 52 := by
    obtain rfl | hpos := Nat.eq_zero_or_pos m
    · decide
    · have := (Nat.log2_lt hpos.ne').mpr hm
      omega
  have hshift : (scale m e - e).toNat = 0 := by
    unfold scale
    omega
  rw [shiftToTargetExponent_eq, hshift, Nat.cast_zero, add_zero]
  rfl

/-- A mantissa that rounding has made too long is a power of two. -/
theorem shiftToTargetExponent_two_pow (he : -1074 ≤ e) :
    shiftToTargetExponent Format.binary64 (2 ^ 53) e .exact
      = (ExtendedMantissa.mk (2 ^ 52) false false, e + 1) := by
  have hshift : (scale (2 ^ 53) e - e).toNat = 1 := by
    unfold scale
    rw [Nat.log2_two_pow]
    omega
  rw [shiftToTargetExponent_eq, hshift]
  rfl

/-- A mantissa that is rounded to at most 53 bits needs at most one more shift, which loses
nothing. -/
theorem roundWithAccuracy_of_shift
    (hshift : shiftToTargetExponent Format.binary64 m e .exact = (em, e₁))
    (hlow : -1074 ≤ e₁) (hlong : em.roundedMantissa ≤ 2 ^ 53)
    (hnormal : -1074 < e₁ → 2 ^ 52 ≤ em.roundedMantissa) :
    IsCanonical (roundWithAccuracy Format.binary64 s m e .exact)
      ∧ size (roundWithAccuracy Format.binary64 s m e .exact) = em.roundedMantissa * 2 ^ e₁ := by
  unfold roundWithAccuracy
  rw [hshift]
  dsimp only
  generalize em.roundedMantissa = r at *
  obtain hlt | rfl := hlong.lt_or_eq
  · rw [shiftToTargetExponent_of_lt hlt hlow]
    dsimp only
    split
    · rename_i hzero
      subst hzero
      exact ⟨trivial, by simp⟩
    · exact ⟨⟨hlt, hlow, hnormal⟩, rfl⟩
  · rw [shiftToTargetExponent_two_pow hlow]
    dsimp only
    rw [dif_neg (by decide)]
    refine ⟨⟨by decide, by omega, fun _ => le_rfl⟩, ?_⟩
    show ((2 ^ 52 : Nat) : ℚ) * 2 ^ (e₁ + 1) = _
    rw [zpow_add_one₀ (by norm_num)]
    push_cast
    ring

theorem Shifted.mantissa_lt (h : Shifted m k em rest) (hm : m.log2 ≤ 52 + k) :
    em.mantissa < 2 ^ 53 := by
  have hlog := @Nat.lt_log2_self m
  have hpow : 2 ^ (m.log2 + 1) ≤ 2 ^ 53 * 2 ^ k := by
    rw [← Nat.pow_add]
    exact Nat.pow_le_pow_right (by decide) (by omega)
  have heq := h.eq
  exact Nat.lt_of_mul_lt_mul_right (a := 2 ^ k) (by omega)

theorem Shifted.le_mantissa (h : Shifted m k em rest) (hm : m.log2 = 52 + k) :
    2 ^ 52 ≤ em.mantissa := by
  have hpos : m ≠ 0 := by
    rintro rfl
    rw [Nat.log2_zero] at hm
    omega
  have hlog := Nat.log2_self_le hpos
  rw [hm, Nat.pow_add] at hlog
  have heq := h.eq
  have hlt := h.lt
  refine Nat.le_of_lt_succ (Nat.lt_of_mul_lt_mul_right (a := 2 ^ k) ?_)
  rw [Nat.succ_mul em.mantissa]
  omega

/-- **Rounding a number** gives a float, at most half a unit of its last place away. -/
theorem roundWithAccuracy_spec (s : Sign) (he : e ≤ scale m e) :
    IsCanonical (roundWithAccuracy Format.binary64 s m e .exact)
      ∧ |size (roundWithAccuracy Format.binary64 s m e .exact) - m * 2 ^ e|
        ≤ 2 ^ scale m e / 2 := by
  obtain ⟨k, hk⟩ := Int.eq_ofNat_of_zero_le (show 0 ≤ scale m e - e by omega)
  have hscale : scale m e = e + k := by omega
  have hmax : scale m e = max (m.log2 + e - 52) (-1074) := rfl
  obtain ⟨rest, hshifted⟩ := exists_shifted m k
  have hshift : shiftToTargetExponent Format.binary64 m e .exact
      = (ExtendedMantissa.mk m false false >>> k, e + k) := by
    rw [shiftToTargetExponent_eq, hk]
    rfl
  generalize ExtendedMantissa.mk m false false >>> k = em at hshifted hshift
  obtain ⟨hhigh, hlow, hge, hle⟩ := hshifted.roundedMantissa
  have hlong := hshifted.mantissa_lt (by omega)
  obtain ⟨hcanonical, hsize⟩ := @roundWithAccuracy_of_shift s _ _ _ _ hshift (by omega) (by omega)
    fun hnormal => (hshifted.le_mantissa (by omega)).trans hge
  refine ⟨hcanonical, ?_⟩
  have hhigh : (2 * (em.roundedMantissa * 2 ^ k) : ℚ) ≤ 2 * m + 2 ^ k := by exact_mod_cast hhigh
  have hlow : (2 * m : ℚ) ≤ 2 * (em.roundedMantissa * 2 ^ k) + 2 ^ k := by exact_mod_cast hlow
  have hpow : (0 : ℚ) < 2 ^ e := by positivity
  rw [hsize, hscale, zpow_add₀ (by norm_num), zpow_natCast, abs_le]
  constructor
  · nlinarith
  · nlinarith

/-- **A number, rounded to a float.** The error is relative, but need not be below half the least
positive float. -/
structure IsRounded (f : UnpackedFloat) (v : ℚ) : Prop where
  canonical : IsCanonical f
  near : |size f - v| ≤ max (v / 2 ^ 53) (2 ^ (-1075 : Int))

theorem IsRounded.bounds {v : ℚ} (h : IsRounded f v) (hv : 0 ≤ v) :
    size f ≤ v + v / 2 ^ 53 + 2 ^ (-1075 : Int)
      ∧ v ≤ size f + v / 2 ^ 53 + 2 ^ (-1075 : Int) := by
  have hmax : max (v / 2 ^ 53) ((2 : ℚ) ^ (-1075 : Int)) ≤ v / 2 ^ 53 + 2 ^ (-1075 : Int) :=
    max_le_add_of_nonneg (by positivity) (by positivity)
  obtain ⟨hlow, hhigh⟩ := abs_le.mp (h.near.trans hmax)
  constructor <;> linarith

theorem isRounded_size (h : IsCanonical f) : IsRounded f (size f) := by
  refine ⟨h, ?_⟩
  have hzero : size f - size f = 0 := by ring
  rw [hzero, abs_zero]
  exact le_max_of_le_right (by positivity)

theorem isRounded_zero (s : Sign) : IsRounded (.zero s) 0 := isRounded_size trivial

theorem half_two_zpow_scale_le (hm : 0 < m) (e : Int) :
    (2 : ℚ) ^ scale m e / 2 ≤ max ((m : ℚ) * 2 ^ e / 2 ^ 53) (2 ^ (-1075 : Int)) := by
  obtain h | h := max_choice ((m.log2 : Int) + e - 52) (-1074)
  · refine le_max_of_le_left ?_
    have hlog := (Decimal.zpow_log2_le hm.ne').1
    have heq : (2 : ℚ) ^ scale m e / 2 = 2 ^ (m.log2 : Int) * 2 ^ e / 2 ^ 53 := by
      rw [scale, h, zpow_sub₀ (by norm_num), zpow_add₀ (by norm_num)]
      norm_num
      ring
    rw [heq]
    gcongr
  · refine le_max_of_le_right ?_
    rw [scale, h, show (-1075 : Int) = -1074 - 1 from rfl, zpow_sub_one₀ (by norm_num)]
    exact (div_eq_mul_inv _ _).le

theorem isRounded_roundWithAccuracy (s : Sign) (hm : 0 < m) (he : e ≤ scale m e) :
    IsRounded (roundWithAccuracy Format.binary64 s m e .exact) (m * 2 ^ e) where
  canonical := (roundWithAccuracy_spec s he).1
  near := (roundWithAccuracy_spec s he).2.trans (half_two_zpow_scale_le hm e)

/-- Rounding at a lower exponent first does not change the number. -/
theorem decreaseExponent_spec (hm : 0 < m) (e t : Int) :
    0 < (decreaseExponent m e t).1 ∧ (decreaseExponent m e t).2 ≤ t
      ∧ scale (decreaseExponent m e t).1 (decreaseExponent m e t).2 = scale m e
      ∧ ((decreaseExponent m e t).1 : ℚ) * 2 ^ (decreaseExponent m e t).2 = m * 2 ^ e := by
  unfold decreaseExponent
  dsimp only
  generalize hk : (e - t).toNat = k
  rw [Nat.shiftLeft_eq]
  refine ⟨by positivity, by omega, ?_, ?_⟩
  · have hlog : (m * 2 ^ k).log2 = m.log2 + k := by
      refine (Nat.log2_eq_iff (by positivity)).mpr ⟨?_, ?_⟩
      · rw [Nat.pow_add]
        exact Nat.mul_le_mul_right _ (Nat.log2_self_le hm.ne')
      · rw [Nat.add_right_comm, Nat.pow_add]
        exact Nat.mul_lt_mul_of_pos_right Nat.lt_log2_self (by positivity)
    unfold scale
    rw [hlog]
    push_cast
    congr 1
    ring
  · push_cast
    rw [zpow_sub₀ (by norm_num), zpow_natCast]
    field_simp

theorem isRounded_round (s : Sign) (hm : 0 < m) (e : Int) :
    IsRounded (UnpackedFloat.round Format.binary64 s m e) (m * 2 ^ e) := by
  unfold UnpackedFloat.round
  rw [targetExponent_eq]
  obtain ⟨hpos, hle, hscale, hvalue⟩ := decreaseExponent_spec hm e (scale m e)
  have h := isRounded_roundWithAccuracy s hpos (hle.trans_eq hscale.symm)
  rwa [hvalue] at h

theorem isRounded_normalize (n e : Int) (s : Sign) :
    IsRounded (UnpackedFloat.normalize Format.binary64 n e s) (|(n : ℚ)| * 2 ^ e) := by
  unfold UnpackedFloat.normalize
  rw [← Int.cast_abs, Int.abs_eq_natAbs, Int.cast_natCast]
  split
  · rename_i hneg
    rw [compare_lt_iff_lt] at hneg
    rw [show (-n).toNat = n.natAbs by omega]
    exact isRounded_round _ (by omega) e
  · rename_i hzero
    rw [compare_eq_iff_eq] at hzero
    subst hzero
    rw [Int.natAbs_zero, Nat.cast_zero, zero_mul]
    exact isRounded_zero s
  · rename_i hpos
    rw [compare_gt_iff_gt] at hpos
    rw [show n.toNat = n.natAbs by omega]
    exact isRounded_round _ (by omega) e

/-! ## Arithmetic -/

/-- The number that a float stands for; infinities, and what is not a number, stand for none. -/
def value : UnpackedFloat → ℚ
  | .finite s m e _ => s.apply m * 2 ^ e
  | _ => 0

@[simp] theorem value_zero (s : Sign) : value (.zero s) = 0 := rfl

theorem abs_value (f : UnpackedFloat) : |value f| = size f := by
  cases f with
  | finite s m e hm =>
    cases s <;> simp [value, size, Sign.apply, abs_mul, abs_of_pos (zpow_pos (two_pos (R := ℚ)) e)]
  | infinity | zero | notANumber => exact abs_zero

theorem size_nonneg (f : UnpackedFloat) : 0 ≤ size f := by
  rw [← abs_value]
  exact abs_nonneg _

/-- What is added up is first brought to the same exponent. -/
theorem value_decreaseExponent (s : Sign) {e t : Int} (h : t ≤ e) :
    (s.apply (decreaseExponent m e t).1 : ℚ) * 2 ^ t = s.apply m * 2 ^ e := by
  obtain ⟨k, rfl⟩ := Int.le.dest h
  have hk : (t + k - t).toNat = k := by omega
  unfold decreaseExponent
  dsimp only
  rw [hk, Nat.shiftLeft_eq, zpow_add₀ (by norm_num), zpow_natCast]
  cases s <;> simp [Sign.apply] <;> ring

/-- **A difference** is that of the numbers, rounded. -/
theorem isRounded_sub (hf : IsCanonical f) (hg : IsCanonical g) (hf' : f.isFinite = true)
    (hg' : g.isFinite = true) :
    IsRounded (UnpackedFloat.sub Format.binary64 f g) |value f - value g| := by
  cases f with
  | infinity | notANumber => cases hf'
  | zero s =>
    cases g with
    | infinity | notANumber => cases hg'
    | zero s' =>
      rw [value_zero, value_zero, sub_zero, abs_zero]
      cases s <;> cases s' <;> exact isRounded_zero _
    | finite s' m' e' hm' =>
      rw [value_zero, zero_sub, abs_neg, abs_value]
      exact isRounded_size (f := .finite (-s') m' e' hm') hg
  | finite s m e hm =>
    cases g with
    | infinity | notANumber => cases hg'
    | zero s' =>
      rw [value_zero, sub_zero, abs_value]
      exact isRounded_size hf
    | finite s' m' e' hm' =>
      have h := isRounded_normalize (s.apply (decreaseExponent m e (min e e')).1
        - s'.apply (decreaseExponent m' e' (min e e')).1) (min e e') .positive
      have hpow : (0 : ℚ) < 2 ^ min e e' := by positivity
      rw [Int.cast_sub, ← abs_of_pos hpow, ← abs_mul, sub_mul,
        value_decreaseExponent s (min_le_left e e'),
        value_decreaseExponent s' (min_le_right e e')] at h
      exact h

/-- **A product** is that of the numbers, rounded. -/
theorem isRounded_mul (hf : IsCanonical f) (hg : IsCanonical g) (hf' : f.isFinite = true)
    (hg' : g.isFinite = true) :
    IsRounded (UnpackedFloat.mul Format.binary64 f g) (size f * size g) := by
  cases f with
  | infinity | notANumber => cases hf'
  | zero s =>
    rw [size_zero, zero_mul]
    cases g with
    | infinity | notANumber => cases hg'
    | zero s' | finite s' m' e' hm' => exact isRounded_zero _
  | finite s m e hm =>
    cases g with
    | infinity | notANumber => cases hg'
    | zero s' =>
      rw [size_zero, mul_zero]
      exact isRounded_zero _
    | finite s' m' e' hm' =>
      obtain ⟨-, hlow, hnormal⟩ := hf
      obtain ⟨-, hlow', hnormal'⟩ := hg
      have hlog (h : -1074 < e ∨ -1074 < e') : 52 ≤ (m * m').log2 := by
        refine (Nat.le_log2 (Nat.mul_pos hm hm').ne').mpr ?_
        obtain h | h := h
        · exact (hnormal h).trans (Nat.le_mul_of_pos_right m hm')
        · exact (hnormal' h).trans (Nat.le_mul_of_pos_left m' hm)
      have hvalue : ((m * m' : Nat) : ℚ) * 2 ^ (e + e') = m * 2 ^ e * (m' * 2 ^ e') := by
        rw [zpow_add₀ (by norm_num)]
        push_cast
        ring
      have h := isRounded_roundWithAccuracy (s * s') (Nat.mul_pos hm hm') (e := e + e')
        (by unfold scale; omega)
      rw [hvalue] at h
      exact h

theorem isFinite_mul (hf : f.isFinite = true) (hg : g.isFinite = true) :
    (UnpackedFloat.mul Format.binary64 f g).isFinite = true := by
  cases f with
  | infinity | notANumber => cases hf
  | zero s =>
    cases g with
    | infinity | notANumber => cases hg
    | zero | finite => rfl
  | finite s m e hm =>
    cases g with
    | infinity | notANumber => cases hg
    | zero => rfl
    | finite s' m' e' hm' =>
      show UnpackedFloat.isFinite (if _ : _ then _ else _) = true
      split <;> rfl

/-- Of what is not finite nothing finite is left. -/
theorem sub_of_isFinite_eq_false (hf : f.isFinite = false) (hg : g.isFinite = true) :
    IsCanonical (UnpackedFloat.sub Format.binary64 f g)
      ∧ (UnpackedFloat.sub Format.binary64 f g).isFinite = false := by
  cases f with
  | zero | finite => cases hf
  | notANumber => exact ⟨trivial, rfl⟩
  | infinity s =>
    cases g with
    | infinity | notANumber => cases hg
    | zero | finite => exact ⟨trivial, rfl⟩

/-! ## Floats -/

variable {x y : Float}

/-- **The number that a float stands for.** Infinities, and what is not a number, stand for none. -/
def toRat (x : Float) : ℚ := value x.toModel.unpack

theorem unpack_sub (x y : Float) : (x - y).toModel.unpack
    = (Float.Model.pack (.sub Format.binary64 x.toModel.unpack y.toModel.unpack)).unpack := rfl

theorem unpack_mul (x y : Float) : (x * y).toModel.unpack
    = (Float.Model.pack (.mul Format.binary64 x.toModel.unpack y.toModel.unpack)).unpack := rfl

theorem unpack_abs (x : Float) : x.abs.toModel.unpack = x.toModel.unpack.abs := by
  show (Float.Model.pack x.toModel.unpack.abs).unpack = _
  have hcanonical := isCanonical_unpack x
  have hsize := size_unpack_lt x
  have h : IsCanonical x.toModel.unpack.abs
      ∧ size x.toModel.unpack.abs = size x.toModel.unpack := by
    cases hx : x.toModel.unpack with
    | finite s m e hm =>
      rw [hx] at hcanonical
      exact ⟨hcanonical, rfl⟩
    | infinity | zero | notANumber => exact ⟨trivial, rfl⟩
  refine (unpack_pack h.1).resolve_right fun hlarge => ?_
  rw [h.2] at hlarge
  exact hlarge.2.not_gt hsize

theorem size_abs (x : Float) : size x.abs.toModel.unpack = |toRat x| := by
  rw [unpack_abs, toRat, abs_value]
  cases x.toModel.unpack <;> rfl

theorem isFinite_abs (x : Float) : x.abs.isFinite = x.isFinite := by
  show x.abs.toModel.unpack.isFinite = x.toModel.unpack.isFinite
  rw [unpack_abs]
  cases x.toModel.unpack <;> rfl

theorem isNaN_abs (x : Float) : x.abs.isNaN = x.isNaN := by
  show x.abs.toModel.unpack.isNaN = x.toModel.unpack.isNaN
  rw [unpack_abs]
  cases x.toModel.unpack <;> rfl

/-- **A difference of floats** that is finite is that of finite numbers, rounded. -/
theorem isRounded_sub_of_isFinite (hy : y.isFinite = true) (h : (x - y).isFinite = true) :
    x.isFinite = true ∧ IsRounded (x - y).toModel.unpack |toRat x - toRat y| := by
  change (x - y).toModel.unpack.isFinite = true at h
  show x.toModel.unpack.isFinite = true ∧ _
  rw [unpack_sub] at h ⊢
  cases hx : x.toModel.unpack.isFinite with
  | false =>
    obtain ⟨hcanonical, hnot⟩ := sub_of_isFinite_eq_false hx hy
    rw [unpack_pack_of_isFinite hcanonical h, hnot] at h
    cases h
  | true =>
    have hsub := isRounded_sub (isCanonical_unpack x) (isCanonical_unpack y) hx hy
    rw [unpack_pack_of_isFinite hsub.canonical h]
    exact ⟨rfl, hsub⟩

/-- Of an infinity something is left unless the same infinity is subtracted. -/
theorem isNaN_sub_iff (hy : y.isInf = true) :
    (x - y).isNaN = true ↔ x.isNaN = true ∨ x = y := by
  obtain ⟨t, ht⟩ : ∃ t, y.toModel.unpack = .infinity t := by
    change y.toModel.unpack.isInf = true at hy
    cases hy' : y.toModel.unpack with
    | infinity t => exact ⟨t, rfl⟩
    | zero | finite | notANumber =>
      rw [hy'] at hy
      cases hy
  have heq : x = y ↔ x.toModel.unpack = .infinity t := by
    refine ⟨fun h => h ▸ ht, fun h => ?_⟩
    rw [← ofModel_pack_unpack x, ← ofModel_pack_unpack y, h, ht]
  show (x - y).toModel.unpack.isNaN = true ↔ x.toModel.unpack.isNaN = true ∨ x = y
  rw [heq, unpack_sub, ht, unpack_pack_of_isFinite_eq_false]
  · cases x.toModel.unpack with
    | notANumber => exact iff_of_true rfl (.inl rfl)
    | zero s | finite s => exact iff_of_false Bool.false_ne_true (by rintro (h | h) <;> cases h)
    | infinity s =>
      cases s <;> cases t
      · exact iff_of_true rfl (.inr rfl)
      · exact iff_of_false Bool.false_ne_true (by rintro (h | h) <;> cases h)
      · exact iff_of_false Bool.false_ne_true (by rintro (h | h) <;> cases h)
      · exact iff_of_true rfl (.inr rfl)
  · rcases x.toModel.unpack with s | _ | _ | _
    · cases s <;> cases t <;> rfl
    all_goals rfl

/-- **A product of finite floats** is that of the numbers, rounded, unless it is too large. -/
theorem isRounded_mul_of_le (hx : x.isFinite = true) (hy : y.isFinite = true)
    (hsmall : size x.toModel.unpack * size y.toModel.unpack ≤ 2 ^ 1023) :
    (x * y).isFinite = true
      ∧ IsRounded (x * y).toModel.unpack (size x.toModel.unpack * size y.toModel.unpack) := by
  show (x * y).toModel.unpack.isFinite = true ∧ _
  rw [unpack_mul]
  have hmul := isRounded_mul (isCanonical_unpack x) (isCanonical_unpack y) hx hy
  rw [(unpack_pack hmul.canonical).resolve_right]
  · exact ⟨isFinite_mul hx hy, hmul⟩
  · rintro ⟨-, hlarge⟩
    obtain ⟨hhigh, -⟩ := hmul.bounds
      (mul_nonneg (size_nonneg x.toModel.unpack) (size_nonneg y.toModel.unpack))
    have htiny : (2 : ℚ) ^ (-1075 : Int) ≤ 1 := zpow_le_one_of_nonpos₀ (by norm_num) (by norm_num)
    have hfour : (2 : ℚ) ^ 2 ≤ 2 ^ 1023 := pow_le_pow_right₀ (by norm_num) (by norm_num)
    rw [pow_succ' (2 : ℚ) 1023] at hlarge
    generalize (2 : ℚ) ^ 1023 = largest at hsmall hfour hlarge
    linarith

/-! ## Comparing -/

/-- Numbers that are not negative are compared by their magnitudes. -/
theorem size_le_of_rank_le (hf : IsNonneg f) (hg : IsNonneg g) (hf' : f.isFinite = true)
    (hg' : g.isFinite = true) (hfc : IsCanonical f) (hgc : IsCanonical g)
    (h : rank f ≤ rank g) : size f ≤ size g := by
  cases f with
  | infinity | notANumber => cases hf'
  | zero s => exact size_nonneg g
  | finite s m e hm =>
    cases hf
    cases g with
    | infinity | notANumber => cases hg'
    | zero s' => simp [rank, Prod.Lex.le_iff] at h
    | finite s' m' e' hm' =>
      cases hg
      have h : e < e' ∨ e = e' ∧ m ≤ m' := by simpa [rank, Prod.Lex.le_iff] using h
      show (m : ℚ) * 2 ^ e ≤ m' * 2 ^ e'
      obtain hlt | ⟨rfl, hle⟩ := h
      · have hm : (m : ℚ) ≤ 2 ^ 53 := by exact_mod_cast hfc.1.le
        have hm' : (2 ^ 52 : ℚ) ≤ m' := by
          exact_mod_cast hgc.2.2 (lt_of_le_of_lt hfc.2.1 hlt)
        calc (m : ℚ) * 2 ^ e ≤ 2 ^ 53 * 2 ^ e := by gcongr
          _ = 2 ^ 52 * 2 ^ (e + 1) := by
            rw [zpow_add_one₀ (by norm_num)]
            ring
          _ ≤ m' * 2 ^ e' := by
            gcongr
            · norm_num
            · omega
      · have hle : (m : ℚ) ≤ m' := by exact_mod_cast hle
        gcongr

/-- What is at most a finite number is finite. -/
theorem isFinite_of_rank_le (hf : IsNonneg f) (hg : g.isFinite = true) (h : rank f ≤ rank g) :
    f.isFinite = true := by
  cases f with
  | zero | finite => rfl
  | notANumber => cases hf
  | infinity s =>
    cases hf
    cases g with
    | infinity | notANumber => cases hg
    | zero s' => simp [rank, Prod.Lex.le_iff] at h
    | finite s' m' e' hm' => cases s' <;> simp [rank, Prod.Lex.le_iff] at h

/-- **What is at most a finite float is finite**, and of lower magnitude if neither is negative. -/
theorem size_le_of_le (hx : IsNonneg x.toModel.unpack) (hy : IsNonneg y.toModel.unpack)
    (hfinite : y.isFinite = true) (h : x ≤ y) :
    x.isFinite = true ∧ size x.toModel.unpack ≤ size y.toModel.unpack := by
  have hrank := (le_iff.mp h).2.2
  have hxfinite : x.toModel.unpack.isFinite = true := isFinite_of_rank_le hx hfinite hrank
  exact ⟨hxfinite, size_le_of_rank_le hx hy hxfinite hfinite (isCanonical_unpack x)
    (isCanonical_unpack y) hrank⟩

end FloatView

end CatchmentPlanning
