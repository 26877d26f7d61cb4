import CatchmentPlanning.Proofs.Decimal.Floats

/-!
# What rounds to a float

Around the magnitude `m · 2^q` of a float lies an interval of reals that round to it
(`RoundsTo`). It reaches half-way to the neighbouring floats, and has its ends exactly when `m`
is even. Below a power of two the neighbour is only half as far away, so the interval is
measured in quarters of `2^q`.

Rounding finds the scale of a number first, and rounds the number on that scale. A number of the
interval has the scale `q`, but for one case: just below a power of two the scale is finer, and
rounding carries the number up to the power (`RoundsTo.carry`). Either way the number of the
float comes out (`magnitudeIndex_eq`).
-/

namespace CatchmentPlanning

namespace Decimal

open FloatView (IsMagnitude index)

variable {num den n d m : Nat} {q : Int} {v : ℚ}

/-- The magnitude of a decimal. -/
def magnitude (d : Decimal) : ℚ := d.digits * 10 ^ d.exponent

/-! ## Rounding on a scale -/

/-- A quotient is rounded to `m` if it is at most a half away from it, and less than a half
where `m` is odd. -/
theorem roundHalfEven_eq (hd : 0 < d) (hlow : 2 * (m * d) ≤ 2 * n + d)
    (hhigh : 2 * n ≤ 2 * (m * d) + d)
    (hodd : m % 2 = 1 → 2 * (m * d) < 2 * n + d ∧ 2 * n < 2 * (m * d) + d) :
    roundHalfEven n d = m := by
  have hdiv := Nat.div_add_mod' n d
  have hmod := Nat.mod_lt n hd
  unfold roundHalfEven
  extract_lets k r
  change k * d + r = n at hdiv
  change r < d at hmod
  have hle : k ≤ m := by
    by_contra hlt
    have hmul := Nat.mul_le_mul_right d (show m + 1 ≤ k by omega)
    rw [Nat.add_mul] at hmul
    omega
  have hge : m ≤ k + 1 := by
    by_contra hlt
    have hmul := Nat.mul_le_mul_right d (show k + 2 ≤ m by omega)
    rw [Nat.add_mul] at hmul
    omega
  obtain rfl | rfl : m = k ∨ m = k + 1 := by omega
  · split
    · rfl
    · split <;> omega
  · rw [Nat.add_mul] at hlow hhigh hodd
    split
    · omega
    · split <;> omega

@[inherit_doc roundHalfEven_eq]
theorem roundHalfEven_eq_of_div (hd : 0 < d) (hlow : (m : ℚ) - 1 / 2 ≤ (n : ℚ) / d)
    (hhigh : (n : ℚ) / d ≤ m + 1 / 2)
    (hodd : m % 2 = 1 → (m : ℚ) - 1 / 2 < (n : ℚ) / d ∧ (n : ℚ) / d < m + 1 / 2) :
    roundHalfEven n d = m := by
  have hd' : (0 : ℚ) < d := by exact_mod_cast hd
  rw [le_div_iff₀ hd'] at hlow
  rw [div_le_iff₀ hd'] at hhigh
  rw [lt_div_iff₀ hd', div_lt_iff₀ hd'] at hodd
  have hlow : (2 * (m * d) : ℚ) ≤ 2 * n + d := by linarith
  have hhigh : (2 * n : ℚ) ≤ 2 * (m * d) + d := by linarith
  have hodd (h : m % 2 = 1) : (2 * (m * d) : ℚ) < 2 * n + d ∧ (2 * n : ℚ) < 2 * (m * d) + d :=
    ⟨by linarith [hodd h], by linarith [hodd h]⟩
  exact roundHalfEven_eq hd (by exact_mod_cast hlow) (by exact_mod_cast hhigh)
    (by exact_mod_cast hodd)

/-- Scaling divides by the power of two. -/
theorem scaledByTwo_spec (num : Nat) (hden : 0 < den) (q : Int) :
    0 < (scaledByTwo num den q).2
      ∧ ((scaledByTwo num den q).1 : ℚ) / (scaledByTwo num den q).2 = num / den / 2 ^ q := by
  unfold scaledByTwo
  split
  · rename_i hq
    obtain ⟨k, rfl⟩ := Int.eq_ofNat_of_zero_le hq
    refine ⟨Nat.mul_pos hden (Nat.two_pow_pos _), ?_⟩
    push_cast
    rw [div_div]
    simp
  · obtain ⟨k, rfl⟩ : ∃ k : Nat, q = -k := ⟨(-q).toNat, by omega⟩
    refine ⟨hden, ?_⟩
    simp
    ring

/-! ## The scale of a number -/

theorem zpow_log2_le (h : n ≠ 0) :
    (2 : ℚ) ^ (n.log2 : Int) ≤ n ∧ (n : ℚ) < 2 ^ (n.log2 + 1 : Int) := by
  have hlow := Nat.log2_self_le h
  have hhigh := @Nat.lt_log2_self n
  have hcast : ((n.log2 : Int) + 1) = ((n.log2 + 1 : Nat) : Int) := by push_cast; rfl
  rw [hcast, zpow_natCast, zpow_natCast]
  exact ⟨by exact_mod_cast hlow, by exact_mod_cast hhigh⟩

/-- **The binary order of a quotient.** -/
theorem binaryOrder_spec (hnum : 0 < num) (hden : 0 < den) :
    (2 : ℚ) ^ binaryOrder num den ≤ num / den
      ∧ (num : ℚ) / den < 2 ^ (binaryOrder num den + 1) := by
  obtain ⟨hnum_low, hnum_high⟩ := zpow_log2_le hnum.ne'
  obtain ⟨hden_low, hden_high⟩ := zpow_log2_le hden.ne'
  have hden' : (0 : ℚ) < den := by exact_mod_cast hden
  unfold binaryOrder
  extract_lets l
  obtain ⟨hpos, hscaled⟩ := scaledByTwo_spec num hden l
  split
  rename_i a b hab
  rw [hab] at hpos hscaled
  change (a : ℚ) / b = _ at hscaled
  have hb : (0 : ℚ) < b := by exact_mod_cast hpos
  have hl : (0 : ℚ) < 2 ^ l := by positivity
  split
  · rename_i hle
    have hle : (b : ℚ) ≤ a := by exact_mod_cast hle
    constructor
    · have hone : 1 ≤ (a : ℚ) / b := (one_le_div hb).mpr hle
      rwa [hscaled, le_div_iff₀ hl, one_mul] at hone
    · rw [div_lt_iff₀ hden']
      calc (num : ℚ) < 2 ^ ((num.log2 : Int) + 1) := hnum_high
        _ = 2 ^ (l + 1) * 2 ^ (den.log2 : Int) := by
          rw [← zpow_add₀ (by norm_num)]
          congr 1
          omega
        _ ≤ 2 ^ (l + 1) * den := by gcongr
  · rename_i hlt
    have hlt : (a : ℚ) < b := by exact_mod_cast Nat.lt_of_not_le hlt
    constructor
    · rw [le_div_iff₀ hden']
      calc (2 : ℚ) ^ (l - 1) * den ≤ 2 ^ (l - 1) * 2 ^ ((den.log2 : Int) + 1) := by gcongr
        _ = 2 ^ (num.log2 : Int) := by
          rw [← zpow_add₀ (by norm_num)]
          congr 1
          omega
        _ ≤ num := hnum_low
    · have hone : (a : ℚ) / b < 1 := (div_lt_one hb).mpr hlt
      rwa [hscaled, div_lt_iff₀ hl, one_mul, ← Int.sub_add_cancel l 1] at hone

theorem lt_of_two_zpow_lt {a b : Int} (h : (2 : ℚ) ^ a < 2 ^ b) : a < b :=
  (zpow_lt_zpow_iff_right₀ (by norm_num)).mp h

/-! ## The interval of a float -/

/-- The least magnitude that rounds to `m · 2^q`, in quarters of `2^q`. -/
def lowQuarters (m : Nat) (q : Int) : Nat :=
  if m = 2 ^ 52 ∧ -1074 < q then 4 * m - 1 else 4 * m - 2

/-- **The magnitudes that round to `m · 2^q`.** -/
structure RoundsTo (m : Nat) (q : Int) (v : ℚ) : Prop where
  low : lowQuarters m q * 2 ^ (q - 2) ≤ v
  high : v ≤ (4 * m + 2 : Nat) * 2 ^ (q - 2)
  odd : m % 2 = 1 → lowQuarters m q * 2 ^ (q - 2) < v ∧ v < (4 * m + 2 : Nat) * 2 ^ (q - 2)

theorem le_lowQuarters (m : Nat) (q : Int) : 4 * m - 2 ≤ lowQuarters m q := by
  unfold lowQuarters
  split <;> omega

theorem lowQuarters_lt (hm : 0 < m) (q : Int) : lowQuarters m q < 4 * m := by
  unfold lowQuarters
  split <;> omega

/-- Powers of two in quarters. -/
theorem two_zpow_add (q : Int) (k : Nat) :
    (2 : ℚ) ^ (q + k) = (2 ^ (k + 2) : Nat) * 2 ^ (q - 2) := by
  push_cast
  rw [← zpow_natCast, ← zpow_add₀ (by norm_num)]
  congr 1
  omega

/-- A float lies in its interval. -/
theorem roundsTo_self (hm : 0 < m) (q : Int) : RoundsTo m q (m * 2 ^ q) := by
  have hq : (m * 2 ^ q : ℚ) = (4 * m : Nat) * 2 ^ (q - 2) := by
    have hzero := two_zpow_add q 0
    rw [Nat.cast_zero, add_zero] at hzero
    rw [hzero]
    push_cast
    ring
  have hlow := lowQuarters_lt hm q
  have hlow : (lowQuarters m q : ℚ) * 2 ^ (q - 2) < (4 * m : Nat) * 2 ^ (q - 2) := by gcongr
  have hhigh : ((4 * m : Nat) : ℚ) * 2 ^ (q - 2) < (4 * m + 2 : Nat) * 2 ^ (q - 2) := by
    gcongr
    omega
  rw [hq]
  exact ⟨hlow.le, hhigh.le, fun _ => ⟨hlow, hhigh⟩⟩

theorem RoundsTo.lt (h : RoundsTo m q v) (hm : IsMagnitude m q) : v < 2 ^ (q + 53) := by
  refine lt_of_le_of_lt h.high ?_
  have hlt : 4 * m + 2 < 2 ^ (53 + 2) := by
    have := hm.lt
    omega
  have hscale := two_zpow_add q 53
  push_cast only [Nat.cast_ofNat] at hscale
  rw [hscale]
  gcongr

theorem RoundsTo.le (h : RoundsTo m q v) (hm : 0 < m) : 2 ^ (q - 1) ≤ v := by
  refine le_trans ?_ h.low
  have hlow : 2 ≤ lowQuarters m q := le_trans (by omega) (le_lowQuarters m q)
  calc (2 : ℚ) ^ (q - 1) = (2 : Nat) * 2 ^ (q - 2) := by
        rw [Nat.cast_two, ← zpow_one_add₀ (by norm_num)]
        congr 1
        omega
    _ ≤ _ := by gcongr

/-- On the scale of the float its interval is rounded to `m`. -/
theorem RoundsTo.round (h : RoundsTo m q (num / den)) (hden : 0 < den) :
    roundHalfEven (scaledByTwo num den q).1 (scaledByTwo num den q).2 = m := by
  obtain ⟨hd, hscaled⟩ := scaledByTwo_spec num hden q
  have hq := two_zpow_add q 0
  rw [Nat.cast_zero, add_zero] at hq
  have hlow : (4 * m - 2 : ℚ) * 2 ^ (q - 2) ≤ lowQuarters m q * 2 ^ (q - 2) := by
    have hle : (4 * m : ℚ) ≤ lowQuarters m q + 2 := by
      have := le_lowQuarters m q
      exact_mod_cast (show 4 * m ≤ lowQuarters m q + 2 by omega)
    gcongr
    linarith
  have hlow' := h.low
  have hhigh := h.high
  have hodd := h.odd
  push_cast at hq hhigh hodd
  refine roundHalfEven_eq_of_div hd ?_ ?_ fun hm => ?_
  · rw [hscaled, le_div_iff₀ (by positivity), hq]
    linarith
  · rw [hscaled, div_le_iff₀ (by positivity), hq]
    linarith
  · rw [hscaled, lt_div_iff₀ (by positivity), div_lt_iff₀ (by positivity), hq]
    constructor <;> linarith [hodd hm]

/-- **Below the scale of the float** the interval reaches only if the float is a power of two.
There the numbers round to the power on the next finer scale. -/
theorem RoundsTo.carry (h : RoundsTo m q v) (hm : IsMagnitude m q) (hq : -1074 < q)
    (hv : v < 2 ^ (q + 52)) : m = 2 ^ 52 ∧ RoundsTo (2 ^ 53) (q - 1) v := by
  have hscale := two_zpow_add q 52
  push_cast at hscale
  have hlow : lowQuarters m q < 2 ^ (52 + 2) := by
    have hlt : (lowQuarters m q : ℚ) * 2 ^ (q - 2) < 2 ^ (52 + 2) * 2 ^ (q - 2) :=
      hscale ▸ h.low.trans_lt hv
    exact_mod_cast (mul_lt_mul_iff_left₀ (by positivity)).mp hlt
  have hle := le_lowQuarters m q
  have hnormal := hm.normal hq
  obtain rfl : m = 2 ^ 52 := by omega
  have hhalf : (2 : ℚ) ^ (q - 2) = 2 * 2 ^ (q - 1 - 2) := by
    rw [← zpow_one_add₀ (by norm_num)]
    congr 1
    omega
  refine ⟨rfl, ?_, ?_, fun h => absurd h (by decide)⟩
  · have hlow := h.low
    rw [lowQuarters, if_pos ⟨rfl, hq⟩, hhalf] at hlow
    rw [lowQuarters, if_neg (by norm_num)]
    norm_num at hlow ⊢
    linarith
  · have hpos : (0 : ℚ) < 2 ^ (q - 1 - 2) := by positivity
    rw [hscale, hhalf] at hv
    push_cast
    linarith

/-- A mantissa that has been carried is not below its scale. -/
theorem RoundsTo.le_of_lt (h : RoundsTo m q v) (hm : 2 ^ 52 < m) : 2 ^ (q + 52) ≤ v := by
  refine le_trans ?_ h.low
  have hlow : 2 ^ (52 + 2) ≤ lowQuarters m q := le_trans (by omega) (le_lowQuarters m q)
  have hscale := two_zpow_add q 52
  push_cast only [Nat.cast_ofNat] at hscale
  rw [hscale]
  gcongr

/-! ## The nearest float -/

/-- **What lies in the interval of a float rounds to the float.** -/
theorem nearestIndex_eq (hm : IsMagnitude m q) (hpos : 0 < m) (hnum : 0 < num) (hden : 0 < den)
    (h : RoundsTo m q (num / den)) : nearestIndex num den = index m q := by
  have hlt := hm.lt
  have hlow := hm.low
  have hhigh := hm.high
  obtain ⟨hl, hl'⟩ := binaryOrder_spec hnum hden
  have horder := lt_of_two_zpow_lt (hl.trans_lt (h.lt hm))
  have hindex (scale : Int) (hscale : max (-1074) (binaryOrder num den - 52) = scale) :
      nearestIndex num den = min FloatView.infinityIndex ((scale + 1074).toNat * 2 ^ 52
        + roundHalfEven (scaledByTwo num den scale).1 (scaledByTwo num den scale).2) := by
    rw [← hscale]
    rfl
  by_cases hcase : q = -1074 ∨ 2 ^ (q + 52) ≤ (num / den : ℚ)
  · have hscale : max (-1074) (binaryOrder num den - 52) = q := by
      obtain hq | hle := hcase
      · omega
      · have := lt_of_two_zpow_lt (hle.trans_lt hl')
        omega
    rw [hindex q hscale, h.round hden]
    unfold index FloatView.infinityIndex
    omega
  · rw [not_or, not_le] at hcase
    obtain ⟨rfl, hcarry⟩ := h.carry hm (by omega) hcase.2
    have hscale : max (-1074) (binaryOrder num den - 52) = q - 1 := by
      have := lt_of_two_zpow_lt (hl.trans_lt hcase.2)
      have := lt_of_two_zpow_lt ((hcarry.le_of_lt (by norm_num)).trans_lt hl')
      omega
    rw [hindex (q - 1) hscale, hcarry.round hden]
    unfold index FloatView.infinityIndex
    omega

theorem two_zpow_le_ten_zpow : (2 : ℚ) ^ (1079 : Int) ≤ 10 ^ (332 : Int) := by
  rw [show (1079 : Int) = 13 * 83 by norm_num, show (332 : Int) = 4 * 83 by norm_num, zpow_mul,
    zpow_mul]
  exact zpow_le_zpow_left₀ (by norm_num) (by norm_num) (by norm_num)

theorem lt_of_ten_zpow_lt {a b : Int} (h : (10 : ℚ) ^ a < 10 ^ b) : a < b :=
  (zpow_lt_zpow_iff_right₀ (by norm_num)).mp h

/-- **A decimal in the interval of a float is nearest to the float.** -/
theorem magnitudeIndex_eq (hm : IsMagnitude m q) (hpos : 0 < m) {digits : Nat} {exponent : Int}
    (h : RoundsTo m q (digits * 10 ^ exponent)) : magnitudeIndex digits exponent = index m q := by
  have hhigh := hm.high
  have hlow := hm.low
  have hdigits : digits ≠ 0 := by
    rintro rfl
    have hle := h.le hpos
    rw [Nat.cast_zero, zero_mul] at hle
    exact absurd hle (not_le.mpr (by positivity))
  -- the decimal is far from where powers of ten are not computed any more
  have hbelow : exponent < 332 := by
    have hone : (1 : ℚ) ≤ digits := by exact_mod_cast Nat.pos_of_ne_zero hdigits
    refine lt_of_ten_zpow_lt ?_
    calc (10 : ℚ) ^ exponent ≤ digits * 10 ^ exponent :=
          le_mul_of_one_le_left (by positivity) hone
      _ < 2 ^ (q + 53) := h.lt hm
      _ ≤ 2 ^ (1079 : Int) := zpow_le_zpow_right₀ (by norm_num) (by omega)
      _ ≤ 10 ^ (332 : Int) := two_zpow_le_ten_zpow
  have habove : -332 < digits.log2 + 1 + exponent := by
    have hlog : (digits : ℚ) < 10 ^ (digits.log2 + 1 : Int) :=
      (zpow_log2_le hdigits).2.trans_le
        (zpow_le_zpow_left₀ (by omega) (by norm_num) (by norm_num))
    refine lt_of_ten_zpow_lt ?_
    calc (10 : ℚ) ^ (-332 : Int) ≤ 2 ^ (-1079 : Int) := by
          rw [zpow_neg, zpow_neg]
          exact inv_anti₀ (by positivity) two_zpow_le_ten_zpow
      _ ≤ 2 ^ (q - 1) := zpow_le_zpow_right₀ (by norm_num) (by omega)
      _ ≤ digits * 10 ^ exponent := h.le hpos
      _ < 10 ^ (digits.log2 + 1 : Int) * 10 ^ exponent := by gcongr
      _ = 10 ^ (digits.log2 + 1 + exponent : Int) := (zpow_add₀ (by norm_num) _ _).symm
  rw [magnitudeIndex, if_neg hdigits, if_neg (by omega), if_neg (by omega)]
  have hdigits := Nat.pos_of_ne_zero hdigits
  have hten (k : Nat) : 0 < 10 ^ k := Nat.pow_pos (by norm_num)
  split
  · rename_i hexponent
    obtain ⟨k, rfl⟩ := Int.eq_ofNat_of_zero_le hexponent
    exact nearestIndex_eq hm hpos (Nat.mul_pos hdigits (hten _)) one_pos (by simpa using h)
  · obtain ⟨k, rfl⟩ : ∃ k : Nat, exponent = -k := ⟨(-exponent).toNat, by omega⟩
    exact nearestIndex_eq hm hpos hdigits (hten _) (by simpa [div_eq_mul_inv] using h)

/-- **A decimal is read as the float whose interval it lies in**, and zero as a zero. -/
theorem toFloat_eq {d : Decimal} (hm : IsMagnitude m q)
    (hpos : 0 < m → RoundsTo m q d.magnitude) (hzero : m = 0 → d.digits = 0) :
    d.toFloat = FloatView.signed d.negative (index m q) := by
  suffices hindex : magnitudeIndex d.digits d.exponent = index m q by
    rw [toFloat, hindex]
    rfl
  obtain rfl | hm' := Nat.eq_zero_or_pos m
  · have hq : q = -1074 := by
      have hlow := hm.low
      have hnormal := hm.normal
      by_contra hne
      exact absurd (hnormal (by omega)) (by norm_num)
    rw [hzero rfl, hq]
    rfl
  · exact magnitudeIndex_eq hm hm' (hpos hm')

end Decimal

end CatchmentPlanning
