import CatchmentPlanning.Decimal.Shortest
import CatchmentPlanning.Proofs.Decimal.Rounding

/-!
# The shortest decimal rounds back

The search for the shortest decimal compares points of a grid `10^g` with the ends of the
interval of a float. Everything is brought over a common factor first, so that only natural
numbers are compared; the factor takes nothing from the comparison (`mul_le_mul_iff_of_grid`).
So whatever point is chosen lies in the interval (`roundsTo_shortest`).
-/

namespace CatchmentPlanning

namespace Decimal

variable {m : Nat} {q : Int}

/-- A power of a whole exponent, as a quotient of powers. -/
theorem pow_toNat {x : ℚ} (hx : x ≠ 0) (u : Int) : x ^ u.toNat = x ^ (-u).toNat * x ^ u := by
  rw [← zpow_natCast, ← zpow_natCast, ← zpow_add₀ hx]
  congr 1
  omega

/-- **Points of a grid are compared over a common factor.** -/
theorem mul_le_mul_iff_of_grid {a b : Nat} {u g : Int} (ha : a = 2 ^ u.toNat * 10 ^ (-g).toNat)
    (hb : b = 2 ^ (-u).toNat * 10 ^ g.toNat) (k d : Nat) :
    (k * a ≤ d * b ↔ (k : ℚ) * 2 ^ u ≤ d * 10 ^ g)
      ∧ (d * b ≤ k * a ↔ (d : ℚ) * 10 ^ g ≤ k * 2 ^ u) := by
  have hfactor : (0 : ℚ) < 2 ^ (-u).toNat * 10 ^ (-g).toNat := by positivity
  have ha : (k * a : ℚ) = k * 2 ^ u * (2 ^ (-u).toNat * 10 ^ (-g).toNat) := by
    rw [ha]
    push_cast
    rw [pow_toNat (by norm_num) u]
    ring
  have hb : (d * b : ℚ) = d * 10 ^ g * (2 ^ (-u).toNat * 10 ^ (-g).toNat) := by
    rw [hb]
    push_cast
    rw [pow_toNat (by norm_num) g]
    ring
  constructor
  · rw [← mul_le_mul_iff_left₀ hfactor, ← ha, ← hb]
    norm_cast
  · rw [← mul_le_mul_iff_left₀ hfactor, ← ha, ← hb]
    norm_cast

/-- **What is chosen from a grid lies in the interval.** -/
theorem roundsTo_of_onGrid? {tie : Tie} {g : Int} {d : Nat} (h : onGrid? tie m q g = some d) :
    RoundsTo m q (d * 10 ^ g) := by
  unfold onGrid? at h
  extract_lets u a b low high inside below above at h
  have hinside (hd : inside d = true) : RoundsTo m q (d * 10 ^ g) := by
    have hsides : low * a ≤ d * b ∧ d * b ≤ high * a
        ∧ (m % 2 = 1 → low * a < d * b ∧ d * b < high * a) := by
      simp only [inside] at hd
      split at hd
      · simp only [Bool.and_eq_true, decide_eq_true_eq] at hd
        omega
      · simp only [Bool.and_eq_true, decide_eq_true_eq] at hd
        omega
    obtain ⟨hlow, hlow'⟩ := @mul_le_mul_iff_of_grid a b u g rfl rfl low d
    obtain ⟨hhigh', hhigh⟩ := @mul_le_mul_iff_of_grid a b u g rfl rfl high d
    refine ⟨hlow.mp hsides.1, hhigh.mp hsides.2.1, fun hm => ?_⟩
    obtain ⟨hlow_lt, hhigh_lt⟩ := hsides.2.2 hm
    exact ⟨not_le.mp fun hle => Nat.not_le.mpr hlow_lt (hlow'.mpr hle),
      not_le.mp fun hle => Nat.not_le.mpr hhigh_lt (hhigh'.mpr hle)⟩
  -- only points inside are chosen
  suffices hchosen : inside d = true from hinside hchosen
  split at h
  · exact Option.some.inj h ▸ ‹inside below = true›
  · exact Option.some.inj h ▸ ‹inside above = true›
  · cases h
  · split at h
    · exact Option.some.inj h ▸ ‹inside below = true›
    · exact Option.some.inj h ▸ ‹inside above = true›
    · split at h
      · exact Option.some.inj h ▸ ‹inside above = true›
      · split at h
        · exact Option.some.inj h ▸ ‹inside below = true›
        · exact Option.some.inj h ▸ ‹inside above = true›

/-- All digits of a float are the float. -/
theorem magnitude_exactly (negative : Bool) (m : Nat) (q : Int) :
    (exactly negative m q).magnitude = m * 2 ^ q := by
  unfold exactly
  split
  · rename_i hq
    obtain ⟨k, rfl⟩ := Int.eq_ofNat_of_zero_le hq
    simp [magnitude]
  · obtain ⟨k, rfl⟩ : ∃ k : Nat, q = -k := ⟨(-q).toNat, by omega⟩
    have hten : (10 : ℚ) ^ (-k : Int) = 2 ^ (-k : Int) * 5 ^ (-k : Int) := by
      rw [← mul_zpow]
      norm_num
    have hfive : (5 : ℚ) ^ k * 5 ^ (-k : Int) = 1 := by
      rw [← zpow_natCast, ← zpow_add₀ (by norm_num), add_neg_cancel, zpow_zero]
    show ((m * 5 ^ (- -(k : Int)).toNat : Nat) : ℚ) * 10 ^ (-k : Int) = _
    rw [neg_neg, Int.toNat_natCast, hten]
    push_cast
    calc (m * 5 ^ k * (2 ^ (-k : Int) * 5 ^ (-k : Int)) : ℚ)
        = m * 2 ^ (-k : Int) * (5 ^ k * 5 ^ (-k : Int)) := by ring
      _ = m * 2 ^ (-k : Int) := by rw [hfive, mul_one]

/-- **The shortest decimal lies in the interval of its float.** -/
theorem roundsTo_shortest (hm : 0 < m) (tie : Tie) (negative : Bool) (q : Int) :
    RoundsTo m q (shortest tie negative m q).magnitude := by
  unfold shortest
  rw [if_neg hm.ne']
  extract_lets order found
  cases hfound : found with
  | some dg =>
    obtain ⟨d, g⟩ := dg
    obtain ⟨n, -, hn⟩ := List.exists_of_findSome?_eq_some hfound
    obtain ⟨d', hd', heq⟩ := Option.map_eq_some_iff.mp hn
    cases heq
    exact roundsTo_of_onGrid? hd'
  | none =>
    show RoundsTo m q (exactly negative m q).magnitude
    rw [magnitude_exactly]
    exact roundsTo_self hm q

theorem negative_shortest (tie : Tie) (negative : Bool) (m : Nat) (q : Int) :
    (shortest tie negative m q).negative = negative := by
  unfold shortest
  split
  · rfl
  · extract_lets order found
    cases found with
    | some dg => rfl
    | none =>
      show (exactly negative m q).negative = negative
      unfold exactly
      split <;> rfl

end Decimal

end CatchmentPlanning
