import CatchmentPlanning.Proofs.Decimal.Arithmetic
import CatchmentPlanning.Proofs.Exploration.OwnFront
import CatchmentPlanning.Proofs.Front.Acceptance

/-!
# Values that pass for the scenario's own

The values of the As-Is row of a front are compared with those that the scenario declares, in
floating point and to within a tolerance. Where the scenario's value is finite, a value that
passes is finite too and near it: in numbers the tolerance is kept but for the rounding of the
difference and of the scaled tolerance (`near_of_sameValue`).

Where the scenario's value is infinite, the scaled tolerance is infinite as well and allows every
difference that is a number. So every value passes but the same infinity, of which nothing is left
when it is subtracted from itself (`sameValue_iff_of_isInf`). What is not a number never passes.
-/

namespace CatchmentPlanning

namespace Front

open Float.Model
open FloatView

variable {found expected : Float}

/-! ## Finite values -/

theorem size_tolerance_le : size tolerance.toModel.unpack ≤ (1 + 1 / 2 ^ 53) / 10 ^ 9 := by
  have h : tolerance.toModel.unpack = .finite .positive 4835703278458517 (-82) (by decide) := rfl
  rw [h]
  norm_num [size]

theorem size_one : size (1.0 : Float).toModel.unpack = 1 := by
  have h : (1.0 : Float).toModel.unpack = .finite .positive (2 ^ 52) (-52) (by decide) := rfl
  rw [h]
  norm_num [size]

/-- What is allowed is the tolerance, scaled and rounded. -/
theorem allowed_spec (h : expected.isFinite = true) :
    (allowed expected).isFinite = true ∧ ∃ v ≤ (1 + 1 / 2 ^ 53) / 10 ^ 9 * max 1 |toRat expected|,
      0 ≤ v ∧ IsRounded (allowed expected).toModel.unpack v := by
  unfold allowed
  generalize hscale : (if expected.abs < 1.0 then 1.0 else expected.abs) = scale
  have hfinite : scale.isFinite = true ∧ size scale.toModel.unpack ≤ max 1 |toRat expected| := by
    subst hscale
    split
    · exact ⟨by decide +kernel, size_one.trans_le (le_max_left _ _)⟩
    · exact ⟨(isFinite_abs expected).trans h, (size_abs expected).trans_le (le_max_right _ _)⟩
  have hsmall : size tolerance.toModel.unpack * size scale.toModel.unpack ≤ 2 ^ 1023 := by
    have htolerance : size tolerance.toModel.unpack ≤ 1 / 2 :=
      size_tolerance_le.trans (by norm_num)
    calc size tolerance.toModel.unpack * size scale.toModel.unpack ≤ 1 / 2 * 2 ^ 1024 :=
          mul_le_mul htolerance (size_unpack_lt scale).le (size_nonneg _) (by norm_num)
      _ = 2 ^ 1023 := by
        rw [pow_succ (2 : ℚ) 1023]
        generalize (2 : ℚ) ^ 1023 = largest
        ring
  obtain ⟨hallowed, hrounded⟩ := isRounded_mul_of_le (by decide +kernel) hfinite.1 hsmall
  refine ⟨hallowed, _, ?_, mul_nonneg (size_nonneg _) (size_nonneg _), hrounded⟩
  exact mul_le_mul size_tolerance_le hfinite.2 (size_nonneg _) (by positivity)

/-- **A value that passes for a finite one** is finite and near it. -/
theorem near_of_sameValue (h : sameValue found expected = true)
    (hfinite : expected.isFinite = true) :
    found.isFinite = true
      ∧ |toRat found - toRat expected| ≤ (1 + 1 / 2 ^ 51) / 10 ^ 9 * max 1 |toRat expected| := by
  rw [sameValue_iff] at h
  obtain ⟨hallowed, v, hv, hpos, hrounded⟩ := allowed_spec hfinite
  have hnumber : (found - expected).abs.toModel.unpack ≠ .notANumber :=
    ne_notANumber_iff.mpr (le_iff.mp h).1
  have hnonneg : IsNonneg (found - expected).abs.toModel.unpack := by
    rw [unpack_abs] at hnumber ⊢
    exact isNonneg_abs fun hnan => hnumber (by rw [hnan]; rfl)
  obtain ⟨hdifference, hle⟩ := size_le_of_le hnonneg
    (isNonneg_allowed (ne_notANumber_iff.mpr (isNaN_of_isFinite hfinite))) hallowed h
  rw [isFinite_abs] at hdifference
  obtain ⟨hfound, hsub⟩ := isRounded_sub_of_isFinite hfinite hdifference
  refine ⟨hfound, ?_⟩
  have hsize : size (found - expected).abs.toModel.unpack
      = size (found - expected).toModel.unpack := by
    rw [size_abs, toRat, abs_value]
  rw [hsize] at hle
  obtain ⟨-, hlow⟩ := hsub.bounds (abs_nonneg _)
  obtain ⟨hhigh, -⟩ := hrounded.bounds hpos
  have hone : 1 ≤ max 1 |toRat expected| := le_max_left _ _
  have htiny : (2 : ℚ) ^ (-1075 : Int) ≤ 2 ^ (-100 : Int) :=
    zpow_le_zpow_right₀ (by norm_num) (by norm_num)
  generalize (2 : ℚ) ^ (-1075 : Int) = tiny at htiny hlow hhigh
  norm_num at htiny hv hhigh hlow ⊢
  linarith

/-! ## Infinite values -/

/-- **What passes for an infinite value** is every number but that value itself. -/
theorem sameValue_iff_of_isInf (h : expected.isInf = true) :
    sameValue found expected = true ↔ found.isNaN = false ∧ found ≠ expected := by
  have hallowed : allowed expected = Decimal.infinity false := by
    obtain rfl | rfl | rfl := eq_of_isFinite_eq_false (isFinite_eq_false_of_isInf h)
    · decide +kernel
    · decide +kernel
    · exact absurd h (by decide +kernel)
  rw [sameValue_iff, hallowed, le_infinity_iff, isNaN_abs, ← Bool.not_eq_true, isNaN_sub_iff h,
    not_or, Bool.not_eq_true]

/-! ## The As-Is row -/

/-- **As near as a posted value must be** to the scenario's own, or not to be compared with it. -/
def Consistent (found expected : Float) : Prop :=
  (found.isFinite = true ∧ expected.isFinite = true
    ∧ |toRat found - toRat expected| ≤ (1 + 1 / 2 ^ 51) / 10 ^ 9 * max 1 |toRat expected|)
  ∨ (expected.isInf = true ∧ found.isNaN = false ∧ found ≠ expected)

theorem consistent_of_sameValue (h : sameValue found expected = true) :
    Consistent found expected := by
  cases hfinite : expected.isFinite with
  | true => exact .inl ⟨(near_of_sameValue h hfinite).1, hfinite, (near_of_sameValue h hfinite).2⟩
  | false =>
    obtain rfl | rfl | rfl := eq_of_isFinite_eq_false hfinite
    · exact .inr ⟨by decide +kernel, (sameValue_iff_of_isInf (by decide +kernel)).mp h⟩
    · exact .inr ⟨by decide +kernel, (sameValue_iff_of_isInf (by decide +kernel)).mp h⟩
    · -- what is not a number allows nothing
      exact absurd (le_iff.mp (sameValue_iff.mp h)).2.1 (by decide +kernel)

theorem forall₂_sameValue {cells : List String} {found expected : List Float}
    (hfound : List.Forall₂ (fun cell x => Decimal.readFloat? cell = some x) cells found)
    (hsame : List.Forall₂ (fun cell y => ∃ x, Decimal.readFloat? cell = some x
      ∧ sameValue x y = true) cells expected) :
    List.Forall₂ (fun x y => sameValue x y = true) found expected := by
  induction hfound generalizing expected with
  | nil =>
    cases hsame
    exact .nil
  | cons hread _ ih =>
    cases hsame with
    | cons hcell hsame =>
      obtain ⟨x, hx, hsameValue⟩ := hcell
      obtain rfl := Option.some.inj (hread.symm.trans hx)
      exact .cons hsameValue (ih hsame)

end Front

namespace Exploration

/-- **The As-Is row of a front that is taken over** is there, and has the values that the scenario
declares: near them where these are finite. -/
theorem asIs_row_consistent {text sheet : String} {x : Exploration} {f : Front}
    (hload : load text = .ok x) (hfront : Front.ingest sheet x.asIs = .ok f) :
    (∃ row ∈ f.rows, row.label = asIsLabel)
      ∧ ∀ row ∈ f.rows, row.label = asIsLabel →
        List.Forall₂ Front.Consistent row.values
          (x.asIs.catchment.decisionVariables.map (·.base)) := by
  have haccepted := Front.exists_ingest_eq_ok_iff.mp ⟨f, hfront⟩
  obtain ⟨rs, h⟩ := Front.exists_acceptable_iff.mpr haccepted
  obtain ⟨-, -, hcontains, -⟩ := Front.ingest_eq_ok_iff.mp hfront
  refine ⟨by simpa [Front.contains] using hcontains, fun row hrow hlabel => ?_⟩
  obtain ⟨cells, hcells, rfl⟩ := List.mem_map.mp (Front.rows_of_ingest hfront ▸ hrow)
  obtain ⟨r, hr, rfl⟩ := List.mem_map.mp (h.rows ▸ hcells)
  obtain ⟨i, hi⟩ := List.mem_iff_getElem?.mp hr
  have hof := h.isOf_rowOf hr
  have hsame := (h.hasRow_iff.mpr hi).sameValues haccepted.2 (hof.label.symm.trans hlabel)
  rw [values_asIs_of_load hload] at hsame
  exact (Front.forall₂_sameValue hof.values hsame).imp fun _ _ => Front.consistent_of_sameValue

/-- The only variable has the value one, and the As-Is row is off by less than the tolerance. -/
theorem asIs_row_consistent_within_tolerance :
    ∃ (text sheet : String) (x : Exploration) (f : Front) (row : Front.Row),
      load text = .ok x ∧ Front.ingest sheet x.asIs = .ok f ∧ row ∈ f.rows
        ∧ row.label = asIsLabel ∧ row.values ≠ x.asIs.catchment.decisionVariables.map (·.base)
        ∧ List.Forall₂ Front.Consistent row.values
          (x.asIs.catchment.decisionVariables.map (·.base)) := by
  let text := "[Scenario]\nName = \"A\"\n[Model]\nType = \"CatchmentModel\"\n"
    ++ "[[Model.DecisionVariables]]\nName = \"C\"\nValue = 1.0\n"
  let sheet := "Solution,C,Actions,Summary\nAs-Is,1.0000000009,1,none\n"
  have hread : (load text).toOption.bind (fun x => (Front.ingest sheet x.asIs).toOption.map fun f =>
      (f.rows.map fun row => (row.label, row.values.map (· == 1.0)),
        (x.asIs.catchment.decisionVariables.map (·.base)).map (· == 1.0)))
      = some ([("As-Is", [false])], [true]) := by
    decide +kernel
  obtain ⟨x, hx, hread⟩ := Option.bind_eq_some_iff.mp hread
  obtain ⟨f, hf, hread⟩ := Option.map_eq_some_iff.mp hread
  have hload := Checks.toOption_eq_some_iff.mp hx
  have hfront := Checks.toOption_eq_some_iff.mp hf
  obtain ⟨hrows, hbases⟩ := Prod.mk.inj hread
  obtain ⟨row, hrow, hshape⟩ := List.mem_map.mp (hrows ▸ List.mem_singleton_self _)
  obtain ⟨hlabel, hvalues⟩ := Prod.mk.inj hshape
  refine ⟨text, sheet, x, f, row, hload, hfront, hrow, hlabel, fun heq => ?_,
    (asIs_row_consistent hload hfront).2 row hrow hlabel⟩
  rw [heq, hbases] at hvalues
  cases hvalues

/-- **An infinite value is not checked.** It is not so that the values of the As-Is row are always
those of the scenario or both are finite: a finite value passes for an infinite one. -/
theorem infinite_value_not_checked :
    ¬ ∀ (text sheet : String) (x : Exploration) (f : Front) (row : Front.Row),
      load text = .ok x → Front.ingest sheet x.asIs = .ok f → row ∈ f.rows →
      row.label = asIsLabel →
      List.Forall₂ (fun found expected =>
          (found == expected) = true ∨ found.isFinite = true ∧ expected.isFinite = true)
        row.values (x.asIs.catchment.decisionVariables.map (·.base)) := by
  intro hchecked
  let text := "[Scenario]\nName = \"A\"\n[Model]\nType = \"CatchmentModel\"\n"
    ++ "[[Model.DecisionVariables]]\nName = \"C\"\nValue = inf\n"
  let sheet := "Solution,C,Actions,Summary\nAs-Is,5,1,none\n"
  have hread : (load text).toOption.bind (fun x => (Front.ingest sheet x.asIs).toOption.map fun f =>
      f.rows.map fun row => (row.label, row.values.zip
        (x.asIs.catchment.decisionVariables.map (·.base)) |>.map fun (found, expected) =>
          (found == expected, found.isFinite, expected.isFinite)))
      = some [("As-Is", [(false, true, false)])] := by
    decide +kernel
  obtain ⟨x, hx, hread⟩ := Option.bind_eq_some_iff.mp hread
  obtain ⟨f, hf, hread⟩ := Option.map_eq_some_iff.mp hread
  obtain ⟨row, hrow, hshape⟩ := List.mem_map.mp (hread ▸ List.mem_singleton_self _)
  obtain ⟨hlabel, hvalues⟩ := Prod.mk.inj hshape
  have h := hchecked text sheet x f row (Checks.toOption_eq_some_iff.mp hx)
    (Checks.toOption_eq_some_iff.mp hf) hrow hlabel
  obtain ⟨⟨found, expected⟩, hmem, hcell⟩ :=
    List.mem_map.mp (hvalues ▸ List.mem_singleton_self _)
  obtain ⟨hdiffer, hrest⟩ := Prod.mk.inj hcell
  obtain ⟨-, hinfinite⟩ := Prod.mk.inj hrest
  obtain hequal | hfinite := (List.forall₂_iff_zip.mp h).2 hmem
  · exact Bool.false_ne_true (hdiffer.symm.trans hequal)
  · exact Bool.false_ne_true (hinfinite.symm.trans hfinite.2)

end Exploration

end CatchmentPlanning
