import CatchmentPlanning.Proofs.Decimal.Layout
import CatchmentPlanning.Proofs.Front
import CatchmentPlanning.Proofs.Sheet.Writing

/-!
# The sheet that a scenario makes itself

A scenario that is loaded determines the columns of its fronts and one row of them, the row of
the plan that takes no action. Written as a sheet of its own, this should be a front.

What is checked are the columns, which are compared with the names of the decision variables
once the blanks around them are gone, and the values, which are read from their texts and
compared with the plan's. Texts of floats are read exactly, and a float is the same as itself if
it is finite (`sameValue_self`). So the sheet is a front if and only if no name has blanks around
it and every value is finite (`ingest_own_iff`).
-/

namespace CatchmentPlanning

namespace Token

/-- Tokens have no blanks. -/
theorem trim_encode (flags : List Bool) : Text.trim (encode flags) = encode flags := by
  have hsmall : ∀ n < 128, isTokenChar (Char.ofNat n) = true →
      Text.isBlank (Char.ofNat n) = false := by decide
  have hchar {c : Char} (h : isTokenChar c = true) : Text.isBlank c = false := by
    have hlt : c.toNat < 128 := by
      simp only [isTokenChar, Bool.or_eq_true, beq_iff_eq] at h
      obtain hvalue | rfl := h
      · rw [hexValue?_eq] at hvalue
        grind
      · decide
    have hc := hsmall c.toNat hlt
    rw [Char.ofNat_toNat] at hc
    exact hc h
  rw [Text.trim, Text.trimmed_eq_self fun c hc => hchar (isTokenChar_of_mem_encode hc),
    String.ofList_toList]

end Token

namespace Front

/-! ## Values -/

open FloatView (IsNonneg)

/-- How far a posted value may be from the scenario's own. -/
def allowed (expected : Float) : Float :=
  tolerance * if expected.abs < 1.0 then 1.0 else expected.abs

theorem sameValue_iff {found expected : Float} :
    sameValue found expected = true ↔ (found - expected).abs ≤ allowed expected := by
  rw [sameValue, decide_eq_true_iff]
  rfl

theorem isNonneg_allowed {expected : Float} (h : expected.toModel.unpack ≠ .notANumber) :
    IsNonneg (allowed expected).toModel.unpack := by
  have htolerance : FloatView.isPositive tolerance.toModel.unpack = true := by decide +kernel
  have hone : FloatView.isPositive (1.0 : Float).toModel.unpack = true := by decide +kernel
  have hsize : IsNonneg (if expected.abs < 1.0 then 1.0 else expected.abs).toModel.unpack := by
    split
    · exact FloatView.isNonneg_of_isPositive hone
    · exact (FloatView.isNonneg_abs h).unpack_pack
  exact (hsize.mul htolerance).unpack_pack

/-- **A float is the scenario's own if it is the same, and finite.** -/
theorem sameValue_self (x : Float) : sameValue x x = x.isFinite := by
  cases h : x.isFinite with
  | true =>
    have hzero : (0.0 : Float).abs = .ofModel (.pack (.zero .positive)) := by decide +kernel
    have hnumber : x.toModel.unpack ≠ .notANumber := by
      intro hnan
      change x.toModel.unpack.isFinite = true at h
      rw [hnan] at h
      cases h
    rw [sameValue_iff, FloatView.sub_self h, hzero]
    exact decide_eq_true (isNonneg_allowed hnumber).zero_le
  | false => obtain rfl | rfl | rfl := FloatView.eq_of_isFinite_eq_false h <;> decide +kernel

/-- Values are their own if they are finite. -/
theorem asIsViolations_self_eq_nil_iff {names : List String} {values : List Float} (number : Nat)
    (hlength : values.length = names.length) :
    asIsViolations number names values values = [] ↔ ∀ x ∈ values, x.isFinite = true := by
  rw [asIsViolations, if_pos rfl, List.filterMap_eq_nil_iff]
  constructor
  · intro h x hx
    obtain ⟨i, hi, rfl⟩ := List.getElem_of_mem hx
    have hname : i < names.length := hlength ▸ hi
    have hmem : (names[i], (values[i], values[i])) ∈ names.zip (values.zip values) := by
      refine List.mem_iff_getElem?.mpr ⟨i, ?_⟩
      rw [List.getElem?_zip_eq_some, List.getElem?_zip_eq_some]
      exact ⟨List.getElem?_eq_getElem hname, List.getElem?_eq_getElem hi,
        List.getElem?_eq_getElem hi⟩
    have hsame := h _ hmem
    by_contra hfinite
    rw [← sameValue_self] at hfinite
    simp [hfinite] at hsame
  · rintro h ⟨name, found, expected⟩ hmem
    obtain ⟨i, hi⟩ := List.mem_iff_getElem?.mp (List.of_mem_zip hmem).2
    obtain ⟨hfound, hexpected⟩ := List.getElem?_zip_eq_some.mp hi
    obtain rfl : found = expected := Option.some.inj (hfound.symm.trans hexpected)
    exact if_pos ((sameValue_self found).trans (h found (List.mem_of_getElem? hfound)))

/-! ## The row -/

variable {p : Plan} {layout : Decimal.Layout} {summary sheet : String}

/-- The cells of a plan in a front, under the label of the plan that takes no action. -/
def ownCells (layout : Decimal.Layout) (p : Plan) (summary : String) : List String :=
  asIsLabel :: (p.values.map (Decimal.cellText layout) ++ [p.token, summary])

/-- The row that these cells describe. -/
def ownRow (p : Plan) (summary : String) : Row := ⟨asIsLabel, p.values, p.token, summary⟩

/-- Of the cells only the summary may have blanks around it. -/
theorem map_trim_ownCells (layout : Decimal.Layout) (p : Plan) (summary : String) :
    (ownCells layout p summary).map Text.trim = ownCells layout p (Text.trim summary) := by
  have hvalue (x : Float) : Text.trim (Decimal.cellText layout x) = Decimal.cellText layout x := by
    rw [Text.trim, Text.trimmed_eq_self (Decimal.isBlank_eq_false_of_readFloat?
      (Decimal.readFloat?_cellText layout x)), String.ofList_toList]
  have hlabel : Text.trim asIsLabel = asIsLabel := by decide
  have hvalues : (p.values.map (Decimal.cellText layout)).map Text.trim
      = p.values.map (Decimal.cellText layout) := by
    rw [List.map_map]
    exact List.map_congr_left fun x _ => hvalue x
  have htoken : Text.trim p.token = p.token := Token.trim_encode p.flags
  simp only [ownCells, List.map_cons, List.map_append, List.map_nil, hlabel, hvalues, htoken]

theorem rowOf_ownCells (layout : Decimal.Layout) (p : Plan) (summary : String) :
    rowOf p.catchment.variableNames.length (ownCells layout p summary) = ownRow p summary := by
  have hcount : (p.values.map (Decimal.cellText layout)).length
      = p.catchment.variableNames.length := by
    rw [List.length_map, length_values]
  have hread : (p.values.map (Decimal.cellText layout)).filterMap Decimal.readFloat?
      = p.values := by
    rw [List.filterMap_map]
    exact (List.filterMap_congr fun x _ => Decimal.readFloat?_cellText layout x).trans
      List.filterMap_some
  rw [rowOf, ownRow, ← hcount]
  simp [ownCells, hread]

/-- **Only the values of the row may be wrong**, where they are not finite. -/
theorem rowViolations_ownCells_eq_nil_iff (number : Nat) :
    rowViolations p number [] (ownCells layout p summary) = [] ↔
      ∀ x ∈ p.values, x.isFinite = true := by
  have hlabel : labelViolations number [] asIsLabel = [] := by
    unfold labelViolations
    rw [if_neg (by decide), if_neg (by decide), if_neg List.not_mem_nil]
  have hcells : valueViolations number p.catchment.variableNames
      ((ownCells layout p summary).drop 1) = [] := by
    rw [valueViolations, List.filterMap_eq_nil_iff]
    rintro ⟨name, cell⟩ hmem
    -- there are as many names as values, so no name stands over the token or the summary
    have hzip : p.catchment.variableNames.zip ((ownCells layout p summary).drop 1)
        = p.catchment.variableNames.zip (p.values.map (Decimal.cellText layout)) := by
      have happend := @List.zip_append _ _ p.catchment.variableNames []
        (p.values.map (Decimal.cellText layout)) [p.token, summary]
        (by rw [List.length_map, length_values])
      rw [List.append_nil, List.zip_nil_left, List.append_nil] at happend
      exact happend
    rw [hzip] at hmem
    obtain ⟨x, -, rfl⟩ := List.mem_map.mp (List.of_mem_zip hmem).2
    simp only [Decimal.readFloat?_cellText]
  have htoken : tokenViolations number p.catchment.actions.length p.token = [] :=
    tokenViolations_eq_nil_iff.mpr ⟨p.flags, p.length_flags ▸ Token.decode_encode p.flags⟩
  rw [rowViolations, rowOf_ownCells]
  simp only [ownRow, hlabel, hcells, htoken, List.nil_append, if_true]
  exact asIsViolations_self_eq_nil_iff number (length_values p)

theorem columns_eq (c : Catchment) :
    columns c = "Solution" :: (c.variableNames ++ ["Actions", "Summary"]) := rfl

/-- The columns are read as they are if none of the names has blanks around it. -/
theorem map_trim_columns_iff (c : Catchment) :
    (columns c).map Text.trim = columns c ↔
      ∀ name ∈ c.variableNames, Text.trim name = name := by
  have hfirst : Text.trim "Solution" = "Solution" := by decide
  have hlast : ["Actions", "Summary"].map Text.trim = ["Actions", "Summary"] := by decide
  rw [columns_eq, List.map_cons, List.map_append, hfirst, hlast, List.cons.injEq,
    and_iff_right rfl, List.append_left_inj]
  simpa using @List.map_inj_left _ _ c.variableNames Text.trim id

theorem length_ownCells (layout : Decimal.Layout) (p : Plan) (summary : String) :
    (ownCells layout p summary).length = (columns p.catchment).length := by
  rw [columns_eq, ownCells, List.length_cons, List.length_append, List.length_map, length_values]
  simp

/-- **Which scenarios make a front of themselves.** -/
theorem ingest_own_iff
    (hsheet : Sheet.Written [columns p.catchment, ownCells layout p summary] sheet.toList)
    (f : Front) :
    ingest sheet p = .ok f ↔
      ((∀ name ∈ p.catchment.variableNames, Text.trim name = name)
        ∧ ∀ x ∈ p.values, x.isFinite = true)
      ∧ f = ⟨[ownRow p (Text.trim summary)], sheet⟩ := by
  obtain ⟨hheader, hrows⟩ := Sheet.read_of_written hsheet (by decide)
  change _ = (columns p.catchment).map Text.trim at hheader
  have hlength : (Sheet.read sheet).header.length = (columns p.catchment).length := by
    rw [hheader, List.length_map]
  have hcount : p.catchment.decisionVariables.length = p.catchment.variableNames.length :=
    (List.length_map _).symm
  have hwidth : (ownCells layout p (Text.trim summary)).length
      = (Sheet.read sheet).header.length := by rw [length_ownCells, hlength]
  rw [ingest_eq_ok_iff, headerViolations_eq_nil_iff, hrows, List.map_singleton,
    map_trim_ownCells, List.filter_singleton, decide_eq_true hwidth, cond_true, List.map_singleton,
    hcount, rowOf_ownCells, violationsFrom, if_pos hwidth, violationsFrom, List.append_nil,
    rowViolations_ownCells_eq_nil_iff, hheader, map_trim_columns_iff, and_assoc]
  refine and_congr_right fun _ => and_congr_right fun _ => and_iff_right_of_imp ?_
  rintro rfl
  rfl

end Front

end CatchmentPlanning
