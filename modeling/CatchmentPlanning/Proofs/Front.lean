import CatchmentPlanning.Front
import CatchmentPlanning.Proofs.Checks
import CatchmentPlanning.Proofs.Token.Exactness

/-!
# Accepted fronts

A sheet is taken over as a front exactly if nothing is wrong with its header and
its records and there is an As-Is row (`ingest_eq_ok_iff`). What has been checked of
a record then holds of the row made of it. Here this is used for the tokens: every
row of an accepted front names actions of the catchment (`decode_of_mem_rows`), and
the plan that takes these actions lies on the front (`onFront_encode`).
-/

namespace CatchmentPlanning

namespace Front

variable {text : String} {asIs : Plan} {f : Front}

/-! ## Headers without fault -/

/-- A column is what is expected or it is complained about. -/
theorem headerViolations_eq_nil_iff {expected header : List String} :
    headerViolations expected header = [] ↔ header = expected := by
  unfold headerViolations
  split
  · rename_i hlength
    rw [List.nil_append, List.filterMap_eq_nil_iff]
    constructor
    · intro h
      refine List.ext_getElem hlength fun i hi hi' => ?_
      have hzip : ((header[i], expected[i]), i) ∈ (header.zip expected).zipIdx := by
        rw [List.mem_zipIdx_iff_getElem?, List.getElem?_zip_eq_some]
        exact ⟨List.getElem?_eq_getElem hi, List.getElem?_eq_getElem hi'⟩
      have hcolumn := h _ hzip
      exact Decidable.byContradiction fun hne => by simp [hne] at hcolumn
    · rintro rfl ⟨⟨found, wanted⟩, i⟩ hmem
      rw [List.mem_zipIdx_iff_getElem?, List.getElem?_zip_eq_some] at hmem
      exact if_pos (Option.some.inj (hmem.1.symm.trans hmem.2))
  · rename_i hlength
    exact iff_of_false (List.cons_ne_nil _ _) fun h => hlength (congrArg List.length h)

/-! ## Records without fault -/

/-- A plan has a value for each variable. -/
theorem length_values (p : Plan) : p.values.length = p.catchment.variableNames.length := by
  rw [Plan.values, Catchment.variableNames, List.length_map, List.length_map]

/-- If nothing is wrong with the records, each of them has the right width, and
nothing is wrong with the row made of it. -/
theorem of_violationsFrom_eq_nil {p : Plan} {width number : Nat} {seen : List String}
    {records : List (List String)} (h : violationsFrom p width number seen records = []) :
    ∀ cells ∈ records, cells.length = width
      ∧ ∃ number seen, rowViolations p number seen cells = [] := by
  induction records generalizing number seen with
  | nil => exact fun cells hcells => absurd hcells List.not_mem_nil
  | cons record records ih =>
    rw [violationsFrom] at h
    split at h
    · rename_i hwidth
      obtain ⟨hrow, hrest⟩ := List.append_eq_nil_iff.mp h
      intro cells hcells
      obtain rfl | hcells := List.mem_cons.mp hcells
      · exact ⟨hwidth, number, seen, hrow⟩
      · exact ih hrest cells hcells
    · cases h

/-- Nothing is wrong with a cell for the actions exactly if it is a token. -/
theorem tokenViolations_eq_nil_iff {row actions : Nat} {cell : String} :
    tokenViolations row actions cell = [] ↔ ∃ flags, Token.decode actions cell = .ok flags := by
  unfold tokenViolations
  split
  · rename_i hshape
    refine iff_of_false (List.cons_ne_nil _ _) ?_
    rintro ⟨flags, hflags⟩
    obtain ⟨hchars, -, ws, hws, hlast, -⟩ := Token.decode_eq_ok_iff_words.mp hflags
    obtain rfl | hshape := hshape
    · -- the empty cell is one empty group
      cases hws
    · rw [Token.isShaped, List.all_eq_true.mpr hchars] at hshape
      cases hshape
  · cases hread : Token.decode actions cell with
    | ok flags => exact iff_of_true rfl ⟨flags, rfl⟩
    | error e => exact iff_of_false (List.cons_ne_nil _ _) nofun

/-! ## Fronts that are taken over -/

/-- **Which sheets are taken over as a front**, and as which one. -/
theorem ingest_eq_ok_iff :
    ingest text asIs = .ok f ↔
      headerViolations (columns asIs.catchment) (Sheet.read text).header = []
        ∧ violationsFrom asIs (Sheet.read text).header.length 1 [] (Sheet.read text).rows = []
        ∧ f.contains asIsLabel = true
        ∧ f = ⟨((Sheet.read text).rows.filter
              fun cells => cells.length = (Sheet.read text).header.length).map
            (rowOf asIs.catchment.decisionVariables.length), text⟩ := by
  unfold ingest
  simp only
  split
  · rename_i v vs hheader
    rw [hheader]
    exact iff_of_false nofun fun h => List.cons_ne_nil v vs h.1
  · rename_i hheader
    rw [hheader, and_iff_right rfl]
    split
    · rename_i v vs hrows
      refine iff_of_false nofun fun ⟨hnil, has, hf⟩ => ?_
      rw [hf, contains] at has
      rw [hnil, if_pos has] at hrows
      cases hrows
    · rename_i hrows
      obtain ⟨hnil, hmissing⟩ := List.append_eq_nil_iff.mp hrows
      rw [Except.ok.injEq, and_iff_right hnil]
      constructor
      · rintro rfl
        refine ⟨Decidable.byContradiction fun has => ?_, rfl⟩
        rw [contains] at has
        rw [if_neg has] at hmissing
        cases hmissing
      · exact fun h => h.2.symm

/-- A front shows the sheet that it was made of. -/
theorem text_of_ingest (h : ingest text asIs = .ok f) : f.text = text := by
  obtain ⟨-, -, -, rfl⟩ := ingest_eq_ok_iff.mp h
  rfl

/-- **Every row of an accepted front names actions of the catchment.** -/
theorem decode_of_mem_rows (h : ingest text asIs = .ok f) {row : Row} (hrow : row ∈ f.rows) :
    ∃ flags, Token.decode asIs.catchment.actions.length row.token = .ok flags := by
  obtain ⟨-, hnil, -, rfl⟩ := ingest_eq_ok_iff.mp h
  obtain ⟨cells, hcells, rfl⟩ := List.mem_map.mp hrow
  obtain ⟨-, number, seen, hviolations⟩ :=
    of_violationsFrom_eq_nil hnil cells (List.mem_filter.mp hcells).1
  have hcount : asIs.catchment.variableNames.length = asIs.catchment.decisionVariables.length :=
    List.length_map _
  simp only [rowViolations, List.append_eq_nil_iff, hcount] at hviolations
  exact tokenViolations_eq_nil_iff.mp hviolations.1.2

/-- The actions that a row names lie on the front. -/
theorem onFront_encode {row : Row} (hrow : row ∈ f.rows) {actions : Nat} {flags : List Bool}
    (hflags : Token.decode actions row.token = .ok flags) :
    f.onFront (Token.encode flags) = true := by
  rw [onFront, labelOf?, Option.isSome_map, List.find?_isSome]
  refine ⟨row, hrow, beq_iff_eq.mpr ?_⟩
  rw [Token.toUpper_encode]
  exact (Token.decode_eq_ok_iff.mp hflags).2

/-- A row that is found under a label is one of the rows, and has the label. -/
theorem of_row?_eq_some {label : String} {row : Row} (h : f.row? label = some row) :
    row ∈ f.rows ∧ row.label = label := by
  have hlabel := List.find?_some h
  exact ⟨List.mem_of_find?_eq_some h, of_decide_eq_true hlabel⟩

end Front

end CatchmentPlanning
