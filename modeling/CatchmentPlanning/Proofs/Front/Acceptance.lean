import CatchmentPlanning.Proofs.Front.Membership
import CatchmentPlanning.Proofs.Front.Violations
import CatchmentPlanning.Proofs.Keyed
import Mathlib.Data.List.Nodup
import Mathlib.Data.Set.List

/-!
# Which sheets are fronts

A sheet is accepted as a front if its header names the columns in order and its records are as
they should be (`Acceptable`). That this is so exactly if nothing is wrong with the sheet is a
matter of going through the violations (`exists_acceptable_iff`), since every violation is reported
(`mem_reported_iff`).

The rows of the front are the records, one by one. As no label occurs twice, what is looked up
under a label is the one row that bears it (`acceptance_exact`).
-/

namespace CatchmentPlanning

namespace Front

/-- **A sheet that can be accepted as a front**, with the cells of its records. -/
structure Acceptable (p : Plan) (sheet : Sheet) (rs : List Cells) : Prop where
  header : sheet.header = "Solution" :: (p.catchment.variableNames ++ ["Actions", "Summary"])
  /-- Every record has as many cells as the header. -/
  width : ∀ cells ∈ sheet.rows, cells.length = sheet.header.length
  rows : sheet.rows = rs.map Cells.toList
  labelled : ∀ r ∈ rs, r.label ≠ ""
  distinct : (rs.map (·.label)).Nodup
  free : ∀ r ∈ rs, r.label ≠ scratchpadLabel
  numbers : ∀ r ∈ rs, ∀ cell ∈ r.values, ∃ x, Decimal.readFloat? cell = some x
  tokens : ∀ r ∈ rs, ∃ flags, Token.decode p.catchment.actions.length r.token = .ok flags
  /-- Some record is labelled As-Is, and has the values of the scenario. -/
  asIs : ∃ r ∈ rs, r.label = asIsLabel ∧
    List.Forall₂ (fun cell y => ∃ x, Decimal.readFloat? cell = some x ∧ sameValue x y = true)
      r.values p.values

/-- **A row that is made of the cells of a record.** -/
structure Row.IsOf (row : Row) (r : Cells) : Prop where
  label : row.label = r.label
  values : List.Forall₂ (fun cell x => Decimal.readFloat? cell = some x) r.values row.values
  token : row.token = r.token
  summary : row.summary = r.summary

variable {text : String} {p : Plan} {f : Front} {sheet : Sheet} {rs : List Cells} {r : Cells}

/-! ## Sheets with nothing wrong -/

/-- A sheet is accepted if it has the right header and nothing is wrong with its records. -/
theorem exists_ingest_eq_ok_iff : (∃ f, ingest text p = .ok f) ↔
    (Sheet.read text).header = columns p.catchment
      ∧ ∀ v, ¬Violates p (Sheet.read text).rows v := by
  by_cases hheader : (Sheet.read text).header = columns p.catchment
  · simp only [← mem_reported_iff, ← List.eq_nil_iff_forall_not_mem, and_iff_right hheader]
    rw [ingest_eq hheader]
    cases reported p (Sheet.read text).rows with
    | nil => exact iff_of_true ⟨_, rfl⟩ rfl
    | cons v vs => exact iff_of_false nofun (List.cons_ne_nil _ _)
  · refine iff_of_false (fun ⟨f, hf⟩ => hheader ?_) fun h => hheader h.1
    exact headerViolations_eq_nil_iff.mp (ingest_eq_ok_iff.mp hf).1

theorem Cells.toList_injective : Function.Injective Cells.toList := by
  rintro ⟨label, values, token, summary⟩ ⟨label', values', token', summary'⟩ h
  obtain ⟨rfl, h⟩ := List.cons.inj h
  obtain ⟨rfl, h⟩ := List.append_inj' h rfl
  simp only [List.cons.injEq, and_true] at h
  obtain ⟨rfl, rfl⟩ := h
  rfl

/-- The records of a sheet are those that its cells are those of. -/
theorem hasRow_iff (hrows : sheet.rows = rs.map Cells.toList)
    (hwidth : ∀ cells ∈ sheet.rows, cells.length = (columns p.catchment).length) {i : Nat} :
    HasRow p sheet.rows i r ↔ rs[i]? = some r := by
  have hcells : sheet.rows[i]? = some r.toList ↔ rs[i]? = some r := by
    rw [hrows, List.getElem?_map, Option.map_eq_some_iff]
    constructor
    · rintro ⟨r', hr', hsame⟩
      rwa [← Cells.toList_injective hsame]
    · exact fun h => ⟨r, h, rfl⟩
  rw [HasRow, hcells]
  refine and_iff_left_of_imp fun h => ?_
  have hlength := hwidth _ (List.mem_of_getElem? (hcells.mpr h))
  rw [r.length_toList, length_columns] at hlength
  exact Nat.add_right_cancel hlength

namespace Acceptable

variable (h : Acceptable p sheet rs)

include h in
theorem hasRow_iff {i : Nat} : HasRow p sheet.rows i r ↔ rs[i]? = some r :=
  Front.hasRow_iff h.rows fun cells hcells => (h.width cells hcells).trans
    (congrArg List.length h.header)

include h in
/-- Nothing is wrong with a sheet that can be accepted. -/
theorem not_violates (v : RowViolation) : ¬Violates p sheet.rows v := by
  have hmem {i : Nat} {r : Cells} (hr : HasRow p sheet.rows i r) : r ∈ rs :=
    List.mem_of_getElem? (h.hasRow_iff.mp hr)
  intro hv
  cases hv with
  | width hcells hwidth =>
    refine hwidth ((h.width _ (List.mem_of_getElem? hcells)).trans ?_)
    exact congrArg List.length h.header
  | emptyLabel hr hlabel => exact h.labelled _ (hmem hr) hlabel
  | reservedLabel hr hlabel => exact h.free _ (hmem hr) hlabel
  | repeatedLabel hr hr' hlt hsame =>
    have hi := h.hasRow_iff.mp hr
    have hj := h.hasRow_iff.mp hr'
    refine List.nodup_iff_getElem?_ne_getElem?.mp h.distinct _ _ hlt ?_ ?_
    · rw [List.length_map]
      exact (List.getElem?_eq_some_iff.mp hi).1
    · rw [List.getElem?_map, List.getElem?_map, hi, hj, Option.map_some, Option.map_some, hsame]
  | notANumber hr _ hcell hread =>
    obtain ⟨x, hx⟩ := h.numbers _ (hmem hr) _ (List.mem_of_getElem? hcell)
    rw [hread] at hx
    cases hx
  | notAToken hr hshape =>
    have hnil := (@tokenViolations_eq_nil_iff 0 _ _).mpr (h.tokens _ (hmem hr))
    rw [List.eq_nil_iff_forall_not_mem] at hnil
    exact hnil _ (mem_tokenViolations_iff.mpr (.inl ⟨hshape, rfl⟩))
  | badToken hr _ _ hdecode =>
    obtain ⟨flags, hflags⟩ := h.tokens _ (hmem hr)
    rw [hdecode] at hflags
    cases hflags
  | otherValue hr hlabel _ _ hcell hread hexpected hother =>
    obtain ⟨r, hr', hlabel', hvalues⟩ := h.asIs
    obtain rfl := List.inj_on_of_nodup_map h.distinct (hmem hr) hr' (hlabel.trans hlabel'.symm)
    have hzip := List.mem_of_getElem? (List.getElem?_zip_eq_some (z := (_, _)).mpr
      ⟨hcell, hexpected⟩)
    obtain ⟨x, hx, hsame⟩ := (List.forall₂_iff_zip.mp hvalues).2 hzip
    obtain rfl := Option.some.inj (hread.symm.trans hx)
    rw [hother] at hsame
    cases hsame
  | noAsIs hnone =>
    obtain ⟨r, hr, hlabel, -⟩ := h.asIs
    obtain ⟨i, hi⟩ := List.mem_iff_getElem?.mp hr
    exact hnone i r (h.hasRow_iff.mpr hi) hlabel

end Acceptable

/-! ## Records with nothing wrong -/

section NothingWrong

variable {records : List (List String)} {i j : Nat} {r r' : Cells} {cell : String}

/-- Over every cell for a variable stands the name of the variable. -/
theorem exists_name (h : HasRow p records i r) (hcell : r.values[j]? = some cell) :
    ∃ name, p.catchment.variableNames[j]? = some name := by
  have hj : j < p.catchment.variableNames.length :=
    h.2 ▸ (List.getElem?_eq_some_iff.mp hcell).1
  exact ⟨_, List.getElem?_eq_getElem hj⟩

variable (hnothing : ∀ v, ¬Violates p records v)

include hnothing

theorem length_of_not_violates {cells : List String} (hcells : cells ∈ records) :
    cells.length = (columns p.catchment).length := by
  obtain ⟨i, hi⟩ := List.mem_iff_getElem?.mp hcells
  by_contra hne
  exact hnothing _ (.width hi hne)

theorem HasRow.label_ne_empty (h : HasRow p records i r) : r.label ≠ "" :=
  fun hlabel => hnothing _ (.emptyLabel h hlabel)

theorem HasRow.label_ne_scratchpad (h : HasRow p records i r) : r.label ≠ scratchpadLabel :=
  fun hlabel => hnothing _ (.reservedLabel h hlabel)

theorem HasRow.label_ne_of_lt (h : HasRow p records i r) (h' : HasRow p records j r')
    (hlt : j < i) : r'.label ≠ r.label := fun hsame =>
  hnothing _ (.repeatedLabel h h' hlt hsame (h.label_ne_empty hnothing)
    (h.label_ne_scratchpad hnothing))

theorem HasRow.exists_number (h : HasRow p records i r) (hcell : cell ∈ r.values) :
    ∃ x, Decimal.readFloat? cell = some x := by
  obtain ⟨j, hj⟩ := List.mem_iff_getElem?.mp hcell
  obtain ⟨name, hname⟩ := exists_name h hj
  by_contra hnone
  refine hnothing _ (.notANumber h hname hj ?_)
  exact Option.eq_none_iff_forall_ne_some.mpr fun x hx => hnone ⟨x, hx⟩

theorem HasRow.exists_flags (h : HasRow p records i r) :
    ∃ flags, Token.decode p.catchment.actions.length r.token = .ok flags := by
  rw [← @tokenViolations_eq_nil_iff (i + 1), List.eq_nil_iff_forall_not_mem]
  intro v hv
  obtain ⟨hshape, rfl⟩ | ⟨fault, hne, hshape, hdecode, rfl⟩ := mem_tokenViolations_iff.mp hv
  · exact hnothing _ (.notAToken h hshape)
  · exact hnothing _ (.badToken h hne hshape hdecode)

theorem exists_hasRow_asIs : ∃ i r, HasRow p records i r ∧ r.label = asIsLabel := by
  by_contra hnone
  exact hnothing _ (.noAsIs fun i r h hlabel => hnone ⟨i, r, h, hlabel⟩)

/-- The values of the As-Is row are those of the scenario. -/
theorem HasRow.sameValues (h : HasRow p records i r) (hlabel : r.label = asIsLabel) :
    List.Forall₂ (fun cell y => ∃ x, Decimal.readFloat? cell = some x ∧ sameValue x y = true)
      r.values p.values := by
  refine List.forall₂_iff_zip.mpr ⟨h.2.trans (length_values p).symm, fun {cell y} hzip => ?_⟩
  obtain ⟨j, hj⟩ := List.mem_iff_getElem?.mp hzip
  obtain ⟨hcell, hy⟩ := List.getElem?_zip_eq_some.mp hj
  obtain ⟨x, hx⟩ := h.exists_number hnothing (List.mem_of_getElem? hcell)
  obtain ⟨name, hname⟩ := exists_name h hcell
  refine ⟨x, hx, ?_⟩
  by_contra hother
  refine hnothing _ (.otherValue h hlabel (fun cell hcell => ?_) hname hcell hx hy
    (Bool.eq_false_iff.mpr hother))
  exact Option.isSome_iff_exists.mpr (h.exists_number hnothing hcell)

end NothingWrong

/-- **A sheet can be accepted if it has the right header and nothing is wrong with its records.** -/
theorem exists_acceptable_iff : (∃ rs, Acceptable p sheet rs) ↔
    sheet.header = columns p.catchment ∧ ∀ v, ¬Violates p sheet.rows v := by
  constructor
  · rintro ⟨rs, h⟩
    exact ⟨h.header, h.not_violates⟩
  · rintro ⟨hheader, hnothing⟩
    have hwidth (cells : List String) (hcells : cells ∈ sheet.rows) :=
      length_of_not_violates hnothing hcells
    obtain ⟨rs, hrows⟩ : ∃ rs : List Cells, rs.map Cells.toList = sheet.rows := by
      rw [← Set.mem_range, Set.range_list_map]
      intro cells hcells
      have hlength := hwidth cells hcells
      rw [length_columns] at hlength
      obtain ⟨r, rfl, -⟩ := length_eq_iff_exists_cells.mp hlength
      exact ⟨r, rfl⟩
    have hrow {i : Nat} {r : Cells} : HasRow p sheet.rows i r ↔ rs[i]? = some r :=
      hasRow_iff hrows.symm hwidth
    have hmem {r : Cells} (hr : r ∈ rs) : ∃ i, HasRow p sheet.rows i r := by
      obtain ⟨i, hi⟩ := List.mem_iff_getElem?.mp hr
      exact ⟨i, hrow.mpr hi⟩
    refine ⟨rs, {
      header := hheader
      width := hheader ▸ hwidth
      rows := hrows.symm
      labelled := fun r hr => (hmem hr).elim fun _ h => h.label_ne_empty hnothing
      distinct := ?_
      free := fun r hr => (hmem hr).elim fun _ h => h.label_ne_scratchpad hnothing
      numbers := fun r hr cell => (hmem hr).elim fun _ h => h.exists_number hnothing
      tokens := fun r hr => (hmem hr).elim fun _ h => h.exists_flags hnothing
      asIs := ?_ }⟩
    · refine List.nodup_iff_getElem?_ne_getElem?.mpr fun i j hlt hj hsame => ?_
      rw [List.length_map] at hj
      have hi := List.getElem?_eq_getElem (hlt.trans hj)
      have hj := List.getElem?_eq_getElem hj
      rw [List.getElem?_map, List.getElem?_map, hi, hj] at hsame
      exact (hrow.mpr hj).label_ne_of_lt hnothing (hrow.mpr hi) hlt (Option.some.inj hsame)
    · obtain ⟨i, r, h, hlabel⟩ := exists_hasRow_asIs hnothing
      exact ⟨r, List.mem_of_getElem? (hrow.mp h), hlabel, h.sameValues hnothing hlabel⟩

/-! ## The rows of a front -/

/-- What is made of a record with nothing wrong. -/
theorem isOf_rowOf {count : Nat} (hcount : r.values.length = count)
    (hnumbers : ∀ cell ∈ r.values, ∃ x, Decimal.readFloat? cell = some x) :
    (rowOf count r.toList).IsOf r := by
  rw [rowOf_toList hcount]
  refine ⟨rfl, ?_, rfl, rfl⟩
  show List.Forall₂ _ r.values (r.values.filterMap Decimal.readFloat?)
  generalize r.values = values at hnumbers
  induction values with
  | nil => exact .nil
  | cons cell values ih =>
    obtain ⟨x, hx⟩ := hnumbers cell List.mem_cons_self
    rw [List.filterMap_cons_some hx]
    exact .cons hx (ih fun cell hcell => hnumbers cell (List.mem_cons_of_mem _ hcell))

theorem Acceptable.isOf_rowOf (h : Acceptable p sheet rs) (hr : r ∈ rs) :
    (rowOf p.catchment.decisionVariables.length r.toList).IsOf r := by
  obtain ⟨i, hi⟩ := List.mem_iff_getElem?.mp hr
  refine Front.isOf_rowOf ?_ (h.numbers r hr)
  rw [(h.hasRow_iff.mpr hi).2, Catchment.variableNames, List.length_map]

/-- **The rows of an accepted front are made of the records of its sheet**, one by one. -/
theorem Acceptable.isOf_rows (h : Acceptable p (Sheet.read text) rs) (hf : ingest text p = .ok f) :
    List.Forall₂ Row.IsOf f.rows rs := by
  rw [rows_of_ingest hf, h.rows, List.map_map, List.forall₂_map_left_iff, List.forall₂_same]
  exact fun r hr => h.isOf_rowOf hr

/-- **Acceptance is exact.** A sheet is accepted as a front if and only if it can be, and then the
rows of the front are its records, one by one and in order. A label is found exactly if some row
bears it, and what is found is the one row that does. -/
theorem acceptance_exact (text : String) (p : Plan) :
    ((∃ f, ingest text p = .ok f) ↔ ∃ rs, Acceptable p (Sheet.read text) rs)
      ∧ ∀ f rs, ingest text p = .ok f → Acceptable p (Sheet.read text) rs →
        f.text = text ∧ List.Forall₂ Row.IsOf f.rows rs
          ∧ (f.rows.map (·.label)).Nodup
          ∧ (∀ label row, f.row? label = some row ↔ row ∈ f.rows ∧ row.label = label)
          ∧ ∀ label, f.contains label = true ↔ ∃ row ∈ f.rows, row.label = label := by
  refine ⟨exists_ingest_eq_ok_iff.trans exists_acceptable_iff.symm, fun f rs hf h => ?_⟩
  have hrows := h.isOf_rows hf
  have hlabels : f.rows.map (·.label) = rs.map (·.label) := by
    refine List.forall₂_eq_eq_eq ▸ ?_
    rw [List.forall₂_map_left_iff, List.forall₂_map_right_iff]
    exact hrows.imp fun row r hrow => hrow.label
  have hdistinct : (f.rows.map (·.label)).Nodup := hlabels ▸ h.distinct
  refine ⟨text_of_ingest hf, hrows, hdistinct, fun label row =>
    Keyed.find?_eq_some_iff hdistinct, fun label => ?_⟩
  simp only [contains, List.any_eq_true, decide_eq_true_eq]

/-- A sheet of two rows is accepted. The second row is found under its label, and nothing is found
under the label that no row bears. -/
theorem acceptance_exact_of_two_rows :
    ∃ (p : Plan) (f : Front) (rs : List Cells) (row : Row),
      ingest "Solution,C,Actions,Summary\nAs-Is,1,2,none\nFirst,3.5,3,some\n" p = .ok f
        ∧ Acceptable p (Sheet.read
            "Solution,C,Actions,Summary\nAs-Is,1,2,none\nFirst,3.5,3,some\n") rs
        ∧ f.row? "First" = some row ∧ row.token = "3" ∧ f.contains "Second" = false := by
  let p := Plan.idle ⟨"", [1], [⟨1, "A", []⟩], [⟨"C", "", 1⟩], []⟩
  let text := "Solution,C,Actions,Summary\nAs-Is,1,2,none\nFirst,3.5,3,some\n"
  obtain ⟨f, hf⟩ := Checks.isOk_iff.mp (show (ingest text p).isOk = true by decide +kernel)
  obtain ⟨rs, h⟩ := (acceptance_exact text p).1.mp ⟨f, hf⟩
  obtain ⟨-, hrows, -, hfound, hlabel⟩ := (acceptance_exact text p).2 f rs hf h
  obtain rfl : rs = [⟨"As-Is", ["1"], "2", "none"⟩, ⟨"First", ["3.5"], "3", "some"⟩] :=
    List.map_injective_iff.mpr Cells.toList_injective (h.rows.symm.trans (by decide +kernel))
  obtain ⟨row, _, hrow, hrest, hcons⟩ := List.forall₂_cons_right_iff.mp hrows
  obtain ⟨row', _, hrow', hnil, rfl⟩ := List.forall₂_cons_right_iff.mp hrest
  obtain rfl := List.forall₂_nil_right_iff.mp hnil
  refine ⟨p, f, _, row', hf, h, (hfound _ _).mpr ⟨?_, hrow'.label⟩, hrow'.token, ?_⟩
  · simp [hcons]
  · rw [Bool.eq_false_iff, ne_eq, hlabel, hcons]
    simp [hrow.label, hrow'.label]

end Front

end CatchmentPlanning
