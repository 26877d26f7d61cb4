import CatchmentPlanning.Proofs.Front
import Mathlib.Data.List.Forall2

/-!
# What is wrong with the rows of a sheet

Under the right header, what is wrong with a sheet can be said record by record and cell by cell,
with no regard to the order in which it is looked at (`Violates`). This is what is reported, no
more and no less (`mem_reported_iff`).

The cells of a record of the right width are checked independently of each other, with one
exception: the values of the As-Is row are compared with the scenario's only if each of them is a
number. The cells of a record of the wrong width cannot be told apart. It is reported as such, and
its label does not count as seen.
-/

namespace CatchmentPlanning

namespace Front

/-! ## Records of the right width -/

/-- **The cells of a record of the right width.** -/
structure Cells where
  label : String
  /-- The cells for the decision variables, in order. -/
  values : List String
  token : String
  summary : String

/-- The cells as they stand in the record. -/
def Cells.toList (r : Cells) : List String := r.label :: (r.values ++ [r.token, r.summary])

variable {text : String} {p : Plan} {records : List (List String)} {cells : List String} {r : Cells}
  {row count i : Nat} {v : RowViolation}

theorem length_columns (c : Catchment) : (columns c).length = c.variableNames.length + 3 := by
  simp [columns]

@[simp] theorem Cells.length_toList (r : Cells) : r.toList.length = r.values.length + 3 := by
  simp [Cells.toList]

/-- A record of the right width has cells of each kind. -/
theorem length_eq_iff_exists_cells :
    cells.length = count + 3 ↔ ∃ r : Cells, cells = r.toList ∧ r.values.length = count := by
  constructor
  · intro h
    obtain ⟨label, rest, rfl⟩ := List.exists_cons_of_length_eq_add_one h
    have hrest : rest.length = count + 2 := Nat.succ.inj h
    obtain ⟨token, summary, hlast⟩ := List.length_eq_two.mp
      (show (rest.drop count).length = 2 by rw [List.length_drop]; omega)
    refine ⟨⟨label, rest.take count, token, summary⟩, ?_, ?_⟩
    · rw [Cells.toList, ← hlast, List.take_append_drop]
    · rw [List.length_take]
      omega
  · rintro ⟨r, rfl, rfl⟩
    exact r.length_toList

theorem drop_toList (r : Cells) : r.toList.drop 1 = r.values ++ [r.token, r.summary] := rfl

theorem rowOf_toList (hcount : r.values.length = count) : rowOf count r.toList
    = ⟨r.label, r.values.filterMap Decimal.readFloat?, r.token, r.summary⟩ := by
  subst hcount
  simp [rowOf, Cells.toList]

/-- **A record of the right width in a row**; rows are counted from zero here. -/
def HasRow (p : Plan) (records : List (List String)) (i : Nat) (r : Cells) : Prop :=
  records[i]? = some r.toList ∧ r.values.length = p.catchment.variableNames.length

theorem HasRow.length_eq (h : HasRow p records i r) :
    r.toList.length = (columns p.catchment).length := by
  rw [r.length_toList, h.2, length_columns]

/-- A record of as many cells as there are columns is of the right width. -/
theorem exists_hasRow (hcells : records[i]? = some cells)
    (hwidth : cells.length = (columns p.catchment).length) :
    ∃ r : Cells, cells = r.toList ∧ HasRow p records i r := by
  rw [length_columns] at hwidth
  obtain ⟨r, rfl, hcount⟩ := length_eq_iff_exists_cells.mp hwidth
  exact ⟨r, rfl, hcells, hcount⟩

/-! ## Violations -/

/-- **What is wrong with the records of a sheet**, cell by cell. -/
inductive Violates (p : Plan) (records : List (List String)) : RowViolation → Prop
  | width {i : Nat} {cells : List String} :
      records[i]? = some cells → cells.length ≠ (columns p.catchment).length →
      Violates p records (.width (i + 1) (columns p.catchment).length cells.length)
  | emptyLabel {i : Nat} {r : Cells} : HasRow p records i r → r.label = "" →
      Violates p records (.emptyLabel (i + 1))
  | reservedLabel {i : Nat} {r : Cells} : HasRow p records i r → r.label = scratchpadLabel →
      Violates p records (.reservedLabel (i + 1))
  | repeatedLabel {i j : Nat} {r r' : Cells} : HasRow p records i r → HasRow p records j r' →
      j < i → r'.label = r.label → r.label ≠ "" → r.label ≠ scratchpadLabel →
      Violates p records (.repeatedLabel (i + 1) r.label)
  | notANumber {i j : Nat} {r : Cells} {name cell : String} : HasRow p records i r →
      p.catchment.variableNames[j]? = some name → r.values[j]? = some cell →
      Decimal.readFloat? cell = none →
      Violates p records (.notANumber (i + 1) name cell)
  | notAToken {i : Nat} {r : Cells} : HasRow p records i r →
      (r.token = "" ∨ Token.isShaped r.token = false) →
      Violates p records (.notAToken (i + 1) r.token)
  | badToken {i : Nat} {r : Cells} {fault : Token.Fault} : HasRow p records i r →
      r.token ≠ "" → Token.isShaped r.token = true →
      Token.decode p.catchment.actions.length r.token = .error fault →
      Violates p records (.badToken (i + 1) r.token fault)
  | otherValue {i j : Nat} {r : Cells} {name cell : String} {found expected : Float} :
      HasRow p records i r → r.label = asIsLabel →
      -- the row is compared only as a whole
      (∀ cell ∈ r.values, (Decimal.readFloat? cell).isSome = true) →
      p.catchment.variableNames[j]? = some name → r.values[j]? = some cell →
      Decimal.readFloat? cell = some found → p.values[j]? = some expected →
      sameValue found expected = false →
      Violates p records (.otherValue (i + 1) name found expected)
  | noAsIs : (∀ i r, HasRow p records i r → r.label ≠ asIsLabel) → Violates p records .noAsIs

/-- Everything that is found wrong with the records of a sheet whose header is right. -/
def reported (p : Plan) (records : List (List String)) : List RowViolation :=
  violationsFrom p (columns p.catchment).length 1 [] records
    ++ if ((records.filter (·.length = (columns p.catchment).length)).map
        (rowOf p.catchment.decisionVariables.length)).any (·.label = asIsLabel)
      then [] else [.noAsIs]

/-- **A sheet with the right header is taken over exactly if nothing else is wrong with it**, and
everything that is wrong is reported otherwise. -/
theorem ingest_eq (hheader : (Sheet.read text).header = columns p.catchment) :
    ingest text p = match reported p (Sheet.read text).rows with
      | v :: vs => .error (.rows (v :: vs))
      | [] => .ok ⟨((Sheet.read text).rows.filter
          (·.length = (columns p.catchment).length)).map
            (rowOf p.catchment.decisionVariables.length), text⟩ := by
  have hviolations : headerViolations (columns p.catchment) (columns p.catchment) = [] :=
    headerViolations_eq_nil_iff.mpr rfl
  unfold ingest
  cases hreported : reported p (Sheet.read text).rows with
  | nil =>
    unfold reported at hreported
    simp only [hheader, hviolations, hreported]
  | cons v vs =>
    unfold reported at hreported
    simp only [hheader, hviolations, hreported]

/-! ## One record -/

theorem mem_labelViolations_iff {seen : List String} {label : String} :
    v ∈ labelViolations row seen label ↔
      (label = "" ∧ v = .emptyLabel row) ∨ (label = scratchpadLabel ∧ v = .reservedLabel row)
        ∨ (label ≠ "" ∧ label ≠ scratchpadLabel ∧ label ∈ seen
          ∧ v = .repeatedLabel row label) := by
  have hempty : scratchpadLabel ≠ "" := by decide
  unfold labelViolations
  split
  · rename_i h
    simp [h, hempty.symm]
  · rename_i h
    split
    · rename_i h'
      simp [h', hempty]
    · rename_i h'
      split
      · rename_i hseen
        simp [h, h', hseen]
      · rename_i hseen
        simp [h, h', hseen]

theorem mem_valueViolations_iff {names : List String} :
    v ∈ valueViolations row names cells ↔
      ∃ (j : Nat) (name cell : String), names[j]? = some name ∧ cells[j]? = some cell
        ∧ Decimal.readFloat? cell = none ∧ v = .notANumber row name cell := by
  unfold valueViolations
  rw [List.mem_filterMap]
  constructor
  · rintro ⟨⟨name, cell⟩, hmem, hv⟩
    obtain ⟨j, hj⟩ := List.mem_iff_getElem?.mp hmem
    obtain ⟨hname, hcell⟩ := List.getElem?_zip_eq_some.mp hj
    cases hread : Decimal.readFloat? cell with
    | some x => simp [hread] at hv
    | none =>
      simp only [hread, Option.some.injEq] at hv
      exact ⟨j, name, cell, hname, hcell, hread, hv.symm⟩
  · rintro ⟨j, name, cell, hname, hcell, hread, rfl⟩
    refine ⟨(name, cell), List.mem_iff_getElem?.mpr ⟨j, ?_⟩, by simp only [hread]⟩
    exact List.getElem?_zip_eq_some.mpr ⟨hname, hcell⟩

theorem mem_tokenViolations_iff {actions : Nat} {cell : String} :
    v ∈ tokenViolations row actions cell ↔
      ((cell = "" ∨ Token.isShaped cell = false) ∧ v = .notAToken row cell)
        ∨ ∃ fault, cell ≠ "" ∧ Token.isShaped cell = true
          ∧ Token.decode actions cell = .error fault ∧ v = .badToken row cell fault := by
  unfold tokenViolations
  split
  · rename_i h
    rw [Bool.not_eq_true'] at h
    have hno (hne : cell ≠ "") (hshaped : Token.isShaped cell = true) : False := by
      obtain h | h := h
      · exact hne h
      · rw [hshaped] at h
        cases h
    rw [List.mem_singleton, and_iff_right h]
    refine (or_iff_left ?_).symm
    rintro ⟨fault, hne, hshaped, -⟩
    exact hno hne hshaped
  · rename_i h
    rw [not_or, Bool.not_eq_true', Bool.not_eq_false] at h
    obtain ⟨hne, hshaped⟩ := h
    cases hdecode : Token.decode actions cell with
    | ok flags => simp [hne, hshaped]
    | error fault => simp [hne, hshaped]

theorem mem_asIsViolations_iff {names : List String} {found expected : List Float} :
    v ∈ asIsViolations row names found expected ↔
      found.length = expected.length ∧ ∃ (j : Nat) (name : String) (x y : Float),
        names[j]? = some name
        ∧ found[j]? = some x ∧ expected[j]? = some y ∧ sameValue x y = false
        ∧ v = .otherValue row name x y := by
  unfold asIsViolations
  split
  · rename_i hlength
    rw [and_iff_right hlength, List.mem_filterMap]
    constructor
    · rintro ⟨⟨name, x, y⟩, hmem, hv⟩
      obtain ⟨j, hj⟩ := List.mem_iff_getElem?.mp hmem
      obtain ⟨hname, hvalues⟩ := List.getElem?_zip_eq_some.mp hj
      obtain ⟨hx, hy⟩ := List.getElem?_zip_eq_some.mp hvalues
      dsimp only at hv
      split at hv
      · cases hv
      · rename_i hsame
        exact ⟨j, name, x, y, hname, hx, hy, Bool.eq_false_iff.mpr hsame,
          (Option.some.inj hv).symm⟩
    · rintro ⟨j, name, x, y, hname, hx, hy, hsame, rfl⟩
      refine ⟨(name, x, y), List.mem_iff_getElem?.mpr ⟨j, ?_⟩, ?_⟩
      · rw [List.getElem?_zip_eq_some, List.getElem?_zip_eq_some]
        exact ⟨hname, hx, hy⟩
      · exact if_neg (Bool.eq_false_iff.mp hsame)
  · rename_i hlength
    exact iff_of_false List.not_mem_nil fun h => hlength h.1

/-- Where nothing is left out, what is made of an item stands in its place. -/
theorem getElem?_filterMap_of_isSome {α β : Type} {f : α → Option β} {l : List α}
    (h : ∀ a ∈ l, (f a).isSome = true) (j : Nat) : (l.filterMap f)[j]? = l[j]?.bind f := by
  induction l generalizing j with
  | nil => rfl
  | cons a l ih =>
    obtain ⟨b, hb⟩ := Option.isSome_iff_exists.mp (h a List.mem_cons_self)
    rw [List.filterMap_cons_some hb]
    cases j with
    | zero => simp [hb]
    | succ j => simpa using ih (fun a ha => h a (List.mem_cons_of_mem _ ha)) j

/-- **What is wrong with a record of the right width**, by its cells. -/
theorem mem_rowViolations_iff {seen : List String}
    (hcount : r.values.length = p.catchment.variableNames.length) :
    v ∈ rowViolations p row seen r.toList ↔
      v ∈ labelViolations row seen r.label
        ∨ (∃ (j : Nat) (name cell : String), p.catchment.variableNames[j]? = some name
          ∧ r.values[j]? = some cell ∧ Decimal.readFloat? cell = none
          ∧ v = .notANumber row name cell)
        ∨ v ∈ tokenViolations row p.catchment.actions.length r.token
        ∨ (r.label = asIsLabel ∧ (∀ cell ∈ r.values, (Decimal.readFloat? cell).isSome = true)
          ∧ ∃ (j : Nat) (name cell : String) (found expected : Float),
            p.catchment.variableNames[j]? = some name ∧ r.values[j]? = some cell
              ∧ Decimal.readFloat? cell = some found ∧ p.values[j]? = some expected
              ∧ sameValue found expected = false ∧ v = .otherValue row name found expected) := by
  unfold rowViolations
  simp only [rowOf_toList hcount, drop_toList, List.mem_append, or_assoc]
  refine or_congr_right (or_congr ?_ (or_congr_right ?_))
  · -- no name stands over the last two cells
    rw [mem_valueViolations_iff]
    refine exists_congr fun j => exists_congr fun name => exists_congr fun cell =>
      and_congr_right fun hname => ?_
    have hj : j < r.values.length := hcount ▸ (List.getElem?_eq_some_iff.mp hname).1
    rw [List.getElem?_append_left hj]
  · rw [List.mem_ite_nil_right, mem_asIsViolations_iff, length_values, ← hcount,
      List.filterMap_length_eq_length]
    refine and_congr_right fun _ => and_congr_right fun hnumbers => ?_
    simp only [getElem?_filterMap_of_isSome hnumbers, Option.bind_eq_some_iff]
    constructor
    · rintro ⟨j, name, found, expected, hname, ⟨cell, hcell, hread⟩, hrest⟩
      exact ⟨j, name, cell, found, expected, hname, hcell, hread, hrest⟩
    · rintro ⟨j, name, cell, found, expected, hname, hcell, hread, hrest⟩
      exact ⟨j, name, found, expected, hname, ⟨cell, hcell, hread⟩, hrest⟩

/-! ## All records -/

/-- The labels of the records of the right width, the last one first. -/
def labelsOf (width : Nat) (records : List (List String)) : List String :=
  ((records.filter (·.length = width)).map (·.headD "")).reverse

theorem labelsOf_cons (width : Nat) (cells : List String) (records : List (List String)) :
    labelsOf width (cells :: records) = labelsOf width records
      ++ if cells.length = width then [cells.headD ""] else [] := by
  unfold labelsOf
  split
  · rename_i hwidth
    simp [hwidth]
  · rename_i hwidth
    simp [hwidth]

theorem mem_labelsOf_take_iff {width : Nat} {label : String} :
    label ∈ labelsOf width (records.take i) ↔
      ∃ j < i, ∃ cells, records[j]? = some cells ∧ cells.length = width
        ∧ cells.headD "" = label := by
  have htake (j : Nat) (cells : List String) :
      (records.take i)[j]? = some cells ↔ j < i ∧ records[j]? = some cells := by
    rw [List.getElem?_take]
    split <;> simp [*]
  simp only [labelsOf, List.mem_reverse, List.mem_map, List.mem_filter, decide_eq_true_eq]
  constructor
  · rintro ⟨cells, ⟨hmem, hwidth⟩, hlabel⟩
    obtain ⟨j, hj⟩ := List.mem_iff_getElem?.mp hmem
    obtain ⟨hlt, hcells⟩ := (htake j cells).mp hj
    exact ⟨j, hlt, cells, hcells, hwidth, hlabel⟩
  · rintro ⟨j, hlt, cells, hcells, hwidth, hlabel⟩
    have hmem := List.mem_iff_getElem?.mpr ⟨j, (htake j cells).mpr ⟨hlt, hcells⟩⟩
    exact ⟨cells, ⟨hmem, hwidth⟩, hlabel⟩

/-- **Every record is looked at**, with the labels of the records in front of it. -/
theorem mem_violationsFrom_iff {width number : Nat} {seen : List String} :
    v ∈ violationsFrom p width number seen records ↔
      ∃ i cells, records[i]? = some cells ∧
        ((cells.length = width
            ∧ v ∈ rowViolations p (number + i) (labelsOf width (records.take i) ++ seen) cells)
          ∨ (cells.length ≠ width ∧ v = .width (number + i) width cells.length)) := by
  induction records generalizing number seen with
  | nil => simp [violationsFrom]
  | cons cells records ih =>
    rw [← Nat.or_exists_add_one, violationsFrom]
    -- the records behind the first one are numbered from the next number on
    have hnumber (i : Nat) : number + 1 + i = number + (i + 1) := by omega
    split
    · rename_i hwidth
      rw [List.mem_append, ih]
      refine or_congr ?_ (exists_congr fun i => ?_)
      · simp [hwidth, labelsOf]
      · rw [hnumber, List.take_succ_cons, labelsOf_cons, if_pos hwidth, List.append_assoc]
        rfl
    · rename_i hwidth
      rw [List.mem_cons, ih]
      refine or_congr ?_ (exists_congr fun i => ?_)
      · simp [hwidth]
      · rw [hnumber, List.take_succ_cons, labelsOf_cons, if_neg hwidth, List.append_nil]
        rfl

/-- What is found wrong with a record of the right width is a violation. -/
theorem HasRow.violates (h : HasRow p records i r)
    (hv : v ∈ rowViolations p (i + 1)
      (labelsOf (columns p.catchment).length (records.take i)) r.toList) :
    Violates p records v := by
  obtain hlabel | ⟨j, name, cell, hname, hcell, hread, rfl⟩ | htoken
    | ⟨hasIs, hnumbers, j, name, cell, found, expected, hname, hcell, hread, hexpected, hother,
      rfl⟩ := (mem_rowViolations_iff h.2).mp hv
  · obtain ⟨hempty, rfl⟩ | ⟨hreserved, rfl⟩ | ⟨hne, hfree, hseen, rfl⟩ :=
      mem_labelViolations_iff.mp hlabel
    · exact .emptyLabel h hempty
    · exact .reservedLabel h hreserved
    · obtain ⟨j, hj, cells, hcells, hwidth, hsame⟩ := mem_labelsOf_take_iff.mp hseen
      obtain ⟨r', rfl, h'⟩ := exists_hasRow hcells hwidth
      exact .repeatedLabel h h' hj hsame hne hfree
  · exact .notANumber h hname hcell hread
  · obtain ⟨hshape, rfl⟩ | ⟨fault, hne, hshape, hdecode, rfl⟩ := mem_tokenViolations_iff.mp htoken
    · exact .notAToken h hshape
    · exact .badToken h hne hshape hdecode
  · exact .otherValue h hasIs hnumbers hname hcell hread hexpected hother

/-- There is an As-Is row exactly if some record of the right width has the label. -/
theorem any_asIs_iff :
    ((records.filter (·.length = (columns p.catchment).length)).map
        (rowOf p.catchment.decisionVariables.length)).any (·.label = asIsLabel) = true
      ↔ ∃ i r, HasRow p records i r ∧ r.label = asIsLabel := by
  simp only [List.any_map, List.any_filter, List.any_eq_true, Bool.and_eq_true, decide_eq_true_eq,
    Function.comp_apply]
  constructor
  · rintro ⟨cells, hmem, hwidth, hlabel⟩
    obtain ⟨i, hi⟩ := List.mem_iff_getElem?.mp hmem
    obtain ⟨r, rfl, h⟩ := exists_hasRow hi hwidth
    exact ⟨i, r, h, hlabel⟩
  · rintro ⟨i, r, h, hlabel⟩
    exact ⟨r.toList, List.mem_iff_getElem?.mpr ⟨i, h.1⟩, h.length_eq, hlabel⟩

/-- What is found wrong with a record of the right width is reported. -/
theorem HasRow.mem_reported (h : HasRow p records i r)
    (hv : v ∈ rowViolations p (i + 1)
      (labelsOf (columns p.catchment).length (records.take i)) r.toList) :
    v ∈ reported p records := by
  refine List.mem_append_left _ (mem_violationsFrom_iff.mpr ⟨i, r.toList, h.1, .inl ?_⟩)
  rw [List.append_nil, Nat.add_comm 1 i]
  exact ⟨h.length_eq, hv⟩

/-- **Exactly the violations are reported.** -/
theorem mem_reported_iff : v ∈ reported p records ↔ Violates p records v := by
  constructor
  · intro hv
    obtain hv | hmissing := List.mem_append.mp hv
    · obtain ⟨i, cells, hcells, hv⟩ := mem_violationsFrom_iff.mp hv
      rw [List.append_nil, Nat.add_comm 1 i] at hv
      obtain ⟨hwidth, hv⟩ | ⟨hwidth, rfl⟩ := hv
      · obtain ⟨r, rfl, h⟩ := exists_hasRow hcells hwidth
        exact h.violates hv
      · exact .width hcells hwidth
    · split at hmissing
      · cases hmissing
      · rename_i hnone
        obtain rfl := List.mem_singleton.mp hmissing
        exact .noAsIs fun i r h hlabel => hnone (any_asIs_iff.mpr ⟨i, r, h, hlabel⟩)
  · intro hv
    cases hv with
    | width hcells hwidth =>
      refine List.mem_append_left _ (mem_violationsFrom_iff.mpr ⟨_, _, hcells, .inr ⟨hwidth, ?_⟩⟩)
      rw [Nat.add_comm]
    | emptyLabel h hlabel =>
      refine h.mem_reported ((mem_rowViolations_iff h.2).mpr (.inl ?_))
      exact mem_labelViolations_iff.mpr (.inl ⟨hlabel, rfl⟩)
    | reservedLabel h hlabel =>
      refine h.mem_reported ((mem_rowViolations_iff h.2).mpr (.inl ?_))
      exact mem_labelViolations_iff.mpr (.inr (.inl ⟨hlabel, rfl⟩))
    | repeatedLabel h h' hj hsame hne hfree =>
      refine h.mem_reported ((mem_rowViolations_iff h.2).mpr (.inl ?_))
      have hseen := mem_labelsOf_take_iff.mpr ⟨_, hj, _, h'.1, h'.length_eq, hsame⟩
      exact mem_labelViolations_iff.mpr (.inr (.inr ⟨hne, hfree, hseen, rfl⟩))
    | notANumber h hname hcell hread =>
      refine h.mem_reported ((mem_rowViolations_iff h.2).mpr (.inr (.inl ?_)))
      exact ⟨_, _, _, hname, hcell, hread, rfl⟩
    | notAToken h hshape =>
      refine h.mem_reported ((mem_rowViolations_iff h.2).mpr (.inr (.inr (.inl ?_))))
      exact mem_tokenViolations_iff.mpr (.inl ⟨hshape, rfl⟩)
    | badToken h hne hshape hdecode =>
      refine h.mem_reported ((mem_rowViolations_iff h.2).mpr (.inr (.inr (.inl ?_))))
      exact mem_tokenViolations_iff.mpr (.inr ⟨_, hne, hshape, hdecode, rfl⟩)
    | otherValue h hlabel hnumbers hname hcell hread hexpected hother =>
      refine h.mem_reported ((mem_rowViolations_iff h.2).mpr (.inr (.inr (.inr ?_))))
      exact ⟨hlabel, hnumbers, _, _, _, _, _, hname, hcell, hread, hexpected, hother, rfl⟩
    | noAsIs hnone =>
      refine List.mem_append_right _ ?_
      rw [if_neg fun hsome => ?_]
      · exact List.mem_singleton.mpr rfl
      · obtain ⟨i, r, h, hlabel⟩ := any_asIs_iff.mp hsome
        exact hnone i r h hlabel

end Front

end CatchmentPlanning
