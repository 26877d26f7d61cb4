import CatchmentPlanning.Proofs.Front.Violations

/-!
# What a report on a sheet tells

A sheet with the right header is turned down with a report on every violation, each in a message
that begins with its place: the row, and the column if a single cell is wrong
(`RowViolation.exists_message_eq`).

What is reported of a record depends on the record alone, and on the labels in front of it
(`filter_reported`). So no violation hides another one in a different row. In the same row
violations are hidden in two cases only: a record of the wrong width has one message and no more,
and the values of an As-Is row are not compared if one of them is not a number
(`every_violation_reported`, `violations_hidden`).
-/

namespace CatchmentPlanning

namespace Front

variable {text : String} {p : Plan} {records : List (List String)} {cells : List String}
  {row number width i : Nat} {column? : Option String} {seen : List String} {v : RowViolation}

/-! ## Places -/

/-- **Where a violation is**: the number of the row, and the name of the column if it is a single
cell. -/
def RowViolation.place? : RowViolation → Option (Nat × Option String)
  | .width row _ _ | .emptyLabel row | .reservedLabel row | .repeatedLabel row _ => some (row, none)
  | .notANumber row name _ | .otherValue row name _ _ => some (row, some name)
  | .notAToken row _ | .badToken row _ _ => some (row, some "Actions")
  | .noAsIs => none

/-- The number of the row that a violation is in. -/
def RowViolation.row? (v : RowViolation) : Option Nat := v.place?.map (·.1)

/-- How a place is named. -/
def placeText (row : Nat) : Option String → String
  | none => "row " ++ toString row ++ ": "
  | some name => "row " ++ toString row ++ " column [" ++ name ++ "]: "

/-- **Every message names its place first.** -/
theorem RowViolation.exists_message_eq (h : v.place? = some (row, column?)) :
    ∃ detail, v.message = placeText row column? ++ detail := by
  cases v with
  | noAsIs => cases h
  | width row expected found =>
    cases h
    refine ⟨"expected " ++ toString expected ++ " fields, found " ++ toString found, ?_⟩
    simp only [message, placeText, String.append_assoc]
    rfl
  | emptyLabel row =>
    cases h
    refine ⟨"[Solution] is empty", ?_⟩
    simp only [message, placeText, String.append_assoc]
    rfl
  | reservedLabel row =>
    cases h
    refine ⟨"[" ++ scratchpadLabel ++ "] is reserved and cannot be a solution label", ?_⟩
    simp only [message, placeText, String.append_assoc]
    rfl
  | repeatedLabel row label =>
    cases h
    refine ⟨"duplicate label [" ++ label ++ "]", ?_⟩
    simp only [message, placeText, String.append_assoc]
    rfl
  | notANumber row name cell =>
    cases h
    refine ⟨"[" ++ cell ++ "] is not a number", ?_⟩
    simp only [message, placeText, String.append_assoc]
    rfl
  | notAToken row cell =>
    cases h
    refine ⟨"[" ++ cell ++ "] is not an action encoding", ?_⟩
    simp only [message, placeText, String.append_assoc]
    rfl
  | badToken row cell fault =>
    cases h
    refine ⟨"[" ++ cell ++ "] " ++ fault.message, ?_⟩
    simp only [message, placeText, String.append_assoc]
    rfl
  | otherValue row name found expected =>
    cases h
    refine ⟨"As-Is value " ++ Decimal.plainText found ++ " does not match scenario value "
      ++ Decimal.plainText expected, ?_⟩
    simp only [message, placeText, String.append_assoc]
    rfl

/-! ## Row by row -/

theorem row?_of_mem_rowViolations (hv : v ∈ rowViolations p number seen cells) :
    v.row? = some number := by
  unfold rowViolations at hv
  simp only [List.mem_append, or_assoc] at hv
  obtain hlabel | hvalue | htoken | hother := hv
  · obtain ⟨-, rfl⟩ | ⟨-, rfl⟩ | ⟨-, -, -, rfl⟩ := mem_labelViolations_iff.mp hlabel <;> rfl
  · obtain ⟨_, _, _, -, -, -, rfl⟩ := mem_valueViolations_iff.mp hvalue
    rfl
  · obtain ⟨-, rfl⟩ | ⟨_, -, -, -, rfl⟩ := mem_tokenViolations_iff.mp htoken <;> rfl
  · obtain ⟨-, hother⟩ := List.mem_ite_nil_right.mp hother
    obtain ⟨-, _, _, _, _, -, -, -, -, rfl⟩ := mem_asIsViolations_iff.mp hother
    rfl

/-- The violations in the records from a number on are in rows from this number on. -/
theorem row?_of_mem_violationsFrom (hv : v ∈ violationsFrom p width number seen records) :
    ∃ n, number ≤ n ∧ v.row? = some n := by
  obtain ⟨i, cells, -, ⟨-, hv⟩ | ⟨-, rfl⟩⟩ := mem_violationsFrom_iff.mp hv
  · exact ⟨number + i, Nat.le_add_right _ _, row?_of_mem_rowViolations hv⟩
  · exact ⟨number + i, Nat.le_add_right _ _, rfl⟩

/-- **What is found wrong with a record** is found by looking at the record alone, and at the
labels in front of it. -/
theorem filter_violationsFrom (hcells : records[i]? = some cells) :
    (violationsFrom p width number seen records).filter (·.row? = some (number + i))
      = if cells.length = width
        then rowViolations p (number + i) (labelsOf width (records.take i) ++ seen) cells
        else [.width (number + i) width cells.length] := by
  induction records generalizing number seen i with
  | nil => cases hcells
  | cons record records ih =>
    rw [violationsFrom]
    cases i with
    | zero =>
      obtain rfl : record = cells := Option.some.inj hcells
      have hrest (seen' : List String) :
          (violationsFrom p width (number + 1) seen' records).filter (·.row? = some number)
            = [] := by
        refine List.filter_eq_nil_iff.mpr fun v hv => ?_
        obtain ⟨n, hn, hrow⟩ := row?_of_mem_violationsFrom hv
        rw [hrow, decide_eq_true_iff, Option.some.injEq]
        omega
      rw [Nat.add_zero]
      split
      · rw [List.filter_append, hrest, List.append_nil]
        exact List.filter_eq_self.mpr fun v hv => decide_eq_true (row?_of_mem_rowViolations hv)
      · rw [List.filter_cons_of_pos (by exact decide_eq_true rfl), hrest]
    | succ i =>
      have hother : some number ≠ some (number + 1 + i) := fun h => by
        have := Option.some.inj h
        omega
      rw [show number + (i + 1) = number + 1 + i by omega, List.take_succ_cons, labelsOf_cons]
      split
      · have hnone : (rowViolations p number seen record).filter
            (·.row? = some (number + 1 + i)) = [] :=
          List.filter_eq_nil_iff.mpr fun v hv => by
            rw [row?_of_mem_rowViolations hv, decide_eq_true_iff]
            exact hother
        rw [List.filter_append, hnone, List.nil_append, ih hcells, List.append_assoc]
        rfl
      · rw [List.filter_cons_of_neg (by exact fun h => hother (of_decide_eq_true h)), ih hcells,
          List.append_nil]

/-- What is reported of a record. -/
theorem filter_reported (hcells : records[i]? = some cells) :
    (reported p records).filter (·.row? = some (i + 1))
      = if cells.length = (columns p.catchment).length
        then rowViolations p (i + 1) (labelsOf (columns p.catchment).length (records.take i)) cells
        else [.width (i + 1) (columns p.catchment).length cells.length] := by
  have hmissing (missing : Bool) :
      (if missing then [] else [RowViolation.noAsIs]).filter (·.row? = some (i + 1)) = [] := by
    cases missing <;> rfl
  rw [reported, List.filter_append, hmissing, List.append_nil, Nat.add_comm i 1,
    filter_violationsFrom hcells, List.append_nil]

/-! ## Reports -/

/-- A cell for the actions that is not a token for the catchment is reported. -/
theorem HasRow.exists_token_violation {r : Cells} (h : HasRow p records i r)
    (hnone : ∀ flags, Token.decode p.catchment.actions.length r.token ≠ .ok flags) :
    ∃ v, Violates p records v ∧ v.place? = some (i + 1, some "Actions") := by
  by_cases hshape : r.token = "" ∨ Token.isShaped r.token = false
  · exact ⟨_, .notAToken h hshape, rfl⟩
  · rw [not_or, Bool.not_eq_false] at hshape
    cases hdecode : Token.decode p.catchment.actions.length r.token with
    | ok flags => exact absurd hdecode (hnone flags)
    | error fault => exact ⟨_, .badToken h hshape.1 hshape.2 hdecode, rfl⟩

/-- **Every violation is reported**, in a message that begins with its place, and whatever else is
wrong with the sheet; and nothing else is reported. Among the violations is one for every cell for
the actions that is not a token for the catchment. A record of the wrong width has one message of
its own. -/
theorem every_violation_reported (hheader : (Sheet.read text).header = columns p.catchment) :
    (∀ v, Violates p (Sheet.read text).rows v → ∃ vs, ingest text p = .error (.rows vs)
        ∧ v.message ∈ (Fault.rows vs).problems.messages
        ∧ ∀ v', v' ∈ vs ↔ Violates p (Sheet.read text).rows v')
      ∧ (∀ v row column?, RowViolation.place? v = some (row, column?) →
        ∃ detail, v.message = placeText row column? ++ detail)
      ∧ (∀ i r, HasRow p (Sheet.read text).rows i r →
        (∀ flags, Token.decode p.catchment.actions.length r.token ≠ .ok flags) →
        ∃ v, Violates p (Sheet.read text).rows v ∧ v.place? = some (i + 1, some "Actions"))
      ∧ ∀ i cells, (Sheet.read text).rows[i]? = some cells →
        cells.length ≠ (columns p.catchment).length → ∃ vs, ingest text p = .error (.rows vs)
          ∧ vs.filter (·.row? = some (i + 1))
            = [.width (i + 1) (columns p.catchment).length cells.length] := by
  have hreport {v : RowViolation} (hv : Violates p (Sheet.read text).rows v) :
      ingest text p = .error (.rows (reported p (Sheet.read text).rows)) := by
    rw [ingest_eq hheader]
    cases hreported : reported p (Sheet.read text).rows with
    | nil => exact absurd (mem_reported_iff.mpr hv) (hreported ▸ List.not_mem_nil)
    | cons => rfl
  refine ⟨fun v hv => ?_, fun _ _ _ => RowViolation.exists_message_eq,
    fun _ _ h => h.exists_token_violation, fun i cells hcells hwidth => ?_⟩
  · have hmem := mem_reported_iff.mpr hv
    exact ⟨_, hreport hv, List.mem_map_of_mem hmem, fun _ => mem_reported_iff⟩
  · refine ⟨_, hreport (.width hcells hwidth), ?_⟩
    rw [filter_reported hcells, if_neg hwidth]

/-- Everything is wrong with the first record, and the second one is too short. -/
theorem every_violation_reported_in_one_row :
    ∃ (text : String) (p : Plan) (vs : List RowViolation),
      (Sheet.read text).header = columns p.catchment ∧ ingest text p = .error (.rows vs)
        ∧ .emptyLabel 1 ∈ vs ∧ .notANumber 1 "C" "x" ∈ vs ∧ .notANumber 1 "D" "y" ∈ vs
        ∧ .notAToken 1 "Z" ∈ vs ∧ vs.filter (·.row? = some 2) = [.width 2 5 3] := by
  let p := Plan.idle ⟨"", [], [], [⟨"C", "", 1⟩, ⟨"D", "", 2⟩], []⟩
  let text := "Solution,C,D,Actions,Summary\n,x,y,Z,\nFirst,1,2\n"
  have hheader : (Sheet.read text).header = columns p.catchment := by decide +kernel
  have hrow : HasRow p (Sheet.read text).rows 0 ⟨"", ["x", "y"], "Z", ""⟩ :=
    ⟨by decide +kernel, rfl⟩
  obtain ⟨hreported, -, -, hwidth⟩ := every_violation_reported hheader
  obtain ⟨vs, hvs, hshort⟩ := hwidth 1 ["First", "1", "2"] (by decide +kernel) (by decide)
  have hmem {v : RowViolation} (hv : Violates p (Sheet.read text).rows v) : v ∈ vs := by
    obtain ⟨vs', hvs', -, hmem⟩ := hreported v hv
    cases hvs.symm.trans hvs'
    exact (hmem v).mpr hv
  exact ⟨text, p, vs, hheader, hvs, hmem (.emptyLabel hrow rfl),
    hmem (.notANumber (j := 0) hrow rfl rfl (by decide +kernel)),
    hmem (.notANumber (j := 1) hrow rfl rfl (by decide +kernel)),
    hmem (.notAToken hrow (.inr (by decide +kernel))), hshort⟩

/-- **Some violations are hidden.** It is not so that every number in an As-Is row that is not the
scenario's is reported: it is passed over if another cell of the row is not a number. Nor is it so
that every label that stands in front already is reported: it is passed over if it stands in a
record of the wrong width only. -/
theorem violations_hidden :
    (¬ ∀ (text : String) (p : Plan) (i j : Nat) (r : Cells) (name cell : String)
      (found expected : Float), (Sheet.read text).header = columns p.catchment →
      HasRow p (Sheet.read text).rows i r → r.label = asIsLabel →
      p.catchment.variableNames[j]? = some name → r.values[j]? = some cell →
      Decimal.readFloat? cell = some found → p.values[j]? = some expected →
      sameValue found expected = false →
      ∃ vs, ingest text p = .error (.rows vs) ∧ ∃ v ∈ vs, v.place? = some (i + 1, some name))
    ∧ ¬ ∀ (text : String) (p : Plan) (i j : Nat) (r : Cells) (cells : List String),
      (Sheet.read text).header = columns p.catchment → HasRow p (Sheet.read text).rows i r →
      j < i → (Sheet.read text).rows[j]? = some cells → cells.head? = some r.label →
      ∃ vs, ingest text p = .error (.rows vs) ∧ ∃ v ∈ vs, v.place? = some (i + 1, none) := by
  let p := Plan.idle ⟨"", [], [], [⟨"C", "", 1⟩, ⟨"D", "", 2⟩], []⟩
  let text := "Solution,C,D,Actions,Summary\nFirst,1,2\nAs-Is,x,5,1,none\nFirst,1,2,1,again\n"
  have hheader : (Sheet.read text).header = columns p.catchment := by decide +kernel
  have hplaces (vs : List RowViolation) (hvs : ingest text p = .error (.rows vs)) :
      vs.map RowViolation.place? = [some (1, none), some (2, some "C")] := by
    have hread : (match ingest text p with
        | .error (.rows vs) => vs.map RowViolation.place?
        | _ => []) = [some (1, none), some (2, some "C")] := by decide +kernel
    rwa [hvs] at hread
  constructor
  · intro hall
    obtain ⟨vs, hvs, v, hv, hplace⟩ := hall text p 1 1 ⟨"As-Is", ["x", "5"], "1", "none"⟩ "D" "5"
      5.0 2.0 hheader ⟨by decide +kernel, rfl⟩ rfl rfl rfl (by decide +kernel) (by decide +kernel)
      (by decide +kernel)
    have hmem := List.mem_map_of_mem (f := RowViolation.place?) hv
    rw [hplace, hplaces vs hvs] at hmem
    revert hmem
    decide
  · intro hall
    obtain ⟨vs, hvs, v, hv, hplace⟩ := hall text p 2 0 ⟨"First", ["1", "2"], "1", "again"⟩
      ["First", "1", "2"] hheader ⟨by decide +kernel, rfl⟩ (by decide) (by decide +kernel) rfl
    have hmem := List.mem_map_of_mem (f := RowViolation.place?) hv
    rw [hplace, hplaces vs hvs] at hmem
    revert hmem
    decide

end Front

end CatchmentPlanning
