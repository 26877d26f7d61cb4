import CatchmentPlanning.Proofs.Front

/-!
# Which plans lie on a front

Whether a plan lies on the loaded front is decided by comparing texts: the token of
the plan is looked for among the cells for the actions, and letter case does not
count. What is meant is something else, that a row **takes** the actions that the
plan takes (`Row.Takes`).

That the two agree is a property of tokens. The token of a plan is in upper case, so
a cell is the same text but for its case exactly if the token is the cell's upper-case
form, and that is exactly when the cell is read as the flags of the plan
(`Token.decode_eq_ok_iff`). If several rows take the same actions, the first of them
gives the plan its label.
-/

namespace CatchmentPlanning

namespace Front

/-- **A row takes the actions that a plan takes.** -/
def Row.Takes (row : Row) (p : Plan) : Prop :=
  Token.decode p.catchment.actions.length row.token = .ok p.flags

variable {f : Front} {p : Plan} {row : Row}

/-- **The cell of a row is the token of a plan, but for letter case, exactly if the row
takes the actions of the plan.** -/
theorem sameIgnoringCase_token_iff :
    Token.sameIgnoringCase row.token p.token = true ↔ row.Takes p := by
  rw [Token.sameIgnoringCase, beq_iff_eq, Plan.token, Token.toUpper_encode, Row.Takes,
    Token.decode_eq_ok_iff, and_iff_right p.length_flags]

theorem sameIgnoringCase_token_eq_false_iff :
    Token.sameIgnoringCase row.token p.token = false ↔ ¬ row.Takes p := by
  rw [← sameIgnoringCase_token_iff, Bool.not_eq_true]

/-- A plan has the label of the first row that takes its actions. -/
theorem labelOf?_token_eq_some_iff {label : String} :
    f.labelOf? p.token = some label ↔
      ∃ before row after, f.rows = before ++ row :: after ∧ row.label = label
        ∧ row.Takes p ∧ ∀ earlier ∈ before, ¬ earlier.Takes p := by
  simp only [labelOf?, Option.map_eq_some_iff, List.find?_eq_some_iff_append,
    sameIgnoringCase_token_iff, Bool.not_eq_true', sameIgnoringCase_token_eq_false_iff]
  constructor
  · rintro ⟨row, ⟨htakes, before, after, hrows, hbefore⟩, hlabel⟩
    exact ⟨before, row, after, hrows, hlabel, htakes, hbefore⟩
  · rintro ⟨before, row, after, hrows, hlabel, htakes, hbefore⟩
    exact ⟨row, ⟨htakes, before, after, hrows, hbefore⟩, hlabel⟩

/-- A plan has no label exactly if no row takes its actions. -/
theorem labelOf?_token_eq_none_iff :
    f.labelOf? p.token = none ↔ ∀ row ∈ f.rows, ¬ row.Takes p := by
  simp only [labelOf?, Option.map_eq_none_iff, List.find?_eq_none, sameIgnoringCase_token_iff]

/-- **A plan lies on a front exactly if some row takes its actions.** -/
theorem onFront_token_iff : f.onFront p.token = true ↔ ∃ row ∈ f.rows, row.Takes p := by
  rw [onFront, Option.isSome_iff_ne_none, ne_eq, labelOf?_token_eq_none_iff]
  simp only [Classical.not_forall, Classical.not_not, exists_prop]

/-- The rows of an accepted front are the records of its sheet, all of them and in
order. -/
theorem rows_of_ingest {text : String} {asIs : Plan} (h : ingest text asIs = .ok f) :
    f.rows = (Sheet.read text).rows.map (rowOf asIs.catchment.decisionVariables.length) := by
  obtain ⟨-, hnil, -, rfl⟩ := ingest_eq_ok_iff.mp h
  refine congrArg (List.map _) (List.filter_eq_self.mpr fun cells hcells => ?_)
  exact decide_eq_true (of_violationsFrom_eq_nil hnil cells hcells).1

/-- **Looking a plan up on a front is exact.** The rows of an accepted front are the
records of the posted sheet, and each of them takes the actions of some plan for the
catchment, in whatever letter case its token is written. A plan is given the label of
the first row that takes its actions, and none exactly if there is no such row. -/
theorem membership_exact {text : String} {asIs : Plan} (h : ingest text asIs = .ok f)
    (p : Plan) :
    f.rows = (Sheet.read text).rows.map (rowOf asIs.catchment.decisionVariables.length)
      ∧ (∀ row ∈ f.rows, ∃ q : Plan, q.catchment = asIs.catchment ∧ row.Takes q)
      ∧ (∀ label, f.labelOf? p.token = some label ↔
          ∃ before row after, f.rows = before ++ row :: after ∧ row.label = label
            ∧ row.Takes p ∧ ∀ earlier ∈ before, ¬ earlier.Takes p)
      ∧ (f.labelOf? p.token = none ↔ ∀ row ∈ f.rows, ¬ row.Takes p) := by
  refine ⟨rows_of_ingest h, fun row hrow => ?_, fun _ => labelOf?_token_eq_some_iff,
    labelOf?_token_eq_none_iff⟩
  obtain ⟨flags, hflags⟩ := decode_of_mem_rows h hrow
  exact ⟨⟨asIs.catchment, flags, ∅, (Token.decode_eq_ok_iff.mp hflags).1⟩, rfl, hflags⟩

/-- Two rows take the second of three actions. The plan that takes it has the label of
the first one, whose token is in lower case. -/
theorem membership_exact_in_lower_case :
    ∃ (asIs p : Plan) (f : Front),
      ingest "Solution,Actions,Summary\nAs-Is,8,\nFirst,a,\nSecond,A,\n" asIs = .ok f
        ∧ p.catchment = asIs.catchment ∧ p.flags = [false, true, false]
        ∧ f.labelOf? p.token = some "First" := by
  let asIs := Plan.idle ⟨"", [1], [⟨1, "A", []⟩, ⟨1, "B", []⟩, ⟨1, "C", []⟩], [], []⟩
  let text := "Solution,Actions,Summary\nAs-Is,8,\nFirst,a,\nSecond,A,\n"
  obtain ⟨f, hf⟩ := Checks.isOk_iff.mp (show (ingest text asIs).isOk = true by decide +kernel)
  obtain ⟨hrows, -, hlabel, -⟩ := membership_exact hf (asIs.setAt 1 true)
  refine ⟨asIs, asIs.setAt 1 true, f, hf, rfl, by decide +kernel, (hlabel "First").mpr ?_⟩
  have hsheet : (Sheet.read text).rows
      = [["As-Is", "8", ""], ["First", "a", ""], ["Second", "A", ""]] := by decide +kernel
  rw [hrows, hsheet]
  refine ⟨[rowOf 0 ["As-Is", "8", ""]], rowOf 0 ["First", "a", ""],
    [rowOf 0 ["Second", "A", ""]], rfl, by decide +kernel, ?_, fun earlier hearlier => ?_⟩
  · exact sameIgnoringCase_token_iff.mp (by decide +kernel)
  · rw [List.mem_singleton.mp hearlier]
    exact sameIgnoringCase_token_eq_false_iff.mp (by decide +kernel)

end Front

end CatchmentPlanning
