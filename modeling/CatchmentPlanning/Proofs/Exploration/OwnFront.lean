import CatchmentPlanning.Proofs.Exploration.Solutions
import CatchmentPlanning.Proofs.Front.OwnRow

/-!
# A front for every scenario

A front has to have an As-Is row, and that row has to agree with the scenario. For a scenario
that can be loaded there should thus be some front, if only the one that has the As-Is row and
no other. Which columns and values it has to have is known as soon as the scenario has been
loaded: the values are those that the variables are declared with
(`values_asIs_of_load`).

But not every scenario has this front. The columns of a sheet are read without the blanks around
them, and variables keep the blanks around their names. So the sheet is refused where a name has
blanks around it, and taken over otherwise, as long as the values are finite
(`own_sheet_taken_over_iff`).
-/

namespace CatchmentPlanning

/-- Where no action is taken, a variable has the value that it is declared with. -/
theorem Catchment.total_eq_base {c : Catchment} {flags : List Bool} (v : Variable)
    (h : ∀ flag ∈ flags, flag = false) : c.total flags v = v.base := by
  refine List.foldlRecOn (motive := (· = v.base)) (c.actions.zip flags) _ rfl ?_
  rintro sum rfl ⟨action, active⟩ hmem
  obtain rfl := h active (List.of_mem_zip hmem).2
  rfl

namespace Exploration

variable {x x' : Exploration} {text sheet summary : String} {layout : Decimal.Layout}

/-- As-Is has the values that the variables are declared with. -/
theorem values_asIs_of_load (h : load text = .ok x) :
    x.asIs.values = x.asIs.catchment.decisionVariables.map (·.base) :=
  List.map_congr_left fun v _ => Catchment.total_eq_base v (flags_asIs_of_load h)

/-- **Which explorations have a front of their own**, of which As-Is is the only row. -/
theorem loadFront_own_iff
    (hsheet : Sheet.Written
      [Front.columns x.asIs.catchment, Front.ownCells layout x.asIs summary] sheet.toList) :
    x.loadFront sheet = .ok x' ↔
      ((∀ name ∈ x.asIs.catchment.variableNames, Text.trim name = name)
        ∧ ∀ value ∈ x.asIs.values, value.isFinite = true)
      ∧ x' = x.withFront ⟨[Front.ownRow x.asIs (Text.trim summary)], sheet⟩ := by
  simp only [loadFront_eq_ok_iff, Front.ingest_own_iff hsheet]
  constructor
  · rintro ⟨_, ⟨hown, rfl⟩, rfl⟩
    exact ⟨hown, rfl⟩
  · rintro ⟨hown, rfl⟩
    exact ⟨_, ⟨hown, rfl⟩, rfl⟩

/-- **A scenario has a front of its own unless there are blanks around a name.** Once a
scenario with finite values has been loaded, the columns of its fronts and the As-Is row can be
written as a sheet, with any summary. However they are written, the sheet is taken over as the
front if and only if no variable has blanks around its name, and the front has the As-Is row
alone. -/
theorem own_sheet_taken_over_iff (layout : Decimal.Layout) (summary : String)
    (hload : load text = .ok x)
    (hfinite : ∀ v ∈ x.asIs.catchment.decisionVariables, v.base.isFinite = true) :
    let table := [Front.columns x.asIs.catchment, Front.ownCells layout x.asIs summary]
    (∃ sheet : String, Sheet.Written table sheet.toList)
      ∧ ∀ sheet : String, Sheet.Written table sheet.toList →
        ((∃ x', x.loadFront sheet = .ok x') ↔
            ∀ v ∈ x.asIs.catchment.decisionVariables, Text.trim v.name = v.name)
          ∧ ∀ x', x.loadFront sheet = .ok x' →
            x' = x.withFront ⟨[Front.ownRow x.asIs (Text.trim summary)], sheet⟩ := by
  have hvalues : ∀ value ∈ x.asIs.values, value.isFinite = true := by
    rw [values_asIs_of_load hload]
    exact List.forall_mem_map.mpr hfinite
  refine ⟨Sheet.exists_written ?_, fun sheet hsheet => ⟨?_, fun x' hx' => ?_⟩⟩
  · simp [Front.columns, Front.ownCells]
  · simp only [loadFront_own_iff hsheet, and_iff_left hvalues, exists_and_left, exists_eq,
      and_true, Catchment.variableNames, List.forall_mem_map]
  · exact ((loadFront_own_iff hsheet).mp hx').2

/-- A scenario with a variable at 0.1 has a front of its own. -/
theorem own_sheet_of_fraction_taken_over :
    ∃ x x' : Exploration,
      load ("[Scenario]\nName=\"A\"\n[Model]\nType=\"CatchmentModel\"\n" ++
        "[[Model.DecisionVariables]]\nName=\"C\"\nValue=0.1\n") = .ok x
      ∧ x.loadFront "Solution,C,Actions,Summary\nAs-Is,0.1,1, none\n" = .ok x'
      ∧ x' = x.withFront
          ⟨[Front.ownRow x.asIs "none"], "Solution,C,Actions,Summary\nAs-Is,0.1,1, none\n"⟩ := by
  have hfacts : (load ("[Scenario]\nName=\"A\"\n[Model]\nType=\"CatchmentModel\"\n" ++
        "[[Model.DecisionVariables]]\nName=\"C\"\nValue=0.1\n")).toOption.map (fun x =>
      ([Front.columns x.asIs.catchment, Front.ownCells .plain x.asIs " none"],
        x.asIs.catchment.decisionVariables.all fun v =>
          v.base.isFinite && decide (Text.trim v.name = v.name)))
      = some ([["Solution", "C", "Actions", "Summary"], ["As-Is", "0.1", "1", " none"]], true) := by
    decide +kernel
  obtain ⟨x, hx, hfacts⟩ := Option.map_eq_some_iff.mp hfacts
  obtain ⟨htable, hvariables⟩ := Prod.mk.inj hfacts
  simp only [List.all_eq_true, Bool.and_eq_true, decide_eq_true_eq] at hvariables
  have hload := Checks.toOption_eq_some_iff.mp hx
  obtain ⟨-, htaken⟩ := own_sheet_taken_over_iff .plain " none" hload
    fun v hv => (hvariables v hv).1
  rw [htable] at htaken
  obtain ⟨hiff, hfront⟩ := htaken "Solution,C,Actions,Summary\nAs-Is,0.1,1, none\n"
    (Sheet.written_plainTable (by decide +kernel) (by decide +kernel))
  obtain ⟨x', hx'⟩ := hiff.mpr fun v hv => (hvariables v hv).2
  have htrim : Text.trim " none" = "none" := by decide
  exact ⟨x, x', hload, hx', htrim ▸ hfront x' hx'⟩

/-- **Not every scenario has a front of its own.** One with a blank in front of the name of a
variable has none, and neither has one with an infinite variable. -/
theorem own_sheet_refused :
    (∃ x : Exploration,
      load ("[Scenario]\nName=\"A\"\n[Model]\nType=\"CatchmentModel\"\n" ++
        "[[Model.DecisionVariables]]\nName=\" C\"\nValue=1\n") = .ok x
      ∧ Sheet.Written [Front.columns x.asIs.catchment, Front.ownCells .plain x.asIs "none"]
          "Solution, C,Actions,Summary\nAs-Is,1,1,none\n".toList
      ∧ ∀ x', x.loadFront "Solution, C,Actions,Summary\nAs-Is,1,1,none\n" ≠ .ok x')
    ∧ ∃ x : Exploration,
      load ("[Scenario]\nName=\"A\"\n[Model]\nType=\"CatchmentModel\"\n" ++
        "[[Model.DecisionVariables]]\nName=\"C\"\nValue=inf\n") = .ok x
      ∧ Sheet.Written [Front.columns x.asIs.catchment, Front.ownCells .plain x.asIs "none"]
          "Solution,C,Actions,Summary\nAs-Is,inf,1,none\n".toList
      ∧ ∀ x', x.loadFront "Solution,C,Actions,Summary\nAs-Is,inf,1,none\n" ≠ .ok x' := by
  constructor
  · have hfacts : (load ("[Scenario]\nName=\"A\"\n[Model]\nType=\"CatchmentModel\"\n" ++
          "[[Model.DecisionVariables]]\nName=\" C\"\nValue=1\n")).toOption.map (fun x =>
        ([Front.columns x.asIs.catchment, Front.ownCells .plain x.asIs "none"],
          x.asIs.catchment.variableNames))
        = some ([["Solution", " C", "Actions", "Summary"], ["As-Is", "1", "1", "none"]],
          [" C"]) := by
      decide +kernel
    obtain ⟨x, hx, hfacts⟩ := Option.map_eq_some_iff.mp hfacts
    obtain ⟨htable, hnames⟩ := Prod.mk.inj hfacts
    have hwritten : Sheet.Written
        [Front.columns x.asIs.catchment, Front.ownCells .plain x.asIs "none"]
        "Solution, C,Actions,Summary\nAs-Is,1,1,none\n".toList := by
      rw [htable]
      exact Sheet.written_plainTable (by decide +kernel) (by decide +kernel)
    refine ⟨x, Checks.toOption_eq_some_iff.mp hx, hwritten, fun x' hx' => ?_⟩
    obtain ⟨⟨htrimmed, -⟩, -⟩ := (loadFront_own_iff hwritten).mp hx'
    rw [hnames] at htrimmed
    exact absurd (htrimmed " C" List.mem_cons_self) (by decide)
  · have hfacts : (load ("[Scenario]\nName=\"A\"\n[Model]\nType=\"CatchmentModel\"\n" ++
          "[[Model.DecisionVariables]]\nName=\"C\"\nValue=inf\n")).toOption.map (fun x =>
        ([Front.columns x.asIs.catchment, Front.ownCells .plain x.asIs "none"],
          x.asIs.values.all (·.isFinite)))
        = some ([["Solution", "C", "Actions", "Summary"], ["As-Is", "inf", "1", "none"]],
          false) := by
      decide +kernel
    obtain ⟨x, hx, hfacts⟩ := Option.map_eq_some_iff.mp hfacts
    obtain ⟨htable, hvalues⟩ := Prod.mk.inj hfacts
    have hwritten : Sheet.Written
        [Front.columns x.asIs.catchment, Front.ownCells .plain x.asIs "none"]
        "Solution,C,Actions,Summary\nAs-Is,inf,1,none\n".toList := by
      rw [htable]
      exact Sheet.written_plainTable (by decide +kernel) (by decide +kernel)
    refine ⟨x, Checks.toOption_eq_some_iff.mp hx, hwritten, fun x' hx' => ?_⟩
    obtain ⟨⟨-, hfinite⟩, -⟩ := (loadFront_own_iff hwritten).mp hx'
    rw [List.all_eq_true.mpr hfinite] at hvalues
    cases hvalues

end Exploration

end CatchmentPlanning
