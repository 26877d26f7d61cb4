import CatchmentPlanning.Proofs.Api.Runs
import CatchmentPlanning.Proofs.Exploration.Solutions

/-!
# Solutions of the front over any sequence of events

Fronts are loaded one after the other, some are refused, rows of one label come and
go, clients put plans under the labels of rows and edit the scratchpad, and now and
then somebody asks for the solution of a row, which is then kept. Whatever of this
has happened since a scenario was posted, asking for a solution never fails, and it
gives what the front that is loaded now says of its row (`solutions_up_to_date`).
-/

namespace CatchmentPlanning

namespace Api

theorem isInvariant_current : IsInvariant fun x => ∃ c, x.Current c where
  load := Exploration.current_load
  move := fun ⟨c, h⟩ hmove => ⟨c, h.move hmove⟩

/-- **Solutions of the front are always up to date**: once a scenario has been loaded,
whatever happens then, looking a solution up never fails and answers what building it
afresh from As-Is and the loaded front answers. As-Is is what it was when the
scenario was loaded. There is a solution exactly for the labels of the rows of the
loaded front, and it presents the row: under its label, with its token in upper case,
with its summary, and as lying on the front. -/
theorem solutions_up_to_date {app : App} {text : String} {x₀ : Exploration}
    (hload : Exploration.load text = .ok x₀) (hsession : app.session = some x₀)
    (events : List Event) :
    ∃ x c, (app.run events).session = some x
      ∧ x.scenario.interpret = .ok c
      ∧ x.roster.asIs = (Roster.initial (Plan.idle c)).asIs
      ∧ ∀ label, ∃ s gallery,
          x.solution label = .ok (s, { x with gallery })
            ∧ x.freshSolution label = .ok s
            ∧ (s.isSome ↔ ∃ front, x.front = some front ∧ front.contains label)
            ∧ ∀ front row, x.front = some front → front.row? label = some row →
              row.label = label ∧ ∃ solution, s = some solution ∧ solution.Presents row := by
  have hinvariant := isInvariant_current
  obtain ⟨x, hx, c, hcurrent⟩ := hinvariant.run hsession (hinvariant.load hload) events
  refine ⟨x, c, hx, hcurrent.catchment, hcurrent.asIs, fun label => ?_⟩
  obtain ⟨s, gallery, hfresh, hsolution⟩ := hcurrent.solution_eq label
  refine ⟨s, gallery, hsolution, hfresh, Exploration.isSome_freshSolution hfresh, ?_⟩
  intro front row hfront hrow
  obtain ⟨solution, hbuilt, hpresents⟩ := hcurrent.freshSolution_eq hfront hrow
  rw [hfresh, Except.ok.injEq] at hbuilt
  exact ⟨(Front.of_row?_eq_some hrow).2, solution, hbuilt, hpresents⟩

/-- A small scenario is posted, a front is loaded, its As-Is solution is asked for,
and another front with an As-Is row follows: the solution has the summary of the
second one. -/
theorem solutions_up_to_date_after_replacement :
    ∃ x s gallery, ((handle ⟨"", ⟨0⟩⟩ (App.initial none "" 1 0)
        ⟨"POST", "/api/v1/scenario", some "application/toml",
          "[Scenario]\nName = \"A\"\n[Model]\nType = \"CatchmentModel\"\n".toUTF8⟩).2.run
          [.request ⟨"", ⟨1⟩⟩ ⟨"POST", "/api/v1/solutions", some "text/csv",
            "Solution,Actions,Summary\nAs-Is,1,first\n".toUTF8⟩,
          .request ⟨"", ⟨1⟩⟩ ⟨"GET", "/api/v1/solutions/As-Is", none, ⟨#[]⟩⟩,
          .request ⟨"", ⟨1⟩⟩ ⟨"POST", "/api/v1/solutions", some "text/csv",
            "Solution,Actions,Summary\nAs-Is,1,second\n".toUTF8⟩]).session = some x
      ∧ x.solution "As-Is" = .ok (some s, { x with gallery })
      ∧ s.attributes.get? Plan.summaryName = some (.str "second") := by
  have hsuccess : (handle ⟨"", ⟨0⟩⟩ (App.initial none "" 1 0)
      ⟨"POST", "/api/v1/scenario", some "application/toml",
        "[Scenario]\nName = \"A\"\n[Model]\nType = \"CatchmentModel\"\n".toUTF8⟩).1.isSuccess := by
    decide +kernel
  obtain ⟨text, x₀, -, hload, hloaded⟩ :=
    session_of_posts_scenario ⟨rfl, by decide +kernel⟩ hsuccess
  obtain ⟨x, c, hx, -, -, hsolutions⟩ := solutions_up_to_date hload hloaded
    [.request ⟨"", ⟨1⟩⟩ ⟨"POST", "/api/v1/solutions", some "text/csv",
      "Solution,Actions,Summary\nAs-Is,1,first\n".toUTF8⟩,
    .request ⟨"", ⟨1⟩⟩ ⟨"GET", "/api/v1/solutions/As-Is", none, ⟨#[]⟩⟩,
    .request ⟨"", ⟨1⟩⟩ ⟨"POST", "/api/v1/solutions", some "text/csv",
      "Solution,Actions,Summary\nAs-Is,1,second\n".toUTF8⟩]
  have hsession := congrArg (fun session : Option Exploration =>
    ((session.bind (·.front)).bind fun front => front.row? "As-Is").map (·.summary)) hx
  have hsummary : (x.front.bind fun front => front.row? "As-Is").map (·.summary)
      = some "second" := hsession.symm.trans (by decide +kernel)
  obtain ⟨row, hrow, hsecond⟩ := Option.map_eq_some_iff.mp hsummary
  obtain ⟨front, hfront, hrow⟩ := Option.bind_eq_some_iff.mp hrow
  obtain ⟨_, gallery, hsolution, -, -, hpresents⟩ := hsolutions "As-Is"
  obtain ⟨-, s, rfl, hs⟩ := hpresents front row hfront hrow
  exact ⟨x, s, gallery, hx, hsolution, hsecond ▸ hs.summary⟩

end Api

end CatchmentPlanning
