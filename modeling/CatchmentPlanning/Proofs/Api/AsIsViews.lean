import CatchmentPlanning.Proofs.Api.SinceLoading
import CatchmentPlanning.Proofs.Api.Solutions
import CatchmentPlanning.Proofs.Front.Membership
import CatchmentPlanning.Proofs.Plan.Sides

/-!
# The two views of As-Is

As-Is is shown in two places. It is a plan on the roster, which takes no action; and every front
that is taken over has a row with its label, for which a solution is built like for any other row.
The row is checked against the scenario, but only its values are. Its cell for the actions may
name whatever actions there are, and the solution for the row takes them
(`asIs_views_disagree`).

The two views agree exactly for the fronts whose As-Is row takes no action
(`asIs_views_agree_iff`). If it takes any, then the tokens differ, and so do the kinds of action
that are listed for the planning units.
-/

namespace CatchmentPlanning

/-! ## What is shown of the actions -/

namespace Solution

variable {s t : Solution} {p q : Plan}

/-- **A solution shows the actions of a plan**, and the values that come of them. -/
structure ShowsActions (s : Solution) (p : Plan) : Prop where
  token : s.token = p.token
  active : s.active = p.side true
  decisionVariables : s.decisionVariables = p.variableValues

/-- **Two solutions agree** on the actions that are taken, and on the values that come of
them. -/
structure AgreesWith (s t : Solution) : Prop where
  token : s.token = t.token
  active : s.active = t.active
  decisionVariables : s.decisionVariables = t.decisionVariables

theorem ShowsActions.agreesWith (hs : s.ShowsActions p) (ht : t.ShowsActions q)
    (hcatchment : p.catchment = q.catchment) (hflags : p.flags = q.flags) : s.AgreesWith t := by
  obtain ⟨a, rfl⟩ := Plan.eq_with_attributes hcatchment hflags
  exact ⟨hs.token.trans ht.token.symm, hs.active.trans ht.active.symm,
    hs.decisionVariables.trans ht.decisionVariables.symm⟩

/-- The token tells the actions. -/
theorem ShowsActions.token_eq_iff (hs : s.ShowsActions p) (ht : t.ShowsActions q) :
    s.token = t.token ↔ p.flags = q.flags := by
  rw [hs.token, ht.token]
  exact Token.encode_injective.eq_iff

/-- The kinds of action that are listed tell whether there are any. -/
theorem ShowsActions.active_eq_iff (hs : s.ShowsActions p) (ht : t.ShowsActions q)
    (hcatchment : p.catchment = q.catchment) (hindexed : q.catchment.Indexed)
    (hidle : ∀ flag ∈ q.flags, flag = false) : s.active = t.active ↔ p.flags = q.flags := by
  constructor
  · intro hactive
    rw [hs.active, ht.active, (Plan.side_true_eq_nil_iff hindexed).mpr hidle,
      Plan.side_true_eq_nil_iff (hcatchment ▸ hindexed)] at hactive
    rw [List.eq_replicate_of_mem hactive, List.eq_replicate_of_mem hidle, p.length_flags,
      q.length_flags, hcatchment]
  · exact fun hflags => (hs.agreesWith ht hcatchment hflags).active

end Solution

/-- **What is built for a row shows the actions that the row names.** -/
theorem Gallery.showsActions_of_built {asIs : Plan} {label token summary : String} {front : Front}
    {s : Solution} (h : built asIs label token summary front = .ok s) :
    ∃ flags, Token.decode asIs.catchment.actions.length token = .ok flags
      ∧ s.ShowsActions (asIs.withFlags flags) := by
  unfold built at h
  split at h
  · rename_i p hp
    cases h
    obtain ⟨flags, hflags, rfl⟩ := Roster.variant_eq_ok_iff.mp hp
    exact ⟨flags, hflags, rfl, rfl, rfl⟩
  · cases h

namespace Exploration

variable {x x' : Exploration} {c : Catchment}

/-- As-Is is a plan for the catchment, and shown as it is. -/
theorem Current.showsActions_asIs (h : x.Current c) :
    x.asIs.catchment = c ∧ x.roster.asIs.solution.ShowsActions x.asIs := by
  have hasIs : x.asIs = (Roster.initial (Plan.idle c)).asIs.plan := congrArg (·.plan) h.asIs
  rw [hasIs, h.asIs]
  exact ⟨rfl, rfl, rfl, rfl⟩

/-- **The solution for a row shows what the row takes.** -/
theorem Current.exists_solution (h : x.Current c) {front : Front} {row : Front.Row}
    {label : String} (hfront : x.front = some front) (hrow : front.row? label = some row) :
    ∃ s gallery p, x.solution label = .ok (some s, { x with gallery })
      ∧ p.catchment = c ∧ row.Takes p ∧ s.ShowsActions p := by
  obtain ⟨s, gallery, hfresh, hsolution⟩ := h.solution_eq label
  rw [freshSolution_of_row hfront hrow] at hfresh
  obtain ⟨s, hbuilt, rfl⟩ := Checks.map_eq_ok_iff.mp hfresh
  obtain ⟨flags, hflags, hshows⟩ := Gallery.showsActions_of_built hbuilt
  have htakes : row.Takes (x.asIs.withFlags flags) := by
    rw [Front.Row.Takes, Plan.flags_withFlags (Token.decode_eq_ok_iff.mp hflags).1]
    exact hflags
  exact ⟨s, gallery, x.asIs.withFlags flags, hsolution, h.showsActions_asIs.1, htakes, hshows⟩

end Exploration

namespace Front

/-- A row takes the actions of one plan for a catchment and of no other. -/
theorem Row.Takes.iff_flags_eq {row : Row} {p q : Plan} (h : row.Takes p)
    (hcatchment : p.catchment = q.catchment) : row.Takes q ↔ p.flags = q.flags := by
  rw [Takes, ← hcatchment, h, Except.ok.injEq]

/-- A front that has been taken over has an As-Is row. -/
theorem exists_asIs_row {text : String} {asIs : Plan} {f : Front} (h : ingest text asIs = .ok f) :
    ∃ row, f.row? asIsLabel = some row := by
  obtain ⟨-, -, has, -⟩ := ingest_eq_ok_iff.mp h
  rw [contains_eq_isSome_row?] at has
  exact Option.isSome_iff_exists.mp has

end Front

namespace Api

/-! ## What clients are shown -/

/-- **A client who asks for a path is shown a solution.** -/
def App.Shows (app : App) (path : String) (s : Solution) : Prop :=
  ∀ (m : Moment) (r : Request), r.method = "GET" → r.path = path →
    (handle m app r).1.body = .json s.view

variable {app : App} {x x' : Exploration} {s : Solution}

theorem percentDecode?_asIsLabel : Text.percentDecode? asIsLabel = some asIsLabel := by
  decide +kernel

theorem shows_asIs (hx : app.session = some x) :
    app.Shows "/api/v1/models/As-Is" x.roster.asIs.solution := by
  intro m r hmethod hpath
  have hendpoint : Endpoint.ofPath? r.path = some (.plan asIsLabel) := by
    rw [hpath]
    decide +kernel
  have hdecoded : (Endpoint.plan asIsLabel).decoded = .ok (.plan asIsLabel) := by
    simp only [Endpoint.decoded, Endpoint.parameter?, Endpoint.withParameter,
      percentDecode?_asIsLabel]
  have hread : carryOut m app r "GET" (.plan asIsLabel)
      = answered m.now app (readPlan ⟨m.now, app.cacheAge⟩ asIsLabel app.session) := rfl
  rw [handle_get hmethod hendpoint hdecoded (by decide), hread, hx]
  simp only [readPlan, loaded, Checks.ok_bind, Roster.find?_asIs]
  rfl

theorem shows_solution_asIs (hx : app.session = some x)
    (hs : x.solution asIsLabel = .ok (some s, x')) :
    app.Shows "/api/v1/solutions/As-Is" s := by
  intro m r hmethod hpath
  have hendpoint : Endpoint.ofPath? r.path = some (.solution asIsLabel) := by
    rw [hpath]
    decide +kernel
  have hdecoded : (Endpoint.solution asIsLabel).decoded = .ok (.solution asIsLabel) := by
    simp only [Endpoint.decoded, Endpoint.parameter?, Endpoint.withParameter,
      percentDecode?_asIsLabel]
  have hread : carryOut m app r "GET" (.solution asIsLabel)
      = changed m.now app (readSolution ⟨m.now, app.cacheAge⟩ asIsLabel) := rfl
  have hwork : readSolution ⟨m.now, app.cacheAge⟩ asIsLabel (some x)
      = .ok (.view s.view (Circumstances.caching ⟨m.now, app.cacheAge⟩)) (some x') := by
    refine onLoaded_eq ?_
    have hlookup : (Exploration.lookingUp asIsLabel).adaptExcept Refusal.ofRoster x
        = .ok (some s) x' := Steps.adaptExcept_eq (by rw [Exploration.lookingUp, hs])
    exact (Steps.run_bind_of_ok hlookup).trans rfl
  rw [handle_get hmethod hendpoint hdecoded (by decide), hread, changed, hx, hwork]
  rfl

/-- As-Is never takes an action. -/
theorem isInvariant_idle :
    IsInvariant fun x => (∃ c, x.Current c) ∧ ∀ flag ∈ x.asIs.flags, flag = false where
  load hload := ⟨Exploration.current_load hload, Exploration.flags_asIs_of_load hload⟩
  move := by
    rintro x x' ⟨⟨c, hcurrent⟩, hidle⟩ hmove
    refine ⟨⟨c, hcurrent.move hmove⟩, ?_⟩
    have hasIs : x'.asIs = x.asIs := congrArg (·.plan) hmove.asIs_eq
    rwa [hasIs]

/-- **When the two views of As-Is agree.** Once a scenario has been loaded, whatever happens then:
As-Is takes no action, and a client who asks for it among the plans is shown so. As soon as a
front is loaded it has an As-Is row, and a client who asks for it among the solutions is shown
the solution for this row. What the client is shown is the same exactly if the row takes the
actions of As-Is, which are none; if it takes others, then both the token and the kinds of
action that are listed differ. -/
theorem asIs_views_agree_iff {app : App} {text : String} {x₀ : Exploration}
    (hload : Exploration.load text = .ok x₀) (hsession : app.session = some x₀)
    (events : List Event) :
    ∃ x e, (app.run events).session = some x
      ∧ (∀ flag ∈ x.asIs.flags, flag = false)
      ∧ x.roster.find? asIsLabel = some e
      ∧ e.solution.ShowsActions x.asIs ∧ e.solution.active = []
      ∧ (app.run events).Shows "/api/v1/models/As-Is" e.solution
      ∧ ∀ front, x.front = some front → ∃ row s gallery,
          front.row? asIsLabel = some row
            ∧ x.solution asIsLabel = .ok (some s, { x with gallery })
            ∧ (app.run events).Shows "/api/v1/solutions/As-Is" s
            ∧ (s.AgreesWith e.solution ↔ row.Takes x.asIs)
            ∧ (s.token = e.solution.token ↔ row.Takes x.asIs)
            ∧ (s.active = e.solution.active ↔ row.Takes x.asIs) := by
  obtain ⟨x, hx, ⟨c, hcurrent⟩, hidle⟩ :=
    isInvariant_idle.run hsession (isInvariant_idle.load hload) events
  obtain ⟨hcatchment, hentry⟩ := hcurrent.showsActions_asIs
  have hindexed : x.asIs.catchment.Indexed :=
    hcatchment ▸ Scenario.indexed_of_interpret hcurrent.catchment
  have hnone : x.roster.asIs.solution.active = [] :=
    hentry.active.trans ((Plan.side_true_eq_nil_iff hindexed).mpr hidle)
  refine ⟨x, x.roster.asIs, hx, hidle, Roster.find?_asIs _, hentry, hnone, shows_asIs hx, ?_⟩
  intro front hfront
  obtain ⟨sheet, hingest⟩ := hcurrent.front front hfront
  obtain ⟨row, hrow⟩ := Front.exists_asIs_row hingest
  obtain ⟨s, gallery, p, hsolution, hp, htakes, hs⟩ := hcurrent.exists_solution hfront hrow
  have hsame : p.catchment = x.asIs.catchment := hp.trans hcatchment.symm
  refine ⟨row, s, gallery, hrow, hsolution, shows_solution_asIs hx hsolution, ?_⟩
  rw [htakes.iff_flags_eq hsame]
  have hagrees : s.AgreesWith x.roster.asIs.solution ↔ p.flags = x.asIs.flags :=
    ⟨fun h => (hs.token_eq_iff hentry).mp h.token, hs.agreesWith hentry hsame⟩
  exact ⟨hagrees, hs.token_eq_iff hentry, hs.active_eq_iff hentry hsame hindexed hidle⟩

/-- A front is loaded whose As-Is row takes no action, in a catchment with an action: a client is
shown the same in both places. -/
theorem asIs_views_agree_for_idle_row :
    ∃ (app : App) (x : Exploration) (e : Roster.Entry) (s : Solution), app.session = some x
      ∧ x.asIs.flags = [false] ∧ x.roster.find? asIsLabel = some e
      ∧ app.Shows "/api/v1/models/As-Is" e.solution
      ∧ app.Shows "/api/v1/solutions/As-Is" s ∧ s.AgreesWith e.solution := by
  let scenario := "[Scenario]\nName = \"A\"\n[Model]\nType = \"CatchmentModel\"\n"
    ++ "[[Model.PlanningUnits]]\nId = 1\n[[Model.PlanningUnits.Actions]]\nType = \"B\"\n"
  let sheet := "Solution,Actions,Summary\nAs-Is,2,none\n"
  obtain ⟨text, x₀, hload, hx₀⟩ := App.session_exploring scenario (by decide +kernel)
  obtain ⟨x, e, hx, -, he, -, -, hplan, hfronts⟩ :=
    asIs_views_agree_iff hload hx₀ [.request ⟨"", ⟨0⟩⟩ (.postFront sheet)]
  have hloaded : (((App.exploring scenario).sent [.postFront sheet]).session.map fun x =>
      (x.asIs.flags, x.front.map fun front => (front.row? asIsLabel).map fun row =>
        (Token.decode x.asIs.catchment.actions.length row.token).toOption))
      = some ([false], some (some (some [false]))) := by
    decide +kernel
  obtain ⟨_, hx', hloaded⟩ := Option.map_eq_some_iff.mp hloaded
  cases hx.symm.trans hx'
  obtain ⟨hidle, hloaded⟩ := Prod.mk.inj hloaded
  obtain ⟨front, hfront, hloaded⟩ := Option.map_eq_some_iff.mp hloaded
  obtain ⟨row, s, -, hrow, -, hsolution, hagrees, -⟩ := hfronts front hfront
  rw [hrow, Option.map_some, Option.some.injEq, Checks.toOption_eq_some_iff, ← hidle] at hloaded
  exact ⟨_, x, e, s, hx, hidle, he, hplan, hsolution, hagrees.mpr hloaded⟩

/-- **The two views of As-Is may disagree.** It is not so that whenever a front is taken over,
the solution for its As-Is row agrees with what is shown of As-Is: the values of a row may be
those of the scenario although the row takes an action. -/
theorem asIs_views_disagree :
    ¬ ∀ (text sheet : String) (x x' : Exploration) (e : Roster.Entry) (s : Solution)
      (gallery : Gallery), Exploration.load text = .ok x → x.loadFront sheet = .ok x' →
      x'.roster.find? asIsLabel = some e →
      x'.solution asIsLabel = .ok (some s, { x' with gallery }) → s.AgreesWith e.solution := by
  intro hagree
  let text := "[Scenario]\nName = \"A\"\n[Model]\nType = \"CatchmentModel\"\n"
    ++ "[[Model.DecisionVariables]]\nName = \"C\"\nValue = 1.0\n"
    ++ "[[Model.PlanningUnits]]\nId = 1\n[[Model.PlanningUnits.Actions]]\nType = \"B\"\n"
    ++ "Effects = \x7b C = 2.0 \x7d\n"
  let sheet := "Solution,C,Actions,Summary\nAs-Is,1,3,none\n"
  have htokens : (Exploration.load text).toOption.bind (fun x =>
      (x.loadFront sheet).toOption.bind fun x' => (x'.solution asIsLabel).toOption.bind fun found =>
        found.1.map fun s => (s.token, x'.roster.asIs.solution.token)) = some ("3", "2") := by
    decide +kernel
  obtain ⟨x, hx, htokens⟩ := Option.bind_eq_some_iff.mp htokens
  obtain ⟨x', hx', htokens⟩ := Option.bind_eq_some_iff.mp htokens
  obtain ⟨⟨found, x''⟩, hfound, htokens⟩ := Option.bind_eq_some_iff.mp htokens
  obtain ⟨s, hs, hboth⟩ := Option.map_eq_some_iff.mp htokens
  obtain rfl : found = some s := hs
  have hsolution := Checks.toOption_eq_some_iff.mp hfound
  obtain ⟨-, ⟨gallery, rfl⟩, -⟩ := Exploration.move_of_solution_eq_ok hsolution
  have hagrees := hagree text sheet x x' x'.roster.asIs s gallery
    (Checks.toOption_eq_some_iff.mp hx) (Checks.toOption_eq_some_iff.mp hx')
    (Roster.find?_asIs _) hsolution
  obtain ⟨hthree, htwo⟩ := Prod.mk.inj hboth
  rw [hagrees.token] at hthree
  exact absurd (hthree.symm.trans htwo) (by decide)

end Api

end CatchmentPlanning
