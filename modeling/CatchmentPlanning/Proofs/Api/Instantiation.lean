import CatchmentPlanning.Proofs.Api.SinceLoading
import CatchmentPlanning.Proofs.Exploration.Solutions

/-!
# What a plan put under a label depends on

A client's plan starts out from As-Is, and As-Is is an entry of the roster like any
other. It is protected by its label alone, and every new plan is a copy of it, with
its attributes. If anything could be written into As-Is, it would turn up in every
plan that is put under a label from then on.

Nothing can: As-Is stays what it was when the scenario was loaded. Otherwise a new
plan depends on the rows of the loaded front, which are a function of its sheet and of
As-Is. So two clients who explore the same scenario with the same front are shown the
same solution, whatever either of them has done before
(`instantiation_ignores_history`).
-/

namespace CatchmentPlanning

/-- Of a front only the rows have a part in what is shown of a plan. -/
theorem Roster.Entry.refresh_congr (e : Entry) {front₁ front₂ : Option Front}
    (h : front₁.map (·.rows) = front₂.map (·.rows)) : e.refresh front₁ = e.refresh front₂ := by
  have honFront := congrArg (Option.map fun rows => Front.onFront ⟨rows, ""⟩ e.plan.token) h
  rw [Option.map_map, Option.map_map] at honFront
  exact congrArg (fun onFront => update { e with plan := e.plan.refresh onFront }) honFront

namespace Exploration

variable {x x₁ x₂ : Exploration} {c : Catchment}

/-- **A front is a function of its sheet and of As-Is**: explorations with the same
As-Is and the same sheet have the same front. -/
theorem Current.front_eq (h₁ : x₁.Current c) (h₂ : x₂.Current c)
    (hsheet : x₁.front.map (·.text) = x₂.front.map (·.text)) : x₁.front = x₂.front := by
  have hasIs : x₁.asIs = x₂.asIs := congrArg (·.plan) (h₁.asIs.trans h₂.asIs.symm)
  cases hf₁ : x₁.front with
  | none =>
    rw [hf₁, Option.map_none, eq_comm, Option.map_eq_none_iff] at hsheet
    exact hsheet.symm
  | some f₁ =>
    rw [hf₁, Option.map_some, eq_comm, Option.map_eq_some_iff] at hsheet
    obtain ⟨f₂, hf₂, htext⟩ := hsheet
    obtain ⟨t₁, hingest₁⟩ := h₁.front f₁ hf₁
    obtain ⟨t₂, hingest₂⟩ := h₂.front f₂ hf₂
    obtain rfl : t₁ = t₂ := by
      rw [← Front.text_of_ingest hingest₁, ← Front.text_of_ingest hingest₂, htext]
    rw [hasIs, hingest₂] at hingest₁
    cases hingest₁
    rw [hf₂]

end Exploration

namespace Api

/-- **The request puts a plan under a label**: the plan that a token names, with a
summary. -/
structure PostsPlan (r : Request) (label token summary : String) : Prop where
  method : r.method = "POST"
  path : ∃ encoded, Endpoint.ofPath? r.path = some (.plan encoded)
    ∧ Text.percentDecode? encoded = some label
  body : ∃ a, bodyAttributes r = .ok a ∧ tokenAndSummary a = .ok (token, summary)

/-- A client who posts a description of a plan to its label puts the plan there. -/
theorem postsPlan_postPlan {label attributes token summary : String}
    (hpath : Endpoint.ofPath? (Request.postPlan label attributes).path = some (.plan label))
    (hlabel : Text.percentDecode? label = some label)
    (hdescribed : (bodyAttributes (.postPlan label attributes) >>= tokenAndSummary).toOption
      = some (token, summary)) :
    PostsPlan (.postPlan label attributes) label token summary where
  method := rfl
  path := ⟨label, hpath, hlabel⟩
  body := Checks.bind_eq_ok_iff.mp (Checks.toOption_eq_some_iff.mp hdescribed)

/-- The loaded front. -/
def App.front? (app : App) : Option Front := app.session.bind (·.front)

/-- The solution that is kept under a label. -/
def App.solutionUnder? (app : App) (label : String) : Option Solution :=
  (app.session.bind (·.roster.find? label)).map (·.solution)

variable {m : Moment} {r : Request} {app : App} {label token summary : String}

/-- A plan that has been put under a label with success is on the roster. -/
theorem PostsPlan.enrolls (h : PostsPlan r label token summary)
    (hsuccess : (handle m app r).1.isSuccess = true) :
    Enrolls label r app.session (handle m app r).1 (handle m app r).2.session := by
  obtain ⟨encoded, hpath, hlabel⟩ := h.path
  have hdecoded : (Endpoint.plan encoded).decoded = .ok (.plan label) := by
    simp only [Endpoint.decoded, Endpoint.parameter?, Endpoint.withParameter, hlabel]
  have htakes : r.method ∈ (Endpoint.plan encoded).methods := by
    rw [h.method]
    exact List.mem_cons_of_mem _ List.mem_cons_self
  rw [handle_of_takes hpath hdecoded htakes] at hsuccess ⊢
  split at hsuccess
  · cases hsuccess
  · rename_i hsize
    rw [if_neg hsize]
    rw [h.method] at hsuccess ⊢
    exact of_isSuccess_changed (allOrNothing_addPlan _ label r _) hsuccess

/-- The solution of a plan that has been put under a label with success: the token and
the summary are those of the request, and everything else comes from As-Is and the
front. -/
theorem PostsPlan.solutionUnder? {x : Exploration} (h : PostsPlan r label token summary)
    (hx : app.session = some x) (hsuccess : (handle m app r).1.isSuccess = true) :
    ∃ p, Roster.variant x.asIs label token summary = .ok p
      ∧ (handle m app r).2.solutionUnder? label
        = some ((Roster.newEntry label p).refresh x.front).solution := by
  obtain ⟨-, x', a', token', summary', p, hx', ha', htoken', hfree, hp, hsession⟩ :=
    h.enrolls hsuccess
  obtain ⟨a, ha, htoken⟩ := h.body
  rw [hx] at hx'
  cases hx'
  rw [ha] at ha'
  cases ha'
  rw [htoken] at htoken'
  cases htoken'
  refine ⟨p, hp, ?_⟩
  rw [App.solutionUnder?, hsession, Option.bind_some, Exploration.find?_enrolled hfree,
    Option.map_some]

/-- **The past does not matter for a plan that is put under a label.** As long as no
other scenario is loaded, As-Is is the entry that it was when the scenario was loaded,
and takes no action. And whatever has happened in each of two applications since they
have loaded a scenario with the same text: if the fronts that they have loaded have the
same rows, or both have none, then putting a plan with the same token and the same
summary under the same label, where it succeeds in both, leaves the same solution there.
The rows are the same if the sheets are. -/
theorem instantiation_ignores_history {text : String} {x₀ : Exploration}
    (hload : Exploration.load text = .ok x₀) :
    (∀ app : App, app.Since x₀ →
      ∃ x, app.session = some x ∧ x.text = text
        ∧ x.roster.find? asIsLabel = some x₀.roster.asIs
        ∧ ∀ flag ∈ x.asIs.flags, flag = false)
      ∧ (∀ app₁ app₂ : App, app₁.Since x₀ → app₂.Since x₀ →
        app₁.front?.map (·.text) = app₂.front?.map (·.text) → app₁.front? = app₂.front?)
      ∧ ∀ (m₁ m₂ : Moment) (app₁ app₂ : App) (r₁ r₂ : Request) (label token summary : String),
        app₁.Since x₀ → app₂.Since x₀ →
        app₁.front?.map (·.rows) = app₂.front?.map (·.rows) →
        PostsPlan r₁ label token summary → PostsPlan r₂ label token summary →
        (handle m₁ app₁ r₁).1.isSuccess = true → (handle m₂ app₂ r₂).1.isSuccess = true →
        ∃ s, (handle m₁ app₁ r₁).2.solutionUnder? label = some s
          ∧ (handle m₂ app₂ r₂).2.solutionUnder? label = some s := by
  obtain ⟨c, hcurrent₀⟩ := Exploration.current_load hload
  have hcurrent : ∀ app : App, app.Since x₀ →
      ∃ x, app.session = some x ∧ x.text = text ∧ x.Current c := by
    intro app hsince
    refine hsince.exists_session ⟨(Exploration.coherent_load hload).1, hcurrent₀⟩ ?_
    exact fun ⟨htext, h⟩ hmove => ⟨hmove.text_eq.trans htext, h.move hmove⟩
  refine ⟨fun app hsince => ?_, fun app₁ app₂ hsince₁ hsince₂ htext => ?_, ?_⟩
  · obtain ⟨x, hx, htext, h⟩ := hcurrent app hsince
    have hasIs : x.roster.asIs = x₀.roster.asIs := h.asIs.trans hcurrent₀.asIs.symm
    refine ⟨x, hx, htext, by rw [Roster.find?_asIs, hasIs], ?_⟩
    rw [Exploration.asIs, hasIs]
    exact Exploration.flags_asIs_of_load hload
  · obtain ⟨x₁, hx₁, -, h₁⟩ := hcurrent app₁ hsince₁
    obtain ⟨x₂, hx₂, -, h₂⟩ := hcurrent app₂ hsince₂
    rw [App.front?, App.front?, hx₁, hx₂] at htext ⊢
    exact h₁.front_eq h₂ htext
  · intro m₁ m₂ app₁ app₂ r₁ r₂ label token summary hsince₁ hsince₂ hrows hpost₁ hpost₂
      hsuccess₁ hsuccess₂
    obtain ⟨x₁, hx₁, -, h₁⟩ := hcurrent app₁ hsince₁
    obtain ⟨x₂, hx₂, -, h₂⟩ := hcurrent app₂ hsince₂
    obtain ⟨p₁, hp₁, hs₁⟩ := hpost₁.solutionUnder? hx₁ hsuccess₁
    obtain ⟨p₂, hp₂, hs₂⟩ := hpost₂.solutionUnder? hx₂ hsuccess₂
    rw [App.front?, App.front?, hx₁, hx₂, Option.bind_some, Option.bind_some] at hrows
    have hasIs : x₁.asIs = x₂.asIs := congrArg (·.plan) (h₁.asIs.trans h₂.asIs.symm)
    -- both plans are the same variant of the one As-Is
    rw [hasIs, hp₂] at hp₁
    cases hp₁
    exact ⟨_, hs₁, by rw [hs₂, Roster.Entry.refresh_congr _ hrows]⟩

/-- In one application a client takes an action on the scratchpad, describes it, and
replaces a front. In another one the second front is loaded right away. Under `Mine`
both show the same. -/
theorem instantiation_ignores_history_of_scratchpad :
    ∃ (text : String) (x₀ : Exploration) (app₁ app₂ : App) (r : Request) (s : Solution),
      Exploration.load text = .ok x₀ ∧ app₁.Since x₀ ∧ app₂.Since x₀
        ∧ app₁.session.map (·.scratchpad.token) = some "3"
        ∧ app₂.session.map (·.scratchpad.token) = some "2"
        ∧ app₁.front?.map (·.rows) = app₂.front?.map (·.rows) ∧ PostsPlan r "Mine" "3" ""
        ∧ (handle ⟨"", ⟨1⟩⟩ app₁ r).2.solutionUnder? "Mine" = some s
        ∧ (handle ⟨"", ⟨1⟩⟩ app₂ r).2.solutionUnder? "Mine" = some s := by
  let scenario := "[Scenario]\nName = \"A\"\n[Model]\nType = \"CatchmentModel\"\n" ++
    "[[Model.PlanningUnits]]\nId = 1\n[[Model.PlanningUnits.Actions]]\nType = \"B\"\n"
  let last := Request.postFront "Solution,Actions,Summary\nAs-Is,2,second\nAll,3,\n"
  let plan := Request.postPlan "Mine" "[[\"Encoding\", \"3\"]]"
  let app₁ := (App.exploring scenario).sent
    [.patchScratchpad "[[\"Encoding\", \"3\"], [\"Note\", \"kept\"]]",
      .postFront "Solution,Actions,Summary\nAs-Is,2,first\n", last]
  let app₂ := (App.exploring scenario).sent [last]
  obtain ⟨text, x₀, hload, hx₀⟩ :=
    App.session_exploring scenario (by decide +kernel)
  have hsince₁ : app₁.Since x₀ := .sent (.start hx₀) (by decide +kernel)
  have hsince₂ : app₂.Since x₀ := .sent (.start hx₀) (by decide +kernel)
  obtain ⟨hsheet, htoken₁, htoken₂, hsuccess₁, hsuccess₂⟩ :
      app₁.front?.map (·.text) = app₂.front?.map (·.text)
        ∧ app₁.session.map (·.scratchpad.token) = some "3"
        ∧ app₂.session.map (·.scratchpad.token) = some "2"
        ∧ (handle ⟨"", ⟨1⟩⟩ app₁ plan).1.isSuccess = true
        ∧ (handle ⟨"", ⟨1⟩⟩ app₂ plan).1.isSuccess = true := by
    decide +kernel
  have hplan : PostsPlan plan "Mine" "3" "" :=
    postsPlan_postPlan (by decide +kernel) (by decide +kernel) (by decide +kernel)
  obtain ⟨-, hfront, hsame⟩ := instantiation_ignores_history hload
  have hrows : app₁.front?.map (·.rows) = app₂.front?.map (·.rows) := by
    rw [hfront app₁ app₂ hsince₁ hsince₂ hsheet]
  obtain ⟨s, hs₁, hs₂⟩ := hsame ⟨"", ⟨1⟩⟩ ⟨"", ⟨1⟩⟩ app₁ app₂ plan plan "Mine" "3" "" hsince₁
    hsince₂ hrows hplan hplan hsuccess₁ hsuccess₂
  exact ⟨text, x₀, app₁, app₂, plan, s, hload, hsince₁, hsince₂, htoken₁, htoken₂, hrows,
    hplan, hs₁, hs₂⟩

end Api

end CatchmentPlanning
