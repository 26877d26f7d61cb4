import CatchmentPlanning.Proofs.Api.Effects
import CatchmentPlanning.Proofs.Exploration.Coherence

/-!
# What holds over any sequence of events

Between two requests of one client anything may happen: other clients send
requests, the operator does, and the worker carries out jobs. A run of the
application is any sequence of such events.

Nothing but a request touches the session, and what a request makes of it is a
newly loaded exploration or one move of the old one. So whatever loading establishes
and every move keeps holds of the session over any run (`IsInvariant.run`). The
first such invariant is that the session is a coherent exploration: once a scenario
has been posted with success, every run leaves one (`session_coherent`).
-/

namespace CatchmentPlanning

namespace Api

/-! ## Runs -/

/-- What may happen to the application. -/
inductive Event where
  /-- A client sends a request. -/
  | request (m : Moment) (r : Request)
  /-- The operator sends a request. -/
  | admin (m : Moment) (r : Request)
  /-- The worker carries out the jobs that wait. -/
  | jobs (runner : Runner) (now : String)

/-- The application after an event. -/
def App.after (app : App) : Event → App
  | .request m r => (handle m app r).2
  | .admin m r => (handleAdmin m app r).2
  | .jobs runner now => (app.runJobs runner now).2

/-- The application after one event after the other. -/
def App.run (app : App) (events : List Event) : App := events.foldl App.after app

@[simp] theorem App.run_nil (app : App) : app.run [] = app :=
  rfl

@[simp] theorem App.run_cons (app : App) (event : Event) (events : List Event) :
    app.run (event :: events) = (app.after event).run events :=
  rfl

/-- The operator and the worker leave the session alone. -/
theorem session_handleAdmin (m : Moment) (app : App) (r : Request) :
    (handleAdmin m app r).2.session = app.session := by
  simp only [handleAdmin]
  split <;> rfl

@[inherit_doc session_handleAdmin]
theorem session_runJobs (app : App) (runner : Runner) (now : String) :
    (app.runJobs runner now).2.session = app.session :=
  rfl

/-! ## What every move keeps -/

/-- **What loading establishes and every move keeps.** -/
structure IsInvariant (P : Exploration → Prop) : Prop where
  load : ∀ {text : String} {x : Exploration}, Exploration.load text = .ok x → P x
  move : ∀ {x x' : Exploration}, P x → x.Move x' → P x'

namespace IsInvariant

variable {P : Exploration → Prop} {app : App} {x : Exploration}

/-- Whatever a request does to the application, it holds of the session. -/
theorem handle (hP : IsInvariant P) (hx : app.session = some x) (h : P x) (m : Moment)
    (r : Request) : ∃ x', (handle m app r).2.session = some x' ∧ P x' := by
  have heffect := effect_handle m app r
  generalize Api.handle m app r = answer at heffect ⊢
  cases heffect with
  | none | accept | reject | purge => exact ⟨x, hx, h⟩
  | load _ _ _ hload => exact ⟨_, rfl, hP.load hload⟩
  | move _ hsession hmove =>
    rw [hx] at hsession
    cases hsession
    exact ⟨_, rfl, hP.move h hmove⟩

/-- So it does after one event. -/
theorem after (hP : IsInvariant P) (hx : app.session = some x) (h : P x) (event : Event) :
    ∃ x', (app.after event).session = some x' ∧ P x' := by
  cases event with
  | request m r => exact hP.handle hx h m r
  | admin m r => exact ⟨x, (session_handleAdmin m app r).trans hx, h⟩
  | jobs runner now => exact ⟨x, (session_runJobs app runner now).trans hx, h⟩

/-- **It holds of the session after any run.** -/
theorem run (hP : IsInvariant P) (hx : app.session = some x) (h : P x) (events : List Event) :
    ∃ x', (app.run events).session = some x' ∧ P x' := by
  induction events generalizing app x with
  | nil => exact ⟨x, hx, h⟩
  | cons event events ih =>
    obtain ⟨x₁, hx₁, h₁⟩ := hP.after hx h event
    exact ih hx₁ h₁

end IsInvariant

/-! ## The session is coherent -/

/-- The session is a coherent exploration. -/
def IsCoherent (session : Option Exploration) : Prop :=
  ∃ x c, session = some x ∧ x.Coherent c

theorem isInvariant_coherent : IsInvariant fun x => ∃ c, x.Coherent c where
  load h := (Exploration.coherent_load h).2
  move := fun ⟨c, h⟩ hmove => ⟨c, h.move hmove⟩

/-- **The session stays coherent over any run.** -/
theorem IsCoherent.run {app : App} (h : IsCoherent app.session) (events : List Event) :
    IsCoherent (app.run events).session := by
  obtain ⟨x, c, hx, hcoherent⟩ := h
  obtain ⟨x', hx', c', hcoherent'⟩ := isInvariant_coherent.run hx ⟨c, hcoherent⟩ events
  exact ⟨x', c', hx', hcoherent'⟩

/-! ## After a scenario has been posted -/

/-- The event posts a scenario. -/
def Event.PostsScenario : Event → Prop
  | .request _ r => Posts r .scenario
  | _ => False

/-- A request on the session that is all or nothing, and was carried out. -/
theorem of_isSuccess_changed {app : App} {now : String} {work : Handling Response}
    {post : Response → Option Exploration → Prop}
    (hwork : Steps.AllOrNothing work app.session post)
    (hsuccess : (changed now app work).1.isSuccess = true) :
    post (changed now app work).1 (changed now app work).2.session := by
  unfold changed at hsuccess ⊢
  obtain ⟨response, session, hrun, hpost⟩ | ⟨e, hrun⟩ := Steps.allOrNothing_iff.mp hwork
  · rw [hrun]
    exact hpost
  · have hrefused := e.isSuccess_response now
    rw [hrun] at hsuccess
    exact absurd hsuccess (by rw [hrefused]; decide)

/-- A scenario that has been posted with success is the session from then on. -/
theorem session_of_posts_scenario {m : Moment} {app : App} {r : Request}
    (hpost : Posts r .scenario) (hsuccess : (handle m app r).1.isSuccess = true) :
    ∃ text x, bodyText r = .ok text ∧ Exploration.load text = .ok x
      ∧ (handle m app r).2.session = some x := by
  rw [handle_of_posts hpost rfl (by decide)] at hsuccess ⊢
  split at hsuccess
  · cases hsuccess
  · rename_i hsize
    rw [if_neg hsize]
    exact (of_isSuccess_changed (allOrNothing_loadScenario _ r _) hsuccess).2

/-- The event loads a scenario: it posts one, and with success. -/
def Event.LoadsScenario (app : App) : Event → Prop
  | .request m r => Posts r .scenario ∧ (handle m app r).1.isSuccess = true
  | _ => False

/-- **An event that loads no scenario makes one move of the exploration.** -/
theorem move_after {app : App} {x : Exploration} (hx : app.session = some x) {event : Event}
    (hnone : ¬ event.LoadsScenario app) :
    ∃ x', (app.after event).session = some x' ∧ x.Move x' := by
  cases event with
  | admin m r => exact ⟨x, (session_handleAdmin m app r).trans hx, .stay⟩
  | jobs runner now => exact ⟨x, (session_runJobs app runner now).trans hx, .stay⟩
  | request m r =>
    have heffect := effect_handle m app r
    have hnone : ¬ (Posts r .scenario ∧ (handle m app r).1.isSuccess = true) := hnone
    show ∃ x', (handle m app r).2.session = some x' ∧ x.Move x'
    generalize handle m app r = answer at heffect hnone ⊢
    cases heffect with
    | none | accept | reject | purge => exact ⟨x, hx, .stay⟩
    | load hresponse hpost => exact absurd ⟨hpost, hresponse⟩ hnone
    | move _ hsession hmove =>
      rw [hx] at hsession
      cases hsession
      exact ⟨_, rfl, hmove⟩

/-- An event that posts no scenario loads none. -/
theorem Event.not_loadsScenario {app : App} {event : Event} (hnone : ¬ event.PostsScenario) :
    ¬ event.LoadsScenario app := by
  intro hloads
  cases event with
  | request m r => exact hnone hloads.1
  | admin | jobs => exact hloads

/-- An event that posts no scenario leaves the session with the text it has. -/
theorem text_after {app : App} {x : Exploration} (hx : app.session = some x) {event : Event}
    (hnone : ¬ event.PostsScenario) :
    ∃ x', (app.after event).session = some x' ∧ x'.text = x.text := by
  obtain ⟨x', hx', hmove⟩ := move_after hx (Event.not_loadsScenario hnone)
  exact ⟨x', hx', hmove.text_eq⟩

/-- As long as no other scenario is posted, the session keeps the text it has. -/
theorem text_run {app : App} {x : Exploration} (hx : app.session = some x)
    {events : List Event} (hnone : ∀ event ∈ events, ¬ event.PostsScenario) :
    ∃ x', (app.run events).session = some x' ∧ x'.text = x.text := by
  induction events generalizing app x with
  | nil => exact ⟨x, hx, rfl⟩
  | cons event events ih =>
    obtain ⟨x₁, hx₁, htext₁⟩ := text_after hx (hnone event List.mem_cons_self)
    obtain ⟨x₂, hx₂, htext₂⟩ :=
      ih hx₁ fun event' h => hnone event' (List.mem_cons_of_mem _ h)
    exact ⟨x₂, hx₂, htext₂.trans htext₁⟩

/-- **The session is coherent**: once a scenario has been posted with success,
whatever happens then leaves an exploration of a catchment as the session, and
everything it holds tells the truth (`Exploration.Coherent`). Its roster holds
As-Is and the scratchpad, what is found under a label is an entry with that label,
and if no other scenario has been posted, the text is the posted one. -/
theorem session_coherent (m : Moment) (app : App) (r : Request) (hpost : Posts r .scenario)
    (hsuccess : (handle m app r).1.isSuccess = true) (events : List Event) :
    ∃ x c, ((handle m app r).2.run events).session = some x ∧ x.Coherent c
      ∧ x.roster.contains asIsLabel ∧ x.roster.contains scratchpadLabel
      ∧ (∀ label e, x.roster.find? label = some e → e.label = label ∧ e.IsCoherent c)
      ∧ ((∀ event ∈ events, ¬ event.PostsScenario) → bodyText r = .ok x.text) := by
  obtain ⟨text, x₀, hbody, hload, hx₀⟩ := session_of_posts_scenario hpost hsuccess
  obtain ⟨htext, c₀, hcoherent₀⟩ := Exploration.coherent_load hload
  have hstart : IsCoherent (handle m app r).2.session := ⟨x₀, c₀, hx₀, hcoherent₀⟩
  obtain ⟨x, c, hx, hcoherent⟩ := hstart.run events
  refine ⟨x, c, hx, hcoherent, ?_, ?_, fun label e he => ?_, fun hnone => ?_⟩
  · rw [Roster.contains, Roster.find?_asIs, Option.isSome_some]
  · rw [Roster.contains, Roster.find?_scratchpad, Option.isSome_some]
  · obtain ⟨hmem, hlabel⟩ := hcoherent.find?_eq_some_iff.mp he
    exact ⟨hlabel, hcoherent.entries e hmem⟩
  · obtain ⟨x', hx', htext'⟩ := text_run hx₀ hnone
    rw [hx] at hx'
    cases hx'
    rw [htext', htext, hbody]

/-- A scenario with two actions and a limit is posted, and a set of solutions with the plan of the
second action, which exceeds the limit. A client then switches the scratchpad to this plan, and
says that it is valid and does not lie on the front. -/
theorem session_coherent_after_description :
    ∃ (post : Request) (events : List Event) (x : Exploration) (c : Catchment),
      Posts post .scenario
      ∧ ((handle ⟨"", ⟨0⟩⟩ (App.initial none "" 1 0) post).2.run events).session = some x
      ∧ x.Coherent c ∧ x.scratchpad.flags = [false, true] ∧ x.front.isSome = true
      ∧ [Plan.encodingName, Plan.validName, Plan.errorsName, Plan.frontMemberName].map
          (fun name => (x.scratchpad.attributes.get? name).map Json.compact)
        = [some "\"6\"", some "false",
          some "\"model state exceeds scenario limits: [Load = 4 exceeds maximum 3.5]\"",
          some "true"] := by
  let post : Request := ⟨"POST", "/api/v1/scenario", some "application/toml",
    ("[Scenario]\nName=\"A\"\n[Model]\nType=\"CatchmentModel\"\nLimits=[[\"Load\",3.5]]\n"
      ++ "DecisionVariables=[[\"Load\",\"t\",3]]\n"
      ++ "PlanningUnits=[[1,[[\"B\",\x7bLoad=-1\x7d],[\"C\",\x7bLoad=1\x7d]]]]\n").toUTF8⟩
  let sheet : Request := ⟨"POST", "/api/v1/solutions", some "text/csv",
    "Solution,Load,Actions,Summary\nAs-Is,3,4,a\nMore,4,6,b\n".toUTF8⟩
  let describe : Request := ⟨"PATCH", "/api/v1/model", some "application/json",
    ("[[\"Encoding\",\"6\"],[\"ValidAgainstScenario\",true],"
      ++ "[\"ParetoFrontMember\",false]]").toUTF8⟩
  let events : List Event := [.request ⟨"", ⟨1⟩⟩ sheet, .request ⟨"", ⟨2⟩⟩ describe]
  have hpost : Posts post .scenario := ⟨rfl, by decide +kernel⟩
  have hfacts : ((handle ⟨"", ⟨0⟩⟩ (App.initial none "" 1 0) post).2.run events).session.map
      (fun x => (x.scratchpad.flags, x.front.isSome,
        [Plan.encodingName, Plan.validName, Plan.errorsName, Plan.frontMemberName].map
          fun name => (x.scratchpad.attributes.get? name).map Json.compact))
      = some ([false, true], true, [some "\"6\"", some "false",
          some "\"model state exceeds scenario limits: [Load = 4 exceeds maximum 3.5]\"",
          some "true"]) := by
    decide +kernel
  obtain ⟨x, c, hx, hcoherent, -⟩ :=
    session_coherent ⟨"", ⟨0⟩⟩ (App.initial none "" 1 0) post hpost (by decide +kernel) events
  rw [hx, Option.map_some, Option.some.injEq, Prod.mk.injEq, Prod.mk.injEq] at hfacts
  exact ⟨post, events, x, c, hpost, hx, hcoherent, hfacts⟩

end Api

end CatchmentPlanning
