import CatchmentPlanning.Proofs.Api.Runs

/-!
# Between two scenarios

Loading a scenario forgets everything about the one before. What is said about the
past of a session is therefore said about the time since the scenario was loaded:
the application is at a state that an earlier one leads to, and no scenario has been
loaded in between (`App.Since`). Attempts to load one may have been refused.

Over such a time the session is one exploration that makes one move after the other,
and it keeps whatever every move keeps (`App.Since.exists_session`).

The last section puts together what clients send, for the runs of single applications in
the modules that follow.
-/

namespace CatchmentPlanning

namespace Api

/-- **The states that an exploration leads to** as long as no scenario is loaded in
its place. -/
inductive App.Since (x : Exploration) : App → Prop
  /-- The exploration is the session. -/
  | start {app : App} (h : app.session = some x) : App.Since x app
  /-- Something happens, and no scenario is loaded. -/
  | after {app : App} (h : App.Since x app) {event : Event}
      (hnone : ¬ event.LoadsScenario app) : App.Since x (app.after event)

/-- **What every move keeps is kept** as long as no scenario is loaded. -/
theorem App.Since.exists_session {app : App} {x : Exploration} (h : app.Since x)
    {P : Exploration → Prop} (hx : P x) (hmove : ∀ {x x'}, P x → x.Move x' → P x') :
    ∃ x', app.session = some x' ∧ P x' := by
  -- induction on what has happened, one move for each event
  induction h with
  | start h => exact ⟨x, h, hx⟩
  | after _ hnone ih =>
    obtain ⟨x₁, hx₁, hP⟩ := ih
    obtain ⟨x₂, hx₂, hstep⟩ := move_after hx₁ hnone
    exact ⟨x₂, hx₂, hmove hP hstep⟩

/-- No scenario is loaded in a run in which none is posted. -/
theorem App.Since.run {app : App} {x : Exploration} (h : app.Since x) {events : List Event}
    (hnone : ∀ event ∈ events, ¬ event.PostsScenario) : (app.run events).Since x := by
  induction events generalizing app with
  | nil => exact h
  | cons event events ih =>
    have hfirst : ¬ event.LoadsScenario app :=
      Event.not_loadsScenario (hnone event List.mem_cons_self)
    exact ih (h.after hfirst) fun event' h' => hnone event' (List.mem_cons_of_mem _ h')

/-! ## What clients send -/

namespace Request

/-- Posts a scenario. -/
def postScenario (text : String) : Request :=
  ⟨"POST", "/api/v1/scenario", some "application/toml", text.toUTF8⟩

/-- Posts a sheet as a front. -/
def postFront (sheet : String) : Request :=
  ⟨"POST", "/api/v1/solutions", some "text/csv", sheet.toUTF8⟩

/-- Puts a plan under a label. -/
def postPlan (label attributes : String) : Request :=
  ⟨"POST", "/api/v1/models/" ++ label, some "application/json", attributes.toUTF8⟩

/-- Describes the scratchpad. -/
def patchScratchpad (attributes : String) : Request :=
  ⟨"PATCH", "/api/v1/model", some "application/json", attributes.toUTF8⟩

/-- Puts a table of actions to the scratchpad. -/
def putTable (sheet : String) : Request :=
  ⟨"PUT", "/api/v1/model/actions/active", some "text/csv", sheet.toUTF8⟩

end Request

/-- The application in which a scenario has been posted first of all. -/
def App.exploring (text : String) : App :=
  (handle ⟨"", ⟨0⟩⟩ (App.initial none "" 1 0) (.postScenario text)).2

/-- The application once requests have been sent one after the other. -/
def App.sent (app : App) (requests : List Request) : App :=
  app.run (requests.map (.request ⟨"", ⟨0⟩⟩))

/-- If there is a session then, it is the scenario that has been loaded. -/
theorem App.session_exploring (text : String) (h : (App.exploring text).session.isSome = true) :
    ∃ t x, Exploration.load t = .ok x ∧ (App.exploring text).session = some x := by
  have heffect := effect_handle ⟨"", ⟨0⟩⟩ (App.initial none "" 1 0) (.postScenario text)
  unfold App.exploring at h ⊢
  generalize handle _ _ _ = answer at heffect h ⊢
  cases heffect with
  | load _ _ _ hload => exact ⟨_, _, hload, rfl⟩
  | none | accept | reject | purge | move _ hsession => contradiction

theorem App.Since.sent {app : App} {x : Exploration} (h : app.Since x) {requests : List Request}
    (hnone : ∀ r ∈ requests, Endpoint.ofPath? r.path ≠ some .scenario) :
    (app.sent requests).Since x := by
  refine h.run fun event hevent => ?_
  obtain ⟨r, hr, rfl⟩ := List.mem_map.mp hevent
  exact fun hposts => hnone r hr hposts.2

end Api

end CatchmentPlanning
