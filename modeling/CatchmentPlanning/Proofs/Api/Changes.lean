import CatchmentPlanning.Proofs.Api.Separation
import CatchmentPlanning.Proofs.Api.SinceLoading

/-!
# What requests say about the changes they make

A move says that another plan comes on the scratchpad, but not which plan. Where it matters
what clients have posted, moves are told apart by the kind of request that makes them
(`Change`). Every event that loads no scenario makes one change of the exploration
(`change_after`).
-/

namespace CatchmentPlanning

namespace Api

open Steps Exploration

/-- **A move, with what has been posted for it.** -/
inductive Change (x : Exploration) : Exploration → Prop
  /-- Attributes have been posted that describe the scratchpad. -/
  | describe {r : Request} {a : Attributes} {q : Plan} (hbody : bodyAttributes r = .ok a)
      (hq : x.scratchpad.Redescribed a q) : Change x (x.edited q)
  /-- The scratchpad takes other actions. -/
  | redirect (flags : List Bool) : Change x (x.edited (x.scratchpad.withFlags flags))
  /-- A variant of As-Is has been put under a free label. -/
  | enroll {label token summary : String} {p : Plan} (hfree : x.roster.IsFree label)
      (hp : Roster.variant x.asIs label token summary = .ok p) : Change x (x.enrolled label p)
  /-- A sheet has been taken over as the front. -/
  | replaceFront {text : String} {front : Front} (h : Front.ingest text x.asIs = .ok front) :
      Change x (x.withFront front)
  /-- A solution of the front may have been built. -/
  | build {gallery : Gallery} (hmove : x.Move { x with gallery }) : Change x { x with gallery }

variable {m : Moment} {r : Request} {app : App} {x : Exploration} {e : Endpoint} {method : String}

theorem Change.stay (x : Exploration) : Change x x := .build .stay

theorem Change.move {x' : Exploration} (h : Change x x') : x.Move x' := by
  cases h with
  | describe _ hq => exact .edit hq.catchment_eq
  | redirect flags => exact .edit rfl
  | enroll hfree hp => exact .enroll hfree hp
  | replaceFront hfront => exact .replaceFront hfront
  | build hmove => exact hmove

/-- A request on the session that is all or nothing, and makes a change if it is carried
out. -/
theorem change_changed {now : String} {work : Handling Response}
    {post : Response → Option Exploration → Prop} (hx : app.session = some x)
    (hwork : AllOrNothing work app.session post)
    (hpost : ∀ response session', post response session' →
      ∃ x', session' = some x' ∧ Change x x') :
    ∃ x', (changed now app work).2.session = some x' ∧ Change x x' := by
  unfold changed
  obtain ⟨response, session, hrun, h⟩ | ⟨e, hrun⟩ := allOrNothing_iff.mp hwork
  · rw [hrun]
    exact hpost _ _ h
  · rw [hrun]
    exact ⟨x, hx, .stay x⟩

theorem change_changed_reading (hx : app.session = some x) (now : String)
    (read : Option Exploration → Except Refusal Response) :
    ∃ x', (changed now app (reading read)).2.session = some x' ∧ Change x x' := by
  rw [changed_reading]
  refine ⟨x, ?_, .stay x⟩
  cases read app.session <;> exact hx

/-- What is carried out on the session, and loads no scenario, makes a change. -/
theorem change_explored {c : Circumstances} {work : Handling Response} (hx : app.session = some x)
    (hwork : explored? c r method e = some work) (hnone : ¬ (e = .scenario ∧ method = "POST"))
    (now : String) : ∃ x', (changed now app work).2.session = some x' ∧ Change x x' := by
  cases e with
  | scenario =>
    cases hwork
    rw [if_neg fun hmethod => hnone ⟨rfl, hmethod⟩]
    exact change_changed_reading hx now _
  | scratchpad =>
    cases hwork
    split
    · refine change_changed hx (allOrNothing_describeScratchpad c r _) ?_
      rintro response _ ⟨-, x₁, a, q, hx₁, hbody, hq, rfl⟩
      cases hx.symm.trans hx₁
      exact ⟨_, rfl, .describe hbody hq⟩
    · exact change_changed_reading hx now _
  | activeActions =>
    cases hwork
    split
    · refine change_changed hx (allOrNothing_applyActionTable c r _) ?_
      rintro response _ ⟨-, x₁, flags, hx₁, rfl⟩
      cases hx.symm.trans hx₁
      exact ⟨_, rfl, .redirect flags⟩
    · exact change_changed_reading hx now _
  | unit id =>
    cases hwork
    split
    · refine change_changed hx (allOrNothing_updateUnit c id r _) ?_
      rintro response _ ⟨-, x₁, flags, hx₁, rfl⟩
      cases hx.symm.trans hx₁
      exact ⟨_, rfl, .redirect flags⟩
    · exact change_changed_reading hx now _
  | applicableActions id =>
    cases hwork
    exact change_changed_reading hx now _
  | plan label =>
    cases hwork
    split
    · refine change_changed hx (allOrNothing_addPlan c label r _) ?_
      rintro response _ ⟨-, x₁, _, _, _, p, hx₁, -, -, hfree, hp, rfl⟩
      cases hx.symm.trans hx₁
      exact ⟨_, rfl, .enroll hfree hp⟩
    · exact change_changed_reading hx now _
  | front =>
    cases hwork
    split
    · refine change_changed hx (allOrNothing_loadFront c r _) ?_
      rintro response _ ⟨-, x₁, _, front, hx₁, hfront, rfl⟩
      cases hx.symm.trans hx₁
      exact ⟨_, rfl, .replaceFront hfront⟩
    · exact change_changed_reading hx now _
  | solution label =>
    cases hwork
    refine change_changed hx (allOrNothing_readSolution c label _) ?_
    rintro response _ ⟨-, x₁, gallery, hx₁, rfl, hmove⟩
    cases hx.symm.trans hx₁
    exact ⟨_, rfl, .build hmove⟩
  | service | jobs | job | jobScenario => cases hwork

/-- A posted scenario that is not loaded leaves the session as it is. -/
theorem session_handle_of_posts_scenario (hpost : Posts r .scenario)
    (hrefused : (handle m app r).1.isSuccess = false) :
    (handle m app r).2.session = app.session := by
  rw [handle_of_posts hpost rfl (by decide)] at hrefused ⊢
  split
  · rfl
  rename_i hsize
  rw [if_neg hsize] at hrefused
  show (changed m.now app (loadScenario ⟨m.now, app.cacheAge⟩ r)).2.session = _
  have hrefused : (changed m.now app (loadScenario ⟨m.now, app.cacheAge⟩ r)).1.isSuccess = false :=
    hrefused
  unfold changed at hrefused ⊢
  obtain ⟨response, session, hrun, hload⟩ | ⟨fault, hrun⟩ :=
    allOrNothing_iff.mp (allOrNothing_loadScenario ⟨m.now, app.cacheAge⟩ r app.session)
  · rw [hrun] at hrefused
    rw [hload.1] at hrefused
    cases hrefused
  · rw [hrun]

/-- A request that loads no scenario makes a change. -/
theorem change_handle (hx : app.session = some x)
    (hnone : ¬ (Posts r .scenario ∧ (handle m app r).1.isSuccess = true)) :
    ∃ x', (handle m app r).2.session = some x' ∧ Change x x' := by
  obtain ⟨response, hhandle⟩ | ⟨e₀, e, method, shown, hpath, hdecoded, hmethod, hhandle⟩ :=
    handle_eq_carryOut m r
  · rw [hhandle]
    exact ⟨x, hx, .stay x⟩
  by_cases hloads : e = .scenario ∧ method = "POST"
  · obtain ⟨rfl, rfl⟩ := hloads
    have hpost : Posts r .scenario := by
      refine ⟨?_, eq_of_decoded_eq_ok hdecoded rfl ▸ hpath⟩
      obtain hmethod | ⟨-, hmethod⟩ := hmethod
      · exact hmethod.symm
      · exact absurd hmethod (by decide)
    have hrefused := Bool.eq_false_iff.mpr fun hsuccess => hnone ⟨hpost, hsuccess⟩
    exact ⟨x, (session_handle_of_posts_scenario hpost hrefused).trans hx, .stay x⟩
  · rw [hhandle]
    cases hwork : explored? ⟨m.now, app.cacheAge⟩ r method e with
    | none => exact ⟨x, (session_carryOut_of_explored?_eq_none hwork m app).trans hx, .stay x⟩
    | some work =>
      rw [carryOut_of_explored?_eq_some hwork]
      exact change_explored hx hwork hloads m.now

/-- **An event that loads no scenario makes one change of the exploration.** -/
theorem change_after (hx : app.session = some x) {event : Event}
    (hnone : ¬ event.LoadsScenario app) :
    ∃ x', (app.after event).session = some x' ∧ Change x x' := by
  cases event with
  | admin m r => exact ⟨x, (session_handleAdmin m app r).trans hx, .stay x⟩
  | jobs runner now => exact ⟨x, (session_runJobs app runner now).trans hx, .stay x⟩
  | request m r => exact change_handle hx hnone

/-- **What every change keeps is kept** as long as no scenario is loaded. -/
theorem App.Since.exists_changed (h : app.Since x) {P : Exploration → Prop} (hP : P x)
    (hchange : ∀ {x x'}, P x → Change x x' → P x') :
    ∃ x', app.session = some x' ∧ P x' := by
  -- induction on what has happened, one change for each event
  induction h with
  | start h => exact ⟨x, h, hP⟩
  | after _ hnone ih =>
    obtain ⟨x₁, hx₁, hP₁⟩ := ih
    obtain ⟨x₂, hx₂, hstep⟩ := change_after hx₁ hnone
    exact ⟨x₂, hx₂, hchange hP₁ hstep⟩

end Api

end CatchmentPlanning
