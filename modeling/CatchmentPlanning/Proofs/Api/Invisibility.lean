import CatchmentPlanning.Proofs.Api.Separation
import CatchmentPlanning.Proofs.Api.SinceLoading
import CatchmentPlanning.Proofs.Api.Solutions
import CatchmentPlanning.Proofs.Api.UnseenGallery

/-!
# Reads are invisible, and jobs do not interfere

Whoever reads does not leave a trace that others see. One read does change the state of the
application, since a solution that had to be built is kept. Applications that differ in what
has been built so far (`Alike`) answer alike and stay alike, whatever happens to them, so that
the responses in a run are the same with any number of reads put in anywhere.

Jobs are posted, purged and carried out beside the exploration. Applications with the same
session (`SameExploration`) give the same answers about the exploration, and jobs do not touch
the session.

Both are statements about the responses in two runs (`reads_and_jobs_unseen`). A run is compared with another
one that lacks some of its events, and each request comes at the same moment in both.
-/

namespace CatchmentPlanning

namespace Api

open Steps Exploration

variable {m : Moment} {r : Request} {app app' : App} {e : Endpoint} {method : String}

/-! ## The responses in a run -/

/-- The response to an event, if it is a request. -/
def App.response? (app : App) : Event → Option Response
  | .request m r => some (handle m app r).1
  | .admin m r => some (handleAdmin m app r).1
  | .jobs _ _ => none

/-- **The responses in a run**, each with what it is the response to. -/
def App.transcript {ι : Type} (app : App) (eventOf : ι → Event) : List ι → List (ι × Response)
  | [] => []
  | i :: rest =>
    ((app.response? (eventOf i)).map (i, ·)).toList
      ++ (app.after (eventOf i)).transcript eventOf rest

/-! ## Sessions that are up to date -/

/-- Whatever the session holds of solutions is up to date. -/
def IsCurrent (session : Option Exploration) : Prop :=
  ∀ x, session = some x → ∃ c, x.Current c

/-- It stays so, whatever happens. -/
theorem IsCurrent.after (h : IsCurrent app.session) (event : Event) :
    IsCurrent (app.after event).session := by
  cases event with
  | admin m r => exact session_handleAdmin m app r ▸ h
  | jobs runner now => exact h
  | request m r =>
    intro x hx
    have heffect := effect_handle m app r
    change (handle m app r).2.session = some x at hx
    generalize handle m app r = answer at heffect hx
    cases heffect with
    | none | accept | reject | purge => exact h x hx
    | load _ _ _ hload =>
      cases hx
      exact current_load hload
    | move _ hsession hmove =>
      cases hx
      obtain ⟨c, hc⟩ := h _ hsession
      exact ⟨c, hc.move hmove⟩

/-! ## Applications that are alike -/

/-- **Applications that differ in what has been built so far**, all of which is up to date. -/
structure Alike (app app' : App) : Prop where
  rest : app' = { app with session := app'.session }
  session : SameButGallery app.session app'.session
  current : IsCurrent app.session
  current' : IsCurrent app'.session

theorem Alike.refl (h : IsCurrent app.session) : Alike app app := ⟨rfl, .refl _, h, h⟩

theorem Alike.trans {app₁ app₂ app₃ : App} (h : Alike app₁ app₂) (h' : Alike app₂ app₃) :
    Alike app₁ app₃ where
  rest := by rw [h'.rest, h.rest]
  session := SameButGallery.trans h.session h'.session
  current := h.current
  current' := h'.current'

theorem Alike.symm (h : Alike app app') : Alike app' app where
  rest := by rw [h.rest]
  session := SameButGallery.symm h.session
  current := h.current'
  current' := h.current

/-- A request that only reads respects what has been built, if it does not look at it. -/
theorem respects_reading {read : Option Exploration → Except Refusal Response}
    (h : ∀ x gallery, read (some { x with gallery }) = read (some x)) :
    Respects SameButGallery (reading read) := by
  intro session session' hsame
  have hread : read session' = read session := by
    cases hsame with
    | none => rfl
    | some hx =>
      obtain ⟨gallery, rfl⟩ := hx
      exact h _ gallery
  rw [reading, reading, hread]
  cases read session with
  | ok response => exact .ok hsame
  | error e => exact .error hsame

/-- **Nothing that is carried out on the session sees what has been built.** -/
theorem agree_of_explored? {c : Circumstances} {work : Handling Response}
    (h : explored? c r method e = some work) {session session' : Option Exploration}
    (hsame : SameButGallery session session') (hcurrent : IsCurrent session)
    (hcurrent' : IsCurrent session') : Agree SameButGallery (work session) (work session') := by
  -- an endpoint that takes one method to change something, and reads otherwise
  have hite {changing : String} {changes : Handling Response}
      {read : Option Exploration → Except Refusal Response}
      (hchanges : Respects SameButGallery changes)
      (hread : ∀ x gallery, read (some { x with gallery }) = read (some x)) :
      Agree SameButGallery ((if method = changing then changes else reading read) session)
        ((if method = changing then changes else reading read) session') := by
    split
    · exact hchanges _ _ hsame
    · exact respects_reading hread _ _ hsame
  cases e with
  | scenario =>
    cases h
    exact hite (respects_loadScenario c r) fun _ _ => rfl
  | scratchpad =>
    cases h
    exact hite (respects_describeScratchpad c r) fun _ _ => rfl
  | activeActions =>
    cases h
    exact hite (respects_applyActionTable c r) fun _ _ => rfl
  | unit id =>
    cases h
    exact hite (respects_updateUnit c id r) fun _ _ => rfl
  | applicableActions id =>
    cases h
    exact respects_reading (fun _ _ => rfl) _ _ hsame
  | plan label =>
    cases h
    exact hite (respects_addPlan c label r) fun _ _ => rfl
  | front =>
    cases h
    exact hite (respects_loadFront c r) fun _ _ => rfl
  | solution label =>
    cases h
    cases hsame with
    | none => exact .error .none
    | some hx =>
      obtain ⟨_, hc⟩ := hcurrent _ rfl
      obtain ⟨_, hc'⟩ := hcurrent' _ rfl
      exact agree_readSolution hc hc' hx c label
  | service | jobs | job | jobScenario => cases h

/-- **Applications that are alike answer a request alike**, and stay alike. -/
theorem Alike.handle (h : Alike app app') (m : Moment) (r : Request) :
    (handle m app' r).1 = (handle m app r).1 ∧ Alike (handle m app r).2 (handle m app' r).2 := by
  have hcurrent := h.current.after (.request m r)
  have hcurrent' := h.current'.after (.request m r)
  change IsCurrent (Api.handle m app r).2.session at hcurrent
  change IsCurrent (Api.handle m app' r).2.session at hcurrent'
  obtain ⟨response, hhandle⟩ | ⟨_, e, method, shown, -, -, -, hhandle⟩ := handle_eq_carryOut m r
  · rw [hhandle, hhandle]
    exact ⟨rfl, h⟩
  rw [hhandle] at hcurrent hcurrent' ⊢
  rw [hhandle]
  have hcacheAge : app'.cacheAge = app.cacheAge := congrArg (·.cacheAge) h.rest
  cases hwork : explored? ⟨m.now, app.cacheAge⟩ r method e with
  | none =>
    have heq := carryOut_of_explored?_eq_none hwork m app app'.session
    rw [← h.rest] at heq
    rw [heq] at hcurrent' ⊢
    have hsession : (carryOut m app r method e).2.session = app.session :=
      congrArg (·.2.session) (carryOut_of_explored?_eq_none hwork m app app.session)
    exact ⟨rfl, rfl, hsession ▸ h.session, hcurrent, hcurrent'⟩
  | some work =>
    have hwork' : explored? ⟨m.now, app'.cacheAge⟩ r method e = some work := hcacheAge ▸ hwork
    rw [carryOut_of_explored?_eq_some hwork] at hcurrent ⊢
    rw [carryOut_of_explored?_eq_some hwork'] at hcurrent' ⊢
    have hagree := agree_of_explored? hwork h.session h.current h.current'
    unfold changed at hcurrent hcurrent' ⊢
    rw [h.rest] at hcurrent' ⊢
    dsimp only at hcurrent' ⊢
    generalize work app.session = first at hagree hcurrent ⊢
    generalize work app'.session = second at hagree hcurrent' ⊢
    cases hagree with
    | ok hR => exact ⟨rfl, rfl, hR, hcurrent, hcurrent'⟩
    | error hR => exact ⟨rfl, rfl, hR, hcurrent, hcurrent'⟩

theorem handleAdmin_with_session (m : Moment) (app : App) (r : Request)
    (session : Option Exploration) :
    handleAdmin m { app with session } r
      = ((handleAdmin m app r).1, { (handleAdmin m app r).2 with session }) := by
  simp only [handleAdmin]
  split <;> rfl

/-- **Whatever happens to applications that are alike**, they answer alike and stay alike. -/
theorem Alike.after (h : Alike app app') (event : Event) :
    app'.response? event = app.response? event ∧ Alike (app.after event) (app'.after event) := by
  cases event with
  | request m r =>
    obtain ⟨hresponse, halike⟩ := h.handle m r
    exact ⟨congrArg some hresponse, halike⟩
  | admin m r =>
    have heq := handleAdmin_with_session m app r app'.session
    rw [← h.rest] at heq
    have hsession := session_handleAdmin m app r
    refine ⟨by rw [App.response?, heq]; rfl, ?_⟩
    show Alike (handleAdmin m app r).2 (handleAdmin m app' r).2
    rw [heq]
    exact ⟨rfl, hsession ▸ h.session, hsession ▸ h.current, h.current'⟩
  | jobs runner now =>
    refine ⟨rfl, ?_, h.session, h.current, h.current'⟩
    show (app'.runJobs runner now).2 = _
    rw [h.rest]
    rfl

/-! ## Reads -/

/-- The method only reads. -/
def Reads (method : String) : Prop := method = "GET" ∨ method = "HEAD"

/-- The event is a request that only reads. -/
def Event.IsRead : Event → Prop
  | .request _ r | .admin _ r => Reads r.method
  | .jobs _ _ => False

theorem answered_snd (now : String) (app : App) (result : Except Refusal Response) :
    (answered now app result).2 = app := by
  cases result <;> rfl

theorem changed_snd (now : String) (app : App) (work : Handling Response) :
    (changed now app work).2 = { app with session := (changed now app work).2.session } := by
  unfold changed
  cases work app.session <;> rfl

/-- All reads but that of a solution leave the application as it is. -/
theorem carryOut_of_reads (h : Reads method) :
    (carryOut m app r method e).2 = app ∨ ∃ label, e = .solution label := by
  cases e with
  | solution label => exact .inr ⟨label, rfl⟩
  | service => exact .inl rfl
  | jobs => obtain rfl | rfl := h <;> exact .inl rfl
  | scenario | scratchpad | activeActions | unit | applicableActions | plan | front | job
    | jobScenario => obtain rfl | rfl := h <;> exact .inl (answered_snd ..)

/-- Reading a solution leaves everything but what has been built as it is. -/
theorem sameButGallery_readSolution (h : IsCurrent app.session) (label : String) :
    SameButGallery app.session
      (changed m.now app (readSolution ⟨m.now, app.cacheAge⟩ label)).2.session := by
  unfold changed
  cases hx : app.session with
  | none => exact .none
  | some x =>
    obtain ⟨c, hc⟩ := h x hx
    obtain ⟨s, gallery, -, heq⟩ := readSolution_eq hc ⟨m.now, app.cacheAge⟩ label
    rw [heq]
    cases s with
    | none => exact .some ⟨gallery, rfl⟩
    | some s => exact .some ⟨gallery, rfl⟩

/-- The operator who reads changes nothing. -/
theorem handleAdmin_of_reads (h : Reads r.method) : (handleAdmin m app r).2 = app := by
  simp only [handleAdmin]
  split
  case h_3 hmethod =>
    rw [hmethod] at h
    exact absurd h (by rw [Reads]; decide)
  all_goals rfl

/-- **Reading leaves an application that is alike.** -/
theorem alike_after_of_isRead (h : IsCurrent app.session) {event : Event} (hread : event.IsRead) :
    Alike app (app.after event) := by
  have hcurrent := h.after event
  cases event with
  | jobs => exact hread.elim
  | admin m r =>
    show Alike app (handleAdmin m app r).2
    rw [handleAdmin_of_reads hread]
    exact .refl h
  | request m r =>
    change IsCurrent (handle m app r).2.session at hcurrent
    show Alike app (handle m app r).2
    obtain ⟨response, hhandle⟩ | ⟨_, e, method, shown, -, -, hmethod, hhandle⟩ :=
      handle_eq_carryOut m r
    · rw [hhandle]
      exact .refl h
    have hreads : Reads method := by
      obtain rfl | ⟨-, rfl⟩ := hmethod
      · exact hread
      · exact .inl rfl
    rw [hhandle] at hcurrent ⊢
    obtain hsame | ⟨label, rfl⟩ := @carryOut_of_reads m r app e method hreads
    · show Alike app (carryOut m app r method e).2
      rw [hsame]
      exact .refl h
    · exact ⟨changed_snd .., sameButGallery_readSolution h label, h, hcurrent⟩

/-- **The responses in a run are the same without the reads in it.** -/
theorem Alike.transcript_filter {events : List (Bool × Event)} (h : Alike app app')
    (hreads : ∀ e ∈ events, e.1 = false → e.2.IsRead) :
    (app.transcript Prod.snd events).filter (·.1.1)
      = app'.transcript Prod.snd (events.filter (·.1)) := by
  -- induction on the events; a read leaves the two applications alike
  induction events generalizing app app' with
  | nil => rfl
  | cons e events ih =>
    obtain ⟨kept, event⟩ := e
    have hrest := fun e he => hreads e (List.mem_cons_of_mem _ he)
    rw [App.transcript, List.filter_append]
    cases kept with
    | false =>
      have halike : Alike (app.after event) app' :=
        (alike_after_of_isRead h.current (hreads _ List.mem_cons_self rfl)).symm.trans h
      rw [ih halike hrest, List.filter_cons_of_neg Bool.false_ne_true]
      cases app.response? event <;> rfl
    | true =>
      obtain ⟨hresponse, halike⟩ := h.after event
      rw [ih halike hrest, List.filter_cons_of_pos rfl, App.transcript, hresponse]
      cases app.response? event <;> rfl

/-! ## Jobs -/

/-- The event has to do with jobs alone: a job is posted, jobs are purged, or the worker
carries them out. -/
def Event.isJobWork : Event → Bool
  | .request _ r =>
    (r.method = "POST" || r.method = "DELETE") && Endpoint.ofPath? r.path = some .jobs
  | .admin _ _ => false
  | .jobs _ _ => true

/-- The path lies below `/scenario`, `/model`, `/models` or `/solutions`. -/
def liesBelowExploration (path : String) : Bool :=
  match Endpoint.segments path with
  | "" :: "api" :: "v1" :: first :: _ => first ∈ ["scenario", "model", "models", "solutions"]
  | _ => false

/-- The event is a request about the exploration. -/
def Event.isAboutExploration : Event → Bool
  | .request _ r => liesBelowExploration r.path
  | .admin _ _ | .jobs _ _ => false

/-- What lies there is an endpoint about the exploration. -/
theorem isSome_explored?_of_liesBelow {path : String} (h : liesBelowExploration path = true)
    (hpath : Endpoint.ofPath? path = some e) (c : Circumstances) (r : Request) (method : String) :
    (explored? c r method e).isSome = true := by
  unfold liesBelowExploration at h
  split at h
  · rename_i first rest hsegments
    have hfirst : first ≠ "jobs" := by
      rintro rfl
      exact absurd h (by decide)
    unfold Endpoint.ofPath? at hpath
    rw [hsegments] at hpath
    change Endpoint.ofSegments? (first :: rest) = some e at hpath
    unfold Endpoint.ofSegments? at hpath
    -- one case for each form of path
    split at hpath
    case h_9 hjobs => exact absurd (List.cons.inj hjobs).1 hfirst
    case h_10 hjobs => exact absurd (List.cons.inj hjobs).1 hfirst
    case h_11 hjobs => exact absurd (List.cons.inj hjobs).1 hfirst
    case h_12 => cases hpath
    all_goals first
      | (cases hpath; rfl)
      | (split at hpath <;> cases hpath; rfl)
  · cases h

/-- **Applications with the same session**, which keep their views for the same time. -/
def SameExploration (app app' : App) : Prop :=
  app'.session = app.session ∧ app'.cacheAge = app.cacheAge

theorem cacheAge_handle (m : Moment) (app : App) (r : Request) :
    (handle m app r).2.cacheAge = app.cacheAge := by
  have heffect := effect_handle m app r
  generalize handle m app r = answer at heffect ⊢
  cases heffect <;> rfl

theorem cacheAge_handleAdmin (m : Moment) (app : App) (r : Request) :
    (handleAdmin m app r).2.cacheAge = app.cacheAge := by
  simp only [handleAdmin]
  split <;> rfl

/-- A request that is not about the exploration leaves the session alone. -/
theorem session_handle_of_explored?_eq_none {e₀ : Endpoint}
    (hpath : Endpoint.ofPath? r.path = some e₀) {c : Circumstances}
    (hnone : explored? c r r.method e₀ = none) (m : Moment) (app : App) :
    (handle m app r).2.session = app.session := by
  obtain ⟨response, hhandle⟩ | ⟨_, e, method, shown, hpath', hdecoded, -, hhandle⟩ :=
    handle_eq_carryOut m r
  · rw [hhandle]
  · rw [hpath, Option.some.injEq] at hpath'
    subst hpath'
    have he := @isSome_explored?_of_decoded r e method e₀ hdecoded c c r.method
    rw [hnone, Option.isSome_none, Option.isSome_eq_false_iff, Option.isNone_iff_eq_none] at he
    rw [hhandle]
    exact session_carryOut_of_explored?_eq_none he m app

/-- **Applications with the same session** answer a request about the exploration in the same
way, and any request leaves them with the same session. -/
theorem SameExploration.handle (h : SameExploration app app') (m : Moment) (r : Request) :
    (liesBelowExploration r.path = true → (handle m app' r).1 = (handle m app r).1)
      ∧ SameExploration (handle m app r).2 (handle m app' r).2 := by
  obtain ⟨hsession, hcacheAge⟩ := h
  have hage : (Api.handle m app' r).2.cacheAge = (Api.handle m app r).2.cacheAge := by
    rw [cacheAge_handle, cacheAge_handle, hcacheAge]
  obtain ⟨response, hhandle⟩ | ⟨e₀, e, method, shown, hpath, hdecoded, -, hhandle⟩ :=
    handle_eq_carryOut m r
  · rw [hhandle, hhandle]
    exact ⟨fun _ => rfl, hsession, hcacheAge⟩
  cases hwork : explored? ⟨m.now, app.cacheAge⟩ r method e with
  | none =>
    refine ⟨fun hlies => ?_, ?_, hage⟩
    · have he := @isSome_explored?_of_decoded r e method e₀ hdecoded
        ⟨m.now, app.cacheAge⟩ ⟨m.now, app.cacheAge⟩ method
      rw [hwork, isSome_explored?_of_liesBelow hlies hpath] at he
      cases he
    · rw [hhandle, hhandle]
      exact (session_carryOut_of_explored?_eq_none hwork m app').trans
        (hsession.trans (session_carryOut_of_explored?_eq_none hwork m app).symm)
  | some work =>
    have hwork' : explored? ⟨m.now, app'.cacheAge⟩ r method e = some work := hcacheAge ▸ hwork
    have hsame : (carryOut m app' r method e).1 = (carryOut m app r method e).1
        ∧ (carryOut m app' r method e).2.session = (carryOut m app r method e).2.session := by
      rw [carryOut_of_explored?_eq_some hwork, carryOut_of_explored?_eq_some hwork', changed,
        changed, hsession]
      cases work app.session <;> exact ⟨rfl, rfl⟩
    refine ⟨fun _ => ?_, ?_, hage⟩
    · rw [hhandle, hhandle]
      exact congrArg shown hsame.1
    · rw [hhandle, hhandle]
      exact hsame.2

/-- What has to do with jobs alone is not about the exploration. -/
theorem isAboutExploration_of_isJobWork {event : Event} (h : event.isJobWork = true) :
    event.isAboutExploration = false := by
  cases event with
  | admin | jobs => rfl
  | request m r =>
    have hpath : Endpoint.ofPath? r.path = some .jobs :=
      of_decide_eq_true (Bool.and_eq_true_iff.mp h).2
    refine Bool.eq_false_iff.mpr fun hlies => ?_
    have hsome := isSome_explored?_of_liesBelow hlies hpath ⟨"", 0⟩ r ""
    cases hsome

/-- What has to do with jobs alone does not touch the session. -/
theorem sameExploration_after_of_isJobWork {event : Event} (h : event.isJobWork = true) :
    SameExploration app (app.after event) := by
  cases event with
  | admin => cases h
  | jobs runner now => exact ⟨rfl, rfl⟩
  | request m r =>
    have hpath : Endpoint.ofPath? r.path = some .jobs :=
      of_decide_eq_true (Bool.and_eq_true_iff.mp h).2
    exact ⟨session_handle_of_explored?_eq_none (c := ⟨"", 0⟩) hpath rfl m app,
      cacheAge_handle m app r⟩

/-- **Whatever happens to applications with the same session**, they give the same responses
about the exploration and have the same session again. -/
theorem SameExploration.after (h : SameExploration app app') (event : Event) :
    (event.isAboutExploration = true → app'.response? event = app.response? event)
      ∧ SameExploration (app.after event) (app'.after event) := by
  cases event with
  | request m r =>
    obtain ⟨hresponse, hsame⟩ := h.handle m r
    exact ⟨fun hlies => congrArg some (hresponse hlies), hsame⟩
  | admin m r =>
    refine ⟨nofun, ?_, ?_⟩
    · exact (session_handleAdmin m app' r).trans (h.1.trans (session_handleAdmin m app r).symm)
    · exact (cacheAge_handleAdmin m app' r).trans (h.2.trans (cacheAge_handleAdmin m app r).symm)
  | jobs runner now => exact ⟨nofun, h⟩

/-- The responses about the exploration in a run. -/
def App.explorationTranscript (app : App) (events : List Event) : List (Event × Response) :=
  (app.transcript id events).filter (·.1.isAboutExploration)

/-- **The responses about the exploration are the same without what has to do with jobs.** -/
theorem SameExploration.explorationTranscript_filter {events : List Event}
    (h : SameExploration app app') :
    app.explorationTranscript events
      = app'.explorationTranscript (events.filter (!·.isJobWork)) := by
  unfold App.explorationTranscript
  induction events generalizing app app' with
  | nil => rfl
  | cons event events ih =>
    rw [App.transcript, List.filter_append]
    cases hjob : event.isJobWork with
    | true =>
      have hsame : SameExploration (app.after event) app' := by
        obtain ⟨hsession, hage⟩ := @sameExploration_after_of_isJobWork app event hjob
        exact ⟨h.1.trans hsession.symm, h.2.trans hage.symm⟩
      have hnot := isAboutExploration_of_isJobWork hjob
      rw [id, ih hsame, List.filter_cons_of_neg (by rw [hjob]; decide)]
      cases app.response? event with
      | none => rfl
      | some response => simp [hnot]
    | false =>
      obtain ⟨hresponse, hsame⟩ := h.after event
      rw [id, ih hsame, List.filter_cons_of_pos (by rw [hjob]; rfl), App.transcript,
        List.filter_append, id]
      refine congrArg (· ++ _) ?_
      cases habout : event.isAboutExploration with
      | true => rw [hresponse habout]
      | false =>
        have hnone : ∀ response? : Option Response,
            ((response?.map (event, ·)).toList).filter (·.1.isAboutExploration) = [] := by
          intro response?
          cases response? with
          | none => rfl
          | some response => simp [habout]
        rw [hnone, hnone]

/-! ## What is not seen -/

/-- **Reads are invisible, and jobs do not interfere with the exploration.** In a run from a
fresh application, which may start out with a scenario, put requests that only read in at any
places: the responses to all the others are what they were. And post, purge and carry out
more or fewer jobs in between: the responses below `/scenario`, `/model`, `/models` and
`/solutions` are what they were. -/
theorem reads_and_jobs_unseen {session : Option Exploration}
    (hfresh : ∀ x, session = some x → ∃ text, Exploration.load text = .ok x) (name : String)
    (capacity cacheAge : Nat) :
    (∀ events : List (Bool × Event), (∀ e ∈ events, e.1 = false → e.2.IsRead) →
      ((App.initial session name capacity cacheAge).transcript Prod.snd events).filter (·.1.1)
        = (App.initial session name capacity cacheAge).transcript Prod.snd (events.filter (·.1)))
      ∧ ∀ events events' : List Event,
        events.filter (!·.isJobWork) = events'.filter (!·.isJobWork) →
        (App.initial session name capacity cacheAge).explorationTranscript events
          = (App.initial session name capacity cacheAge).explorationTranscript events' := by
  constructor
  · intro events hreads
    refine Alike.transcript_filter (.refl fun x hx => ?_) hreads
    obtain ⟨text, hload⟩ := hfresh x hx
    exact current_load hload
  · intro events events' hsame
    have hself : SameExploration (App.initial session name capacity cacheAge)
      (App.initial session name capacity cacheAge) := ⟨rfl, rfl⟩
    rw [hself.explorationTranscript_filter, hsame, ← hself.explorationTranscript_filter]

/-- A scenario and a front are posted, and the scratchpad is shown. Somebody asks for a
solution of the front in between, which is then kept: the responses to the others are the
same. So are they if a job is posted and carried out in between. -/
theorem reads_and_jobs_unseen_when_solution_is_kept :
    ∃ (app : App) (load front shown asked job work : Event),
      (app.run [load, front, asked]).session.map (·.gallery.size) = some 1
        ∧ (app.transcript Prod.snd
            [(true, load), (true, front), (false, asked), (true, shown)]).filter (·.1.1)
          = app.transcript Prod.snd [(true, load), (true, front), (true, shown)]
        ∧ (app.run [load, job, work]).history.jobs.map (·.status) = [.errored]
        ∧ app.explorationTranscript [load, job, front, work, shown]
          = app.explorationTranscript [load, front, shown] := by
  let scenario := "Scenario.Name=\"A\"\n[Model]\nType=\"CatchmentModel\"\n"
  let load := Event.request ⟨"", ⟨0⟩⟩ (.postScenario scenario)
  let front := Event.request ⟨"", ⟨1⟩⟩ (.postFront "Solution,Actions,Summary\nAs-Is,1,\n")
  let asked := Event.request ⟨"", ⟨2⟩⟩ ⟨"GET", "/api/v1/solutions/As-Is", none, ⟨#[]⟩⟩
  let shown := Event.request ⟨"", ⟨3⟩⟩ ⟨"GET", "/api/v1/model", none, ⟨#[]⟩⟩
  let job := Event.request ⟨"", ⟨4⟩⟩
    ⟨"POST", "/api/v1/jobs", some "application/toml", scenario.toUTF8⟩
  let work := Event.jobs (fun _ => .error .noFeasibleState) ""
  obtain ⟨hreads, hjobs⟩ := @reads_and_jobs_unseen none nofun "" 1 0
  have hread : ∀ e ∈ [(true, load), (true, front), (false, asked), (true, shown)],
      e.1 = false → e.2.IsRead := by
    simp [asked, Event.IsRead, Reads]
  have hbeside : [load, job, front, work, shown].filter (!·.isJobWork)
      = [load, front, shown].filter (!·.isJobWork) := by
    have hkinds : load.isJobWork = false ∧ front.isJobWork = false ∧ shown.isJobWork = false
        ∧ job.isJobWork = true ∧ work.isJobWork = true := by decide +kernel
    obtain ⟨hload, hfront, hshown, hjob, hwork⟩ := hkinds
    simp [hload, hfront, hshown, hjob, hwork]
  exact ⟨App.initial none "" 1 0, load, front, shown, asked, job, work, by decide +kernel,
    hreads _ hread, by decide +kernel, hjobs _ _ hbeside⟩

end Api

end CatchmentPlanning
