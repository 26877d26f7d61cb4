import CatchmentPlanning.Api.Application
import CatchmentPlanning.Proofs.Api.Handling

/-!
# What one request does to the application

`Effect` lists what a request to the API can do to the state of the application,
and `effect_handle` shows that answering a request does one of these things and
nothing else. Every statement about what happens over a sequence of requests goes
through this list, with one case for each kind of effect.

The first such statement is here. A request that does not succeed leaves the
application exactly as it was (`refused_changes_nothing`), with one exception: a
job that is posted with a text that describes no catchment is refused, and yet
kept, as an invalid job in front of the history.
-/

namespace CatchmentPlanning

namespace Api

open Steps

/-- The request posts to an endpoint. -/
def Posts (r : Request) (e : Endpoint) : Prop :=
  r.method = "POST" ∧ Endpoint.ofPath? r.path = some e

/-- The request posts a job whose text describes no catchment. -/
structure PostsInvalidJob (r : Request) (text : String) (fault : Scenario.Fault) : Prop where
  post : Posts r .jobs
  size : r.body.size ≤ bodyLimit
  media : r.isOf .toml = true
  body : bodyText r = .ok text
  invalid : Job.readScenario text = .error fault

/-- The job that is kept of a posted text that describes no catchment. -/
def invalidJob (m : Moment) (text : String) (fault : Scenario.Fault) : Job :=
  { Job.new m.freshId m.now text with
    status := .invalid
    completed := some m.now
    errorDetail := some fault.message }

/-- The job of a posted text that describes a catchment. -/
def createdJob (m : Moment) (text : String) (scenario : Scenario) : Job :=
  { Job.new m.freshId m.now text with scenario := some scenario }

/-- **What a request can do to the application.** -/
inductive Effect (m : Moment) (r : Request) (app : App) : Response × App → Prop
  /-- Nothing changes, whatever the response is. -/
  | none (response : Response) : Effect m r app (response, app)
  /-- A posted scenario is loaded in place of the session. -/
  | load {response : Response} {text : String} {x : Exploration}
      (hresponse : response.isSuccess = true) (hpost : Posts r .scenario)
      (htext : bodyText r = .ok text) (hload : Exploration.load text = .ok x) :
      Effect m r app (response, { app with session := some x })
  /-- The exploration makes a move. -/
  | move {response : Response} {x x' : Exploration}
      (hresponse : response.isSuccess = true) (hsession : app.session = some x)
      (hmove : x.Move x') : Effect m r app (response, { app with session := some x' })
  /-- A posted job is put into the history and waits for the worker. -/
  | accept {response : Response} {text : String} {scenario : Scenario} {queue : Queue}
      (hresponse : response.isSuccess = true) (hpost : Posts r .jobs)
      (htext : bodyText r = .ok text) (hread : Job.readScenario text = .ok scenario)
      (hqueue : app.queue.enqueue m.freshId = .ok queue) :
      Effect m r app (response,
        { app with history := app.history.add (createdJob m text scenario), queue })
  /-- A posted job is refused, and kept as an invalid one. -/
  | reject {response : Response} {text : String} {fault : Scenario.Fault}
      (hresponse : response.status = 500) (hinvalid : PostsInvalidJob r text fault) :
      Effect m r app (response,
        { app with history := app.history.add (invalidJob m text fault) })
  /-- The jobs that may be purged are purged. -/
  | purge {response : Response} (hresponse : response.isSuccess = true) :
      Effect m r app (response, { app with history := app.history.purge.2 })

variable {m : Moment} {r : Request} {app : App}

/-! ## Jobs -/

theorem parse_new_of_error {text : String} {fault : Scenario.Fault}
    (h : Job.readScenario text = .error fault) :
    (Job.new m.freshId m.now text).parse m.now = (some fault, invalidJob m text fault) := by
  have h' : Job.readScenario (Job.new m.freshId m.now text).text = .error fault := h
  rw [Job.parse, h']
  rfl

theorem parse_new_of_ok {text : String} {scenario : Scenario}
    (h : Job.readScenario text = .ok scenario) :
    (Job.new m.freshId m.now text).parse m.now = (none, createdJob m text scenario) := by
  have h' : Job.readScenario (Job.new m.freshId m.now text).text = .ok scenario := h
  rw [Job.parse, h']
  rfl

/-- A job that cannot wait is taken out of the history again. -/
theorem submit_of_error {job : Job} {e : Queue.Fault}
    (h : app.queue.enqueue job.id = .error e) : submit app job = (some e, app) := by
  simp only [submit, h, History.remove_add_self]

theorem submit_of_ok {job : Job} {queue : Queue} (h : app.queue.enqueue job.id = .ok queue) :
    submit app job = (none, { app with history := app.history.add job, queue }) := by
  simp only [submit, h]

/-- A request passes the check of its media type exactly if it is of that type. -/
theorem requireMedia_eq_ok_iff {media : Media} :
    requireMedia r media = .ok () ↔ r.isOf media = true := by
  unfold requireMedia
  split <;> simp_all

/-- Posting a job keeps it, created or invalid, or changes nothing. -/
theorem effect_createJob (hpost : Posts r .jobs) (hsize : r.body.size ≤ bodyLimit) :
    Effect m r app (createJob m r app) := by
  simp only [createJob]
  split
  · exact .none _
  rename_i text htext
  obtain ⟨_, hmedia, hbody⟩ := Checks.bind_eq_ok_iff.mp htext
  cases hread : Job.readScenario text with
  | error fault =>
    rw [parse_new_of_error hread]
    exact .reject rfl ⟨hpost, hsize, requireMedia_eq_ok_iff.mp hmedia, hbody, hread⟩
  | ok scenario =>
    rw [parse_new_of_ok hread]
    dsimp only
    cases hqueue : app.queue.enqueue (createdJob m text scenario).id with
    | error e =>
      rw [submit_of_error hqueue]
      exact .none _
    | ok queue =>
      rw [submit_of_ok hqueue]
      exact .accept rfl hpost hbody hread hqueue

/-- A posted job whose text describes no catchment is refused, and kept as an invalid
one. -/
theorem createJob_of_invalid {text : String} {fault : Scenario.Fault}
    (h : PostsInvalidJob r text fault) :
    createJob m r app
      = ((Refusal.failed ("job [" ++ m.freshId.text ++ "] is invalid") fault.message).response
          m.now, { app with history := app.history.add (invalidJob m text fault) }) := by
  have htext : (do requireMedia r .toml; bodyText r) = .ok text :=
    Checks.bind_eq_ok_iff.mpr ⟨(), requireMedia_eq_ok_iff.mpr h.media, h.body⟩
  simp only [createJob, htext, parse_new_of_error h.invalid]
  rfl

/-! ## The session -/

/-- What comes of a request on the session that succeeds. -/
theorem changed_eq {now : String} {work : Handling Response} {response : Response}
    {session : Option Exploration} (h : work app.session = .ok response session) :
    changed now app work = (response, { app with session }) := by
  rw [changed, h]

/-- What comes of a request that is refused and leaves the session as it is. -/
theorem changed_eq_error {now : String} {work : Handling Response} {e : Refusal}
    (h : work app.session = .error e app.session) :
    changed now app work = (e.response now, app) := by
  rw [changed, h]

/-- A request on the session that is all or nothing does what it does as a whole,
or nothing. -/
theorem effect_changed {work : Handling Response}
    (hwork : AllOrNothing work app.session fun response session =>
      Effect m r app (response, { app with session })) :
    Effect m r app (changed m.now app work) := by
  unfold changed
  obtain ⟨response, session, hrun, heffect⟩ | ⟨e, hrun⟩ := allOrNothing_iff.mp hwork
  · rw [hrun]
    exact heffect
  · rw [hrun]
    exact .none _

/-- A request that makes a move of the exploration if it is carried out. -/
theorem effect_changed_of_moves {work : Handling Response}
    (hwork : AllOrNothing work app.session (Moves app.session)) :
    Effect m r app (changed m.now app work) := by
  refine effect_changed (hwork.mono ?_)
  rintro response _ ⟨hresponse, x, x', hx, rfl, hmove⟩
  exact .move hresponse hx hmove

theorem effect_changed_loadScenario (hpost : Posts r .scenario) (c : Circumstances) :
    Effect m r app (changed m.now app (loadScenario c r)) := by
  refine effect_changed ((allOrNothing_loadScenario c r app.session).mono ?_)
  rintro response _ ⟨hresponse, text, x, htext, hload, rfl⟩
  exact .load hresponse hpost htext hload

theorem effect_answered (result : Except Refusal Response) :
    Effect m r app (answered m.now app result) := by
  cases result <;> exact .none _

/-! ## All requests -/

/-- Carrying a method out at an endpoint has one of the effects, provided that what
is carried out as a post was one, and that its body is not too long. -/
theorem effect_carryOut {method : String} {e : Endpoint}
    (hpost : ∀ e', e'.parameter? = none → e = e' → method = "POST" →
      Posts r e' ∧ r.body.size ≤ bodyLimit) :
    Effect m r app (carryOut m app r method e) := by
  simp only [carryOut]
  split
  · exact .none _
  · exact effect_changed_loadScenario (hpost _ rfl rfl rfl).1 _
  · exact effect_answered _
  · exact effect_changed_of_moves
      ((allOrNothing_describeScratchpad _ r _).mono fun _ _ => Describes.moves)
  · exact effect_answered _
  · exact effect_changed_of_moves
      ((allOrNothing_applyActionTable _ r _).mono fun _ _ => Redirects.moves)
  · exact effect_answered _
  · exact effect_changed_of_moves
      ((allOrNothing_updateUnit _ _ r _).mono fun _ _ => Redirects.moves)
  · exact effect_answered _
  · exact effect_answered _
  · exact effect_changed_of_moves ((allOrNothing_addPlan _ _ r _).mono fun _ _ => Enrolls.moves)
  · exact effect_answered _
  · exact effect_changed_of_moves
      ((allOrNothing_loadFront _ r _).mono fun _ _ => ReplacesFront.moves)
  · exact effect_answered _
  · exact effect_changed_of_moves
      ((allOrNothing_readSolution _ _ _).mono fun _ _ => BuildsSolution.moves)
  · exact effect_createJob (hpost _ rfl rfl rfl).1 (hpost _ rfl rfl rfl).2
  · exact .purge rfl
  · exact .none _
  · exact effect_answered _
  · exact effect_answered _

theorem parameter?_withParameter (e : Endpoint) (p : String) :
    (e.withParameter p).parameter? = e.parameter?.map fun q => (q.1, p) := by
  cases e <;> rfl

/-- Decoding leads to an endpoint without a parameter from nowhere else. -/
theorem eq_of_decoded_eq_ok {e e' : Endpoint} (h : e.decoded = .ok e')
    (hparameter : e'.parameter? = none) : e = e' := by
  unfold Endpoint.decoded at h
  split at h
  · cases h
    rfl
  · rename_i hsome
    split at h
    · cases h
      rw [parameter?_withParameter, hsome] at hparameter
      cases hparameter
    · cases h

/-- Leaving the body of the response out changes nothing about the effect. -/
theorem Effect.withoutBody {answer : Response × App} (h : Effect m r app answer) :
    Effect m r app (answer.1.withoutBody, answer.2) := by
  cases h with
  | none response => exact .none _
  | load hresponse hpost htext hload => exact .load hresponse hpost htext hload
  | move hresponse hsession hmove => exact .move hresponse hsession hmove
  | accept hresponse hpost htext hread hqueue =>
    exact .accept hresponse hpost htext hread hqueue
  | reject hresponse hinvalid => exact .reject hresponse hinvalid
  | purge hresponse => exact .purge hresponse

theorem effect_respond {method : String} {e : Endpoint}
    (hpath : Endpoint.ofPath? r.path = some e) (hmethod : method = "POST" → r.method = "POST") :
    Effect m r app (respond m app r method e) := by
  unfold respond
  split
  · exact .none _
  · rename_i e' hdecoded
    split
    · exact .none _
    · rename_i hsize
      refine effect_carryOut fun e'' hparameter heq hm => ⟨⟨hmethod hm, ?_⟩, ?_⟩
      · subst heq
        rw [hpath, eq_of_decoded_eq_ok hdecoded hparameter]
      · exact Nat.not_lt.mp fun hlong => hsize ⟨by rw [hm]; rfl, hlong⟩

/-- **Every request to the API has one of the effects.** -/
theorem effect_handle (m : Moment) (app : App) (r : Request) :
    Effect m r app (handle m app r) := by
  unfold handle
  split
  · exact .none _
  split
  · exact .none _
  rename_i e hpath
  split
  · exact effect_respond hpath id
  split
  · exact (effect_respond hpath (fun h => absurd h (by decide))).withoutBody
  · exact .none _

/-- `OPTIONS` is answered for every path, and no endpoint takes it. -/
theorem options_not_mem_methods (e : Endpoint) : "OPTIONS" ∉ e.methods := by
  cases e <;> simp [Endpoint.methods]

/-- A request is answered at the endpoint that its path leads to if that takes the method. -/
theorem handle_eq_respond {e : Endpoint} (hpath : Endpoint.ofPath? r.path = some e)
    (htakes : r.method ∈ e.methods) : handle m app r = respond m app r r.method e := by
  have hoptions : r.method ≠ "OPTIONS" := fun h => options_not_mem_methods e (h ▸ htakes)
  unfold handle
  rw [if_neg hoptions, hpath]
  show (if r.method ∈ e.methods then respond m app r r.method e else _) = _
  rw [if_pos htakes]

/-- It is carried out there unless the body is too long. -/
theorem handle_of_takes {e e' : Endpoint} (hpath : Endpoint.ofPath? r.path = some e)
    (hdecoded : e.decoded = .ok e') (htakes : r.method ∈ e.methods) :
    handle m app r
      = if readsBody r.method ∧ bodyLimit < r.body.size then
          (.plain 413 "Failed to buffer the request body: length limit exceeded", app)
        else carryOut m app r r.method e' := by
  rw [handle_eq_respond hpath htakes, respond, hdecoded]

/-- What is asked for at an endpoint that shows something is carried out there. -/
theorem handle_get {e e' : Endpoint} (hmethod : r.method = "GET")
    (hpath : Endpoint.ofPath? r.path = some e) (hdecoded : e.decoded = .ok e')
    (htakes : "GET" ∈ e.methods) : handle m app r = carryOut m app r "GET" e' := by
  have hunread : ¬(readsBody r.method = true ∧ bodyLimit < r.body.size) := by
    rw [hmethod]
    exact fun h => absurd h.1 (by decide)
  rw [handle_of_takes hpath hdecoded (hmethod ▸ htakes), if_neg hunread, hmethod]

/-- A request that succeeds has been carried out, with a body that is not too long. -/
theorem handle_of_isSuccess {e : Endpoint} (hpath : Endpoint.ofPath? r.path = some e)
    (htakes : r.method ∈ e.methods) (hreads : readsBody r.method = true)
    (hsuccess : (handle m app r).1.isSuccess = true) :
    ∃ e', e.decoded = .ok e' ∧ r.body.size ≤ bodyLimit
      ∧ handle m app r = carryOut m app r r.method e' := by
  cases hdecoded : e.decoded with
  | error name =>
    rw [handle_eq_respond hpath htakes, respond, hdecoded] at hsuccess
    cases hsuccess
  | ok e' =>
    have hhandle := @handle_of_takes m r app e e' hpath hdecoded htakes
    by_cases hlong : bodyLimit < r.body.size
    · rw [hhandle, if_pos ⟨hreads, hlong⟩] at hsuccess
      cases hsuccess
    · exact ⟨e', rfl, Nat.not_lt.mp hlong, hhandle.trans (if_neg fun h => hlong h.2)⟩

/-- What is posted to an endpoint without a parameter is carried out there, unless
its body is too long. -/
theorem handle_of_posts {e : Endpoint} (hpost : Posts r e) (hparameter : e.parameter? = none)
    (htakes : "POST" ∈ e.methods) :
    handle m app r
      = if bodyLimit < r.body.size then
          (.plain 413 "Failed to buffer the request body: length limit exceeded", app)
        else carryOut m app r "POST" e := by
  obtain ⟨hmethod, hpath⟩ := hpost
  have hdecoded : e.decoded = .ok e := by
    unfold Endpoint.decoded
    rw [hparameter]
  rw [handle_of_takes hpath hdecoded (hmethod ▸ htakes), hmethod]
  simp only [show readsBody "POST" = true from rfl, true_and]

/-! ## Requests that do not succeed -/

/-- **A refused request changes nothing**: where the response is no success, the
whole application – session, jobs, queue and service – is what it was before. The
one exception is a posted job whose text describes no catchment. It is answered
with status 500, and exactly one invalid job comes in front of the history. -/
theorem refused_changes_nothing (m : Moment) (app : App) (r : Request)
    (hrefused : (handle m app r).1.isSuccess = false) :
    ((¬ ∃ text fault, PostsInvalidJob r text fault) → (handle m app r).2 = app)
      ∧ ∀ text fault, PostsInvalidJob r text fault →
        (handle m app r).1.status = 500
          ∧ (handle m app r).2
            = { app with history := app.history.add (invalidJob m text fault) } := by
  constructor
  · intro hnone
    have heffect := effect_handle m app r
    generalize handle m app r = answer at hrefused heffect ⊢
    cases heffect with
    | none response => rfl
    | reject hresponse hinvalid => exact absurd ⟨_, _, hinvalid⟩ hnone
    | load hresponse | move hresponse | accept hresponse | purge hresponse =>
      -- these come with a success
      rw [hresponse] at hrefused
      cases hrefused
  · intro text fault hinvalid
    rw [handle_of_posts hinvalid.post rfl (by decide), if_neg (Nat.not_lt.mpr hinvalid.size)]
    show (createJob m r app).1.status = 500 ∧ (createJob m r app).2 = _
    rw [createJob_of_invalid hinvalid]
    exact ⟨rfl, rfl⟩

/-- The exception does occur: the text `x` describes no catchment, and is kept. -/
theorem refused_changes_nothing_but_keeps_invalid_job :
    (handle ⟨"", ⟨0⟩⟩ (App.initial none "" 1 0)
        ⟨"POST", "/api/v1/jobs", some "application/toml", ⟨#[120]⟩⟩).1.isSuccess = false
      ∧ ((handle ⟨"", ⟨0⟩⟩ (App.initial none "" 1 0)
          ⟨"POST", "/api/v1/jobs", some "application/toml", ⟨#[120]⟩⟩).2.history.jobs.map
            (·.status)) = [.invalid]
      ∧ ∃ text fault,
        PostsInvalidJob ⟨"POST", "/api/v1/jobs", some "application/toml", ⟨#[120]⟩⟩ text fault
        ∧ (handle ⟨"", ⟨0⟩⟩ (App.initial none "" 1 0)
            ⟨"POST", "/api/v1/jobs", some "application/toml", ⟨#[120]⟩⟩).2
          = { App.initial none "" 1 0 with
              history := History.empty.add (invalidJob ⟨"", ⟨0⟩⟩ text fault) } := by
  refine ⟨by decide +kernel, by decide +kernel, ?_⟩
  obtain ⟨hnone, hkept⟩ := refused_changes_nothing ⟨"", ⟨0⟩⟩ (App.initial none "" 1 0)
    ⟨"POST", "/api/v1/jobs", some "application/toml", ⟨#[120]⟩⟩ (by decide +kernel)
  obtain ⟨text, fault, hinvalid⟩ := Classical.not_not.mp fun h =>
    absurd (congrArg (·.history.jobs.length) (hnone h)) (by decide +kernel)
  exact ⟨text, fault, hinvalid, (hkept text fault hinvalid).2⟩

end Api

end CatchmentPlanning
