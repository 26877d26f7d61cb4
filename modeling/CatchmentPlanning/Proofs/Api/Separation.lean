import CatchmentPlanning.Proofs.Api.Effects

/-!
# The exploration and the jobs do not touch each other

Some endpoints are about the exploration, and what is carried out there is carried out on
the session (`explored?`). The other endpoints are about jobs and the service, and whatever is
carried out there is the same for every session, and leaves it alone
(`carryOut_of_explored?_eq_none`).

Before anything is carried out it is decided where, from the request alone
(`handle_eq_carryOut`).
-/

namespace CatchmentPlanning

namespace Api

variable {m : Moment} {r : Request} {app : App} {e : Endpoint} {method : String}

/-! ## On the session -/

/-- A request that only reads, as one that is carried out on the session. -/
def reading (read : Option Exploration → Except Refusal Response) : Handling Response :=
  fun session =>
    match read session with
    | .ok response => .ok response session
    | .error e => .error e session

theorem changed_reading (now : String) (app : App)
    (read : Option Exploration → Except Refusal Response) :
    changed now app (reading read) = answered now app (read app.session) := by
  unfold changed reading answered
  cases read app.session <;> rfl

/-- **What is carried out on the session** at an endpoint, if it is about the exploration. -/
def explored? (c : Circumstances) (r : Request) (method : String) :
    Endpoint → Option (Handling Response)
  | .scenario => some (if method = "POST" then loadScenario c r else reading (readScenario c))
  | .scratchpad =>
    some (if method = "PATCH" then describeScratchpad c r else reading (readScratchpad c))
  | .activeActions =>
    some (if method = "PUT" then applyActionTable c r else reading (readActiveActions c))
  | .unit id => some (if method = "POST" then updateUnit c id r else reading (readUnit c id))
  | .applicableActions id => some (reading (readApplicableActions c id))
  | .plan label => some (if method = "POST" then addPlan c label r else reading (readPlan c label))
  | .front => some (if method = "POST" then loadFront c r else reading (readFront c))
  | .solution label => some (readSolution c label)
  | .service | .jobs | .job _ | .jobScenario _ => none

/-- An endpoint that takes one method to change something, and reads otherwise. -/
theorem carryOut_eq_changed_ite {changing : String} {work : Handling Response}
    {read : Option Exploration → Except Refusal Response}
    (hchange : carryOut m app r changing e = changed m.now app work)
    (hread : method ≠ changing →
      carryOut m app r method e = answered m.now app (read app.session)) :
    carryOut m app r method e
      = changed m.now app (if method = changing then work else reading read) := by
  by_cases hmethod : method = changing
  · rw [if_pos hmethod, hmethod, hchange]
  · rw [if_neg hmethod, changed_reading, hread hmethod]

theorem carryOut_of_explored?_eq_some {work : Handling Response}
    (h : explored? ⟨m.now, app.cacheAge⟩ r method e = some work) :
    carryOut m app r method e = changed m.now app work := by
  cases e with
  | scenario | scratchpad | activeActions | unit | plan | front =>
    cases h
    refine carryOut_eq_changed_ite rfl fun hmethod => ?_
    simp only [carryOut]
  | applicableActions id =>
    cases h
    exact (changed_reading ..).symm
  | solution label =>
    cases h
    rfl
  | service | jobs | job | jobScenario => cases h

/-! ## Beside the session -/

theorem submit_with_session (app : App) (job : Job) (session : Option Exploration) :
    submit { app with session } job
      = ((submit app job).1, { (submit app job).2 with session }) := by
  unfold submit
  dsimp only
  cases app.queue.enqueue job.id <;> rfl

theorem createJob_with_session (m : Moment) (r : Request) (app : App)
    (session : Option Exploration) :
    createJob m r { app with session }
      = ((createJob m r app).1, { (createJob m r app).2 with session }) := by
  simp only [createJob]
  split
  · rfl
  split
  · rfl
  rename_i job _
  rw [submit_with_session]
  cases submit app job with
  | mk fault app' => cases fault <;> rfl

/-- **What is not about the exploration is the same for every session**, and leaves it as it
is. -/
theorem carryOut_of_explored?_eq_none {c : Circumstances} (h : explored? c r method e = none)
    (m : Moment) (app : App) (session : Option Exploration) :
    carryOut m { app with session } r method e
      = ((carryOut m app r method e).1, { (carryOut m app r method e).2 with session }) := by
  cases e with
  | service => rfl
  | jobs =>
    simp only [carryOut]
    split <;> first | contradiction | rfl | exact createJob_with_session m r app session
  | job id =>
    show answered m.now _ _ = _
    simp only [carryOut, answered]
    cases namedJob app.history id <;> rfl
  | jobScenario id =>
    show answered m.now _ _ = _
    simp only [carryOut, answered]
    cases namedJob app.history id <;> rfl
  | scenario | scratchpad | activeActions | unit | applicableActions | plan | front | solution =>
    cases h

@[inherit_doc carryOut_of_explored?_eq_none]
theorem session_carryOut_of_explored?_eq_none {c : Circumstances}
    (h : explored? c r method e = none) (m : Moment) (app : App) :
    (carryOut m app r method e).2.session = app.session :=
  congrArg (·.2.session) (carryOut_of_explored?_eq_none h m app app.session)

/-! ## Where a request is carried out -/

/-- At an endpoint a request is answered without carrying anything out, or a method is carried
out at the endpoint with its parameter decoded. -/
theorem respond_eq_carryOut (m : Moment) (r : Request) (method : String) (e₀ : Endpoint) :
    (∃ response, ∀ app, respond m app r method e₀ = (response, app))
      ∨ ∃ e, e₀.decoded = .ok e
        ∧ ∀ app, respond m app r method e₀ = carryOut m app r method e := by
  unfold respond
  cases e₀.decoded with
  | error name => exact .inl ⟨_, fun app => rfl⟩
  | ok e =>
    by_cases hlong : readsBody method ∧ bodyLimit < r.body.size
    · exact .inl ⟨_, fun app => if_pos hlong⟩
    · exact .inr ⟨e, rfl, fun app => if_neg hlong⟩

/-- **Where a request is carried out is decided from the request alone.** Either it is
answered without that, or a method is carried out at the endpoint that the path leads to: its
own method, or `GET` in place of `HEAD`, in which case the body is left out of the response. -/
theorem handle_eq_carryOut (m : Moment) (r : Request) :
    (∃ response, ∀ app, handle m app r = (response, app))
      ∨ ∃ (e₀ e : Endpoint) (method : String) (shown : Response → Response),
        Endpoint.ofPath? r.path = some e₀ ∧ e₀.decoded = .ok e
          ∧ (method = r.method ∨ r.method = "HEAD" ∧ method = "GET")
          ∧ ∀ app, handle m app r
            = (shown (carryOut m app r method e).1, (carryOut m app r method e).2) := by
  unfold handle
  by_cases hoptions : r.method = "OPTIONS"
  · exact .inl ⟨_, fun app => if_pos hoptions⟩
  simp only [if_neg hoptions]
  cases Endpoint.ofPath? r.path with
  | none => exact .inl ⟨_, fun app => rfl⟩
  | some e₀ =>
    by_cases htakes : r.method ∈ e₀.methods
    · simp only [if_pos htakes]
      obtain ⟨response, hrespond⟩ | ⟨e, hdecoded, hrespond⟩ :=
        respond_eq_carryOut m r r.method e₀
      · exact .inl ⟨response, hrespond⟩
      · exact .inr ⟨e₀, e, r.method, id, rfl, hdecoded, .inl rfl, hrespond⟩
    · simp only [if_neg htakes]
      by_cases hhead : r.method = "HEAD"
      · simp only [if_pos hhead]
        obtain ⟨response, hrespond⟩ | ⟨e, hdecoded, hrespond⟩ :=
          respond_eq_carryOut m r "GET" e₀
        · exact .inl ⟨response.withoutBody, fun app => by rw [hrespond]⟩
        · exact .inr ⟨e₀, e, "GET", Response.withoutBody, rfl, hdecoded, .inr ⟨hhead, rfl⟩,
            fun app => by rw [hrespond]⟩
      · exact .inl ⟨_, fun app => if_neg hhead⟩

/-- Decoding a parameter does not lead to another kind of endpoint. -/
theorem isSome_explored?_of_decoded {e₀ : Endpoint} (h : e₀.decoded = .ok e)
    (c c' : Circumstances) (method' : String) :
    (explored? c r method e).isSome = (explored? c' r method' e₀).isSome := by
  unfold Endpoint.decoded at h
  split at h
  · obtain rfl := Except.ok.inj h
    cases e₀ <;> rfl
  · split at h
    · obtain rfl := Except.ok.inj h
      cases e₀ <;> rfl
    · cases h

end Api

end CatchmentPlanning
