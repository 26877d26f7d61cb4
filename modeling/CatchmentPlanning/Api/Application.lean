import CatchmentPlanning.Api.Endpoint
import CatchmentPlanning.Api.Exploring
import CatchmentPlanning.Job.Worker

/-!
# The application

The state of the application is the exploration of the loaded scenario, the jobs
with their queue, and the service. Two listeners answer requests: the API for
clients, and the admin listener for the operator. Answering a request is a
function of the state, the request, and what the request is answered with
besides – the time, and an identifier for a job it may create.
-/

namespace CatchmentPlanning

namespace Api

/-- The state of the application. -/
structure App where
  /-- The exploration of the loaded scenario. -/
  session : Option Exploration
  history : History
  queue : Queue
  service : Service
  /-- How many seconds a view may be cached. -/
  cacheAge : Nat

/-- What comes with a request from outside. -/
structure Moment where
  now : String
  /-- An identifier that no job has. -/
  freshId : JobId

/-- The application before its first request. -/
def App.initial (session : Option Exploration) (serviceName : String)
    (capacity cacheAge : Nat) : App :=
  ⟨session, .empty, .new capacity, .new serviceName, cacheAge⟩

/-! ## Jobs -/

/-- The job that a parameter names. -/
def namedJob (h : History) (id : String) : Except Refusal Job :=
  match JobId.read? id with
  | none => .error ⟨.notFound, "no job [" ++ id ++ "]"⟩
  | some id =>
    match h.find? id with
    | some job => .ok job
    | none => .error ⟨.notFound, "no job [" ++ id.text ++ "]"⟩

/-- Puts a job whose scenario has been read into the history and lets it wait for
the worker; if it cannot wait it is taken out of the history again. -/
def submit (app : App) (job : Job) : Option Queue.Fault × App :=
  let history := app.history.add job
  match app.queue.enqueue job.id with
  | .ok queue => (none, { app with history, queue })
  | .error e => (some e, { app with history := history.remove job.id })

/-- Creates a job from a posted scenario. A job whose scenario is at fault goes
into the history and no further. -/
def createJob (m : Moment) (r : Request) (app : App) : Response × App :=
  let text : Except Refusal String := do
    requireMedia r .toml
    bodyText r
  match text with
  | .error e => (e.response m.now, app)
  | .ok text =>
    match (Job.new m.freshId m.now text).parse m.now with
    | (some fault, job) =>
      ((Refusal.failed ("job [" ++ job.id.text ++ "] is invalid") fault.message).response m.now,
        { app with history := app.history.add job })
    | (none, job) =>
      match submit app job with
      | (none, app) => (.view job.view .noCache 201, app)
      | (some e, app) => ((Refusal.ofQueue e).response m.now, app)

/-- Takes the worker through the jobs that wait, unless shutdown has been
requested; either way a new queue follows the one that was drained. Also answers
the scenarios that were run. -/
def App.runJobs (app : App) (runner : Runner) (now : String) : List Scenario × App :=
  let waiting := if app.service.cancelled then [] else app.queue.waiting
  let (ran, history) := Worker.drain runner now app.history waiting
  (ran, { app with history, queue := .new app.queue.capacity })

/-! ## Answering -/

/-- A response that leaves the state as it is. -/
def answered (now : String) (app : App) (result : Except Refusal Response) : Response × App :=
  match result with
  | .ok response => (response, app)
  | .error e => (e.response now, app)

/-- A response to a request that is carried out on the session step by step. What
its steps leave is kept, also when it is refused. -/
def changed (now : String) (app : App) (work : Handling Response) : Response × App :=
  match work app.session with
  | .ok response session => (response, { app with session })
  | .error e session => (e.response now, { app with session })

/-- Carries out a method at an endpoint that takes it. -/
def carryOut (m : Moment) (app : App) (r : Request) (method : String) (e : Endpoint) :
    Response × App :=
  let c : Circumstances := ⟨m.now, app.cacheAge⟩
  let x := app.session
  let read := answered m.now app
  let change := changed m.now app
  match e, method with
  | .service, _ => (⟨200, some .json, none, .json (app.service.view m.now)⟩, app)
  | .scenario, "POST" => change (loadScenario c r)
  | .scenario, _ => read (readScenario c x)
  | .scratchpad, "PATCH" => change (describeScratchpad c r)
  | .scratchpad, _ => read (readScratchpad c x)
  | .activeActions, "PUT" => change (applyActionTable c r)
  | .activeActions, _ => read (readActiveActions c x)
  | .unit id, "POST" => change (updateUnit c id r)
  | .unit id, _ => read (readUnit c id x)
  | .applicableActions id, _ => read (readApplicableActions c id x)
  | .plan label, "POST" => change (addPlan c label r)
  | .plan label, _ => read (readPlan c label x)
  | .front, "POST" => change (loadFront c r)
  | .front, _ => read (readFront c x)
  | .solution label, _ => change (readSolution c label)
  | .jobs, "POST" => createJob m r app
  | .jobs, "DELETE" =>
    let (purged, history) := app.history.purge
    (.view (.arr (purged.map Job.view)) .noCache, { app with history })
  | .jobs, _ => (.view (.arr (app.history.jobs.map Job.view)) c.caching, app)
  | .job id, _ => read do
    return .view (← namedJob app.history id).view c.caching
  | .jobScenario id, _ => read do
    return .posted .toml (← namedJob app.history id).text .anyone

/-- How many bytes a body may have. -/
def bodyLimit : Nat := 2 ^ 21

/-- Whether a method comes with a body that is looked at. -/
def readsBody (method : String) : Bool := method = "POST" || method = "PUT" || method = "PATCH"

/-- Answers a request at an endpoint that takes its method: the parameter is
decoded first, and an oversized body is refused before anything else is looked
at. -/
def respond (m : Moment) (app : App) (r : Request) (method : String) (e : Endpoint) :
    Response × App :=
  match e.decoded with
  | .error name =>
    (.plain 400 ("Invalid URL: Invalid UTF-8 in \x60" ++ name ++ "\x60"), app)
  | .ok e =>
    if readsBody method ∧ bodyLimit < r.body.size then
      (.plain 413 "Failed to buffer the request body: length limit exceeded", app)
    else carryOut m app r method e

/-- **The API listener.** `OPTIONS` is answered for every path, and `HEAD` like
`GET` but without a body. -/
def handle (m : Moment) (app : App) (r : Request) : Response × App :=
  if r.method = "OPTIONS" then (⟨200, none, none, .empty⟩, app)
  else
    match Endpoint.ofPath? r.path with
    | none => ((Refusal.noResource r.path).response m.now, app)
    | some e =>
      if r.method ∈ e.methods then respond m app r r.method e
      else if r.method = "HEAD" then
        let (response, app) := respond m app r "GET" e
        (response.withoutBody, app)
      else
        ((Refusal.methodNotAllowed r.method (Endpoint.localPath r.path)).response m.now, app)

/-- **The admin listener.** It shows the status of the service and takes the
request for shutdown. -/
def handleAdmin (m : Moment) (app : App) (r : Request) : Response × App :=
  let refuse (e : Refusal) : Response × App := (e.response m.now, app)
  let status : Response := ⟨200, some .json, none, .json (app.service.view m.now)⟩
  match r.path, r.method with
  | "/status", "GET" => (status, app)
  | "/status", "HEAD" => (status.withoutBody, app)
  | "/shutdown", "POST" =>
    (.success m.now "service is shutting down",
      { app with service := app.service.requestShutdown })
  | "/status", method => refuse (.methodNotAllowed method r.path)
  | "/shutdown", method => refuse (.methodNotAllowed method r.path)
  | path, _ => refuse (.noResource path)

end Api

end CatchmentPlanning
