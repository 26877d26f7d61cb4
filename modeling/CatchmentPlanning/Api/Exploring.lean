import CatchmentPlanning.Api.ActionTable
import CatchmentPlanning.Api.Refusal
import CatchmentPlanning.Api.UnitUpdate
import CatchmentPlanning.Api.View
import CatchmentPlanning.Exploration

/-!
# Requests about the exploration

Requests below `/scenario`, `/model`, `/models` and `/solutions` read or change
the exploration of the loaded scenario. One that only reads is a function from
the exploration to a response or a refusal. One that changes something is
carried out on the session step by step, and a refusal leaves the session as the
steps before it have left it.
-/

namespace CatchmentPlanning

namespace Api

/-- What a request is answered with besides the state of the service. -/
structure Circumstances where
  /-- The time of the request. -/
  now : String
  /-- How many seconds a view may be cached. -/
  cacheAge : Nat

/-- How long a view may be cached. -/
def Circumstances.caching (c : Circumstances) : Caching := .maxAge c.cacheAge

/-! ## What requests have in common -/

/-- The exploration, once a scenario has been loaded. -/
def loaded (session : Option Exploration) : Except Refusal Exploration :=
  match session with
  | some x => .ok x
  | none => .error .noScenario

/-- A request that is carried out on the session step by step. -/
abbrev Handling := EStateM Refusal (Option Exploration)

/-- Work on the exploration, once a scenario has been loaded. -/
def onLoaded {α : Type} (work : EStateM Refusal Exploration α) : Handling α := fun session =>
  match session with
  | none => .error .noScenario none
  | some x =>
    match work x with
    | .ok a x => .ok a (some x)
    | .error e x => .error e (some x)

/-- Refuses a body that is not of a media type. -/
def requireMedia (r : Request) (media : Media) : Except Refusal Unit :=
  if r.isOf media then .ok () else .error (.unsupportedMedia media r.mediaText)

/-- The body as text. -/
def bodyText (r : Request) : Except Refusal String :=
  match String.fromUTF8? r.body with
  | some s => .ok s
  | none => .error (.badRequest "request body is not UTF-8" "invalid byte sequence")

/-- The body as attributes. -/
def bodyAttributes (r : Request) : Except Refusal Attributes :=
  let read : Except String Attributes :=
    match String.fromUTF8? r.body with
    | some s => (Attributes.read s).mapError Attributes.Fault.message
    | none => .error "invalid byte sequence"
  read.mapError (Refusal.badRequest "invalid attribute list")

/-- The planning unit that a parameter names. What is no number is as unknown
as a number that the catchment does not have. -/
def namedUnit (c : Catchment) (id : String) : Except Refusal Nat :=
  match (Text.unsigned? (2 ^ 32) id).filter c.hasUnit with
  | some unit => .ok unit
  | none => .error ⟨.notFound, "no subcatchment [" ++ id ++ "]"⟩

/-! ## The scenario -/

/-- Shows the text of the loaded scenario. -/
def readScenario (c : Circumstances) (session : Option Exploration) :
    Except Refusal Response := do
  let x ← loaded session
  return .posted .toml x.text c.caching

/-- Loads a scenario in place of the one before, and forgets all about that. -/
def loadScenario (c : Circumstances) (r : Request) : Handling Response := do
  requireMedia r .toml
  let text ← bodyText r
  match Exploration.load text with
  | .ok x =>
    set (some x)
    return .success c.now ("scenario [" ++ x.scenario.name ++ "] loaded")
  | .error e => throw (.badRequest "unable to load scenario" e.message)

/-! ## The scratchpad -/

/-- Shows the scratchpad. -/
def readScratchpad (c : Circumstances) (session : Option Exploration) :
    Except Refusal Response := do
  let x ← loaded session
  return .view x.roster.scratchpad.solution.view c.caching

/-- Brings the scratchpad up to date once it has been changed. -/
def refreshScratchpad : EStateM Refusal Exploration Unit :=
  (Exploration.refreshing scratchpadLabel).adaptExcept fun e =>
    .failed "unable to refresh scratchpad" e.message

/-- An `Encoding` among attributes is not kept as it is but names the actions that
the scratchpad takes from now on. Answers the other attributes. -/
def takeEncoding (a : Attributes) : EStateM Refusal Exploration Attributes :=
  match a.get? Plan.encodingName with
  | none => return a
  | some (.str token) => do
    Exploration.changingScratchpad fun p => (p.decode token).mapError fun e =>
      .badRequest ("invalid " ++ Plan.encodingName ++ " [" ++ token ++ "]") e.message
    return a.remove Plan.encodingName
  | some _ => throw ⟨.badRequest, Plan.encodingName ++ " must be a string"⟩

/-- Describes the scratchpad by posted attributes. -/
def describeScratchpad (c : Circumstances) (r : Request) : Handling Response := do
  requireMedia r .json
  onLoaded do
    let a ← bodyAttributes r
    let others ← takeEncoding a
    Exploration.changingScratchpad fun p => .ok (p.describeAll others)
    refreshScratchpad
    return .success c.now ("model updated (" ++ toString others.size ++ " attribute(s))")

/-- Shows which actions the scratchpad takes. -/
def readActiveActions (c : Circumstances) (session : Option Exploration) :
    Except Refusal Response := do
  let x ← loaded session
  let side := x.roster.scratchpad.solution.active
  return .view (.obj [("ActiveManagementActions", sideView side)]) c.caching

/-- What a posted table of actions says about the actions of a plan. -/
def tabledFlags (text : String) (p : Plan) : Except Refusal (List Bool) :=
  (ActionTable.flags text p).mapError fun e => ⟨.badRequest, e.message⟩

/-- Applies a posted table of actions to the scratchpad. -/
def applyActionTable (c : Circumstances) (r : Request) : Handling Response := do
  requireMedia r .csv
  let text ← bodyText r
  onLoaded do
    let flags ← tabledFlags text (← get).scratchpad
    Exploration.changingScratchpad fun p => .ok (p.withFlags flags)
    refreshScratchpad
    let active := flags.countP id
    return .success c.now
      ("active management actions updated (" ++ toString active ++ " active)")

/-- Shows a planning unit of the scratchpad. -/
def readUnit (c : Circumstances) (id : String) (session : Option Exploration) :
    Except Refusal Response := do
  let x ← loaded session
  let unit ← namedUnit x.scratchpad.catchment id
  return .view (.obj [("Id", .int unit),
    ("Attributes", (UnitUpdate.shown x.scratchpad unit).toJson)]) c.caching

/-- Takes, or stops taking, actions of a planning unit one after the other. -/
def setActions (unit : Nat) (changes : List (String × Bool)) :
    EStateM Refusal Exploration Unit :=
  changes.forM fun (kind, active) =>
    Exploration.changingScratchpad fun p => (p.setAction unit kind active).mapError fun e =>
      .badRequest "unable to set action" e.message

/-- Updates a planning unit of the scratchpad by posted attributes. -/
def updateUnit (c : Circumstances) (id : String) (r : Request) : Handling Response := do
  requireMedia r .json
  onLoaded do
    let catchment := (← get).scratchpad.catchment
    let unit ← namedUnit catchment id
    let a ← bodyAttributes r
    match UnitUpdate.violations catchment unit a.entries with
    | [] =>
      let changes := UnitUpdate.changes catchment unit a.entries
      setActions unit changes
      refreshScratchpad
      return .success c.now ("subcatchment [" ++ toString unit ++ "] updated ("
        ++ toString changes.length ++ " action(s))")
    | violations => throw ⟨.badRequest, (UnitUpdate.report unit violations).report⟩

/-- Shows the kinds of action that a planning unit has. -/
def readApplicableActions (c : Circumstances) (id : String) (session : Option Exploration) :
    Except Refusal Response := do
  let x ← loaded session
  let catchment := x.scratchpad.catchment
  let unit ← namedUnit catchment id
  let kinds := (catchment.actionsAt unit).map (·.kind)
  return .view (.obj [("ApplicableActions", textsView kinds)]) c.caching

/-! ## Labelled plans -/

/-- Shows the plan under a label. -/
def readPlan (c : Circumstances) (label : String) (session : Option Exploration) :
    Except Refusal Response := do
  let x ← loaded session
  match x.roster.find? label with
  | some e => return .view e.solution.view c.caching
  | none => throw ⟨.notFound, "no model labelled [" ++ label ++ "]"⟩

/-- The token and the summary among attributes that describe a new plan. -/
def tokenAndSummary (a : Attributes) : Except Refusal (String × String) := do
  let token ←
    match a.text? Plan.encodingName with
    | some token => pure token
    | none =>
      throw ⟨.badRequest, "a string " ++ Plan.encodingName ++ " attribute is required"⟩
  match a.get? Plan.summaryName with
  | none => return (token, "")
  | some (.str summary) => return (token, summary)
  | some _ => throw ⟨.badRequest, Plan.summaryName ++ " must be a string"⟩

/-- Refuses a label under which no plan can be put. -/
def requireFreeLabel (r : Roster) (label : String) : Except Refusal Unit :=
  if label = asIsLabel then
    .error ⟨.methodNotAllowed, "model [" ++ asIsLabel ++ "] cannot be re-instantiated"⟩
  else if label ≠ scratchpadLabel ∧ r.contains label then
    .error ⟨.methodNotAllowed, "model [" ++ label ++ "] already exists"⟩
  else .ok ()

/-- Puts a plan under a label. Whether the label may be used is decided before
the body is looked at. -/
def addPlan (c : Circumstances) (label : String) (r : Request) : Handling Response :=
  onLoaded do
    requireFreeLabel (← get).roster label
    requireMedia r .json
    let a ← bodyAttributes r
    let (token, summary) ← tokenAndSummary a
    let solution ← (Exploration.instantiating label token summary).adaptExcept .ofRoster
    return .success c.now
      ("model [" ++ label ++ "] instantiated from [" ++ solution.token ++ "]")

/-! ## The front -/

/-- Shows the sheet of the loaded front. -/
def readFront (c : Circumstances) (session : Option Exploration) :
    Except Refusal Response := do
  let x ← loaded session
  match x.front with
  | some front => return .posted .csv front.text c.caching
  | none => throw ⟨.notFound, "no solution set has been loaded"⟩

/-- Loads a front in place of the one before. -/
def loadFront (c : Circumstances) (r : Request) : Handling Response := do
  requireMedia r .csv
  let text ← bodyText r
  onLoaded do
    (Exploration.replacingFront text).adaptExcept fun e =>
      .badRequest "solution set rejected" e.message
    let rows := ((← get).front.map (·.rows.length)).getD 0
    return .success c.now ("solution set loaded (" ++ toString rows ++ " solutions)")

/-- Shows the solution for a row of the loaded front. It is built when it is
first asked for. -/
def readSolution (c : Circumstances) (label : String) : Handling Response :=
  onLoaded do
    match ← (Exploration.lookingUp label).adaptExcept .ofRoster with
    | some s => return .view s.view c.caching
    | none => throw ⟨.notFound, "no solution labelled [" ++ label ++ "]"⟩

end Api

end CatchmentPlanning
