import CatchmentPlanning.Gallery
import CatchmentPlanning.Scenario.Interpretation
import CatchmentPlanning.Steps

/-!
# Explorations

An exploration is everything that is tied to the loaded scenario: its text, the
roster of plans, the front if one is loaded, and the solutions built from the
front so far. It is changed in place and in steps; `loadFront` and `instantiate`
say what is left when all of them have been taken.
-/

namespace CatchmentPlanning

/-- The exploration of a scenario. -/
structure Exploration where
  /-- The scenario as it was posted. -/
  text : String
  scenario : Scenario
  roster : Roster
  front : Option Front
  gallery : Gallery

namespace Exploration

/-- Starts the exploration of a scenario. -/
def load (text : String) : Except Scenario.Fault Exploration := do
  let scenario ← Scenario.read text
  let catchment ← scenario.interpret
  return {
    text, scenario
    roster := Roster.initial (Plan.idle catchment)
    front := none
    gallery := Gallery.empty }

/-- The plan that takes no action. -/
def asIs (x : Exploration) : Plan := x.roster.asIs.plan

/-- The plan that clients edit. -/
def scratchpad (x : Exploration) : Plan := x.roster.scratchpad.plan

/-- Brings the plan under a label up to date with the loaded front. -/
def refresh (x : Exploration) (label : String) : Except Roster.Fault Exploration :=
  (x.roster.refresh label x.front).map fun roster => { x with roster }

/-- The exploration with another plan on the scratchpad. The solution that shows
the scratchpad lags behind. -/
def withScratchpad (x : Exploration) (p : Plan) : Exploration :=
  { x with roster := { x.roster with scratchpad := x.roster.scratchpad.edit fun _ => p } }

/-! ## Changes in place -/

/-- Brings the plan under a label up to date with the loaded front. -/
def refreshing (label : String) : EStateM Roster.Fault Exploration Unit :=
  Steps.change (·.refresh label)

/-- Changes the plan on the scratchpad, and not the solution that shows it. -/
def changingScratchpad {ε : Type} (f : Plan → Except ε Plan) : EStateM ε Exploration Unit :=
  Steps.change fun x => (f x.scratchpad).map x.withScratchpad

/-- Takes a front over in place of the one loaded before. What was built from
that one is forgotten, and the scratchpad is brought up to date. -/
def replacingFront (text : String) : EStateM Front.Fault Exploration Unit := do
  let front ← Front.ingest text (← get).asIs
  modify fun x => { x with gallery := Gallery.empty }
  modify fun x => { x with front := some front }
  (refreshing scratchpadLabel).adaptExcept fun e => .scratchpad e.message

/-- Puts a plan under a label, brings it up to date with the loaded front, and
answers the solution that shows it. -/
def instantiating (label token summary : String) :
    EStateM Roster.Fault Exploration Solution := do
  Steps.change fun x =>
    (x.roster.instantiate label token summary).map fun roster => { x with roster }
  refreshing label
  match (← get).roster.find? label with
  | some e => return e.solution
  | none => throw (.unknownLabel label)

/-- The exploration once a front has been taken over. -/
def loadFront (x : Exploration) (text : String) : Except Front.Fault Exploration :=
  (Steps.outcome (replacingFront text) x).map (·.2)

/-- The exploration once a plan has been put under a label. -/
def instantiate (x : Exploration) (label token summary : String) :
    Except Roster.Fault Exploration :=
  (Steps.outcome (instantiating label token summary) x).map (·.2)

/-! ## Solutions of the front -/

/-- The solution for the row of the loaded front with a label, if there is such
a row. It is built when it is first asked for. Plans on the roster do not
count. -/
def solution (x : Exploration) (label : String) :
    Except Roster.Fault (Option Solution × Exploration) :=
  match x.front with
  | none => .ok (none, x)
  | some front =>
    match front.row? label with
    | none => .ok (none, x)
    | some row =>
      match x.gallery.solution? label with
      | some s => .ok (some s, x)
      | none =>
        match x.gallery.materialise x.asIs label row.token row.summary front with
        | .ok (s, gallery) => .ok (some s, { x with gallery })
        | .error e => .error e

/-- Looks the solution for a row up, and keeps it if it had to be built. -/
def lookingUp (label : String) : EStateM Roster.Fault Exploration (Option Solution) := fun x =>
  match x.solution label with
  | .ok (s, x) => .ok s x
  | .error e => .error e x

@[simp] theorem asIs_withScratchpad (x : Exploration) (p : Plan) :
    (x.withScratchpad p).asIs = x.asIs := rfl

@[simp] theorem scratchpad_withScratchpad (x : Exploration) (p : Plan) :
    (x.withScratchpad p).scratchpad = p := rfl

end Exploration

end CatchmentPlanning
