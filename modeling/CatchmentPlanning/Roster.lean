import CatchmentPlanning.Front
import CatchmentPlanning.Plan.Solution

/-!
# Rosters of plans

An exploration keeps its plans on a roster, under labels. Two plans are always
there: **As-Is** takes no action and stays as it is, and **Scratchpad** is the
one that clients edit. Clients add further plans by naming their actions with a
token; such a plan starts out from As-Is, never from what stood under its label
before.

Each entry shows its plan as a solution. The solution is taken when the entry
is made and again when it is updated; in between it may lag behind the plan.
-/

namespace CatchmentPlanning

namespace Roster

/-- Where an entry comes from. -/
inductive Origin where
  | reserved
  | client
deriving Repr, DecidableEq

/-- A plan under a label, and the solution that shows it. -/
structure Entry where
  label : String
  plan : Plan
  solution : Solution
  origin : Origin

namespace Entry

/-- An entry that shows its plan as it is. -/
def ofPlan (label : String) (plan : Plan) (origin : Origin) : Entry :=
  ⟨label, plan, plan.solution label, origin⟩

/-- Shows the plan as it is now. -/
def update (e : Entry) : Entry := { e with solution := e.plan.solution e.label }

/-- Brings the derived attributes of the plan up to date with the loaded front,
and shows the plan as it is then. -/
def refresh (e : Entry) (front : Option Front) : Entry :=
  let onFront := front.map fun f => f.onFront e.plan.token
  update { e with plan := e.plan.refresh onFront }

/-- Changes the plan, and not the solution that shows it. -/
def edit (e : Entry) (change : Plan → Plan) : Entry := { e with plan := change e.plan }

end Entry

/-- Why a roster refuses. -/
inductive Fault where
  | protectedLabel (label : String)
  | alreadyThere (label : String)
  | unknownLabel (label : String)
  | invalidToken (label token : String) (fault : Token.Fault)
deriving Repr, DecidableEq

/-- What is wrong, in words. -/
def Fault.message : Fault → String
  | protectedLabel label =>
    "model [" ++ label ++ "] is protected and cannot be re-instantiated"
  | alreadyThere label => "model [" ++ label ++ "] has already been instantiated"
  | unknownLabel label => "no model labelled [" ++ label ++ "]"
  | invalidToken label token fault =>
    "encoding [" ++ token ++ "] cannot be applied to model [" ++ label ++ "]: " ++ fault.message

/-- A copy of a plan that takes the actions named by a token, with a summary of
its own. -/
def variant (asIs : Plan) (label token summary : String) : Except Fault Plan :=
  match asIs.decode token with
  | .ok p => .ok ((p.describe Plan.summaryName (.str summary)).refresh none)
  | .error e => .error (.invalidToken label token e)

end Roster

/-- The labelled plans of an exploration. -/
structure Roster where
  asIs : Roster.Entry
  scratchpad : Roster.Entry
  /-- The plans that clients have added, the latest first. -/
  clients : List Roster.Entry

namespace Roster

/-- The roster with the two reserved plans, neither of which takes an action. -/
def initial (p : Plan) : Roster :=
  let p := p.withFlags (List.replicate p.flags.length false)
  let reserved (label summary : String) : Entry :=
    .ofPlan label ((p.describe Plan.summaryName (.str summary)).refresh none) .reserved
  { asIs := reserved asIsLabel "As-Is Model. No active management actions."
    scratchpad := reserved scratchpadLabel "Scratchpad"
    clients := [] }

/-- The entry under a label. -/
def find? (r : Roster) (label : String) : Option Entry :=
  if label = asIsLabel then some r.asIs
  else if label = scratchpadLabel then some r.scratchpad
  else r.clients.find? (·.label = label)

/-- Whether there is a plan under a label. -/
def contains (r : Roster) (label : String) : Bool := (r.find? label).isSome

/-- All entries. -/
def entries (r : Roster) : List Entry := r.asIs :: r.scratchpad :: r.clients

/-- All labels, sorted. -/
def labels (r : Roster) : List String :=
  (r.entries.map (·.label)).mergeSort fun a b => decide (a ≤ b)

/-- Changes the entry under a label, if there is one. -/
def modify (r : Roster) (label : String) (change : Entry → Entry) : Roster :=
  if label = asIsLabel then { r with asIs := change r.asIs }
  else if label = scratchpadLabel then { r with scratchpad := change r.scratchpad }
  else { r with clients := r.clients.map fun e => if e.label = label then change e else e }

/-- Shows the plan under a label as it is now. -/
def update (r : Roster) (label : String) : Except Fault Roster :=
  if r.contains label then .ok (r.modify label Entry.update) else .error (.unknownLabel label)

/-- Brings the plan under a label up to date with the loaded front. -/
def refresh (r : Roster) (label : String) (front : Option Front) : Except Fault Roster :=
  if r.contains label then .ok (r.modify label (·.refresh front))
  else .error (.unknownLabel label)

/-- Puts a plan that takes the actions named by a token under a label. Only the
scratchpad may be put anew, and As-Is never. -/
def instantiate (r : Roster) (label token summary : String) : Except Fault Roster :=
  if label = asIsLabel then .error (.protectedLabel label)
  else if label = scratchpadLabel then do
    let plan ← variant r.asIs.plan label token summary
    return { r with scratchpad := .ofPlan label plan .reserved }
  else if r.contains label then .error (.alreadyThere label)
  else do
    let plan ← variant r.asIs.plan label token summary
    return { r with clients := .ofPlan label plan .client :: r.clients }

@[simp] theorem find?_asIs (r : Roster) : r.find? asIsLabel = some r.asIs := by
  simp [find?]

@[simp] theorem find?_scratchpad (r : Roster) :
    r.find? scratchpadLabel = some r.scratchpad := by
  simp [find?, asIsLabel, scratchpadLabel]

end Roster

end CatchmentPlanning
