import CatchmentPlanning.Json.Basic
import CatchmentPlanning.Toml.Section
import CatchmentPlanning.Toml.Document

/-!
# Scenarios

A scenario is the text that a client posts: the name of the scenario, the
catchment it describes, and how an annealing run over it should be carried out.
This module reads the text; whether what it says makes sense is decided when
the scenario is interpreted.
-/

namespace CatchmentPlanning

namespace Scenario

/-- Where an annealing run starts. -/
inductive InitialState where
  /-- With no action taken. -/
  | asIs
  /-- With each action taken or not as the draw decides. -/
  | random
deriving Repr, DecidableEq

/-- How an annealing run is carried out. -/
structure Annealing where
  /-- The decision variable to make small; the first one unless given. -/
  objective : Option String := none
  temperature : Float := 100.0
  /-- What the temperature is multiplied with after each step. -/
  coolingFactor : Float := 0.99
  maximumIterations : Nat := 1000
  initialState : InitialState := .asIs
  /-- The seed of the draws. -/
  seed : Option Nat := none

/-- The declaration of a decision variable. -/
structure VariableDeclaration where
  name : String
  measure : String
  value : Float

/-- The declaration of an action. -/
structure ActionDeclaration where
  kind : String
  effects : Named Float

/-- The declaration of a planning unit with its actions. -/
structure UnitDeclaration where
  id : Nat
  actions : List ActionDeclaration

/-- The declaration of a limit on a decision variable. -/
structure LimitDeclaration where
  name : String
  maximum : Float

end Scenario

open Scenario in
/-- A scenario as it was declared. -/
structure Scenario where
  name : String
  annealing : Option Annealing
  /-- The type of model that the scenario asks for. -/
  modelType : String
  decisionVariables : List VariableDeclaration
  units : List UnitDeclaration
  limits : List LimitDeclaration

namespace Scenario

open Toml

/-! ## Reading -/

/-- Reads the section on annealing. -/
def Annealing.read (v : Value) : Except Toml.Fault Annealing := do
  let default : Annealing := {}
  let s ← v.fields ["Objective", "Temperature", "CoolingFactor", "MaximumIterations",
    "InitialState", "Seed"]
  return {
    objective := ← s.optional "Objective" Value.text
    temperature := ← s.withDefault "Temperature" Value.number default.temperature
    coolingFactor := ← s.withDefault "CoolingFactor" Value.number default.coolingFactor
    maximumIterations :=
      ← s.withDefault "MaximumIterations" (Value.whole (2 ^ 64)) default.maximumIterations
    initialState :=
      ← s.withDefault "InitialState"
        (Value.choice [("AsIs", InitialState.asIs), ("Random", InitialState.random)])
        default.initialState
    seed := ← s.optional "Seed" (Value.whole (2 ^ 64)) }

/-- Reads the declaration of a decision variable. -/
def VariableDeclaration.read (v : Value) : Except Toml.Fault VariableDeclaration := do
  let s ← v.fields ["Name", "UnitOfMeasure", "Value"]
  return {
    name := ← s.required "Name" Value.text
    measure := ← s.withDefault "UnitOfMeasure" Value.text ""
    value := ← s.withDefault "Value" Value.number 0.0 }

/-- Reads the declaration of an action. -/
def ActionDeclaration.read (v : Value) : Except Toml.Fault ActionDeclaration := do
  let s ← v.fields ["Type", "Effects"]
  return {
    kind := ← s.required "Type" Value.text
    effects := ← s.withDefault "Effects" (Value.entriesOf Value.number) [] }

/-- Reads the declaration of a planning unit. -/
def UnitDeclaration.read (v : Value) : Except Toml.Fault UnitDeclaration := do
  let s ← v.fields ["Id", "Actions"]
  return {
    id := ← s.required "Id" (Value.whole (2 ^ 32))
    actions := ← s.withDefault "Actions" (Value.list ActionDeclaration.read) [] }

/-- Reads the declaration of a limit. -/
def LimitDeclaration.read (v : Value) : Except Toml.Fault LimitDeclaration := do
  let s ← v.fields ["Variable", "Maximum"]
  return {
    name := ← s.required "Variable" Value.text
    maximum := ← s.required "Maximum" Value.number }

/-- Reads a scenario from a document. -/
def ofDocument (document : Value) : Except Toml.Fault Scenario := do
  let s ← document.fields ["Scenario", "Annealer", "Model"]
  let name ← s.required "Scenario" fun v => do
    (← v.fields ["Name"]).required "Name" Value.text
  let annealing ← s.optional "Annealer" Annealing.read
  s.required "Model" fun v => do
    let m ← v.fields ["Type", "DecisionVariables", "PlanningUnits", "Limits"]
    return {
      name, annealing
      modelType := ← m.required "Type" Value.text
      decisionVariables :=
        ← m.withDefault "DecisionVariables" (Value.list VariableDeclaration.read) []
      units := ← m.withDefault "PlanningUnits" (Value.list UnitDeclaration.read) []
      limits := ← m.withDefault "Limits" (Value.list LimitDeclaration.read) [] }

/-- How the annealing run is carried out, with what the scenario leaves open
filled in. -/
def annealingOrDefault (s : Scenario) : Annealing := s.annealing.getD {}

/-! ## Writing -/

/-- A text that may be missing. -/
def optionalText : Option String → Json
  | some s => .str s
  | none => .null

/-- A starting state by name. -/
def InitialState.name : InitialState → String
  | asIs => "AsIs"
  | random => "Random"

/-- The section on annealing. -/
def Annealing.toJson (a : Annealing) : Json :=
  .obj [
    ("Objective", optionalText a.objective),
    ("Temperature", .float a.temperature),
    ("CoolingFactor", .float a.coolingFactor),
    ("MaximumIterations", .int a.maximumIterations),
    ("InitialState", .str a.initialState.name),
    ("Seed", match a.seed with | some n => .int n | none => .null)]

/-- The declaration of a decision variable. -/
def VariableDeclaration.toJson (v : VariableDeclaration) : Json :=
  .obj [("Name", .str v.name), ("UnitOfMeasure", .str v.measure), ("Value", .float v.value)]

/-- The declaration of an action. -/
def ActionDeclaration.toJson (a : ActionDeclaration) : Json :=
  .obj [("Type", .str a.kind), ("Effects", .obj (a.effects.map fun (n, x) => (n, .float x)))]

/-- The declaration of a planning unit. -/
def UnitDeclaration.toJson (u : UnitDeclaration) : Json :=
  .obj [("Id", .int u.id), ("Actions", .arr (u.actions.map ActionDeclaration.toJson))]

/-- The declaration of a limit. -/
def LimitDeclaration.toJson (l : LimitDeclaration) : Json :=
  .obj [("Variable", .str l.name), ("Maximum", .float l.maximum)]

/-- A scenario, section by section. -/
def toJson (s : Scenario) : Json :=
  let annealing :=
    match s.annealing with
    | some a => [("Annealer", a.toJson)]
    | none => []
  .obj (("Scenario", .obj [("Name", .str s.name)]) :: annealing ++
    [("Model", .obj [
      ("Type", .str s.modelType),
      ("DecisionVariables", .arr (s.decisionVariables.map VariableDeclaration.toJson)),
      ("PlanningUnits", .arr (s.units.map UnitDeclaration.toJson)),
      ("Limits", .arr (s.limits.map LimitDeclaration.toJson))])])

end Scenario

end CatchmentPlanning
