import CatchmentPlanning.Plan.Basic

/-!
# Solutions

A solution is what a client is shown of a plan: its label, its description, the
values of its decision variables, its token, and the kinds of action taken and
not taken in each planning unit. It is taken from a plan at one moment and does
not follow the plan afterwards.
-/

namespace CatchmentPlanning

/-- The value of a decision variable, with its unit of measure. -/
structure VariableValue where
  name : String
  value : Float
  measure : String

/-- What a client is shown of a plan. -/
structure Solution where
  id : String
  attributes : Attributes
  decisionVariables : List VariableValue
  token : String
  units : List Nat
  /-- The kinds of action taken in each unit where any is, sorted. -/
  active : List (Nat × List String)
  /-- The kinds of action not taken in each unit where there is one, sorted. -/
  inactive : List (Nat × List String)

namespace Plan

/-- The values of the decision variables with their names and units of measure. -/
def variableValues (p : Plan) : List VariableValue :=
  p.catchment.decisionVariables.map fun v => ⟨v.name, p.catchment.total p.flags v, v.measure⟩

/-- The kinds of action at a unit that are taken, or not taken, sorted. -/
def kindsAt (p : Plan) (active : Bool) (unit : Nat) : List String :=
  (((p.actionsAt unit).filter (·.2 == active)).map (·.1.kind)).mergeSort
    fun a b => decide (a ≤ b)

/-- The units in ascending order, each with its kinds of action that are taken,
or not taken; units without any are left out. -/
def side (p : Plan) (active : Bool) : List (Nat × List String) :=
  ((p.catchment.units.mergeSort fun a b => decide (a ≤ b)).map
    fun unit => (unit, p.kindsAt active unit)).filter (!·.2.isEmpty)

/-- The solution that shows a plan under a label. -/
def solution (p : Plan) (id : String) : Solution where
  id := id
  attributes := p.attributes
  decisionVariables := p.variableValues
  token := p.token
  units := p.catchment.units
  active := p.side true
  inactive := p.side false

end Plan

end CatchmentPlanning
