import CatchmentPlanning.Text.Named

/-!
# Catchments

A catchment is divided into planning units. In each unit management actions of
several kinds can be taken, and each action that is taken shifts the values of
decision variables – a sediment load, a cost – away from where they stand when
nothing is done. Limits say how far a variable may rise.

A catchment says what can be done; which actions are taken is a sequence of
flags, one for each action in order.
-/

namespace CatchmentPlanning

/-- A management action that can be taken in a planning unit. -/
structure Action where
  /-- The planning unit. -/
  unit : Nat
  /-- What kind of action it is; unique within the unit. -/
  kind : String
  /-- By how much the action shifts each decision variable it affects. -/
  effects : Named Float

/-- A decision variable. -/
structure Variable where
  name : String
  /-- The unit of measure. -/
  measure : String
  /-- The value when no action is taken. -/
  base : Float

/-- The largest value that a variable may have. -/
structure Limit where
  /-- The name of the variable. -/
  name : String
  maximum : Float

/-- What can be done in a catchment. -/
structure Catchment where
  name : String
  /-- The planning units, in the order of their declaration. -/
  units : List Nat
  /-- The actions, unit by unit. -/
  actions : List Action
  decisionVariables : List Variable
  limits : List Limit

namespace Catchment

/-- The names of the decision variables, in order. -/
def variableNames (c : Catchment) : List String := c.decisionVariables.map (·.name)

/-- Every kind of action there is, sorted, each once. -/
def actionKinds (c : Catchment) : List String :=
  ((c.actions.map (·.kind)).mergeSort fun a b => decide (a ≤ b)).eraseDups

/-- Whether a planning unit belongs to the catchment. -/
def hasUnit (c : Catchment) (unit : Nat) : Bool := c.units.contains unit

/-- The actions of a planning unit. -/
def actionsAt (c : Catchment) (unit : Nat) : List Action :=
  c.actions.filter (·.unit == unit)

/-- Where the action of a kind at a unit stands among the actions. -/
def position? (c : Catchment) (unit : Nat) (kind : String) : Option Nat :=
  c.actions.findIdx? fun a => a.unit == unit && a.kind == kind

/-- The value of a variable when the flagged actions are taken: its base value
shifted by one effect after the other, in the order of the actions. -/
def total (c : Catchment) (flags : List Bool) (v : Variable) : Float :=
  (c.actions.zip flags).foldl (fun sum (action, active) =>
    if active then
      match Named.valueOf? v.name action.effects with
      | some delta => sum + delta
      | none => sum
    else sum) v.base

/-- The value of the variable of a name when the flagged actions are taken. -/
def value? (c : Catchment) (flags : List Bool) (name : String) : Option Float :=
  (c.decisionVariables.find? (·.name == name)).map (c.total flags)

/-- The limits that are exceeded when the flagged actions are taken, in order,
each with the value that exceeds it. -/
def breaches (c : Catchment) (flags : List Bool) : List (Limit × Float) :=
  c.limits.filterMap fun limit =>
    (c.value? flags limit.name).bind fun x =>
      if limit.maximum < x then some (limit, x) else none

/-- Whether no limit is exceeded. -/
def isFeasible (c : Catchment) (flags : List Bool) : Bool := (c.breaches flags).isEmpty

/-- An action that is found at a position is the action asked for. -/
theorem getElem?_of_position? {c : Catchment} {unit : Nat} {kind : String} {i : Nat}
    (h : c.position? unit kind = some i) :
    ∃ a, c.actions[i]? = some a ∧ a.unit = unit ∧ a.kind = kind := by
  obtain ⟨hi, hp, -⟩ := List.findIdx?_eq_some_iff_getElem.mp h
  exact ⟨c.actions[i], List.getElem?_eq_getElem hi, by simpa using hp⟩

end Catchment

end CatchmentPlanning
