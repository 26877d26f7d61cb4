import CatchmentPlanning.Json.Printer
import CatchmentPlanning.Plan.Basic

/-!
# Updates of a planning unit

The actions of one planning unit are taken or dropped by attributes: each is
named for a kind of action at the unit, and its value is `Active` or `Inactive`,
or `true` or `false`. An update is carried out as a whole or not at all.
-/

namespace CatchmentPlanning

namespace UnitUpdate

/-- The value of an action that is taken. -/
def activeText : String := "Active"

/-- The value of an action that is not taken. -/
def inactiveText : String := "Inactive"

/-- What may be wrong with an attribute. -/
inductive Violation where
  | notAState (kind : String) (found : Json)
  | notApplicable (kind : String) (unit : Nat)

/-- What is wrong, in words. -/
def Violation.message : Violation → String
  | notAState kind found =>
    "[" ++ kind ++ "]: [" ++ found.compact ++ "] is neither " ++ activeText ++ " nor "
      ++ inactiveText
  | notApplicable kind unit =>
    "[" ++ kind ++ "] is not applicable to subcatchment [" ++ toString unit ++ "]"

/-- The report on an update that is at fault. -/
def report (unit : Nat) (violations : List Violation) : Problems :=
  ⟨"invalid actions for subcatchment [" ++ toString unit ++ "]",
    violations.map Violation.message⟩

/-- What a value says about its action. -/
def state? : Json → Option Bool
  | .str s => if s = activeText then some true else if s = inactiveText then some false else none
  | .bool b => some b
  | _ => none

/-- The change that an attribute asks for. -/
def change (c : Catchment) (unit : Nat) (entry : String × Json) :
    Except Violation (String × Bool) :=
  match state? entry.2 with
  | none => .error (.notAState entry.1 entry.2)
  | some active =>
    if (c.actionsAt unit).any (·.kind == entry.1) then .ok (entry.1, active)
    else .error (.notApplicable entry.1 unit)

/-- The violations among the attributes, in order. -/
def violations (c : Catchment) (unit : Nat) (entries : Named Json) : List Violation :=
  entries.filterMap fun e =>
    match change c unit e with
    | .error v => some v
    | .ok _ => none

/-- The changes that the attributes ask for, in order. -/
def changes (c : Catchment) (unit : Nat) (entries : Named Json) : List (String × Bool) :=
  entries.filterMap fun e => (change c unit e).toOption

/-- The attributes that show a planning unit: its kinds of action, each with
whether it is taken. -/
def shown (p : Plan) (unit : Nat) : Attributes :=
  Attributes.empty.setAll ((p.actionsAt unit).map fun (a, active) =>
    (a.kind, .str (if active then activeText else inactiveText)))

end UnitUpdate

end CatchmentPlanning
