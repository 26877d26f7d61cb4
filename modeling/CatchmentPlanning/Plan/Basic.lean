import CatchmentPlanning.Attributes
import CatchmentPlanning.Decimal.Layout
import CatchmentPlanning.Catchment
import CatchmentPlanning.Problems
import CatchmentPlanning.Token

/-!
# Plans

A plan is a catchment together with the actions that are taken in it, and
attributes that describe it. Four attributes are **derived** from the flags:
the token, whether the plan lies on the loaded front of solutions, whether the
plan keeps within the limits, and the report of the limits it exceeds. They are
brought up to date by `refresh` and by nothing else.
-/

namespace CatchmentPlanning

/-- The names under which a plan describes itself. -/
def Plan.encodingName : String := "Encoding"
@[inherit_doc Plan.encodingName]
def Plan.summaryName : String := "Summary"
@[inherit_doc Plan.encodingName]
def Plan.frontMemberName : String := "ParetoFrontMember"
@[inherit_doc Plan.encodingName]
def Plan.validName : String := "ValidAgainstScenario"
@[inherit_doc Plan.encodingName]
def Plan.errorsName : String := "ValidationErrors"

/-- A choice of management actions in a catchment, with its description. -/
structure Plan where
  catchment : Catchment
  /-- Which actions are taken, in the order of the catchment's actions. -/
  flags : List Bool
  attributes : Attributes
  /-- There is a flag for each action. -/
  length_flags : flags.length = catchment.actions.length := by simp

namespace Plan

/-- The plan that takes no action and says nothing about itself. -/
def idle (c : Catchment) : Plan where
  catchment := c
  flags := List.replicate c.actions.length false
  attributes := ∅

/-! ## Choosing actions -/

/-- Overwrites flags from the front, as far as new ones are given. -/
def overwrite : List Bool → List Bool → List Bool
  | _ :: flags, b :: bs => b :: overwrite flags bs
  | flags, _ => flags

@[simp] theorem length_overwrite (flags new : List Bool) :
    (overwrite flags new).length = flags.length := by
  fun_induction overwrite flags new <;> simp_all

/-- As many new flags as there are old ones replace all of them. -/
theorem overwrite_eq {flags new : List Bool} (h : new.length = flags.length) :
    overwrite flags new = new := by
  fun_induction overwrite flags new with
  | case1 f flags b bs ih => rw [ih (by simpa using h)]
  | case2 flags new hne =>
    cases flags with
    | nil => exact (List.eq_nil_of_length_eq_zero (by simpa using h)).symm
    | cons f flags =>
      cases new with
      | nil => simp at h
      | cons b bs => exact absurd rfl (hne f flags b bs rfl)

/-- The plan with other flags; where fewer are given the remaining actions keep
theirs, and where more are given the surplus counts for nothing. -/
def withFlags (p : Plan) (flags : List Bool) : Plan :=
  { p with flags := overwrite p.flags flags, length_flags := by simp [p.length_flags] }

/-- Takes, or stops taking, the action at a position. -/
def setAt (p : Plan) (i : Nat) (active : Bool) : Plan :=
  { p with flags := p.flags.set i active, length_flags := by simp [p.length_flags] }

/-- Switches the action at a position. -/
def toggle (p : Plan) (i : Nat) : Plan :=
  { p with flags := p.flags.modify i not, length_flags := by simp [p.length_flags] }

/-- Why an action cannot be set. -/
inductive Fault where
  | unknownUnit (unit : Nat)
  | unknownAction (unit : Nat) (kind : String)
deriving Repr, DecidableEq

/-- What is wrong, in words. -/
def Fault.message : Fault → String
  | unknownUnit unit => "planning unit [" ++ toString unit ++ "] does not exist"
  | unknownAction unit kind =>
    "planning unit [" ++ toString unit ++ "] has no [" ++ kind ++ "] action"

/-- Takes, or stops taking, the action of a kind at a planning unit. -/
def setAction (p : Plan) (unit : Nat) (kind : String) (active : Bool) : Except Fault Plan :=
  if !p.catchment.hasUnit unit then .error (.unknownUnit unit)
  else
    match p.catchment.position? unit kind with
    | some i => .ok (p.setAt i active)
    | none => .error (.unknownAction unit kind)

/-- The actions of a planning unit, each with whether it is taken. -/
def actionsAt (p : Plan) (unit : Nat) : List (Action × Bool) :=
  (p.catchment.actions.zip p.flags).filter (·.1.unit == unit)

/-- They are the actions of the unit in the catchment. -/
theorem map_fst_actionsAt (p : Plan) (unit : Nat) :
    (p.actionsAt unit).map (·.1) = p.catchment.actionsAt unit := by
  have hzip : (p.catchment.actions.zip p.flags).map (·.1) = p.catchment.actions :=
    List.map_fst_zip (Nat.le_of_eq p.length_flags.symm)
  calc (p.actionsAt unit).map (·.1)
      = ((p.catchment.actions.zip p.flags).map (·.1)).filter (·.unit == unit) := by
        rw [List.filter_map]
        rfl
    _ = p.catchment.actionsAt unit := by rw [hzip, Catchment.actionsAt]

/-! ## What a plan amounts to -/

/-- The token of the actions taken. -/
def token (p : Plan) : String := Token.encode p.flags

/-- Takes exactly the actions that a token names. -/
def decode (p : Plan) (token : String) : Except Token.Fault Plan :=
  (Token.decode p.catchment.actions.length token).map p.withFlags

/-- The value of the decision variable of a name. -/
def value? (p : Plan) (name : String) : Option Float := p.catchment.value? p.flags name

/-- The values of the decision variables, in order. -/
def values (p : Plan) : List Float :=
  p.catchment.decisionVariables.map (p.catchment.total p.flags)

/-- Whether the plan keeps within the limits. -/
def isFeasible (p : Plan) : Bool := p.catchment.isFeasible p.flags

/-- What is said of a limit that a value exceeds. -/
def breachMessage (breach : Limit × Float) : String :=
  breach.1.name ++ " = " ++ Decimal.plainText breach.2 ++ " exceeds maximum "
    ++ Decimal.plainText breach.1.maximum

/-- The limits that the plan exceeds. -/
def feasibility (p : Plan) : Problems :=
  ⟨"model state exceeds scenario limits", (p.catchment.breaches p.flags).map breachMessage⟩

/-! ## Derived attributes -/

/-- Sets an attribute to a value, or drops it where there is none. -/
def put (a : Attributes) (name : String) : Option Json → Attributes
  | some v => a.set name v
  | none => a.remove name

/-- Brings the derived attributes up to date. `onFront` says whether the plan
lies on the loaded front, and is `none` when no front is loaded. -/
def refresh (p : Plan) (onFront : Option Bool) : Plan :=
  let report := if p.isFeasible then none else some (Json.str p.feasibility.report)
  let a := p.attributes.set encodingName (.str p.token)
  let a := put a frontMemberName (onFront.map .bool)
  let a := a.set validName (.bool p.isFeasible)
  { p with attributes := put a errorsName report }

/-- Gives an attribute of the plan a value. -/
def describe (p : Plan) (name : String) (v : Json) : Plan :=
  { p with attributes := p.attributes.set name v }

/-- Gives attributes of the plan the values they have in a description. -/
def describeAll (p : Plan) (a : Attributes) : Plan :=
  { p with attributes := p.attributes.setAll a.entries }

@[simp] theorem flags_refresh (p : Plan) (onFront : Option Bool) :
    (p.refresh onFront).flags = p.flags := rfl

@[simp] theorem catchment_refresh (p : Plan) (onFront : Option Bool) :
    (p.refresh onFront).catchment = p.catchment := rfl

end Plan

end CatchmentPlanning
