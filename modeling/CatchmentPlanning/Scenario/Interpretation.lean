import CatchmentPlanning.Scenario.Basic
import CatchmentPlanning.Catchment
import CatchmentPlanning.Problems
import CatchmentPlanning.Text.Blank

/-!
# Interpreting a scenario

A scenario describes a catchment if its name is not blank, its model is of the
one type there is, names and ids are given once and not blank, and effects and
limits speak of declared variables only. Interpretation goes through all
declarations, reports every violation it meets, and builds the catchment from
the declarations that hold up; where a declaration does not, what stands inside
it is not looked at.
-/

namespace CatchmentPlanning

namespace Scenario

/-- What may be wrong with the declarations of a scenario. -/
inductive Violation where
  | blankName
  | unsupportedModel (modelType : String)
  | blankVariable
  | repeatedVariable (name : String)
  | repeatedUnit (id : Nat)
  | blankAction (unit : Nat)
  | repeatedAction (unit : Nat) (kind : String)
  | unknownAffected (unit : Nat) (kind name : String)
  | unknownLimited (name : String)
deriving Repr, DecidableEq

/-- The one type of model there is. -/
def supportedModel : String := "CatchmentModel"

/-- What is wrong, in words. -/
def Violation.message : Violation → String
  | blankName => "Scenario.Name must not be empty"
  | unsupportedModel t =>
    "Model.Type [" ++ t ++ "] is not supported, expected [" ++ supportedModel ++ "]"
  | blankVariable => "decision variable with an empty name"
  | repeatedVariable name => "decision variable [" ++ name ++ "] declared twice"
  | repeatedUnit id => "planning unit [" ++ toString id ++ "] declared twice"
  | blankAction unit => "planning unit [" ++ toString unit ++ "] has an action with no type"
  | repeatedAction unit kind =>
    "planning unit [" ++ toString unit ++ "] declares action [" ++ kind ++ "] twice"
  | unknownAffected unit kind name =>
    "action [" ++ kind ++ "] at planning unit [" ++ toString unit
      ++ "] affects unknown decision variable [" ++ name ++ "]"
  | unknownLimited name => "limit on unknown decision variable [" ++ name ++ "]"

/-- Why a text describes no catchment. -/
inductive Fault where
  /-- The text cannot be read as a scenario. -/
  | unreadable (fault : Toml.Fault)
  /-- The scenario can be read, but its declarations do not hold up. -/
  | invalid (violations : List Violation)
deriving Repr, DecidableEq

/-- The report on declarations that do not hold up. -/
def violationReport (violations : List Violation) : Problems :=
  ⟨"invalid scenario parameters", violations.map Violation.message⟩

/-- What is wrong, in words. -/
def Fault.message : Fault → String
  | unreadable fault => "unable to decode scenario configuration: " ++ fault.message
  | invalid violations => (violationReport violations).report

/-- The violations met so far, and what was built. -/
abbrev Checked (α : Type) := List Violation × α

/-- Declares variables one after another; `names` holds those declared before. -/
def declareVariables (names : List String) :
    List VariableDeclaration → Checked (List Variable)
  | [] => ([], [])
  | v :: rest =>
    if Text.isBlankText v.name then
      let (found, declared) := declareVariables names rest
      (.blankVariable :: found, declared)
    else if v.name ∈ names then
      let (found, declared) := declareVariables names rest
      (.repeatedVariable v.name :: found, declared)
    else
      let (found, declared) := declareVariables (v.name :: names) rest
      (found, ⟨v.name, v.measure, v.value⟩ :: declared)

/-- Declares the actions of a unit one after another; `kinds` holds those
declared before, and `names` the variables that may be affected. -/
def declareActions (names : List String) (unit : Nat) (kinds : List String) :
    List ActionDeclaration → Checked (List Action)
  | [] => ([], [])
  | a :: rest =>
    if Text.isBlankText a.kind then
      let (found, actions) := declareActions names unit kinds rest
      (.blankAction unit :: found, actions)
    else if a.kind ∈ kinds then
      let (found, actions) := declareActions names unit kinds rest
      (.repeatedAction unit a.kind :: found, actions)
    else
      let unknown := (a.effects.map (·.1)).filter (· ∉ names)
      let (found, actions) := declareActions names unit (a.kind :: kinds) rest
      (unknown.map (.unknownAffected unit a.kind) ++ found, ⟨unit, a.kind, a.effects⟩ :: actions)

/-- Declares units with their actions one after another; `ids` holds the units
declared before. -/
def declareUnits (names : List String) (ids : List Nat) :
    List UnitDeclaration → Checked (List Nat × List Action)
  | [] => ([], [], [])
  | u :: rest =>
    if u.id ∈ ids then
      let (found, units, actions) := declareUnits names ids rest
      (.repeatedUnit u.id :: found, units, actions)
    else
      let (here, actionsHere) := declareActions names u.id [] u.actions
      let (found, units, actions) := declareUnits names (u.id :: ids) rest
      (here ++ found, u.id :: units, actionsHere ++ actions)

/-- Declares limits one after another. -/
def declareLimits (names : List String) : List LimitDeclaration → Checked (List Limit)
  | [] => ([], [])
  | l :: rest =>
    let (found, limits) := declareLimits names rest
    if l.name ∈ names then (found, ⟨l.name, l.maximum⟩ :: limits)
    else (.unknownLimited l.name :: found, limits)

/-- The catchment that the declarations amount to, with all violations in them. -/
def check (s : Scenario) : Checked Catchment :=
  let name := if Text.isBlankText s.name then [Violation.blankName] else []
  let model :=
    if s.modelType = supportedModel then [] else [Violation.unsupportedModel s.modelType]
  let (inVariables, declared) := declareVariables [] s.decisionVariables
  let names := declared.map (·.name)
  let (inUnits, units, actions) := declareUnits names [] s.units
  let (inLimits, limits) := declareLimits names s.limits
  (name ++ model ++ inVariables ++ inUnits ++ inLimits,
    ⟨s.name, units, actions, declared, limits⟩)

/-- The catchment that a scenario describes. -/
def interpret (s : Scenario) : Except Fault Catchment :=
  match s.check with
  | ([], c) => .ok c
  | (violations, _) => .error (.invalid violations)

/-- Reads a scenario from its text. -/
def read (text : String) : Except Fault Scenario :=
  match Toml.read text >>= ofDocument with
  | .ok s => .ok s
  | .error e => .error (.unreadable e)

/-- A scenario is interpreted exactly if no violation is found. -/
theorem interpret_eq_ok_iff {s : Scenario} {c : Catchment} :
    s.interpret = .ok c ↔ s.check = ([], c) := by
  unfold interpret
  constructor
  · intro h
    split at h
    · next h' => simp_all
    · simp at h
  · intro h
    simp [h]

end Scenario

end CatchmentPlanning
