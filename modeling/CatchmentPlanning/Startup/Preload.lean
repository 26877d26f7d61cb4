import CatchmentPlanning.Exploration
import CatchmentPlanning.Startup.Settings

/-!
# The exploration to start with

A scenario, and a front for it, can be named on the command line. They are then
loaded before the first request, and the program does not start without them.
-/

namespace CatchmentPlanning

namespace Preload

/-- Why there is no exploration to start with. -/
inductive Fault where
  | file (detail : String)
  | scenario (fault : Scenario.Fault)
  | front (fault : Front.Fault)

/-- What is wrong, in words. -/
def Fault.message : Fault → String
  | file detail => detail
  | scenario fault => fault.message
  | front fault => fault.message

/-- The text of a file. -/
def file (around : Surroundings) (path : String) : Except Fault String :=
  (around.file path).mapError .file

/-- Loads a front into an exploration, if one is named. -/
def front (around : Surroundings) (path : Option String) (x : Exploration) :
    Except Fault Exploration :=
  match path with
  | none => .ok x
  | some path => do
    let text ← file around path
    (x.loadFront text).mapError .front

/-- The exploration to start with, if a scenario is named. -/
def exploration (around : Surroundings) (a : Arguments) : Except Fault (Option Exploration) :=
  match a.scenario with
  | none => .ok none
  | some path => do
    let text ← file around path
    let x ← (Exploration.load text).mapError .scenario
    return some (← front around a.solutionSet x)

end Preload

end CatchmentPlanning
