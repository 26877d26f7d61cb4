import CatchmentPlanning.Job.History
import CatchmentPlanning.Job.Queue

/-!
# The worker

The worker takes one job after the other from the queue. It carries a job out if
the history still has it, it has not come to its end, and it holds a scenario;
otherwise it passes it over. What a run finds is written to the history before
the next job is taken.
-/

namespace CatchmentPlanning

/-- How the run of a scenario ends. -/
abbrev Runner := Scenario → Except Annealing.Fault Annealing.Outcome

namespace Worker

/-- The scenario of a job that is to be carried out. -/
def scenario? (h : History) (id : JobId) : Option Scenario :=
  match h.find? id with
  | some job => if job.status.isTerminal then none else job.scenario
  | none => none

/-- Carries a job out, or passes it over. Also answers the scenario that was run. -/
def process (runner : Runner) (now : String) (h : History) (id : JobId) :
    Option Scenario × History :=
  match scenario? h id with
  | some scenario => (some scenario, h.update id (·.finish now (runner scenario)))
  | none => (none, h)

/-- Takes jobs one after the other. Also answers the scenarios that were run, in
order. -/
def drain (runner : Runner) (now : String) (h : History) :
    List JobId → List Scenario × History
  | [] => ([], h)
  | id :: rest =>
    let (ran, h) := process runner now h id
    let (more, h) := drain runner now h rest
    (ran.toList ++ more, h)

@[simp] theorem drain_nil (runner : Runner) (now : String) (h : History) :
    drain runner now h [] = ([], h) := rfl

/-- A job that is to be carried out is in the history. -/
theorem isSome_find?_of_scenario? {h : History} {id : JobId} {scenario : Scenario}
    (hscenario : scenario? h id = some scenario) : (h.find? id).isSome := by
  unfold scenario? at hscenario
  split at hscenario
  · rename_i hjob
    rw [hjob, Option.isSome_some]
  · cases hscenario

/-- A job that the history does not have is passed over. -/
theorem process_of_find?_eq_none {runner : Runner} {now : String} {h : History} {id : JobId}
    (hid : h.find? id = none) : process runner now h id = (none, h) := by
  simp [process, scenario?, hid]

end Worker

end CatchmentPlanning
