import CatchmentPlanning.Annealing
import CatchmentPlanning.Job.Identifier

/-!
# Jobs

A job is a posted scenario and what has become of it. It is **created** when it
is posted; if its text describes no catchment it is **invalid** at once, and
otherwise its annealing run makes it **completed** or **errored**. Once it is
any of these three nothing changes it any more.
-/

namespace CatchmentPlanning

namespace Job

/-- What has become of a job. -/
inductive Status where
  | created
  | completed
  | errored
  | invalid
deriving Repr, DecidableEq

namespace Status

/-- Whether nothing more will become of the job. -/
def isTerminal (s : Status) : Bool := s ≠ created

/-- Whether the job may be purged. -/
def isProcessed (s : Status) : Bool := s = completed || s = invalid

/-- The name of a status. -/
def name : Status → String
  | created => "CREATED"
  | completed => "COMPLETED"
  | errored => "ERRORED"
  | invalid => "INVALID"

/-- A job that may be purged has come to its end. -/
theorem isTerminal_of_isProcessed {s : Status} (h : s.isProcessed) : s.isTerminal := by
  cases s <;> simp_all [isProcessed, isTerminal]

end Status

end Job

/-- A posted scenario and what has become of it. -/
structure Job where
  id : JobId
  /-- When it was posted. -/
  created : String
  status : Job.Status
  /-- When it came to its end. -/
  completed : Option String
  /-- What went wrong. -/
  errorDetail : Option String
  /-- What its run has found. -/
  attributes : Attributes
  /-- The scenario as it was posted. -/
  text : String
  /-- The scenario as it was read; a job that has been carried out keeps it no
  longer. -/
  scenario : Option Scenario

namespace Job

/-- A job that has just been posted. -/
def new (id : JobId) (now text : String) : Job where
  id := id
  created := now
  status := .created
  completed := none
  errorDetail := none
  attributes := ∅
  text := text
  scenario := none

/-- Reads a text as a scenario that describes a catchment. -/
def readScenario (text : String) : Except Scenario.Fault Scenario := do
  let scenario ← Scenario.read text
  let _ ← scenario.interpret
  return scenario

/-- Reads the text of the job. If it describes no catchment the job is invalid. -/
def parse (job : Job) (now : String) : Option Scenario.Fault × Job :=
  match readScenario job.text with
  | .ok scenario => (none, { job with scenario := some scenario })
  | .error e =>
    (some e, { job with
      status := .invalid, completed := some now, errorDetail := some e.message })

/-- The run of the job has found something. -/
def complete (job : Job) (outcome : Annealing.Outcome) (now : String) : Job :=
  { job with
    status := .completed
    completed := some now
    attributes := job.attributes.setAll [
      ("SolutionEncoding", .str outcome.token),
      ("Objective", .str outcome.objective),
      ("ObjectiveValue", if outcome.value.isFinite then .float outcome.value else .null),
      ("Iterations", .int outcome.iterations)]
    scenario := none }

/-- The run of the job has found nothing. -/
def fail (job : Job) (fault : Annealing.Fault) (now : String) : Job :=
  { job with status := .errored, completed := some now, errorDetail := some fault.message }

/-- The run of the job has ended one way or the other. -/
def finish (job : Job) (now : String) : Except Annealing.Fault Annealing.Outcome → Job
  | .ok outcome => job.complete outcome now
  | .error fault => job.fail fault now

@[simp] theorem id_finish (job : Job) (now : String)
    (result : Except Annealing.Fault Annealing.Outcome) : (job.finish now result).id = job.id := by
  cases result <;> rfl

@[simp] theorem text_finish (job : Job) (now : String)
    (result : Except Annealing.Fault Annealing.Outcome) :
    (job.finish now result).text = job.text := by
  cases result <;> rfl

end Job

end CatchmentPlanning
