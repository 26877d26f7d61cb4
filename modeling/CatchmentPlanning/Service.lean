/-!
# The service

The service as a whole is in one of four states. A request for shutdown moves it
to the third of them and tells the worker to take no further job.
-/

namespace CatchmentPlanning

namespace Service

/-- What the service is doing. -/
inductive RunState where
  | starting
  | running
  | shuttingDown
  | dead
deriving Repr, DecidableEq

/-- The name of a state. -/
def RunState.name : RunState → String
  | starting => "STARTING"
  | running => "RUNNING"
  | shuttingDown => "SHUTTING_DOWN"
  | dead => "DEAD"

/-- The version that the service reports. -/
def version : String := "0.1.0"

end Service

/-- The service as a whole. -/
structure Service where
  name : String
  state : Service.RunState
  /-- Whether shutdown has been requested. -/
  cancelled : Bool
deriving Repr, DecidableEq

namespace Service

/-- A service that is about to run. -/
def new (name : String) : Service := ⟨name, .starting, false⟩

/-- Moves the service to a state. A shutdown that was requested stays requested. -/
def setState (s : Service) (state : RunState) : Service := { s with state }

/-- Requests shutdown. -/
def requestShutdown (s : Service) : Service :=
  { s with state := .shuttingDown, cancelled := true }

@[simp] theorem cancelled_setState (s : Service) (state : RunState) :
    (s.setState state).cancelled = s.cancelled := rfl

end Service

end CatchmentPlanning
