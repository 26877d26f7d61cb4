import CatchmentPlanning.Api.Message
import CatchmentPlanning.Job.Queue
import CatchmentPlanning.Roster

/-!
# Refusals

A request that is not carried out is refused for one of six kinds of reason,
each of which has its own status, and the client is told why in words.
-/

namespace CatchmentPlanning

namespace Api

/-- A kind of reason to refuse a request. -/
inductive Reason where
  | methodNotAllowed
  | unsupportedMedia
  | notFound
  | badRequest
  | queueFull
  | failed
deriving Repr, DecidableEq

/-- The status of a kind of reason. -/
def Reason.status : Reason → Nat
  | methodNotAllowed => 405
  | unsupportedMedia => 415
  | notFound => 404
  | badRequest => 400
  | queueFull => 503
  | failed => 500

/-- Why a request is refused. -/
structure Refusal where
  reason : Reason
  message : String
deriving Repr, DecidableEq

namespace Refusal

/-- A request that is at fault, with what was wrong about it. -/
def badRequest (context cause : String) : Refusal := ⟨.badRequest, context ++ ": " ++ cause⟩

/-- A request that cannot be carried out, with what stands in the way. -/
def failed (context cause : String) : Refusal := ⟨.failed, context ++ ": " ++ cause⟩

/-- No scenario has been loaded yet. -/
def noScenario : Refusal := ⟨.notFound, "no scenario has been loaded"⟩

/-- The service does not know the path. -/
def noResource (path : String) : Refusal := ⟨.notFound, "no resource at " ++ path⟩

/-- The path does not take the method. -/
def methodNotAllowed (method path : String) : Refusal :=
  ⟨.methodNotAllowed, "method " ++ method ++ " is not allowed on " ++ path⟩

/-- The body is not of the media type that is taken. -/
def unsupportedMedia (expected : Media) (found : String) : Refusal :=
  ⟨.unsupportedMedia, "expected Content-Type [" ++ expected.name ++ "], found [" ++ found ++ "]"⟩

/-- A roster refuses. -/
def ofRoster (fault : Roster.Fault) : Refusal :=
  let reason : Reason :=
    match fault with
    | .protectedLabel _ | .alreadyThere _ => .methodNotAllowed
    | .invalidToken .. => .badRequest
    | .unknownLabel _ => .notFound
  ⟨reason, fault.message⟩

/-- The job queue refuses. -/
def ofQueue (fault : Queue.Fault) : Refusal :=
  let reason : Reason :=
    match fault with
    | .full _ => .queueFull
    | .closed => .failed
  ⟨reason, fault.message⟩

/-- The response to a refused request. -/
def response (r : Refusal) (now : String) : Response where
  status := r.reason.status
  media := some .json
  caching := none
  body := .json (.obj [("ErrorMessage", .str r.message), ("Time", .str now)])

/-- A refusal is never taken for a success. -/
theorem isSuccess_response (r : Refusal) (now : String) : (r.response now).isSuccess = false := by
  unfold response Response.isSuccess
  cases r.reason <;> rfl

end Refusal

end Api

end CatchmentPlanning
