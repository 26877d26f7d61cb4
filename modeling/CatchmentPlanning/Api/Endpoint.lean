import CatchmentPlanning.Text.Percent
import CatchmentPlanning.Text.Pieces

/-!
# Endpoints

A path of the API leads to an endpoint. It is matched segment by segment, still
percent-encoded. A parameter is any segment, but the last segment of a path is
none if it is empty. Everything but the status of the service lies below
`/api/v1`.
-/

namespace CatchmentPlanning

namespace Api

/-- What a path leads to, with its parameter if it has one. -/
inductive Endpoint where
  | service
  | scenario
  | scratchpad
  | activeActions
  | unit (id : String)
  | applicableActions (id : String)
  | plan (label : String)
  | front
  | solution (label : String)
  | jobs
  | job (id : String)
  | jobScenario (id : String)
deriving Repr, DecidableEq

namespace Endpoint

/-- What the segments of a path below `/api/v1` lead to. -/
def ofSegments? : List String → Option Endpoint
  | ["scenario"] => some scenario
  | ["model"] => some scratchpad
  | ["model", "actions", "active"] => some activeActions
  | ["model", "subcatchment", id] => if id = "" then none else some (unit id)
  | ["model", "subcatchment", id, "applicableActions"] => some (applicableActions id)
  | ["models", label] => if label = "" then none else some (plan label)
  | ["solutions"] => some front
  | ["solutions", label] => if label = "" then none else some (solution label)
  | ["jobs"] => some jobs
  | ["jobs", id] => if id = "" then none else some (job id)
  | ["jobs", id, "scenario"] => some (jobScenario id)
  | _ => none

/-- The segments of a path. -/
def segments (path : String) : List String :=
  (Text.pieces '/' path.toList).map String.ofList

/-- What a path leads to. -/
def ofPath? (path : String) : Option Endpoint :=
  match segments path with
  | ["", ""] => some service
  | "" :: "api" :: "v1" :: rest => ofSegments? rest
  | _ => none

/-- The path of an endpoint as it is told to a client: below `/api/v1`. -/
def localPath (path : String) : String :=
  match segments path with
  | "" :: "api" :: "v1" :: rest => "/" ++ "/".intercalate rest
  | _ => path

/-- The methods that an endpoint takes; `HEAD` is taken wherever `GET` is. -/
def methods : Endpoint → List String
  | scenario => ["GET", "POST"]
  | scratchpad => ["GET", "PATCH"]
  | activeActions => ["GET", "PUT"]
  | unit _ => ["GET", "POST"]
  | plan _ => ["GET", "POST"]
  | front => ["GET", "POST"]
  | jobs => ["GET", "POST", "DELETE"]
  | _ => ["GET"]

/-- The name of the parameter of an endpoint, and the parameter. -/
def parameter? : Endpoint → Option (String × String)
  | unit id => some ("id", id)
  | applicableActions id => some ("id", id)
  | plan label => some ("label", label)
  | solution label => some ("label", label)
  | job id => some ("id", id)
  | jobScenario id => some ("id", id)
  | _ => none

/-- The endpoint with another parameter. -/
def withParameter (e : Endpoint) (p : String) : Endpoint :=
  match e with
  | unit _ => unit p
  | applicableActions _ => applicableActions p
  | plan _ => plan p
  | solution _ => solution p
  | job _ => job p
  | jobScenario _ => jobScenario p
  | e => e

/-- The endpoint with its parameter as text; the name of the parameter if it
does not stand for text. -/
def decoded (e : Endpoint) : Except String Endpoint :=
  match e.parameter? with
  | none => .ok e
  | some (name, encoded) =>
    match Text.percentDecode? encoded with
    | some p => .ok (e.withParameter p)
    | none => .error name

end Endpoint

end Api

end CatchmentPlanning
