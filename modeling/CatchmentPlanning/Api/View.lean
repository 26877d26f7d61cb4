import CatchmentPlanning.Job.Basic
import CatchmentPlanning.Plan.Solution
import CatchmentPlanning.Service

/-!
# Views

How solutions, jobs and the service are shown as JSON. Parts that are empty or
missing are left out where the client can do without them.
-/

namespace CatchmentPlanning

/-- An entry that is shown only if it holds something. -/
def shownIf (shown : Bool) (name : String) (v : Json) : List (String × Json) :=
  if shown then [(name, v)] else []

/-- A list of texts. -/
def textsView (texts : List String) : Json := .arr (texts.map .str)

/-- Kinds of action by planning unit. -/
def sideView (side : List (Nat × List String)) : Json :=
  .obj (side.map fun (unit, kinds) => (toString unit, textsView kinds))

/-- The value of a decision variable. -/
def VariableValue.view (v : VariableValue) : Json :=
  .obj [("Name", .str v.name), ("Value", .float v.value), ("Measure", .str v.measure)]

/-- A solution. -/
def Solution.view (s : Solution) : Json :=
  .obj (("Id", .str s.id) :: shownIf (!s.attributes.isEmpty) "Attributes" s.attributes.toJson ++ [
    ("DecisionVariables", .arr (s.decisionVariables.map VariableValue.view)),
    ("EncodedActions", .str s.token),
    ("ActiveManagementActions", sideView s.active)])

/-- A job. -/
def Job.view (job : Job) : Json :=
  .obj ([
    ("Id", .str job.id.text),
    ("CreationTime", .str job.created),
    ("Status", .str job.status.name)]
    ++ shownIf job.completed.isSome "CompletedTime" (.str (job.completed.getD ""))
    ++ shownIf job.errorDetail.isSome "ErrorDetail" (.str (job.errorDetail.getD ""))
    ++ shownIf (!job.attributes.isEmpty) "Attributes" job.attributes.toJson)

/-- The status of the service at a moment. -/
def Service.view (s : Service) (now : String) : Json :=
  .obj [("ServiceName", .str s.name), ("Version", .str Service.version),
    ("Status", .str s.state.name), ("Time", .str now)]

end CatchmentPlanning
