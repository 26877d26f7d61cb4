import CatchmentPlanning.Startup.Arguments
import CatchmentPlanning.Text.Blank
import CatchmentPlanning.Toml.Document
import CatchmentPlanning.Toml.Section

/-!
# Settings

The settings of the service come from four places, each of which overrides the
ones before it: the defaults, a file, environment variables, and the command
line. They are checked once all four have been taken into account, so that a
setting at fault in one place may be put right in a later one.
-/

namespace CatchmentPlanning

/-- What the program finds around it when it starts. -/
structure Surroundings where
  /-- The text of a file, or why it cannot be read. -/
  file : String → Except String String
  /-- The value of an environment variable. -/
  environment : String → Option String

/-- The settings of the service. -/
structure Settings where
  serviceName : String := "Catchment Explorer"
  apiPort : Nat := 8080
  adminPort : Nat := 8081
  /-- How many seconds a view may be cached. -/
  cacheAge : Nat := 10
  /-- How many jobs may wait. -/
  queueLength : Nat := 1
deriving Repr, DecidableEq

namespace Settings

/-- Why there are no settings to start with. -/
inductive Fault where
  | unreadableFile (path detail : String)
  | undecodable (fault : Toml.Fault)
  | badVariable (name value : String)
  | noQueue
  | sharedPort (port : Nat)
deriving Repr, DecidableEq

/-- What is wrong, in words. -/
def Fault.message : Fault → String
  | unreadableFile path detail =>
    "unable to read configuration file " ++ path ++ ": " ++ detail
  | undecodable fault => "unable to decode configuration: " ++ fault.message
  | badVariable name value =>
    "invalid value [" ++ value ++ "] for environment variable " ++ name
  | noQueue => "JobQueueLength must be at least 1"
  | sharedPort port => "API and admin listeners cannot share port " ++ toString port

/-! ## The four places -/

/-- Reads settings from a document; what it leaves open is as by default. -/
def ofDocument (document : Toml.Value) : Except Toml.Fault Settings := do
  let default : Settings := {}
  let s ← document.fields ["ServiceName", "ApiPort", "AdminPort", "CacheMaximumAgeInSeconds",
    "JobQueueLength"]
  let port := Toml.Value.whole (2 ^ 16)
  let count := Toml.Value.whole (2 ^ 64)
  return {
    serviceName := ← s.withDefault "ServiceName" Toml.Value.text default.serviceName
    apiPort := ← s.withDefault "ApiPort" port default.apiPort
    adminPort := ← s.withDefault "AdminPort" port default.adminPort
    cacheAge := ← s.withDefault "CacheMaximumAgeInSeconds" count default.cacheAge
    queueLength := ← s.withDefault "JobQueueLength" count default.queueLength }

/-- Reads settings from their text. -/
def read (text : String) : Except Fault Settings :=
  match Toml.read text >>= ofDocument with
  | .ok s => .ok s
  | .error e => .error (.undecodable e)

/-- Reads settings from a file. -/
def ofFile (around : Surroundings) (path : String) : Except Fault Settings :=
  match around.file path with
  | .ok text => read text
  | .error detail => .error (.unreadableFile path detail)

/-- The number in an environment variable, or the fallback if the variable is
not set. Blanks around the number do not count. -/
def variableOr (around : Surroundings) (name : String) (bound fallback : Nat) :
    Except Fault Nat :=
  match around.environment name with
  | none => .ok fallback
  | some value =>
    match Text.unsigned? bound (Text.trim value) with
    | some n => .ok n
    | none => .error (.badVariable name value)

/-- Overrides settings by environment variables. -/
def withVariables (s : Settings) (around : Surroundings) : Except Fault Settings := do
  return { s with
    apiPort := ← variableOr around "API_PORT" (2 ^ 16) s.apiPort
    adminPort := ← variableOr around "ADMIN_PORT" (2 ^ 16) s.adminPort
    cacheAge := ← variableOr around "CACHE_MAX_AGE" (2 ^ 64) s.cacheAge
    queueLength := ← variableOr around "JOB_QUEUE_LENGTH" (2 ^ 64) s.queueLength }

/-- Overrides settings by arguments. -/
def withArguments (s : Settings) (a : Arguments) : Settings :=
  { s with
    apiPort := a.apiPort.getD s.apiPort
    adminPort := a.adminPort.getD s.adminPort }

/-! ## Putting them together -/

/-- What is wrong with settings, if anything is. -/
def fault? (s : Settings) : Option Fault :=
  if s.queueLength = 0 then some .noQueue
  else if s.apiPort = s.adminPort then some (.sharedPort s.apiPort)
  else none

/-- The settings to start with. -/
def load (around : Surroundings) (a : Arguments) : Except Fault Settings := do
  let s ←
    match a.config with
    | some path => ofFile around path
    | none => pure {}
  let s ← s.withVariables around
  let s := s.withArguments a
  match s.fault? with
  | some fault => throw fault
  | none => return s

/-- Nothing is wrong exactly if a job can wait and the listeners are apart. -/
theorem fault?_eq_none_iff {s : Settings} :
    s.fault? = none ↔ s.queueLength ≠ 0 ∧ s.apiPort ≠ s.adminPort := by
  unfold fault?
  by_cases hq : s.queueLength = 0
  · simp [hq]
  · by_cases hp : s.apiPort = s.adminPort <;> simp [hq, hp]

end Settings

end CatchmentPlanning
