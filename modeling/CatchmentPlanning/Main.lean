import CatchmentPlanning.Annealing.Seeded
import CatchmentPlanning.Api.Application
import CatchmentPlanning.Api.Wire
import CatchmentPlanning.Startup.Preload
import Std.Time.Format

/-!
# The program

Starts the service and answers the requests that arrive on standard input, one
after the other, until the input ends or shutdown is requested. Between requests
the worker carries the waiting jobs out. Everything that is decided about a
request is decided by `Api.handle` and `Api.handleAdmin`.
-/

namespace CatchmentPlanning

namespace Main

/-! ## What comes from outside -/

/-- The present time. -/
def now : IO String := do
  let t ← Std.Time.Timestamp.now
  return (Std.Time.DateTime.ofTimestamp t .UTC).format "uuuu-MM-dd'T'HH:mm:ss.SSSSSSSSS'Z'"

/-- A random number of so many bytes. -/
def randomNumber (bytes : USize) : IO Nat := do
  return (← IO.getRandomBytes bytes).foldl (fun n b => 256 * n + b.toNat) 0

/-- What a request is answered with besides the state of the application. -/
def moment : IO Api.Moment := return ⟨← now, .ofRandom (← randomNumber 16)⟩

/-- The text of a file, or why it cannot be read. -/
def readFile (path : String) : IO (Except String String) := do
  try return .ok (← IO.FS.readFile path)
  catch e => return .error (toString e)

/-- What the program finds around it, as far as the arguments ask for it. -/
def surroundings (a : Arguments) : IO Surroundings := do
  let paths := a.config.toList ++ a.scenario.toList ++ a.solutionSet.toList
  let files ← paths.mapM fun path => return (path, ← readFile path)
  let names := ["API_PORT", "ADMIN_PORT", "CACHE_MAX_AGE", "JOB_QUEUE_LENGTH"]
  let values ← names.mapM fun name => return (name, ← IO.getEnv name)
  return {
    file := fun path => (Named.valueOf? path files).getD (.error "not read")
    environment := fun name => (Named.valueOf? name values).bind id }

/-! ## Requests and responses -/

/-- Reads lines up to an empty one. -/
partial def readLines (input : IO.FS.Stream) (read : List String) : IO (List String) := do
  let line := (← input.getLine).trimAsciiEnd.toString
  if line.isEmpty then return read.reverse else readLines input (line :: read)

/-- Reads the given number of bytes, fewer if the input ends. -/
partial def readBytes (input : IO.FS.Stream) (count : Nat) (read : ByteArray) : IO ByteArray := do
  if count ≤ read.size then return read
  let more ← input.read (count - read.size).toUSize
  if more.isEmpty then return read else readBytes input count (read ++ more)

/-- Answers requests one after the other. -/
partial def serve (input output : IO.FS.Stream) (adminPort : Nat) (app : Api.App) : IO Unit := do
  let lines ← readLines input []
  match Api.Head.ofLines? lines with
  | none => unless lines.isEmpty do output.putStr (Api.Response.plain 400 "Bad Request").written
  | some head =>
    let request := head.request (← readBytes input head.bodySize .empty)
    let answer := if head.port? = some adminPort then Api.handleAdmin else Api.handle
    let (response, app) := answer (← moment) app request
    output.putStr response.written
    output.flush
    let seed ← randomNumber 8
    let (_, app) := app.runJobs (Annealing.runSeeded seed.toUInt64) (← now)
    unless app.service.cancelled do serve input output adminPort app

/-- Says why the program does not start. -/
def refuse (message : String) : IO UInt32 := do
  IO.eprintln message
  return 1

/-- Starts the service with arguments. -/
def start (a : Arguments) : IO UInt32 := do
  let around ← surroundings a
  match Settings.load around a with
  | .error e => refuse e.message
  | .ok settings =>
    match Preload.exploration around a with
    | .error e => refuse e.message
    | .ok session =>
      let app := Api.App.initial session settings.serviceName settings.queueLength
        settings.cacheAge
      let app := { app with service := app.service.setState .running }
      serve (← IO.getStdin) (← IO.getStdout) settings.adminPort app
      return 0

end Main

end CatchmentPlanning

open CatchmentPlanning in
/-- Reads the command line and starts the service. -/
def main (args : List String) : IO UInt32 := do
  match Arguments.read args with
  | .ok a => Main.start a
  | .error .help =>
    IO.println ("options: " ++ ", ".intercalate (Arguments.Item.all.map fun i => "--" ++ i.name))
    return 0
  | .error .version =>
    IO.println Service.version
    return 0
  | .error e => Main.refuse e.message
