import CatchmentPlanning.Text.Numeral
import CatchmentPlanning.Text.Pieces

/-!
# Command line arguments

The program is started with options only. Every option but help and version
takes a value, either as the argument after it or attached to it: `--api-port 80`
and `--api-port=80`, `-s file`, `-sfile` and `-s=file`. Behind `--` no option is
recognised any more, so nothing may follow it.

A value that stands in an argument of its own is looked at only when the next
option comes or the arguments end. An argument that is not recognised at all is
therefore reported before such a value, and what is attached is reported at once.
-/

namespace CatchmentPlanning

/-- What the program is started with. -/
structure Arguments where
  /-- The file with the settings. -/
  config : Option String := none
  /-- The file with the scenario to load. -/
  scenario : Option String := none
  /-- The file with the front to load. -/
  solutionSet : Option String := none
  apiPort : Option Nat := none
  adminPort : Option Nat := none
deriving Repr, DecidableEq

namespace Arguments

/-- An option that takes a value. -/
inductive Item where
  | config
  | scenario
  | solutionSet
  | apiPort
  | adminPort
deriving Repr, DecidableEq

/-- Why a command line starts nothing. The first two are wishes and not
mistakes. -/
inductive Fault where
  | help
  | version
  | unknown (argument : String)
  | missingValue (item : Item)
  | emptyPath (item : Item)
  | notAPort (item : Item) (value : String)
  | unneededValue (argument : String)
  | repeated (item : Item)
  | missingScenario
deriving Repr, DecidableEq

namespace Item

/-- The long name of an option. -/
def name : Item → String
  | config => "config"
  | scenario => "scenario"
  | solutionSet => "solution-set"
  | apiPort => "api-port"
  | adminPort => "admin-port"

/-- All options. -/
def all : List Item := [config, scenario, solutionSet, apiPort, adminPort]

/-- The option of a long name. -/
def ofName? (name : String) : Option Item := all.find? (·.name = name)

/-- The option of a short name. -/
def ofLetter? : Char → Option Item
  | 'c' => some config
  | 's' => some scenario
  | _ => none

@[simp] theorem ofName?_name (i : Item) : ofName? i.name = some i := by
  cases i <;> rfl

end Item

/-- What is wrong, in words. -/
def Fault.message : Fault → String
  | help => "help requested"
  | version => "version requested"
  | unknown argument => "unexpected argument [" ++ argument ++ "]"
  | missingValue item => "a value is required for [--" ++ item.name ++ "]"
  | emptyPath item => "a value is required for [--" ++ item.name ++ "], but it is empty"
  | notAPort item value => "invalid value [" ++ value ++ "] for [--" ++ item.name ++ "]"
  | unneededValue argument => "no value is taken by [" ++ argument ++ "]"
  | repeated item => "[--" ++ item.name ++ "] cannot be used multiple times"
  | missingScenario => "[--solution-set] requires [--scenario]"

/-! ## Values -/

/-- Reads the number of a port. It may have a sign. -/
def port? (value : String) : Option Nat :=
  match value.toList with
  | '-' :: c :: cs => (Text.digitsValue? 0 (c :: cs)).filter (· = 0)
  | _ => Text.unsigned? (2 ^ 16) value

/-- Gives an option its value. -/
def accept (a : Arguments) (item : Item) (value : String) : Except Fault Arguments :=
  let path (given : Option String) (set : Option String → Arguments) : Except Fault Arguments :=
    if given.isSome then .error (.repeated item)
    else if value = "" then .error (.emptyPath item)
    else .ok (set (some value))
  let port (given : Option Nat) (set : Option Nat → Arguments) : Except Fault Arguments :=
    if given.isSome then .error (.repeated item)
    else
      match port? value with
      | some n => .ok (set (some n))
      | none => .error (.notAPort item value)
  match item with
  | .config => path a.config fun p => { a with config := p }
  | .scenario => path a.scenario fun p => { a with scenario := p }
  | .solutionSet => path a.solutionSet fun p => { a with solutionSet := p }
  | .apiPort => port a.apiPort fun n => { a with apiPort := n }
  | .adminPort => port a.adminPort fun n => { a with adminPort := n }

/-! ## Reading -/

/-- The arguments read so far. -/
structure Draft where
  arguments : Arguments := {}
  /-- The last option, as long as its value has not been looked at, with the
  value if that has come. -/
  pending : Option (Item × Option String) := none

namespace Draft

/-- Looks at the value of the last option. -/
def settle (d : Draft) : Except Fault Arguments :=
  match d.pending with
  | none => .ok d.arguments
  | some (item, none) => .error (.missingValue item)
  | some (item, some value) => d.arguments.accept item value

/-- Takes an option with an attached value, if it has one. -/
def option (d : Draft) (item : Item) (attached : Option String) : Except Fault Draft := do
  let a ← d.settle
  match attached with
  | some value => return ⟨← a.accept item value, none⟩
  | none => return ⟨a, some (item, none)⟩

/-- Takes a wish for help or version. -/
def wish (d : Draft) (fault : Fault) : Except Fault Draft := do
  let _ ← d.settle
  throw fault

/-- Takes an argument that starts with two hyphens, given without them. -/
def long (d : Draft) (cs : List Char) : Except Fault Draft :=
  let name := String.ofList (cs.takeWhile (· ≠ '='))
  let attached :=
    match cs.dropWhile (· ≠ '=') with
    | _ :: value => some (String.ofList value)
    | [] => none
  match Item.ofName? name, name, attached with
  | some item, _, _ => d.option item attached
  | none, "help", none => d.wish .help
  | none, "version", none => d.wish .version
  | none, "help", some _ => .error (.unneededValue "--help")
  | none, "version", some _ => .error (.unneededValue "--version")
  | none, _, _ => .error (.unknown ("--" ++ String.ofList cs))

/-- Takes an argument that starts with one hyphen, given without it. -/
def short (d : Draft) (letter : Char) (rest : List Char) : Except Fault Draft :=
  match Item.ofLetter? letter, letter, rest with
  | some item, _, [] => d.option item none
  | some item, _, '=' :: value => d.option item (some (String.ofList value))
  | some item, _, value => d.option item (some (String.ofList value))
  | none, 'h', _ => d.wish .help
  | none, 'V', _ => d.wish .version
  | none, _, _ => .error (.unknown ("-" ++ String.ofList (letter :: rest)))

/-- Takes an argument that is no option: the value of the one before it. -/
def value (d : Draft) (argument : String) : Except Fault Draft :=
  match d.pending with
  | some (item, none) => .ok { d with pending := some (item, some argument) }
  | _ => .error (.unknown argument)

/-- Takes an argument. -/
def take (d : Draft) (argument : String) : Except Fault Draft :=
  match argument.toList with
  | '-' :: '-' :: cs => d.long cs
  | '-' :: letter :: rest => d.short letter rest
  | _ => d.value argument

/-- Takes one argument after the other. -/
def takeAll (d : Draft) : List String → Except Fault Arguments
  | [] => d.settle
  | "--" :: rest =>
    match rest with
    | [] => d.settle
    | argument :: _ => .error (.unknown argument)
  | argument :: rest =>
    match d.take argument with
    | .ok d => d.takeAll rest
    | .error e => .error e

end Draft

/-- Reads a command line. A front can be loaded only after a scenario. -/
def read (args : List String) : Except Fault Arguments := do
  let a ← Draft.takeAll {} args
  if a.solutionSet.isSome && a.scenario.isNone then throw .missingScenario
  return a

@[simp] theorem read_nil : read [] = .ok {} := rfl

end Arguments

end CatchmentPlanning
