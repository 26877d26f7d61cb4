import CatchmentPlanning.Toml.Basic
import CatchmentPlanning.Decimal.Basic

/-!
# Sections

The settings of a document come in sections with a fixed set of keys. A section
is a table that has no key besides these; it may also be written as an array
that gives its values in the order of the keys. Each value is then asked for by
its key and read as what it should be.
-/

namespace CatchmentPlanning

namespace Toml

/-- The values of a section, by key. -/
abbrev Section := Named Value

namespace Value

/-- The elements of an array, also of an array of tables. -/
def items? : Value → Option (List Value)
  | array items => some items
  | tables elements => some (elements.reverse.map (table .header))
  | _ => none

/-- Reads a section with the given keys. -/
def fields (keys : List String) (v : Value) : Except Fault Section :=
  match v with
  | table _ entries =>
    match entries.find? fun e => !keys.contains e.1 with
    | some e => .error (.unknown e.1)
    | none => .ok entries
  | v =>
    match v.items? with
    | some items => .ok (keys.zip items)
    | none => .error (.wrongType "a table")

/-- Reads a string. -/
def text : Value → Except Fault String
  | string s => .ok s
  | _ => .error (.wrongType "a string")

/-- Reads a number as a float. -/
def number : Value → Except Fault Float
  | float x => .ok x
  | integer n => .ok (Decimal.floatOfInt n)
  | _ => .error (.wrongType "a number")

/-- Reads a whole number from zero up to a bound, which is excluded. -/
def whole (bound : Nat) : Value → Except Fault Nat
  | integer n => if 0 ≤ n ∧ n < bound then .ok n.toNat else .error .numberOutOfRange
  | _ => .error (.wrongType "a whole number")

/-- Reads an array, item by item. -/
def list {α : Type} (read : Value → Except Fault α) (v : Value) : Except Fault (List α) :=
  match v.items? with
  | some items => items.mapM read
  | none => .error (.wrongType "an array")

/-- Reads a table with keys of any name; the entries are answered by name. -/
def entriesOf {α : Type} (read : Value → Except Fault α) : Value → Except Fault (Named α)
  | table _ entries => do
    let read ← entries.mapM fun (key, v) => return (key, ← read v)
    return Named.sorted read
  | _ => .error (.wrongType "a table")

/-- Reads one of a set of names. A name may also be the only key of a table, with
nothing in it. -/
def choice {α : Type} (choices : Named α) (v : Value) : Except Fault α := do
  let name ←
    match v with
    | string name | table _ [(name, .array [])] | table _ [(name, .table _ [])] => pure name
    | _ => throw (.wrongType "a name")
  match Named.valueOf? name choices with
  | some a => return a
  | none => throw (.unknown name)

end Value

namespace Section

/-- Reads the value under a key that must be there. -/
def required {α : Type} (s : Section) (key : String) (read : Value → Except Fault α) :
    Except Fault α :=
  match Named.valueOf? key s with
  | some v => read v
  | none => .error (.missing key)

/-- Reads the value under a key, if it is there. -/
def optional {α : Type} (s : Section) (key : String) (read : Value → Except Fault α) :
    Except Fault (Option α) :=
  match Named.valueOf? key s with
  | some v => (read v).map some
  | none => .ok none

/-- Reads the value under a key, or takes another one if it is not there. -/
def withDefault {α : Type} (s : Section) (key : String) (read : Value → Except Fault α)
    (fallback : α) : Except Fault α := do
  return (← s.optional key read).getD fallback

end Section

end Toml

end CatchmentPlanning
