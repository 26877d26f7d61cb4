import CatchmentPlanning.Text.Named

/-!
# TOML values and tables

Scenarios and settings are written in TOML 1.0. A table can come into being in
four ways, and how it did decides what may still be added to it (`Form`). While
a document is being read tables grow from the front: the entry written last
stands first, and so does the last element of an array of tables.

No setting of this program is a date or a time, so there is no value for them
and a document with one is refused.
-/

namespace CatchmentPlanning

namespace Toml

/-- How a table came into being. -/
inductive Form where
  /-- By a header of its own; the document itself counts as one. -/
  | header
  /-- As a parent in the header of another table. -/
  | implied
  /-- As a parent in a dotted key. -/
  | dotted
  /-- In braces, as a value. -/
  | inline
deriving Repr, DecidableEq

/-- A TOML value. -/
inductive Value where
  | string (s : String)
  | integer (n : Int)
  | float (x : Float)
  | boolean (b : Bool)
  /-- A date, a time or both; which one is not kept. -/
  | moment
  | array (items : List Value)
  | table (form : Form) (entries : List (String × Value))
  /-- An array of tables, built by one header for each. -/
  | tables (elements : List (List (String × Value)))
deriving Inhabited

/-- Why a text is no document, or no document of the kind that was asked for. -/
inductive Fault where
  | endOfText
  | unexpected (found : Char)
  | badEscape
  | numberOutOfRange
  | tooDeep
  | duplicateKey (key : String)
  /-- A key goes on behind something that is no table. -/
  | notATable (key : String)
  | missing (key : String)
  | unknown (key : String)
  | wrongType (expected : String)
deriving Repr, DecidableEq

/-- What is wrong, in words. -/
def Fault.message : Fault → String
  | endOfText => "the text ends too early"
  | unexpected c => "unexpected character " ++ c.toString
  | badEscape => "invalid escape in a string"
  | numberOutOfRange => "number out of range"
  | tooDeep => "values or keys are nested too deeply"
  | duplicateKey key => "duplicate key " ++ key
  | notATable key => key ++ " is not a table"
  | missing key => "missing key " ++ key
  | unknown key => "unknown key " ++ key
  | wrongType expected => "expected " ++ expected

/-- A table under construction. -/
structure Table where
  form : Form
  /-- The entries, the one written last first. -/
  entries : Named Value

namespace Table

/-- The value under a key. -/
def value? (t : Table) (key : String) : Option Value := Named.valueOf? key t.entries

/-- Adds an entry under a key that the table does not have. -/
def add (t : Table) (key : String) (v : Value) : Table :=
  { t with entries := (key, v) :: t.entries }

/-- Gives the entry under a key another value. -/
def replace (t : Table) (key : String) (v : Value) : Table :=
  { t with entries := t.entries.map fun e => if e.1 = key then (key, v) else e }

/-- Drops the entry under a key. -/
def erase (t : Table) (key : String) : Table :=
  { t with entries := t.entries.filter (·.1 ≠ key) }

/-- Changes the table at the end of a path, and answers something about it.
Tables that are missing on the way are made. A path goes through the last
element of an array of tables. `viaKey` says that the path stands in a dotted
key: then it may not go on from a table that has a header of its own. -/
def within {α : Type} (viaKey : Bool) :
    List String → (Table → Except Fault (α × Table)) → Table → Except Fault (α × Table)
  | [], change, t => change t
  | key :: path, change, t =>
    match t.value? key with
    | none => do
      let (a, sub) ← within viaKey path change ⟨if viaKey then .dotted else .implied, []⟩
      return (a, t.add key (.table sub.form sub.entries))
    | some (.table form entries) => do
      if form = .inline then throw (.notATable key)
      if viaKey ∧ form = .header then throw (.duplicateKey key)
      let (a, sub) ← within viaKey path change ⟨form, entries⟩
      return (a, t.replace key (.table sub.form sub.entries))
    | some (.tables (last :: earlier)) => do
      let (a, sub) ← within viaKey path change ⟨.header, last⟩
      return (a, t.replace key (.tables (sub.entries :: earlier)))
    | some _ => throw (.notATable key)

/-- Adds the entry of a key–value line, whose key may be dotted. The parents in
a dotted key must be tables that dotted keys have made. -/
def addKeyed (t : Table) (parents : List String) (key : String) (v : Value) :
    Except Fault Table := do
  let (_, t) ← within true parents (fun sub => do
    if parents ≠ [] ∧ sub.form ≠ .dotted then throw (.duplicateKey key)
    if (sub.value? key).isSome then throw (.duplicateKey key)
    return ((), sub.add key v)) t
  return t

@[simp] theorem value?_add (t : Table) (key : String) (v : Value) :
    (t.add key v).value? key = some v := by
  simp [add, value?, Named.valueOf?_cons]

@[simp] theorem value?_erase (t : Table) (key : String) : (t.erase key).value? key = none := by
  simp [erase, value?, Named.valueOf?, List.find?_eq_none]

end Table

end Toml

end CatchmentPlanning
