import CatchmentPlanning.Text.Named

/-!
# JSON values

A number is either whole or a float, and stays what it was written as: `1` and
`1.0` are different values. An object keeps its entries as they were written,
repetitions included, until it is put into its canonical form.
-/

namespace CatchmentPlanning

/-- A JSON value. -/
inductive Json where
  | null
  | bool (value : Bool)
  | int (value : Int)
  | float (value : Float)
  | str (value : String)
  | arr (items : List Json)
  | obj (entries : List (String × Json))
deriving Inhabited

namespace Json

/-- The text of a string value. -/
def text? : Json → Option String
  | str s => some s
  | _ => none

/-- The value of the first entry of an object under a name. -/
def field? (name : String) : Json → Option Json
  | obj entries => Named.valueOf? name entries
  | _ => none

mutual

/-- The same value with every object in it sorted by name, and of repeated
names the last one only. -/
def canonical : Json → Json
  | arr items => arr (canonicalItems items)
  | obj entries => obj (Named.sorted (canonicalEntries entries))
  | other => other

/-- `canonical` on the items of an array. -/
def canonicalItems : List Json → List Json
  | [] => []
  | v :: rest => canonical v :: canonicalItems rest

/-- `canonical` on the values of an object. -/
def canonicalEntries : List (String × Json) → List (String × Json)
  | [] => []
  | (name, v) :: rest => (name, canonical v) :: canonicalEntries rest

end

@[simp] theorem canonicalItems_eq_map (items : List Json) :
    canonicalItems items = items.map canonical := by
  induction items with
  | nil => simp [canonicalItems]
  | cons v rest ih => simp [canonicalItems, ih]

@[simp] theorem canonicalEntries_eq_map (entries : List (String × Json)) :
    canonicalEntries entries = entries.map fun e => (e.1, canonical e.2) := by
  induction entries with
  | nil => simp [canonicalEntries]
  | cons e rest ih => simp [canonicalEntries, ih]

end Json

end CatchmentPlanning
