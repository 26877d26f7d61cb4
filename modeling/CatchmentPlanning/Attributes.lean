import CatchmentPlanning.Json.Reader

/-!
# Attributes

A plan carries descriptive attributes: named JSON values in the order in which
their names first came up. Setting a name that is there already replaces its
value in place; removing one leaves the others in order.

Attributes arrive as JSON in one of two forms. A **list** holds pairs, each an
object with a `Name` and a `Value` or an array of exactly these two, and is set
pair by pair. An **object** holds one value for each name and is set in the
order of the names. They are always written as a list.
-/

namespace CatchmentPlanning

namespace Attributes

/-- Replaces the value of a name in place, or puts a new name at the end. -/
def setEntry (name : String) (v : Json) : Named Json → Named Json
  | [] => [(name, v)]
  | e :: rest => if e.1 = name then (name, v) :: rest else e :: setEntry name v rest

/-- Setting changes no names but may add one at the end. -/
theorem names_setEntry (name : String) (v : Json) (entries : Named Json) :
    (setEntry name v entries).map (·.1)
      = if name ∈ entries.map (·.1) then entries.map (·.1) else entries.map (·.1) ++ [name] := by
  induction entries with
  | nil => rfl
  | cons e rest ih =>
    rw [setEntry]
    by_cases he : e.1 = name
    · simp [he]
    · rw [if_neg he, List.map_cons, ih, List.map_cons]
      by_cases h : name ∈ rest.map (·.1)
      · rw [if_pos h, if_pos (List.mem_cons_of_mem _ h)]
      · have h' : name ∉ e.1 :: rest.map (·.1) := by
          rw [List.mem_cons]
          exact not_or.mpr ⟨fun heq => he heq.symm, h⟩
        rw [if_neg h, if_neg h', List.cons_append]

theorem nodup_setEntry {entries : Named Json} (h : (entries.map (·.1)).Nodup) (name : String)
    (v : Json) : ((setEntry name v entries).map (·.1)).Nodup := by
  rw [names_setEntry]
  by_cases hn : name ∈ entries.map (·.1)
  · rw [if_pos hn]
    exact h
  · rw [if_neg hn, List.nodup_append]
    refine ⟨h, by simp, fun a ha b hb hab => ?_⟩
    rw [List.mem_singleton.mp hb] at hab
    exact hn (hab ▸ ha)

theorem nodup_eraseP {entries : Named Json} (h : (entries.map (·.1)).Nodup)
    (p : String × Json → Bool) : ((entries.eraseP p).map (·.1)).Nodup :=
  h.sublist (List.eraseP_sublist.map _)

end Attributes

/-- Named JSON values in the order of their first setting. -/
structure Attributes where
  entries : Named Json
  /-- Every name stands there once. -/
  nodup_names : (entries.map (·.1)).Nodup := by simp

namespace Attributes

/-- No attributes. -/
def empty : Attributes where
  entries := []

instance : EmptyCollection Attributes := ⟨empty⟩

/-- How many attributes there are. -/
def size (a : Attributes) : Nat := a.entries.length

/-- Whether there are none. -/
def isEmpty (a : Attributes) : Bool := a.entries.isEmpty

/-- The names, in order. -/
def names (a : Attributes) : List String := a.entries.map (·.1)

/-- The value of a name. -/
def get? (a : Attributes) (name : String) : Option Json := Named.valueOf? name a.entries

/-- The value of a name, if it is a string. -/
def text? (a : Attributes) (name : String) : Option String := (a.get? name).bind Json.text?

/-- Sets the value of a name. -/
def set (a : Attributes) (name : String) (v : Json) : Attributes :=
  ⟨setEntry name v a.entries, nodup_setEntry a.nodup_names name v⟩

/-- Drops a name and its value. -/
def remove (a : Attributes) (name : String) : Attributes :=
  ⟨a.entries.eraseP (·.1 == name), nodup_eraseP a.nodup_names _⟩

/-- Sets names one after another. -/
def setAll (a : Attributes) (entries : Named Json) : Attributes :=
  entries.foldl (fun a e => a.set e.1 e.2) a

/-! ## Reading and writing -/

/-- Why a JSON text holds no attributes. -/
inductive Fault where
  | json (fault : Json.Fault)
  /-- The value is neither a list of pairs nor an object. -/
  | form
deriving Repr, DecidableEq

/-- What is wrong, in words. -/
def Fault.message : Fault → String
  | json fault => fault.message
  | form => "neither a list of name and value pairs nor an object"

/-- How deeply containers may be nested in attributes. -/
def nestingLimit : Nat := 127

/-- Reads one pair of a list. `Name` and `Value` each occur once; an object may
hold other entries besides. -/
def pair? : Json → Option (String × Json)
  | .obj entries =>
    match entries.filter (·.1 == "Name"), entries.filter (·.1 == "Value") with
    | [(_, .str name)], [(_, v)] => some (name, v.canonical)
    | _, _ => none
  | .arr [.str name, v] => some (name, v.canonical)
  | _ => none

/-- The attributes that a JSON value holds. -/
def ofJson? : Json → Option Attributes
  | .arr items => (items.mapM pair?).map empty.setAll
  | .obj entries => some (empty.setAll (Named.sorted (Json.canonicalEntries entries)))
  | _ => none

/-- Reads attributes from a JSON text. -/
def read (text : String) : Except Fault Attributes :=
  match Json.read nestingLimit text with
  | .error e => .error (.json e)
  | .ok v =>
    match ofJson? v with
    | some a => .ok a
    | none => .error .form

/-- Attributes as a list of pairs. -/
def toJson (a : Attributes) : Json :=
  .arr (a.entries.map fun (name, v) => .obj [("Name", .str name), ("Value", v)])

/-! ## The attributes as a map -/

@[simp] theorem get?_empty (name : String) : empty.get? name = none := rfl

theorem valueOf?_setEntry (name key : String) (v : Json) (entries : Named Json) :
    Named.valueOf? key (setEntry name v entries)
      = if name = key then some v else Named.valueOf? key entries := by
  induction entries with
  | nil => by_cases h : name = key <;> simp [setEntry, Named.valueOf?_cons, h]
  | cons e rest ih =>
    by_cases he : e.1 = name
    · by_cases h : name = key <;> simp [setEntry, Named.valueOf?_cons, he, h]
    · rw [setEntry, if_neg he, Named.valueOf?_cons, ih, Named.valueOf?_cons]
      by_cases h : name = key
      · subst h
        simp [he]
      · simp [h]

/-- A name has the value it was set to, and the other names keep theirs. -/
theorem get?_set (a : Attributes) (name key : String) (v : Json) :
    (a.set name v).get? key = if name = key then some v else a.get? key :=
  valueOf?_setEntry name key v a.entries

end Attributes

end CatchmentPlanning
