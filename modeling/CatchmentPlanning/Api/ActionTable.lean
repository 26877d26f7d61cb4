import CatchmentPlanning.Plan.Basic
import CatchmentPlanning.Sheet

/-!
# Action tables

Many actions of the scratchpad are taken or dropped at once by a sheet: its
first column is `SubCatchment` and names planning units, its other columns are
named for kinds of action, and a cell is `1` or `0`. A cell decides about the
action of its column's kind at its row's unit, the last one if there are
several; actions that no cell decides about stay as they are, and cells for
actions that a unit does not have count for nothing.
-/

namespace CatchmentPlanning

namespace ActionTable

/-- What may be wrong with the cells of a table. Rows are counted from one. -/
inductive CellViolation where
  | unknownUnit (row unit : Nat)
  | notAUnit (row : Nat) (cell : String)
  | notAFlag (row : Nat) (kind cell : String)
deriving Repr, DecidableEq

/-- What is wrong, in words. -/
def CellViolation.message : CellViolation → String
  | unknownUnit row unit =>
    "row " ++ toString row ++ ": unknown subcatchment [" ++ toString unit ++ "]"
  | notAUnit row cell =>
    "row " ++ toString row ++ ": [" ++ cell ++ "] is not a subcatchment id"
  | notAFlag row kind cell =>
    "row " ++ toString row ++ " column [" ++ kind ++ "]: [" ++ cell ++ "] is not 0 or 1"

/-- Why a sheet is no action table. -/
inductive Fault where
  /-- The first column has another name. -/
  | firstColumn (found : String)
  /-- A record has not as many cells as the header. -/
  | ragged (number : Nat) (start : Position) (found expected : Nat)
  | cells (violations : List CellViolation)
deriving Repr, DecidableEq

/-- The report on a table that is at fault. -/
def report (messages : List String) : String :=
  Problems.report ⟨"invalid active actions table", messages⟩

/-- What is wrong, in words. -/
def Fault.message : Fault → String
  | firstColumn found =>
    report ["first column must be [SubCatchment], found [" ++ found ++ "]"]
  | ragged number start found expected =>
    "unable to read active actions: CSV error: record " ++ toString number
      ++ " (line: " ++ toString start.line ++ ", byte: " ++ toString start.byte
      ++ "): found record with " ++ toString found
      ++ " fields, but the previous record has " ++ toString expected ++ " fields"
  | cells violations => report (violations.map CellViolation.message)

/-- What a cell says about its action. -/
def flag? : String → Option Bool
  | "0" => some false
  | "1" => some true
  | _ => none

/-- The unit that the first cell of a row names. -/
def unit (c : Catchment) (row : Nat) (cell : String) : Except CellViolation Nat :=
  match Text.unsigned? (2 ^ 32) cell with
  | none => .error (.notAUnit row cell)
  | some unit => if c.hasUnit unit then .ok unit else .error (.unknownUnit row unit)

/-- Flags, and the violations met on the way to them. -/
abbrev Checked := List CellViolation × List Bool

/-- Goes through the cells of a row behind its first one, each with the kind of
action that its column is named for. -/
def applyCells (c : Catchment) (row unit : Nat) (flags : List Bool) :
    List (String × String) → Checked
  | [] => ([], flags)
  | (kind, cell) :: rest =>
    match flag? cell with
    | none =>
      let (found, flags) := applyCells c row unit flags rest
      (.notAFlag row kind cell :: found, flags)
    | some active =>
      match c.position? unit kind with
      | some i => applyCells c row unit (flags.set i active) rest
      | none => applyCells c row unit flags rest

/-- Goes through the rows from a number on. The cells of a row without a unit
are not looked at. -/
def applyRows (c : Catchment) (kinds : List String) (row : Nat) (flags : List Bool) :
    List (List String) → Checked
  | [] => ([], flags)
  | cells :: rest =>
    match unit c row (cells.headD "") with
    | .error violation =>
      let (found, flags) := applyRows c kinds (row + 1) flags rest
      (violation :: found, flags)
    | .ok unit =>
      let (here, flags) := applyCells c row unit flags (kinds.zip (cells.drop 1))
      let (found, flags) := applyRows c kinds (row + 1) flags rest
      (here ++ found, flags)

/-- The flags that a plan has once a table has been applied to it. -/
def flags (text : String) (p : Plan) : Except Fault (List Bool) :=
  let sheet := Sheet.read text
  if sheet.header.headD "" ≠ "SubCatchment" then .error (.firstColumn (sheet.header.headD ""))
  else
    match sheet.ragged? with
    | some (number, r) => .error (.ragged number r.start r.cells.length sheet.header.length)
    | none =>
      match applyRows p.catchment (sheet.header.drop 1) 1 p.flags sheet.rows with
      | ([], flags) => .ok flags
      | (violations, _) => .error (.cells violations)

@[simp] theorem length_applyCells (c : Catchment) (row unit : Nat) (flags : List Bool)
    (cells : List (String × String)) :
    (applyCells c row unit flags cells).2.length = flags.length := by
  fun_induction applyCells c row unit flags cells <;> simp_all

/-- A table decides about as many actions as there are. -/
@[simp] theorem length_applyRows (c : Catchment) (kinds : List String) (row : Nat)
    (flags : List Bool) (rows : List (List String)) :
    (applyRows c kinds row flags rows).2.length = flags.length := by
  fun_induction applyRows c kinds row flags rows with
  | case1 => rfl
  | case2 row flags cells rest v hv found after h ih => simpa [h] using ih
  | case3 row flags cells rest unit hu here between hc found after h ih =>
    have hlen := length_applyCells c row unit flags (kinds.zip (cells.drop 1))
    rw [hc] at hlen
    rw [h] at ih
    exact ih.trans hlen

end ActionTable

end CatchmentPlanning
