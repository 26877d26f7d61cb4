import CatchmentPlanning.Decimal.Reading
import CatchmentPlanning.Plan.Basic
import CatchmentPlanning.Sheet

/-!
# Fronts

A front is a posted table of candidate solutions for the loaded scenario. Its
sheet has the columns `Solution`, one for each decision variable in order,
`Actions` and `Summary`. A front is taken over only as a whole and only if
everything in it holds up: labels are given, distinct and not reserved, values
are numbers, actions are tokens for the catchment, and there is an As-Is row
whose values are those of the plan that takes no action.

Every violation is reported, row by row. A row of the wrong width is reported
as such and not looked at further.
-/

namespace CatchmentPlanning

/-- The label of the plan that takes no action. -/
def asIsLabel : String := "As-Is"

/-- The label of the plan that clients edit. -/
def scratchpadLabel : String := "Scratchpad"

namespace Front

/-- A candidate solution. -/
structure Row where
  label : String
  /-- The values of the decision variables, in order. -/
  values : List Float
  /-- The token of the actions, as it was posted. -/
  token : String
  summary : String

end Front

/-- A table of candidate solutions. -/
structure Front where
  rows : List Front.Row
  /-- The sheet as it was posted. -/
  text : String

namespace Front

/-! ## What may be wrong -/

/-- What may be wrong with the header of a sheet. Columns are counted from one. -/
inductive HeaderViolation where
  | columnCount (expected : List String) (found : Nat)
  | column (number : Nat) (expected found : String)
deriving Repr, DecidableEq

/-- What is wrong, in words. -/
def HeaderViolation.message : HeaderViolation → String
  | columnCount expected found =>
    "expected " ++ toString expected.length ++ " columns [" ++ ", ".intercalate expected
      ++ "], found " ++ toString found
  | column number expected found =>
    "column " ++ toString number ++ ": expected [" ++ expected ++ "], found [" ++ found ++ "]"

/-- What may be wrong with the rows of a sheet. Rows are counted from one. -/
inductive RowViolation where
  | width (row expected found : Nat)
  | emptyLabel (row : Nat)
  | reservedLabel (row : Nat)
  | repeatedLabel (row : Nat) (label : String)
  | notANumber (row : Nat) (name cell : String)
  | notAToken (row : Nat) (cell : String)
  | badToken (row : Nat) (cell : String) (fault : Token.Fault)
  | otherValue (row : Nat) (name : String) (found expected : Float)
  | noAsIs

/-- What is wrong, in words. -/
def RowViolation.message : RowViolation → String
  | width row expected found =>
    "row " ++ toString row ++ ": expected " ++ toString expected ++ " fields, found "
      ++ toString found
  | emptyLabel row => "row " ++ toString row ++ ": [Solution] is empty"
  | reservedLabel row =>
    "row " ++ toString row ++ ": [" ++ scratchpadLabel
      ++ "] is reserved and cannot be a solution label"
  | repeatedLabel row label =>
    "row " ++ toString row ++ ": duplicate label [" ++ label ++ "]"
  | notANumber row name cell =>
    "row " ++ toString row ++ " column [" ++ name ++ "]: [" ++ cell ++ "] is not a number"
  | notAToken row cell =>
    "row " ++ toString row ++ " column [Actions]: [" ++ cell ++ "] is not an action encoding"
  | badToken row cell fault =>
    "row " ++ toString row ++ " column [Actions]: [" ++ cell ++ "] " ++ fault.message
  | otherValue row name found expected =>
    "row " ++ toString row ++ " column [" ++ name ++ "]: As-Is value "
      ++ Decimal.plainText found ++ " does not match scenario value "
      ++ Decimal.plainText expected
  | noAsIs => "no [" ++ asIsLabel ++ "] row to check against the scenario"

/-- Why a sheet is not taken over as the front. -/
inductive Fault where
  | header (violations : List HeaderViolation)
  | rows (violations : List RowViolation)
  /-- The scratchpad cannot be brought up to date with it. -/
  | scratchpad (detail : String)

/-- The report on what is wrong. -/
def Fault.problems : Fault → Problems
  | header violations =>
    ⟨"invalid solution set header", violations.map HeaderViolation.message⟩
  | rows violations => ⟨"invalid solution set", violations.map RowViolation.message⟩
  | scratchpad detail => ⟨"unable to refresh scratchpad", [detail]⟩

/-- What is wrong, in words. -/
def Fault.message (f : Fault) : String := f.problems.report

/-! ## Checking the header -/

/-- The columns that a front for a catchment has. -/
def columns (c : Catchment) : List String :=
  "Solution" :: c.variableNames ++ ["Actions", "Summary"]

/-- What is wrong with a header. -/
def headerViolations (expected header : List String) : List HeaderViolation :=
  (if header.length = expected.length then []
    else [.columnCount expected header.length])
  ++ ((header.zip expected).zipIdx.filterMap fun ((found, wanted), i) =>
    if found = wanted then none else some (.column (i + 1) wanted found))

/-! ## Checking the rows -/

/-- How far a posted value may be from the scenario's own, relative to it. -/
def tolerance : Float := 1e-9

/-- Whether a posted value is the scenario's own but for rounding. -/
def sameValue (found expected : Float) : Bool :=
  let size := expected.abs
  -- where `expected` is no number, so is the difference, and the test fails
  (found - expected).abs ≤ tolerance * (if size < 1.0 then 1.0 else size)

/-- What is wrong with a label; `seen` holds the labels of earlier rows. -/
def labelViolations (row : Nat) (seen : List String) (label : String) : List RowViolation :=
  if label = "" then [.emptyLabel row]
  else if label = scratchpadLabel then [.reservedLabel row]
  else if label ∈ seen then [.repeatedLabel row label]
  else []

/-- What is wrong with the cells for the decision variables. -/
def valueViolations (row : Nat) (names cells : List String) : List RowViolation :=
  (names.zip cells).filterMap fun (name, cell) =>
    match Decimal.readFloat? cell with
    | some _ => none
    | none => some (.notANumber row name cell)

/-- What is wrong with the cell for the actions. -/
def tokenViolations (row actions : Nat) (cell : String) : List RowViolation :=
  if cell = "" ∨ !Token.isShaped cell then [.notAToken row cell]
  else
    match Token.decode actions cell with
    | .ok _ => []
    | .error e => [.badToken row cell e]

/-- What is wrong with the values of the As-Is row. They are compared only when
each of them is a number. -/
def asIsViolations (row : Nat) (names : List String) (found expected : List Float) :
    List RowViolation :=
  if found.length = expected.length then
    (names.zip (found.zip expected)).filterMap fun (name, found, expected) =>
      if sameValue found expected then none else some (.otherValue row name found expected)
  else []

/-- The row that the cells of a record describe, of which `count` hold values. -/
def rowOf (count : Nat) (cells : List String) : Row where
  label := cells.headD ""
  values := ((cells.drop 1).take count).filterMap Decimal.readFloat?
  token := cells.getD (count + 1) ""
  summary := cells.getD (count + 2) ""

/-- What is wrong with a row of the right width. -/
def rowViolations (p : Plan) (number : Nat) (seen : List String) (cells : List String) :
    List RowViolation :=
  let names := p.catchment.variableNames
  let row := rowOf names.length cells
  labelViolations number seen row.label
    ++ valueViolations number names (cells.drop 1)
    ++ tokenViolations number p.catchment.actions.length row.token
    ++ (if row.label = asIsLabel then asIsViolations number names row.values p.values else [])

/-- What is wrong with the records from a number on; `seen` holds the labels of
the rows in front of them. -/
def violationsFrom (p : Plan) (width number : Nat) (seen : List String) :
    List (List String) → List RowViolation
  | [] => []
  | cells :: rest =>
    if cells.length = width then
      rowViolations p number seen cells
        ++ violationsFrom p width (number + 1) (cells.headD "" :: seen) rest
    else .width number width cells.length :: violationsFrom p width (number + 1) seen rest

/-- Takes a sheet over as a front, checked against the plan that takes no action. -/
def ingest (text : String) (asIs : Plan) : Except Fault Front :=
  let sheet := Sheet.read text
  let expected := columns asIs.catchment
  match headerViolations expected sheet.header with
  | v :: vs => .error (.header (v :: vs))
  | [] =>
    let width := sheet.header.length
    let count := asIs.catchment.decisionVariables.length
    let rows := (sheet.rows.filter (·.length = width)).map (rowOf count)
    let missing := if rows.any (·.label = asIsLabel) then [] else [RowViolation.noAsIs]
    match violationsFrom asIs width 1 [] sheet.rows ++ missing with
    | v :: vs => .error (.rows (v :: vs))
    | [] => .ok ⟨rows, text⟩

/-! ## Looking rows up -/

/-- The row with a label, the first one if there are several. -/
def row? (f : Front) (label : String) : Option Row := f.rows.find? (·.label = label)

/-- Whether there is a row with a label. -/
def contains (f : Front) (label : String) : Bool := f.rows.any (·.label = label)

/-- The label of the first row whose actions a token names, in either case. -/
def labelOf? (f : Front) (token : String) : Option String :=
  (f.rows.find? fun r => Token.sameIgnoringCase r.token token).map (·.label)

/-- Whether some row has the actions that a token names. -/
def onFront (f : Front) (token : String) : Bool := (f.labelOf? token).isSome

/-- A label is on the front exactly if a row is found for it. -/
theorem contains_eq_isSome_row? (f : Front) (label : String) :
    f.contains label = (f.row? label).isSome := by
  rw [Bool.eq_iff_iff, contains, row?, List.any_eq_true, List.find?_isSome]

end Front

end CatchmentPlanning
