import CatchmentPlanning.Text.Blank

/-!
# Sheets

Solution sets and action tables are posted as sheets: records of cells, commas
between the cells of a record and line ends between the records. A cell that
starts with a quote runs to the next single quote, commas and line ends
included, and two quotes in it stand for one; what follows the closing quote
belongs to the cell as it stands. A quote further inside a cell is an ordinary
character, and a quoted cell that is never closed runs to the end of the sheet.

Lines end in `\n`, `\r` or both. Empty lines are no records. Every cell is
trimmed. A byte order mark in front of the sheet is skipped.
-/

namespace CatchmentPlanning

/-- Where something begins in a sheet. -/
structure Position where
  /-- The line, counted from one. -/
  line : Nat
  /-- The byte, counted from zero. -/
  byte : Nat
deriving Repr, DecidableEq

namespace Sheet

/-- A record, with the place where the record before it ended. -/
structure Record where
  start : Position
  cells : List String
deriving Repr, DecidableEq

/-- What the next character continues. -/
inductive Mode where
  /-- Nothing; a record may begin here. -/
  | recordStart
  /-- A cell that has no character yet. -/
  | cellStart
  /-- A cell without quotes, or one behind its closing quote. -/
  | plain
  /-- A quoted cell. -/
  | quoted
  /-- A quoted cell right behind a quote. -/
  | quoteSeen
deriving Repr, DecidableEq

/-- A sheet that has been read up to some character. Characters, cells and
records are kept with the last one first. -/
structure Scan where
  mode : Mode
  cell : List Char
  cells : List String
  records : List Record
  /-- Where the last record ended. -/
  start : Position
  /-- Where the next character stands. -/
  here : Position

namespace Scan

/-- Nothing has been read yet. -/
def initial : Scan := ⟨.recordStart, [], [], [], ⟨1, 0⟩, ⟨1, 0⟩⟩

/-- Puts a character into the cell. -/
def push (s : Scan) (mode : Mode) (c : Char) : Scan := { s with mode, cell := c :: s.cell }

/-- Ends the cell. -/
def endCell (s : Scan) : Scan :=
  { s with
    mode := .cellStart
    cell := []
    cells := String.ofList (Text.trimmed s.cell.reverse) :: s.cells }

/-- Ends the cell and the record. -/
def endRecord (s : Scan) : Scan :=
  let s := s.endCell
  { s with
    mode := .recordStart
    cells := []
    records := ⟨s.start, s.cells.reverse⟩ :: s.records
    start := s.here }

/-- Whether a character ends a line. -/
def isLineEnd (c : Char) : Bool := c = '\n' || c = '\r'

/-- Goes on behind a character outside quotes, at the start of a cell if
`atStart` holds. -/
def outside (s : Scan) (atStart : Bool) (c : Char) : Scan :=
  if c = '"' ∧ atStart then { s with mode := .quoted }
  else if c = ',' then s.endCell
  else if isLineEnd c then s.endRecord
  else s.push .plain c

/-- Reads a character. -/
def step (s : Scan) (c : Char) : Scan :=
  let line := if c = '\n' then s.here.line + 1 else s.here.line
  let s := { s with here := ⟨line, s.here.byte + c.utf8Size⟩ }
  match s.mode with
  | .recordStart => if isLineEnd c then s else s.outside true c
  | .cellStart => s.outside true c
  | .plain => s.outside false c
  | .quoted => if c = '"' then { s with mode := .quoteSeen } else s.push .quoted c
  | .quoteSeen => if c = '"' then s.push .quoted c else s.outside false c

/-- Everything has been read. -/
def finish (s : Scan) : Scan :=
  match s.mode with
  | .recordStart => s
  | _ => s.endRecord

end Scan

/-- The records of a sheet, in order. -/
def records (text : String) : List Record :=
  let scan :=
    match text.toList with
    | '\ufeff' :: cs =>
      cs.foldl Scan.step { Scan.initial with here := ⟨1, '\ufeff'.utf8Size⟩ }
    | cs => cs.foldl Scan.step Scan.initial
  scan.finish.records.reverse

end Sheet

/-- A sheet whose first record names its columns. A sheet without any record
has no columns. -/
structure Sheet where
  header : List String
  body : List Sheet.Record

namespace Sheet

/-- Reads a sheet. -/
def read (text : String) : Sheet :=
  match records text with
  | [] => ⟨[], []⟩
  | header :: body => ⟨header.cells, body⟩

/-- The cells of each record below the header. -/
def rows (s : Sheet) : List (List String) := s.body.map (·.cells)

/-- The first record that has not as many cells as the header, with its number
below the header, counted from one. -/
def ragged? (s : Sheet) : Option (Nat × Record) :=
  (s.body.zipIdx.find? fun (r, _) => r.cells.length ≠ s.header.length).map
    fun (r, i) => (i + 1, r)

/-- A sheet has no ragged record exactly if every record is as long as the
header. -/
theorem ragged?_eq_none_iff {s : Sheet} :
    s.ragged? = none ↔ ∀ row ∈ s.rows, row.length = s.header.length := by
  simp only [ragged?, rows, Option.map_eq_none_iff, List.find?_eq_none, List.mem_map,
    forall_exists_index, and_imp, forall_apply_eq_imp_iff₂, decide_eq_true_eq, ne_eq,
    Decidable.not_not]
  constructor
  · intro h r hr
    obtain ⟨i, hi, rfl⟩ := List.getElem_of_mem hr
    have hmem : (s.body[i], i) ∈ s.body.zipIdx :=
      List.mem_zipIdx_iff_getElem?.mpr (by simp [List.getElem?_eq_getElem hi])
    simpa using h _ hmem
  · intro h x hx
    have := List.mem_zipIdx_iff_getElem?.mp hx
    simpa using h x.1 (List.mem_of_getElem? this)

end Sheet

end CatchmentPlanning
