import CatchmentPlanning.Proofs.ActionTable
import CatchmentPlanning.Proofs.Scenario.Declarations
import Mathlib.Data.List.Basic

/-!
# The cells of a table of actions

A table of actions is read row by row, and each row from left to right. Cells may speak of the same
action several times over: rows may name a unit again, also in another spelling, and columns a
kind. The last such cell counts, and an action that no cell speaks of keeps its flag
(`flags_last_cell_wins`).

Where a cell stands and which action it speaks of can be said of the sheet alone (`SpeaksOf`).
Reading goes through the cells in order (`cells`), and takes over of each what it says; so behind
the last cell that speaks of an action nothing changes its flag (`getElem?_applied`).
-/

namespace CatchmentPlanning

/-- The cell in a row below the header and a column, both counted from zero. -/
def Sheet.cell? (sheet : Sheet) (row column : Nat) : Option String :=
  sheet.rows[row]?.bind (·[column]?)

namespace ActionTable

/-! ## Tables, and what their cells speak of -/

/-- **Which sheets are tables of actions for a catchment.** -/
structure IsTable (c : Catchment) (sheet : Sheet) : Prop where
  first_column : sheet.header.head? = some "SubCatchment"
  rectangular : ∀ cells ∈ sheet.rows, cells.length = sheet.header.length
  units : ∀ cells ∈ sheet.rows, ∃ cell unit, cells.head? = some cell
    ∧ Text.unsigned? (2 ^ 32) cell = some unit ∧ unit ∈ c.units
  flags : ∀ cells ∈ sheet.rows, ∀ cell ∈ cells.tail, cell = "0" ∨ cell = "1"

/-- **The row of a cell names a unit, and its column a kind of action.** -/
structure SpeaksOf (sheet : Sheet) (unit : Nat) (kind : String) (row column : Nat) : Prop where
  behind_first : 0 < column
  unit_eq : (sheet.cell? row 0).bind (Text.unsigned? (2 ^ 32)) = some unit
  kind_eq : sheet.header[column]? = some kind

/-- **No cell that is read later speaks of the same action.** -/
structure SpeaksLastOf (sheet : Sheet) (unit : Nat) (kind : String) (row column : Nat) : Prop
    extends SpeaksOf sheet unit kind row column where
  last : ∀ row' column', SpeaksOf sheet unit kind row' column' →
    row' < row ∨ row' = row ∧ column' ≤ column

/-! ## Cells in the order in which they are read -/

/-- A cell behind the first column. -/
structure Cell where
  row : Nat
  column : Nat
  /-- The cell that its row begins with. -/
  first : String
  /-- The cell of the header above it. -/
  kind : String
  text : String

/-- A cell is read before another one. -/
def Cell.Before (x y : Cell) : Prop := x.row < y.row ∨ x.row = y.row ∧ x.column < y.column

/-- The cells of a row. -/
def rowCells (header : List String) (row : List String × Nat) : List Cell :=
  (((header.drop 1).zip (row.1.drop 1)).zipIdx 1).map fun x =>
    ⟨row.2, x.2, row.1.headD "", x.1.1, x.1.2⟩

/-- The cells of a sheet, in order. -/
def cells (sheet : Sheet) : List Cell := sheet.rows.zipIdx.flatMap (rowCells sheet.header)

variable {sheet : Sheet} {c : Catchment} {unit : Nat} {kind : String} {x y : Cell}

theorem mem_rowCells_iff {header : List String} {row : List String × Nat} :
    x ∈ rowCells header row ↔ x.row = row.2 ∧ x.first = row.1.headD "" ∧ 0 < x.column
      ∧ header[x.column]? = some x.kind ∧ row.1[x.column]? = some x.text := by
  rw [rowCells, List.mem_map]
  constructor
  · rintro ⟨⟨⟨kind, text⟩, column⟩, hmem, rfl⟩
    obtain ⟨hcolumn, hcell⟩ := List.mk_mem_zipIdx_iff_le_and_getElem?_sub.mp hmem
    rw [List.getElem?_zip_eq_some, List.getElem?_drop, List.getElem?_drop,
      Nat.add_sub_cancel' hcolumn] at hcell
    exact ⟨rfl, rfl, hcolumn, hcell⟩
  · obtain ⟨row', column, first, kind, text⟩ := x
    rintro ⟨rfl, rfl, hcolumn, hcell⟩
    refine ⟨((kind, text), column), ?_, rfl⟩
    rw [List.mk_mem_zipIdx_iff_le_and_getElem?_sub, List.getElem?_zip_eq_some, List.getElem?_drop,
      List.getElem?_drop, Nat.add_sub_cancel' hcolumn]
    exact ⟨hcolumn, hcell⟩

theorem mem_cells_iff :
    x ∈ cells sheet ↔ ∃ row, sheet.rows[x.row]? = some row ∧ x.first = row.headD ""
      ∧ 0 < x.column ∧ sheet.header[x.column]? = some x.kind ∧ row[x.column]? = some x.text := by
  rw [cells, List.mem_flatMap]
  constructor
  · rintro ⟨row, hmem, hx⟩
    obtain ⟨hrow, hcell⟩ := mem_rowCells_iff.mp hx
    exact ⟨row.1, hrow ▸ List.mk_mem_zipIdx_iff_getElem?.mp hmem, hcell⟩
  · rintro ⟨row, hrow, hcell⟩
    exact ⟨(row, x.row), List.mk_mem_zipIdx_iff_getElem?.mpr hrow,
      mem_rowCells_iff.mpr ⟨rfl, hcell⟩⟩

theorem pairwise_zipIdx {α : Type} (l : List α) (n : Nat) :
    (l.zipIdx n).Pairwise fun a b => a.2 < b.2 := by
  have hpairwise : ((l.zipIdx n).map Prod.snd).Pairwise (· < ·) := by
    rw [List.zipIdx_map_snd]
    exact List.pairwise_lt_range'
  exact List.pairwise_map.mp hpairwise

/-- **Each cell stands behind those that are read before it.** -/
theorem pairwise_cells (sheet : Sheet) : (cells sheet).Pairwise Cell.Before := by
  rw [cells, List.pairwise_flatMap]
  constructor
  · intro row _
    rw [rowCells, List.pairwise_map]
    exact (pairwise_zipIdx _ 1).imp fun h => .inr ⟨rfl, h⟩
  · refine (pairwise_zipIdx sheet.rows 0).imp fun h x hx y hy => .inl ?_
    rwa [(mem_rowCells_iff.mp hx).1, (mem_rowCells_iff.mp hy).1]

/-! ## What is taken over of the cells -/

/-- What a cell says. -/
def Cell.verdict? (c : Catchment) (x : Cell) : Option (Nat × Bool) :=
  (unit? c x.first).bind fun unit => ActionTable.verdict? c unit (x.kind, x.text)

theorem filterMap_rowCells (c : Catchment) (header : List String) (row : List String × Nat) :
    (rowCells header row).filterMap (Cell.verdict? c)
      = match unit? c (row.1.headD "") with
        | some unit => ((header.drop 1).zip (row.1.drop 1)).filterMap (verdict? c unit)
        | none => [] := by
  rw [rowCells, List.filterMap_map]
  cases hunit : unit? c (row.1.headD "") with
  | none =>
    refine List.filterMap_eq_nil_iff.mpr fun x _ => ?_
    exact Option.bind_eq_none_iff.mpr fun unit h => nomatch hunit.symm.trans h
  | some unit =>
    have hzip : ((header.drop 1).zip (row.1.drop 1)).filterMap (verdict? c unit)
        = (((header.drop 1).zip (row.1.drop 1)).zipIdx 1).filterMap
            (verdict? c unit ∘ Prod.fst) := by
      rw [← List.filterMap_map, List.zipIdx_map_fst]
    refine Eq.trans (List.filterMap_congr fun x _ => ?_) hzip.symm
    show (unit? c (row.1.headD "")).bind _ = _
    rw [hunit]
    rfl

theorem flatMap_zipIdx {α β : Type} (f : α → List β) (l : List α) :
    l.zipIdx.flatMap (fun x => f x.1) = l.flatMap f := by
  rw [← List.flatMap_map, List.zipIdx_map_fst]

/-- A table says what its cells say. -/
theorem verdicts_eq (c : Catchment) (sheet : Sheet) :
    verdicts c (sheet.header.drop 1) sheet.rows = (cells sheet).filterMap (Cell.verdict? c) := by
  rw [cells, List.filterMap_flatMap, verdicts]
  simp only [filterMap_rowCells]
  exact (flatMap_zipIdx _ _).symm

/-- What a cell says of the action at a position. -/
theorem Cell.verdict?_eq_some_iff {i : Nat} {active : Bool} :
    x.verdict? c = some (i, active) ↔
      ∃ unit, unit? c x.first = some unit ∧ c.position? unit x.kind = some i
        ∧ flag? x.text = some active :=
  Option.bind_eq_some_iff.trans
    (exists_congr fun _ => and_congr_right fun _ => ActionTable.verdict?_eq_some_iff)

/-- A cell speaks of the action of a kind at a unit. -/
def Cell.IsFor (unit : Nat) (kind : String) (x : Cell) : Prop :=
  Text.unsigned? (2 ^ 32) x.first = some unit ∧ x.kind = kind

instance : DecidablePred (Cell.IsFor unit kind) := fun _ => inferInstanceAs (Decidable (_ ∧ _))

/-- A cell speaks of the action that its verdict is about. -/
theorem isFor_iff (h : c.Indexed) {i : Nat} {a : Action} (ha : c.actions[i]? = some a) :
    x.IsFor a.unit a.kind ↔
      ∃ unit, unit? c x.first = some unit ∧ c.position? unit x.kind = some i := by
  constructor
  · rintro ⟨hunit, hkind⟩
    have hmem : a.unit ∈ c.units := h.unit_mem a (List.mem_of_getElem? ha)
    exact ⟨a.unit, unit?_eq_some_iff.mpr ⟨hunit, hmem⟩, hkind ▸ h.position?_eq ha⟩
  · rintro ⟨unit, hunit, hposition⟩
    obtain ⟨b, hb, rfl, hkind⟩ := Catchment.getElem?_of_position? hposition
    rw [ha, Option.some.injEq] at hb
    subst hb
    exact ⟨(unit?_eq_some_iff.mp hunit).1, hkind.symm⟩

/-- What a cell says of an action is its flag, if it speaks of the action. -/
theorem Cell.verdict?_bind_eq (h : c.Indexed) {i : Nat} {a : Action} (ha : c.actions[i]? = some a)
    (x : Cell) :
    (x.verdict? c).bind (fun w => if w.1 = i then some w.2 else none)
      = if x.IsFor a.unit a.kind then flag? x.text else none := by
  ext active
  rw [Option.ite_none_right_eq_some, isFor_iff h ha, Option.bind_eq_some_iff]
  constructor
  · rintro ⟨⟨j, active'⟩, hverdict, hw⟩
    obtain ⟨rfl, hactive⟩ := Option.ite_none_right_eq_some.mp hw
    cases hactive
    obtain ⟨unit, hunit, hposition, hflag⟩ := Cell.verdict?_eq_some_iff.mp hverdict
    exact ⟨⟨unit, hunit, hposition⟩, hflag⟩
  · rintro ⟨⟨unit, hunit, hposition⟩, hflag⟩
    refine ⟨(i, active), Cell.verdict?_eq_some_iff.mpr ⟨unit, hunit, hposition, hflag⟩, ?_⟩
    exact if_pos rfl

/-- Each cell of a table is a flag. -/
theorem IsTable.flag?_eq (h : IsTable c sheet) (hx : x ∈ cells sheet) :
    flag? x.text = some (x.text == "1") := by
  obtain ⟨row, hrow, -, hcolumn, -, htext⟩ := mem_cells_iff.mp hx
  have htail : x.text ∈ row.tail := by
    refine List.mem_iff_getElem?.mpr ⟨x.column - 1, ?_⟩
    rw [List.getElem?_tail, Nat.sub_add_cancel hcolumn]
    exact htext
  obtain htext | htext := h.flags row (List.mem_of_getElem? hrow) _ htail
  all_goals rw [htext]; rfl

/-- **The flag of an action after a table has been read**: what the last cell says that speaks of
the action, if there is one. -/
theorem IsTable.getElem?_applied (h : IsTable c sheet) (hindexed : c.Indexed) {flags : List Bool}
    {i : Nat} (hi : i < flags.length) {a : Action} (ha : c.actions[i]? = some a) :
    (applied flags (verdicts c (sheet.header.drop 1) sheet.rows))[i]?
      = (((cells sheet).filter (·.IsFor a.unit a.kind)).getLast?.map (·.text == "1")).or
          flags[i]? := by
  have hsaid : (cells sheet).filterMap
        (fun x => if x.IsFor a.unit a.kind then flag? x.text else none)
      = ((cells sheet).filter (·.IsFor a.unit a.kind)).map (·.text == "1") := by
    rw [← List.filterMap_eq_map_iff_forall_eq_some.mpr
      fun x hx => h.flag?_eq (List.mem_of_mem_filter hx), List.filterMap_filter]
    simp only [decide_eq_true_eq]
  rw [verdicts_eq, ActionTable.getElem?_applied hi, List.filterMap_filterMap,
    List.filterMap_congr fun x _ => x.verdict?_bind_eq hindexed ha, hsaid, List.getLast?_map]

/-! ## The last cell counts -/

/-- In a table, a cell in each row and column that speak of an action speaks of it. -/
theorem IsTable.speaksOf_iff (h : IsTable c sheet) {row column : Nat} :
    SpeaksOf sheet unit kind row column ↔
      ∃ x ∈ cells sheet, x.row = row ∧ x.column = column ∧ x.IsFor unit kind := by
  constructor
  · rintro ⟨hcolumn, hunit, hkind⟩
    obtain ⟨first, hfirst, hunit⟩ := Option.bind_eq_some_iff.mp hunit
    obtain ⟨row', hrow, hhead⟩ := Option.bind_eq_some_iff.mp hfirst
    obtain ⟨hlt, -⟩ := List.getElem?_eq_some_iff.mp hkind
    rw [← h.rectangular row' (List.mem_of_getElem? hrow)] at hlt
    refine ⟨⟨row, column, first, kind, row'[column]⟩, ?_, rfl, rfl, hunit, rfl⟩
    refine mem_cells_iff.mpr ⟨row', hrow, ?_, hcolumn, hkind, List.getElem?_eq_getElem hlt⟩
    rw [List.headD_eq_head?_getD, List.head?_eq_getElem?, hhead]
    rfl
  · rintro ⟨x, hx, rfl, rfl, hunit, rfl⟩
    obtain ⟨row', hrow, hfirst, hcolumn, hkind, htext⟩ := mem_cells_iff.mp hx
    refine ⟨hcolumn, Option.bind_eq_some_iff.mpr ⟨x.first, ?_, hunit⟩, hkind⟩
    refine Option.bind_eq_some_iff.mpr ⟨row', hrow, ?_⟩
    cases row' with
    | nil => cases htext
    | cons first rest => exact congrArg some hfirst.symm

theorem cell?_of_mem (hx : x ∈ cells sheet) : sheet.cell? x.row x.column = some x.text := by
  obtain ⟨row, hrow, -, -, -, htext⟩ := mem_cells_iff.mp hx
  exact Option.bind_eq_some_iff.mpr ⟨row, hrow, htext⟩

/-- In an ordered list, every entry of a kind is the last one of the kind or stands before it. -/
theorem rel_getLast?_filter {α : Type} {r : α → α → Prop} {l : List α} {p : α → Bool} {a b : α}
    (hl : l.Pairwise r) (h : (l.filter p).getLast? = some a) (hb : b ∈ l) (hp : p b = true) :
    b = a ∨ r b a := by
  obtain ⟨before, hbefore⟩ := List.getLast?_eq_some_iff.mp h
  have hmem : b ∈ before ++ [a] := hbefore ▸ List.mem_filter.mpr ⟨hb, hp⟩
  have hordered : (before ++ [a]).Pairwise r := hbefore ▸ hl.filter p
  obtain hmem | hmem := List.mem_append.mp hmem
  · exact .inr ((List.pairwise_append.mp hordered).2.2 b hmem a (List.mem_singleton_self a))
  · exact .inl (List.mem_singleton.mp hmem)

/-- The last of the cells that speak of an action. -/
theorem IsTable.speaksLastOf (h : IsTable c sheet)
    (hx : ((cells sheet).filter (·.IsFor unit kind)).getLast? = some x) :
    SpeaksLastOf sheet unit kind x.row x.column ∧ sheet.cell? x.row x.column = some x.text := by
  obtain ⟨hmem, hfor⟩ := List.mem_filter.mp (List.mem_of_getLast? hx)
  refine ⟨⟨h.speaksOf_iff.mpr ⟨x, hmem, rfl, rfl, of_decide_eq_true hfor⟩, ?_⟩, cell?_of_mem hmem⟩
  intro row column hspeaks
  obtain ⟨y, hy, rfl, rfl, hfor⟩ := h.speaksOf_iff.mp hspeaks
  obtain rfl | hrow | ⟨hrow, hcolumn⟩ :=
    rel_getLast?_filter (pairwise_cells sheet) hx hy (decide_eq_true hfor)
  · exact .inr ⟨rfl, Nat.le_refl _⟩
  · exact .inl hrow
  · exact .inr ⟨hrow, Nat.le_of_lt hcolumn⟩

theorem SpeaksLastOf.unique {row column row' column' : Nat}
    (h : SpeaksLastOf sheet unit kind row column)
    (h' : SpeaksLastOf sheet unit kind row' column') : row' = row ∧ column' = column := by
  have hle := h.last row' column' h'.toSpeaksOf
  have hge := h'.last row column h.toSpeaksOf
  omega

theorem IsTable.not_speaksOf (h : IsTable c sheet)
    (hnone : ((cells sheet).filter (·.IsFor unit kind)).getLast? = none) (row column : Nat) :
    ¬ SpeaksOf sheet unit kind row column := by
  intro hspeaks
  obtain ⟨x, hx, -, -, hfor⟩ := h.speaksOf_iff.mp hspeaks
  rw [List.getLast?_eq_none_iff, List.filter_eq_nil_iff] at hnone
  exact hnone x hx (decide_eq_true hfor)

/-! ## The tables that are applied -/

theorem isSome_unit?_iff {cells : List String} :
    (unit? c (cells.headD "")).isSome = true ↔ ∃ cell unit, cells.head? = some cell
      ∧ Text.unsigned? (2 ^ 32) cell = some unit ∧ unit ∈ c.units := by
  rw [Option.isSome_iff_exists]
  simp only [unit?_eq_some_iff]
  cases cells with
  | nil => exact iff_of_false (fun ⟨_, h, _⟩ => nomatch h) (fun ⟨_, _, h, _⟩ => nomatch h)
  | cons cell rest => simp

theorem isSome_flag?_iff {header cells : List String} (h : cells.length = header.length) :
    (∀ cell ∈ (header.drop 1).zip (cells.drop 1), (flag? cell.2).isSome = true) ↔
      ∀ cell ∈ cells.tail, cell = "0" ∨ cell = "1" := by
  have hlength : (cells.drop 1).length ≤ (header.drop 1).length := by
    refine Nat.le_of_eq ?_
    rw [List.length_drop, List.length_drop, h]
  have hflag : ∀ cell, (flag? cell).isSome = true ↔ cell = "0" ∨ cell = "1" := by
    intro cell
    rw [Option.isSome_iff_exists, Bool.exists_bool]
    exact or_congr flag?_eq_some_iff flag?_eq_some_iff
  rw [← List.drop_one]
  constructor
  · intro hall cell hcell
    rw [← List.map_snd_zip hlength] at hcell
    obtain ⟨pair, hpair, rfl⟩ := List.mem_map.mp hcell
    exact (hflag pair.2).mp (hall pair hpair)
  · intro hall pair hpair
    exact (hflag pair.2).mpr (hall pair.2 (List.of_mem_zip hpair).2)

/-- Tables of actions are the sheets that are applied. -/
theorem isTable_iff :
    IsTable c sheet ↔ sheet.header.headD "" = "SubCatchment"
      ∧ (∀ cells ∈ sheet.rows, cells.length = sheet.header.length)
      ∧ ∀ cells ∈ sheet.rows, (unit? c (cells.headD "")).isSome = true
        ∧ ∀ cell ∈ (sheet.header.drop 1).zip (cells.drop 1), (flag? cell.2).isSome = true := by
  have hfirst : sheet.header.headD "" = "SubCatchment"
      ↔ sheet.header.head? = some "SubCatchment" := by
    cases sheet.header with
    | nil => exact iff_of_false (by decide) nofun
    | cons name rest => exact (Option.some_inj (a := name)).symm
  rw [hfirst]
  constructor
  · intro h
    refine ⟨h.first_column, h.rectangular, fun cells hcells => ⟨?_, ?_⟩⟩
    · exact isSome_unit?_iff.mpr (h.units _ hcells)
    · exact (isSome_flag?_iff (h.rectangular _ hcells)).mpr (h.flags _ hcells)
  · rintro ⟨hfirst, hlength, hcells⟩
    exact ⟨hfirst, hlength, fun cells h => isSome_unit?_iff.mp (hcells _ h).1,
      fun cells h => (isSome_flag?_iff (hlength _ h)).mp (hcells _ h).2⟩

/-- The sheets that are applied, and what becomes of the flags. -/
theorem flags_eq_ok_iff_isTable {text : String} {p : Plan} {flags : List Bool} :
    ActionTable.flags text p = .ok flags ↔ IsTable p.catchment (Sheet.read text)
      ∧ flags = applied p.flags
          (verdicts p.catchment ((Sheet.read text).header.drop 1) (Sheet.read text).rows) := by
  rw [flags_eq_ok_iff, isTable_iff, and_assoc, and_assoc]

/-- **The last cell wins.** A sheet is applied to a catchment that has been declared exactly if it
is a table of actions for the catchment. Each action then has the flag that the last cell gives it
whose row names its unit and whose column names its kind, or the flag it had if there is no such
cell. -/
theorem flags_last_cell_wins {s : Scenario} {p : Plan} (h : s.interpret = .ok p.catchment)
    (text : String) :
    ((∃ flags, ActionTable.flags text p = .ok flags) ↔ IsTable p.catchment (Sheet.read text))
      ∧ ∀ flags, ActionTable.flags text p = .ok flags →
        flags.length = p.catchment.actions.length
          ∧ ∀ (i : Nat) (a : Action), p.catchment.actions[i]? = some a → ∀ active : Bool,
            flags[i]? = some active ↔
              (∃ row column, SpeaksLastOf (Sheet.read text) a.unit a.kind row column
                ∧ (Sheet.read text).cell? row column = some (if active then "1" else "0"))
              ∨ (∀ row column, ¬ SpeaksOf (Sheet.read text) a.unit a.kind row column)
                ∧ p.flags[i]? = some active := by
  refine ⟨⟨fun ⟨flags, hflags⟩ => (flags_eq_ok_iff_isTable.mp hflags).1,
    fun htable => ⟨_, flags_eq_ok_iff_isTable.mpr ⟨htable, rfl⟩⟩⟩, fun flags hflags => ?_⟩
  obtain ⟨htable, rfl⟩ := flags_eq_ok_iff_isTable.mp hflags
  refine ⟨by rw [length_applied, p.length_flags], fun i a ha active => ?_⟩
  have hi : i < p.flags.length := by
    rw [p.length_flags]
    exact (List.getElem?_eq_some_iff.mp ha).1
  rw [htable.getElem?_applied (Scenario.indexed_of_interpret h) hi ha]
  cases hlast : ((cells (Sheet.read text)).filter (·.IsFor a.unit a.kind)).getLast? with
  | none =>
    have hnever := htable.not_speaksOf hlast
    rw [Option.map_none, Option.none_or]
    refine ⟨fun hkept => .inr ⟨hnever, hkept⟩, fun hsaid => ?_⟩
    obtain ⟨row, column, hspeaks, -⟩ | ⟨-, hkept⟩ := hsaid
    · exact absurd hspeaks.toSpeaksOf (hnever row column)
    · exact hkept
  | some x =>
    obtain ⟨hspeaks, htext⟩ := htable.speaksLastOf hlast
    have hflag := htable.flag?_eq (List.mem_of_mem_filter (List.mem_of_getLast? hlast))
    rw [Option.map_some, Option.some_or, ← hflag, flag?_eq_some_iff]
    constructor
    · intro hsaid
      exact .inl ⟨x.row, x.column, hspeaks, hsaid ▸ htext⟩
    · rintro (⟨row, column, hspeaks', hcell⟩ | ⟨hnever, -⟩)
      · obtain ⟨rfl, rfl⟩ := hspeaks.unique hspeaks'
        exact Option.some.inj (htext.symm.trans hcell)
      · exact absurd hspeaks.toSpeaksOf (hnever x.row x.column)

/-- Rows for one unit in several spellings, and two columns for one kind: the action of kind `A` at
unit 7 is taken before and in the first cells that speak of it, and dropped in the last one. -/
theorem flags_last_cell_wins_in_repeated_rows :
    ∃ (s : Scenario) (p : Plan) (text : String), s.interpret = .ok p.catchment
      ∧ p.catchment.actions.map (fun a => (a.unit, a.kind))
          = [(7, "A"), (7, "B"), (7, "C"), (17, "A")]
      ∧ p.flags = [true, false, true, false]
      ∧ IsTable p.catchment (Sheet.read text)
      ∧ ActionTable.flags text p = .ok [false, true, true, true]
      ∧ ∃ row column, SpeaksLastOf (Sheet.read text) 7 "A" row column
        ∧ (Sheet.read text).cell? row column = some "0" := by
  let s : Scenario :=
    { name := "N", annealing := none, modelType := "CatchmentModel", decisionVariables := [],
      units := [⟨7, [⟨"A", []⟩, ⟨"B", []⟩, ⟨"C", []⟩]⟩, ⟨17, [⟨"A", []⟩]⟩], limits := [] }
  let p : Plan := ⟨s.check.2, [true, false, true, false], ∅, by decide +kernel⟩
  let text := "SubCatchment,A,B,A\n +17,0,1,1\n7,1,0,1\n007,1,1,0\n"
  have hnothing : s.check.1 = [] := by decide +kernel
  have hinterpret : s.interpret = .ok p.catchment :=
    Scenario.interpret_eq_ok_iff.mpr (Prod.ext hnothing rfl)
  have hnames : p.catchment.actions.map (fun a => (a.unit, a.kind))
      = [(7, "A"), (7, "B"), (7, "C"), (17, "A")] := by decide +kernel
  have hflags : ActionTable.flags text p = .ok [false, true, true, true] := by decide +kernel
  have hfirst : (p.catchment.actions.map fun a => (a.unit, a.kind))[0]? = some (7, "A") := by
    rw [hnames]
    rfl
  rw [List.getElem?_map] at hfirst
  obtain ⟨a, ha, heq⟩ := Option.map_eq_some_iff.mp hfirst
  obtain ⟨hunit, hkind⟩ := Prod.mk.inj heq
  obtain ⟨hiff, hall⟩ := flags_last_cell_wins hinterpret text
  refine ⟨s, p, text, hinterpret, hnames, rfl, hiff.mp ⟨_, hflags⟩, hflags, ?_⟩
  obtain hsaid | ⟨-, hkept⟩ := ((hall _ hflags).2 0 a ha false).mp rfl
  · rw [← hunit, ← hkind]
    exact hsaid
  · cases hkept

end ActionTable

end CatchmentPlanning
