import CatchmentPlanning.Sheet

/-!
# Sheets as they are written

A table can be written as a sheet in many ways. A cell stands there as it is if no
comma, quote or line end is in it, or else between quotes, with every quote in it
written twice. Commas stand between the cells of a record. Every record is on lines of
its own that end in any of the three ways, and behind the last one the line end may be
missing. Only a record of a single empty cell has to be quoted, since an empty line is
no record.

However a table is written, it is read again, but for the blanks around its cells
(`records_of_written`). The reader goes through the text character by character, so
each part of a table is described by what it leaves the scan at: a cell leaves a cell
(`At.foldl_cell`), a record the cells of a record (`At.foldl_record`), and a sheet its
records (`At.foldl_written`).
-/

namespace CatchmentPlanning

namespace Sheet

/-! ## Writing -/

/-- A character that cannot stand in a cell without quotes. -/
def isSpecial (c : Char) : Bool := c = ',' || c = '"' || Scan.isLineEnd c

/-- The characters of a cell as they stand between quotes. -/
def doubled : List Char → List Char
  | [] => []
  | c :: cs => if c = '"' then '"' :: '"' :: doubled cs else c :: doubled cs

/-- **How a cell can be written.** -/
inductive CellText : String → List Char → Prop
  | bare {cell : String} (h : cell.toList.any isSpecial = false) : CellText cell cell.toList
  | quoted (cell : String) : CellText cell ('"' :: (doubled cell.toList ++ ['"']))

/-- **How a record can be written.** -/
inductive RecordText : List String → List Char → Prop
  | last {cell : String} {text : List Char} (h : CellText cell text) : RecordText [cell] text
  | cons {cell : String} {cells : List String} {text texts : List Char}
      (h : CellText cell text) (rest : RecordText cells texts) :
      RecordText (cell :: cells) (text ++ ',' :: texts)

/-- How a line can end. -/
inductive LineEnd : List Char → Prop
  | lf : LineEnd ['\n']
  | cr : LineEnd ['\r']
  | crlf : LineEnd ['\r', '\n']

/-- **How a table can be written.** -/
inductive Written : List (List String) → List Char → Prop
  | nil : Written [] []
  | last {record : List String} {text : List Char} (h : RecordText record text)
      (hne : text ≠ []) : Written [record] text
  | cons {record : List String} {records : List (List String)} {text lineEnd texts : List Char}
      (h : RecordText record text) (hne : text ≠ []) (hend : LineEnd lineEnd)
      (rest : Written records texts) :
      Written (record :: records) (text ++ (lineEnd ++ texts))

/-- A record with no quotes around its cells. -/
def plainRecord : List String → List Char
  | [] => []
  | [cell] => cell.toList
  | cell :: cells => cell.toList ++ ',' :: plainRecord cells

/-- A table with no quotes around its cells, and a line for each record. -/
def plainTable : List (List String) → List Char
  | [] => []
  | record :: records => plainRecord record ++ (['\n'] ++ plainTable records)

theorem recordText_plainRecord {record : List String} (hne : record ≠ [])
    (h : ∀ cell ∈ record, cell.toList.any isSpecial = false) :
    RecordText record (plainRecord record) := by
  fun_induction plainRecord record with
  | case1 => exact absurd rfl hne
  | case2 cell => exact .last (.bare (h cell List.mem_cons_self))
  | case3 cell cells hcells ih =>
    exact .cons (.bare (h cell List.mem_cons_self))
      (ih hcells fun cell' h' => h cell' (List.mem_cons_of_mem _ h'))

/-- A table can be written without quotes if none of its cells has to be quoted. -/
theorem written_plainTable {table : List (List String)} {text : List Char}
    (htext : text = plainTable table)
    (h : ∀ record ∈ table, plainRecord record ≠ []
      ∧ ∀ cell ∈ record, cell.toList.any isSpecial = false) : Written table text := by
  subst htext
  induction table with
  | nil => exact .nil
  | cons record records ih =>
    obtain ⟨hne, hcells⟩ := h record List.mem_cons_self
    have hrecord : record ≠ [] := fun hnil => hne (congrArg plainRecord hnil)
    exact .cons (recordText_plainRecord hrecord hcells) hne .lf
      (ih fun record' h' => h record' (List.mem_cons_of_mem _ h'))

/-- Every record can be written: each cell can stand between quotes. -/
theorem exists_recordText {record : List String} (h : record ≠ []) :
    ∃ text, RecordText record text ∧ text ≠ [] := by
  induction record with
  | nil => exact absurd rfl h
  | cons cell cells ih =>
    cases cells with
    | nil => exact ⟨_, .last (.quoted cell), List.cons_ne_nil _ _⟩
    | cons cell' cells =>
      obtain ⟨texts, hrest, -⟩ := ih (List.cons_ne_nil _ _)
      exact ⟨_, .cons (.quoted cell) hrest, List.cons_ne_nil _ _⟩

/-- **Every table can be written** if none of its records is empty. -/
theorem exists_written {table : List (List String)} (h : ∀ record ∈ table, record ≠ []) :
    ∃ text : String, Written table text.toList := by
  suffices ∃ text, Written table text by
    obtain ⟨text, htext⟩ := this
    exact ⟨String.ofList text, String.toList_ofList.symm ▸ htext⟩
  induction table with
  | nil => exact ⟨_, .nil⟩
  | cons record records ih =>
    obtain ⟨text, hrecord, hne⟩ := exists_recordText (h record List.mem_cons_self)
    obtain ⟨texts, hrest⟩ := ih fun record' h' => h record' (List.mem_cons_of_mem _ h')
    exact ⟨_, .cons hrecord hne .lf hrest⟩

/-! ## Reading -/

namespace Scan

variable {s : Scan} {mode : Mode} {records : List (List String)} {cells : List String}
  {cell : List Char}

/-- **Where a scan stands**: the records and the cells that it has ended, and the
characters of the cell that it is in. -/
structure At (s : Scan) (mode : Mode) (records : List (List String)) (cells : List String)
    (cell : List Char) : Prop where
  mode : s.mode = mode
  records : s.records.reverse.map (·.cells) = records
  cells : s.cells.reverse = cells
  cell : s.cell.reverse = cell

theorem at_initial : initial.At .recordStart [] [] [] := ⟨rfl, rfl, rfl, rfl⟩

/-! ### Single characters -/

/-- **What a character does depends on the mode.** Where the scan has got to does not
matter. -/
theorem At.step_eq (c : Char) : s.At mode records cells cell →
    ∃ t : Scan, t.At mode records cells cell ∧ s.step c = match mode with
      | .recordStart => if isLineEnd c then t else t.outside true c
      | .cellStart => t.outside true c
      | .plain => t.outside false c
      | .quoted => if c = '"' then { t with mode := .quoteSeen } else t.push .quoted c
      | .quoteSeen => if c = '"' then t.push .quoted c else t.outside false c := by
  intro h
  obtain rfl := h.mode
  let line := if c = '\n' then s.here.line + 1 else s.here.line
  exact ⟨{ s with here := ⟨line, s.here.byte + c.utf8Size⟩ }, ⟨rfl, h.records, h.cells, h.cell⟩,
    rfl⟩

theorem At.endCell (h : s.At mode records cells cell) :
    s.endCell.At .cellStart records (cells ++ [Text.trim (String.ofList cell)]) [] where
  mode := rfl
  records := h.records
  cells := by
    rw [Scan.endCell, List.reverse_cons, h.cells, h.cell, Text.trim, String.toList_ofList]
  cell := rfl

theorem At.endRecord (h : s.At mode records cells cell) :
    s.endRecord.At .recordStart (records ++ [cells ++ [Text.trim (String.ofList cell)]]) [] [] where
  mode := rfl
  records := by
    rw [Scan.endRecord, List.reverse_cons, List.map_append, h.endCell.records]
    exact congrArg (fun cells => records ++ [cells]) h.endCell.cells
  cells := rfl
  cell := rfl

theorem At.push (h : s.At mode records cells cell) (mode' : Mode) (c : Char) :
    (s.push mode' c).At mode' records cells (cell ++ [c]) where
  mode := rfl
  records := h.records
  cells := h.cells
  cell := by rw [Scan.push, List.reverse_cons, h.cell]

/-- Outside quotes the scan goes on in the same way in every mode, with two exceptions:
a quote, and an empty line. -/
theorem At.step_outside (h : s.At mode records cells cell) (hmode : mode ≠ .quoted) {c : Char}
    (hquote : c ≠ '"') (hline : mode = .recordStart → isLineEnd c = false) :
    ∃ t : Scan, t.At mode records cells cell ∧ s.step c
      = if c = ',' then t.endCell else if isLineEnd c then t.endRecord else t.push .plain c := by
  obtain ⟨t, ht, hstep⟩ := h.step_eq c
  refine ⟨t, ht, hstep.trans ?_⟩
  have houtside : ∀ atStart : Bool, t.outside atStart c
      = if c = ',' then t.endCell else if isLineEnd c then t.endRecord else t.push .plain c :=
    fun _ => if_neg fun h => hquote h.1
  cases mode with
  | quoted => exact absurd rfl hmode
  | recordStart => exact (if_neg (by rw [hline rfl]; decide)).trans (houtside true)
  | cellStart => exact houtside true
  | plain => exact houtside false
  | quoteSeen => exact (if_neg hquote).trans (houtside false)

/-- A comma ends a cell. -/
theorem At.step_comma (h : s.At mode records cells cell) (hmode : mode ≠ .quoted) :
    (s.step ',').At .cellStart records (cells ++ [Text.trim (String.ofList cell)]) [] := by
  obtain ⟨t, ht, hstep⟩ := h.step_outside hmode (show ',' ≠ '"' by decide) fun _ => by decide
  rw [hstep, if_pos rfl]
  exact ht.endCell

/-- The end of a line ends a record, unless the line is empty. -/
theorem At.step_lineEnd (h : s.At mode records cells cell) (hmode : mode ≠ .quoted)
    (hstart : mode ≠ .recordStart) {c : Char} (hc : isLineEnd c = true) :
    (s.step c).At .recordStart (records ++ [cells ++ [Text.trim (String.ofList cell)]]) [] [] := by
  have hquote : c ≠ '"' := by rintro rfl; exact absurd hc (by decide)
  have hcomma : c ≠ ',' := by rintro rfl; exact absurd hc (by decide)
  obtain ⟨t, ht, hstep⟩ := h.step_outside hmode hquote fun hm => absurd hm hstart
  rw [hstep, if_neg hcomma, if_pos hc]
  exact ht.endRecord

/-- An empty line is skipped. -/
theorem At.step_emptyLine (h : s.At .recordStart records cells cell) {c : Char}
    (hc : isLineEnd c = true) : (s.step c).At .recordStart records cells cell := by
  obtain ⟨t, ht, hstep⟩ := h.step_eq c
  rw [hstep.trans (if_pos hc)]
  exact ht

/-- Any other character goes on with the cell. -/
theorem At.step_bare (h : s.At mode records cells cell) (hmode : mode ≠ .quoted) {c : Char}
    (hc : isSpecial c = false) : (s.step c).At .plain records cells (cell ++ [c]) := by
  simp only [isSpecial, Bool.or_eq_false_iff, decide_eq_false_iff_not] at hc
  obtain ⟨⟨hcomma, hquote⟩, hline⟩ := hc
  obtain ⟨t, ht, hstep⟩ := h.step_outside hmode hquote fun _ => hline
  rw [hstep, if_neg hcomma, if_neg (by rw [hline]; decide)]
  exact ht.push .plain c

/-- A quote at the start of a cell opens it. -/
theorem At.step_open (h : s.At mode records cells cell)
    (hmode : mode = .recordStart ∨ mode = .cellStart) :
    (s.step '"').At .quoted records cells cell := by
  obtain ⟨t, ht, hstep⟩ := h.step_eq '"'
  have hopen : s.step '"' = { t with mode := .quoted } := by
    obtain rfl | rfl := hmode
    · exact hstep
    · exact hstep
  rw [hopen]
  exact ⟨rfl, ht.records, ht.cells, ht.cell⟩

/-- Between quotes every character but a quote goes on with the cell. -/
theorem At.step_quoted (h : s.At .quoted records cells cell) {c : Char} (hc : c ≠ '"') :
    (s.step c).At .quoted records cells (cell ++ [c]) := by
  obtain ⟨t, ht, hstep⟩ := h.step_eq c
  rw [hstep.trans (if_neg hc)]
  exact ht.push .quoted c

/-- A quote between quotes may be the closing one. -/
theorem At.step_quote (h : s.At .quoted records cells cell) :
    (s.step '"').At .quoteSeen records cells cell := by
  obtain ⟨t, ht, hstep⟩ := h.step_eq '"'
  rw [hstep.trans (if_pos rfl)]
  exact ⟨rfl, ht.records, ht.cells, ht.cell⟩

/-- It is not if another one follows. -/
theorem At.step_secondQuote (h : s.At .quoteSeen records cells cell) :
    (s.step '"').At .quoted records cells (cell ++ ['"']) := by
  obtain ⟨t, ht, hstep⟩ := h.step_eq '"'
  rw [hstep.trans (if_pos rfl)]
  exact ht.push .quoted '"'

/-! ### Cells -/

theorem At.foldl_bare {cs : List Char} (h : s.At mode records cells cell)
    (hmode : mode ≠ .quoted) (hcs : cs.any isSpecial = false) :
    ∃ mode', (cs.foldl step s).At mode' records cells (cell ++ cs) ∧ mode' ≠ .quoted
      ∧ (cs = [] ∧ mode' = mode ∨ mode' = .plain) := by
  induction cs generalizing s mode cell with
  | nil => exact ⟨mode, by rwa [List.append_nil], hmode, .inl ⟨rfl, rfl⟩⟩
  | cons c cs ih =>
    rw [List.any_cons, Bool.or_eq_false_iff] at hcs
    obtain ⟨mode', hcell, hmode', hplain⟩ := ih (h.step_bare hmode hcs.1) (by decide) hcs.2
    refine ⟨mode', ?_, hmode', .inr (hplain.elim (·.2) id)⟩
    rwa [List.append_assoc] at hcell

/-- Between quotes everything belongs to the cell, and two quotes stand for one. -/
theorem At.foldl_doubled (cs : List Char) (h : s.At .quoted records cells cell) :
    ((doubled cs).foldl step s).At .quoted records cells (cell ++ cs) := by
  induction cs generalizing s cell with
  | nil => rwa [List.append_nil]
  | cons c cs ih =>
    rw [doubled]
    by_cases hc : c = '"'
    · subst hc
      rw [if_pos rfl, List.foldl_cons, List.foldl_cons]
      have hrest := ih h.step_quote.step_secondQuote
      rwa [List.append_assoc] at hrest
    · rw [if_neg hc, List.foldl_cons]
      have hrest := ih (h.step_quoted hc)
      rwa [List.append_assoc] at hrest

/-- **A written cell is read as the cell**, and only an empty text leaves the scan at
the start of a record. -/
theorem At.foldl_cell (h : s.At mode records cells [])
    (hmode : mode = .recordStart ∨ mode = .cellStart) {text : List Char} {written : String}
    (hcell : CellText written text) :
    ∃ mode', (text.foldl step s).At mode' records cells written.toList ∧ mode' ≠ .quoted
      ∧ (mode' = .recordStart → mode = .recordStart ∧ text = []) := by
  cases hcell with
  | bare hbare =>
    have hout : mode ≠ .quoted := by rcases hmode with rfl | rfl <;> decide
    obtain ⟨mode', hread, hmode', hplain⟩ := h.foldl_bare hout hbare
    refine ⟨mode', hread, hmode', ?_⟩
    rintro rfl
    obtain ⟨hnil, rfl⟩ | hplain := hplain
    · exact ⟨rfl, hnil⟩
    · cases hplain
  | quoted =>
    refine ⟨.quoteSeen, ?_, by decide, nofun⟩
    rw [List.foldl_cons, List.foldl_append, List.foldl_cons, List.foldl_nil]
    exact ((h.step_open hmode).foldl_doubled _).step_quote

/-! ### Records and sheets -/

/-- **A written record is read as the cells of the record**, of which the scan has not
ended the last one. -/
theorem At.foldl_record {record : List String} {text : List Char} (h : s.At mode records cells [])
    (hmode : mode = .recordStart ∨ mode = .cellStart) (hrecord : RecordText record text) :
    ∃ mode' cells' cell', (text.foldl step s).At mode' records cells' cell' ∧ mode' ≠ .quoted
      ∧ (mode' = .recordStart → mode = .recordStart ∧ text = [])
      ∧ cells' ++ [Text.trim (String.ofList cell')] = cells ++ record.map Text.trim := by
  induction hrecord generalizing s mode cells with
  | last hcell =>
    obtain ⟨mode', hread, hout, hstart⟩ := h.foldl_cell hmode hcell
    exact ⟨mode', cells, _, hread, hout, hstart, by rw [String.ofList_toList]; rfl⟩
  | @cons first _ text texts hcell _ ih =>
    obtain ⟨mode₁, hread₁, hout₁, -⟩ := h.foldl_cell hmode hcell
    obtain ⟨mode', cells', cell', hread, hout, hstart, hcells⟩ :=
      ih (hread₁.step_comma hout₁) (.inr rfl)
    refine ⟨mode', cells', cell', ?_, hout, fun hm => absurd (hstart hm).1 (by decide), ?_⟩
    · rwa [List.foldl_append, List.foldl_cons]
    · rw [hcells, String.ofList_toList, List.append_assoc]
      rfl

/-- Any line end ends a record. -/
theorem At.foldl_lineEnd (h : s.At mode records cells cell) (hmode : mode ≠ .quoted)
    (hstart : mode ≠ .recordStart) {lineEnd : List Char} (hend : LineEnd lineEnd) :
    (lineEnd.foldl step s).At .recordStart
      (records ++ [cells ++ [Text.trim (String.ofList cell)]]) [] [] := by
  cases hend with
  | lf => exact h.step_lineEnd hmode hstart (by decide)
  | cr => exact h.step_lineEnd hmode hstart (by decide)
  | crlf => exact (h.step_lineEnd hmode hstart (by decide)).step_emptyLine (by decide)

/-- **A written sheet is read as the table**, each cell without the blanks around it. -/
theorem At.foldl_written {table : List (List String)} {text : List Char}
    (h : s.At .recordStart records [] []) (hwritten : Written table text) :
    (text.foldl step s).finish.records.reverse.map (·.cells)
      = records ++ table.map (·.map Text.trim) := by
  induction hwritten generalizing s records with
  | nil =>
    rw [List.foldl_nil, finish, h.mode, h.records, List.map_nil, List.append_nil]
  | last hrecord hne =>
    obtain ⟨mode, cells, cell, hread, -, hstart, hcells⟩ := h.foldl_record (.inl rfl) hrecord
    have hmode : mode ≠ .recordStart := fun hm => hne (hstart hm).2
    have hfinish : ∀ t : Scan, t.mode ≠ .recordStart → t.finish = t.endRecord := by
      intro t ht
      unfold finish
      split
      · contradiction
      · rfl
    rw [hfinish _ (hread.mode ▸ hmode), hread.endRecord.records, hcells]
    rfl
  | cons hrecord hne hend _ ih =>
    obtain ⟨mode, cells, cell, hread, hout, hstart, hcells⟩ :=
      h.foldl_record (.inl rfl) hrecord
    have hmode : mode ≠ .recordStart := fun hm => hne (hstart hm).2
    rw [List.foldl_append, List.foldl_append, ih (hread.foldl_lineEnd hout hmode hend), hcells,
      List.append_assoc]
    rfl

end Scan

/-! ## Tables -/

/-- **However a table is written, it is read again**, but for the blanks around its
cells. A byte order mark would be skipped. -/
theorem records_of_written {table : List (List String)} {text : String}
    (h : Written table text.toList) (hmark : text.toList.head? ≠ some '\ufeff') :
    (records text).map (·.cells) = table.map (·.map Text.trim) := by
  have hread := Scan.at_initial.foldl_written h
  unfold records
  split
  · rename_i cs hcs
    rw [hcs] at hmark
    exact absurd rfl hmark
  · exact hread

/-- A record starts with its first cell, or with a quote or a comma. -/
theorem RecordText.head?_ne {first : String} {cells : List String} {text : List Char}
    (h : RecordText (first :: cells) text) (hne : text ≠ []) {c : Char}
    (hspecial : isSpecial c = false) (hfirst : first.toList.head? ≠ some c) :
    text.head? ≠ some c := by
  have hquote : c ≠ '"' := by rintro rfl; exact absurd hspecial (by decide)
  have hcomma : c ≠ ',' := by rintro rfl; exact absurd hspecial (by decide)
  cases h with
  | last hcell =>
    cases hcell with
    | bare => exact hfirst
    | quoted => exact fun heq => hquote (Option.some.inj heq).symm
  | cons hcell _ =>
    cases hcell with
    | bare =>
      cases hchars : first.toList with
      | nil => exact fun heq => hcomma (Option.some.inj heq).symm
      | cons c' _ => rwa [hchars] at hfirst
    | quoted => exact fun heq => hquote (Option.some.inj heq).symm

/-- So does a table. -/
theorem Written.head?_ne {first : String} {cells : List String} {rows : List (List String)}
    {text : List Char} (h : Written ((first :: cells) :: rows) text) {c : Char}
    (hspecial : isSpecial c = false) (hfirst : first.toList.head? ≠ some c) :
    text.head? ≠ some c := by
  cases h with
  | last hrecord hne => exact hrecord.head?_ne hne hspecial hfirst
  | cons hrecord hne =>
    have hhead := hrecord.head?_ne hne hspecial hfirst
    obtain ⟨c', rest, rfl⟩ := List.exists_cons_of_ne_nil hne
    exact hhead

/-- **The columns and the rows of a written table.** -/
theorem read_of_written {first : String} {cells : List String} {rows : List (List String)}
    {text : String} (h : Written ((first :: cells) :: rows) text.toList)
    (hmark : first.toList.head? ≠ some '\ufeff') :
    (read text).header = (first :: cells).map Text.trim
      ∧ (read text).rows = rows.map (·.map Text.trim) := by
  have hrecords := records_of_written h (h.head?_ne (by decide) hmark)
  unfold read
  split
  · rename_i hnil
    rw [hnil] at hrecords
    cases hrecords
  · rename_i header body hcons
    rw [hcons, List.map_cons, List.map_cons] at hrecords
    obtain ⟨hheader, hbody⟩ := List.cons.inj hrecords
    exact ⟨hheader, hbody⟩

end Sheet

end CatchmentPlanning
