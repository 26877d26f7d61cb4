import CatchmentPlanning.Proofs.ActionTable
import CatchmentPlanning.Proofs.Scenario.Declarations
import CatchmentPlanning.Proofs.Sheet.Writing
import CatchmentPlanning.Proofs.Text.Numeral

/-!
# Full tables of actions

A table of actions is full if it has a column for every kind of action and a row for
every planning unit. Each action then has a cell, and the table says of every action
whether it is to be taken.

Kinds come from a scenario, which takes them as they are, and from the header of a
table, which is trimmed. So the column that was made for a kind speaks of the trimmed
kind. If that is another one, no cell of the table is about the actions of the kind, and
they keep their flags (`flags_full`).
-/

namespace CatchmentPlanning

namespace ActionTable

variable {c : Catchment} {v : List Bool} {kinds : List String} {units : List Nat}

/-- Whether flags say that the action of a kind at a unit is taken. -/
def takes (c : Catchment) (v : List Bool) (unit : Nat) (kind : String) : Bool :=
  (c.actions.zip v).any fun (a, active) => a.unit == unit && a.kind == kind && active

/-- The cells of a full table below its header. -/
def fullRows (c : Catchment) (v : List Bool) (kinds : List String) (units : List Nat) :
    List (List String) :=
  units.map fun unit =>
    toString unit :: kinds.map fun kind => if takes c v unit kind then "1" else "0"

/-- **The table that says of each kind at each unit whether the action is taken.** -/
def full (c : Catchment) (v : List Bool) (kinds : List String) (units : List Nat) :
    List (List String) :=
  ("SubCatchment" :: kinds) :: fullRows c v kinds units

/-- The flag of an action says whether the action of its kind at its unit is taken. -/
theorem getElem?_eq_takes (h : c.Indexed) (hv : v.length = c.actions.length) {i : Nat}
    {a : Action} (ha : c.actions[i]? = some a) : v[i]? = some (takes c v a.unit a.kind) := by
  obtain ⟨hi, hai⟩ := List.getElem?_eq_some_iff.mp ha
  have hiv : i < v.length := hv ▸ hi
  rw [List.getElem?_eq_getElem hiv, Option.some.injEq, Bool.eq_iff_iff, takes, List.any_eq_true]
  constructor
  · intro hactive
    refine ⟨(a, v[i]), List.mem_iff_getElem?.mpr ⟨i, ?_⟩, by simp [hactive]⟩
    rw [List.getElem?_zip_eq_some]
    exact ⟨ha, List.getElem?_eq_getElem hiv⟩
  · rintro ⟨⟨b, active⟩, hmem, hb⟩
    simp only [Bool.and_eq_true, beq_iff_eq] at hb
    obtain ⟨⟨hunit, hkind⟩, rfl⟩ := hb
    obtain ⟨j, hj⟩ := List.mem_iff_getElem?.mp hmem
    obtain ⟨hbj, hvj⟩ := List.getElem?_zip_eq_some.mp hj
    -- the action with this unit and kind stands at one position only
    have hposition := h.position?_eq hbj
    rw [hunit, hkind, h.position?_eq ha, Option.some.injEq] at hposition
    subst hposition
    rw [List.getElem?_eq_getElem hiv, Option.some.injEq] at hvj
    exact hvj

/-! ## What a full table says -/

theorem flag?_ite (active : Bool) : flag? (if active then "1" else "0") = some active :=
  flag?_eq_some_iff.mpr rfl

/-- A cell of a full table is about the action of its row's unit that is of the kind it
is read for. -/
theorem verdict?_ite_eq_some_iff {unit : Nat} {kind : String} {active : Bool} {w : Nat × Bool} :
    verdict? c unit (kind, if active then "1" else "0") = some w ↔
      c.position? unit kind = some w.1 ∧ active = w.2 := by
  obtain ⟨i, said⟩ := w
  rw [verdict?_eq_some_iff, flag?_ite, Option.some.injEq]

/-- Nothing of a full table is trimmed away below its header. -/
theorem map_trim_fullRows (c : Catchment) (v : List Bool) (kinds : List String)
    (units : List Nat) :
    (fullRows c v kinds units).map (·.map Text.trim) = fullRows c v kinds units := by
  have hcell : ∀ active : Bool, Text.trim (if active then "1" else "0")
      = if active then "1" else "0" := by decide
  rw [fullRows, List.map_map]
  refine List.map_congr_left fun unit _ => ?_
  show Text.trim (toString unit) :: (kinds.map _).map Text.trim = _
  rw [Text.trim_toString, List.map_map]
  exact congrArg _ (List.map_congr_left fun kind _ => hcell _)

theorem unit?_toString {unit : Nat} (hid : unit < 2 ^ 32) (hunit : unit ∈ c.units) :
    unit? c (toString unit) = some unit :=
  unit?_eq_some_iff.mpr ⟨Text.unsigned?_toString hid, hunit⟩

/-- The cells of a row, each with what its column speaks of. -/
theorem zip_row (unit : Nat) :
    (kinds.map Text.trim).zip (kinds.map fun kind => if takes c v unit kind then "1" else "0")
      = kinds.map fun kind =>
          (Text.trim kind, if takes c v unit kind then "1" else "0") :=
  List.zip_map' ..

/-- **A cell of a full table says whether the action is taken that its column speaks
of.** -/
theorem mem_verdicts_full_iff (hunits : ∀ unit ∈ units, unit < 2 ^ 32 ∧ unit ∈ c.units)
    {w : Nat × Bool} :
    w ∈ verdicts c (kinds.map Text.trim) (fullRows c v kinds units) ↔
      ∃ unit ∈ units, ∃ kind ∈ kinds, c.position? unit (Text.trim kind) = some w.1
        ∧ takes c v unit kind = w.2 := by
  rw [verdicts, fullRows, List.mem_flatMap]
  simp only [List.mem_map, exists_exists_and_eq_and]
  refine exists_congr fun unit => and_congr_right fun hunit => ?_
  obtain ⟨hid, hmem⟩ := hunits unit hunit
  rw [List.headD_cons, unit?_toString hid hmem]
  dsimp only
  rw [List.drop_one, List.tail_cons, zip_row, List.filterMap_map, List.mem_filterMap]
  exact exists_congr fun kind => and_congr_right fun _ => verdict?_ite_eq_some_iff

/-- **A full table is an action table.** Each action of a kind that no column but its own
speaks of has the flag that the table was made from. An action of a kind with blanks
around it keeps the flag it has. -/
theorem flags_full {text : String} {p : Plan} (hindexed : p.catchment.Indexed)
    (hids : ∀ unit ∈ p.catchment.units, unit < 2 ^ 32)
    (hv : v.length = p.catchment.actions.length) (hkinds : kinds.Perm p.catchment.actionKinds)
    (hunits : units.Perm p.catchment.units)
    (hwritten : Sheet.Written (full p.catchment v kinds units) text.toList) :
    ∃ flags, ActionTable.flags text p = .ok flags ∧ flags.length = p.flags.length
      ∧ ∀ (i : Nat) (a : Action), p.catchment.actions[i]? = some a →
        ((∀ kind ∈ p.catchment.actionKinds, Text.trim kind = a.kind ↔ kind = a.kind) →
          flags[i]? = v[i]?)
        ∧ (Text.trim a.kind ≠ a.kind → flags[i]? = p.flags[i]?) := by
  obtain ⟨hheader, hrows⟩ := Sheet.read_of_written hwritten (by decide)
  rw [map_trim_fullRows] at hrows
  have hunits' : ∀ unit ∈ units, unit < 2 ^ 32 ∧ unit ∈ p.catchment.units := fun unit hunit =>
    ⟨hids unit (hunits.mem_iff.mp hunit), hunits.mem_iff.mp hunit⟩
  refine ⟨applied p.flags (verdicts p.catchment (kinds.map Text.trim)
    (fullRows p.catchment v kinds units)), ?_, length_applied _ _, fun i a ha => ⟨?_, ?_⟩⟩
  · rw [flags_eq_ok_iff, hheader, hrows]
    refine ⟨show Text.trim "SubCatchment" = "SubCatchment" by decide, ?_, ?_, rfl⟩
    · intro cells hcells
      obtain ⟨unit, -, rfl⟩ := List.mem_map.mp hcells
      simp
    · intro cells hcells
      obtain ⟨unit, hunit, rfl⟩ := List.mem_map.mp hcells
      constructor
      · rw [List.headD_cons, unit?_toString (hunits' unit hunit).1 (hunits' unit hunit).2]
        rfl
      · intro cell hcell
        rw [List.map_cons, List.drop_one, List.tail_cons, List.drop_one, List.tail_cons,
          zip_row] at hcell
        obtain ⟨kind, -, rfl⟩ := List.mem_map.mp hcell
        rw [flag?_ite]
        rfl
  · intro hown
    have hlength : i < p.flags.length := by
      rw [p.length_flags]
      exact (List.getElem?_eq_some_iff.mp ha).1
    rw [getElem?_eq_takes hindexed hv ha]
    refine getElem?_applied_of_agree hlength ?_ ?_
    · -- its own column speaks of the action
      have hkind : a.kind ∈ p.catchment.actionKinds := by
        rw [Catchment.actionKinds, List.mem_eraseDups, List.mem_mergeSort]
        exact List.mem_map_of_mem (List.mem_of_getElem? ha)
      refine (mem_verdicts_full_iff hunits').mpr ⟨a.unit, ?_, a.kind, hkinds.mem_iff.mpr hkind, ?_⟩
      · exact hunits.mem_iff.mpr (hindexed.unit_mem a (List.mem_of_getElem? ha))
      · rw [(hown a.kind hkind).mpr rfl]
        exact ⟨hindexed.position?_eq ha, rfl⟩
    · -- and no other one does
      rintro w hw rfl
      obtain ⟨unit, -, kind, hkind, hposition, hactive⟩ := (mem_verdicts_full_iff hunits').mp hw
      obtain ⟨b, hb, rfl, htrim⟩ := Catchment.getElem?_of_position? hposition
      rw [ha, Option.some.injEq] at hb
      subst hb
      obtain rfl := (hown kind (hkinds.mem_iff.mp hkind)).mp htrim.symm
      exact hactive.symm
  · intro hpadded
    refine getElem?_applied_of_forall_ne fun w hw => ?_
    rintro rfl
    obtain ⟨unit, -, kind, -, hposition, -⟩ := (mem_verdicts_full_iff hunits').mp hw
    obtain ⟨b, hb, -, hkind⟩ := Catchment.getElem?_of_position? hposition
    rw [ha, Option.some.injEq] at hb
    subst hb
    exact hpadded (by rw [hkind, Text.trim_trim])

end ActionTable

end CatchmentPlanning
