import CatchmentPlanning.Api.ActionTable

/-!
# What a table of actions says

Each cell of a table behind its first column gives a verdict: the action of its
column's kind at its row's unit is to be taken, or is not. A cell for an action that the
unit does not have gives none. The flags of a plan after a table has been applied are
its flags with one verdict taken over after the other (`flags_eq_ok_iff`), so that of
several verdicts about an action the last one counts.
-/

namespace CatchmentPlanning

namespace ActionTable

/-! ## Verdicts -/

/-- The unit that the first cell of a row names. -/
def unit? (c : Catchment) (cell : String) : Option Nat :=
  (Text.unsigned? (2 ^ 32) cell).filter c.hasUnit

/-- What a cell says, in the column of a kind and the row of a unit: which action it is
about, by its position, and whether it is to be taken. -/
def verdict? (c : Catchment) (unit : Nat) (cell : String × String) : Option (Nat × Bool) :=
  (flag? cell.2).bind fun active => (c.position? unit cell.1).map (·, active)

/-- What a table says, cell by cell. -/
def verdicts (c : Catchment) (kinds : List String) (rows : List (List String)) :
    List (Nat × Bool) :=
  rows.flatMap fun cells =>
    match unit? c (cells.headD "") with
    | some unit => (kinds.zip (cells.drop 1)).filterMap (verdict? c unit)
    | none => []

/-- Takes one verdict over after the other. -/
def applied (flags : List Bool) (verdicts : List (Nat × Bool)) : List Bool :=
  verdicts.foldl (fun flags verdict => flags.set verdict.1 verdict.2) flags

variable {c : Catchment} {flags : List Bool} {i : Nat}

@[simp] theorem length_applied (flags : List Bool) (verdicts : List (Nat × Bool)) :
    (applied flags verdicts).length = flags.length := by
  induction verdicts generalizing flags with
  | nil => rfl
  | cons verdict verdicts ih => exact (ih _).trans (List.length_set ..)

/-- **The last verdict about an action counts.** -/
theorem getElem?_applied (hi : i < flags.length) (verdicts : List (Nat × Bool)) :
    (applied flags verdicts)[i]?
      = (verdicts.filterMap fun w => if w.1 = i then some w.2 else none).getLast?.or flags[i]? := by
  induction verdicts generalizing flags with
  | nil => rfl
  | cons verdict verdicts ih =>
    have hset : i < (flags.set verdict.1 verdict.2).length := by rwa [List.length_set]
    show (applied (flags.set verdict.1 verdict.2) verdicts)[i]? = _
    rw [ih hset, List.filterMap_cons]
    by_cases hv : verdict.1 = i
    · subst hv
      rw [if_pos rfl, List.getElem?_set_self hi]
      dsimp only
      rw [List.getLast?_cons]
      cases (verdicts.filterMap _).getLast? <;> rfl
    · rw [if_neg hv, List.getElem?_set_ne hv]

/-- An action that no verdict is about keeps its flag. -/
theorem getElem?_applied_of_forall_ne {verdicts : List (Nat × Bool)}
    (h : ∀ w ∈ verdicts, w.1 ≠ i) : (applied flags verdicts)[i]? = flags[i]? := by
  by_cases hi : i < flags.length
  · rw [getElem?_applied hi, List.filterMap_eq_nil_iff.mpr fun w hw => if_neg (h w hw)]
    rfl
  · have hlength := Nat.le_of_not_lt hi
    rw [List.getElem?_eq_none hlength, List.getElem?_eq_none (by rwa [length_applied])]

/-- An action that all verdicts agree about has the flag they give it. -/
theorem getElem?_applied_of_agree {verdicts : List (Nat × Bool)} {active : Bool}
    (hi : i < flags.length) (hmem : (i, active) ∈ verdicts)
    (hagree : ∀ w ∈ verdicts, w.1 = i → w.2 = active) :
    (applied flags verdicts)[i]? = some active := by
  have hactive : active ∈ verdicts.filterMap fun w => if w.1 = i then some w.2 else none :=
    List.mem_filterMap.mpr ⟨_, hmem, if_pos rfl⟩
  rw [getElem?_applied hi, List.getLast?_eq_some_getLast (List.ne_nil_of_mem hactive),
    Option.some_or, Option.some.injEq]
  obtain ⟨w, hw, hlast⟩ := List.mem_filterMap.mp (List.getLast_mem (List.ne_nil_of_mem hactive))
  obtain ⟨hwi, heq⟩ := Option.ite_none_right_eq_some.mp hlast
  rw [← Option.some.inj heq, hagree w hw hwi]

/-! ## What cells say -/

theorem flag?_eq_some_iff {cell : String} {active : Bool} :
    flag? cell = some active ↔ cell = if active then "1" else "0" := by
  constructor
  · intro h
    unfold flag? at h
    split at h
    all_goals cases h
    all_goals rfl
  · rintro rfl
    cases active <;> rfl

theorem unit?_eq_some_iff {unit : Nat} {cell : String} :
    unit? c cell = some unit ↔ Text.unsigned? (2 ^ 32) cell = some unit ∧ unit ∈ c.units := by
  rw [unit?, Option.filter_eq_some_iff, Catchment.hasUnit, List.contains_iff_mem]

theorem verdict?_eq_some_iff {unit : Nat} {kind cell : String} {active : Bool} :
    verdict? c unit (kind, cell) = some (i, active) ↔
      c.position? unit kind = some i ∧ flag? cell = some active := by
  simp only [verdict?, Option.bind_eq_some_iff, Option.map_eq_some_iff, Prod.mk.injEq]
  constructor
  · rintro ⟨active, hactive, i, hi, rfl, rfl⟩
    exact ⟨hi, hactive⟩
  · rintro ⟨hi, hactive⟩
    exact ⟨active, hactive, i, hi, rfl, rfl⟩

/-! ## Applying a table -/

theorem unit_eq_ok_iff {row unit : Nat} {cell : String} :
    ActionTable.unit c row cell = .ok unit ↔ unit? c cell = some unit := by
  unfold ActionTable.unit unit?
  cases Text.unsigned? (2 ^ 32) cell with
  | none => exact iff_of_false nofun nofun
  | some n =>
    dsimp only
    rw [Option.filter_some]
    split
    · rw [Except.ok.injEq, Option.some.injEq]
    · exact iff_of_false nofun nofun

/-- Going through a row takes its verdicts over, and meets no violation exactly if every
cell is a flag. -/
theorem applyCells_eq (c : Catchment) (row unit : Nat) (flags : List Bool)
    (cells : List (String × String)) :
    (applyCells c row unit flags cells).2 = applied flags (cells.filterMap (verdict? c unit))
      ∧ ((applyCells c row unit flags cells).1 = []
          ↔ ∀ cell ∈ cells, (flag? cell.2).isSome = true) := by
  fun_induction applyCells c row unit flags cells with
  | case1 flags => exact ⟨rfl, iff_of_true rfl (List.forall_mem_nil _)⟩
  | case2 flags kind cell rest hflag found after h ih =>
    rw [h] at ih
    have hverdict : verdict? c unit (kind, cell) = none := by rw [verdict?, hflag]; rfl
    rw [List.filterMap_cons_none hverdict]
    refine ⟨ih.1, iff_of_false (List.cons_ne_nil _ _) fun hall => ?_⟩
    have hsome := hall _ List.mem_cons_self
    rw [hflag] at hsome
    cases hsome
  | case3 flags kind cell rest active hflag i hi ih =>
    have hverdict : verdict? c unit (kind, cell) = some (i, active) := by
      rw [verdict?, hflag, Option.bind_some, hi]; rfl
    rw [List.filterMap_cons_some hverdict, List.forall_mem_cons, hflag, Option.isSome_some]
    exact ⟨ih.1, by rw [ih.2, and_iff_right rfl]⟩
  | case4 flags kind cell rest active hflag hnone ih =>
    have hverdict : verdict? c unit (kind, cell) = none := by
      rw [verdict?, hflag, Option.bind_some, hnone]; rfl
    rw [List.filterMap_cons_none hverdict, List.forall_mem_cons, hflag, Option.isSome_some]
    exact ⟨ih.1, by rw [ih.2, and_iff_right rfl]⟩

/-- Going through a table takes its verdicts over, and meets no violation exactly if
every row names a unit and every cell behind it is a flag. -/
theorem applyRows_eq (c : Catchment) (kinds : List String) (row : Nat) (flags : List Bool)
    (rows : List (List String)) :
    (applyRows c kinds row flags rows).2 = applied flags (verdicts c kinds rows)
      ∧ ((applyRows c kinds row flags rows).1 = []
          ↔ ∀ cells ∈ rows, (unit? c (cells.headD "")).isSome = true
            ∧ ∀ cell ∈ kinds.zip (cells.drop 1), (flag? cell.2).isSome = true) := by
  fun_induction applyRows c kinds row flags rows with
  | case1 row flags => exact ⟨rfl, iff_of_true rfl (List.forall_mem_nil _)⟩
  | case2 row flags cells rest violation hunit found after h ih =>
    rw [h] at ih
    have hnone : unit? c (cells.headD "") = none := by
      refine Option.eq_none_iff_forall_ne_some.mpr fun unit hsome => ?_
      rw [unit_eq_ok_iff.mpr hsome] at hunit
      cases hunit
    refine ⟨?_, iff_of_false (List.cons_ne_nil _ _) fun hall => ?_⟩
    · rw [verdicts, List.flatMap_cons, hnone, List.nil_append]
      exact ih.1
    · have hsome := (hall _ List.mem_cons_self).1
      rw [hnone] at hsome
      cases hsome
  | case3 row flags cells rest unit hunit here between hcells found after h ih =>
    have hhere := applyCells_eq c row unit flags (kinds.zip (cells.drop 1))
    rw [hcells] at hhere
    rw [h] at ih
    have hsome : unit? c (cells.headD "") = some unit := unit_eq_ok_iff.mp hunit
    constructor
    · have happend : verdicts c kinds (cells :: rest)
          = (kinds.zip (cells.drop 1)).filterMap (verdict? c unit) ++ verdicts c kinds rest := by
        rw [verdicts, List.flatMap_cons, hsome]
        rfl
      rw [happend, applied, List.foldl_append]
      exact ih.1.trans (congrArg (applied · _) hhere.1)
    · rw [List.append_eq_nil_iff, List.forall_mem_cons, hsome, Option.isSome_some,
        and_iff_right rfl]
      exact and_congr hhere.2 ih.2

/-- **Which sheets are action tables, and what they make of the flags of a plan.** -/
theorem flags_eq_ok_iff {text : String} {p : Plan} :
    ActionTable.flags text p = .ok flags ↔
      (Sheet.read text).header.headD "" = "SubCatchment"
        ∧ (∀ cells ∈ (Sheet.read text).rows, cells.length = (Sheet.read text).header.length)
        ∧ (∀ cells ∈ (Sheet.read text).rows,
            (unit? p.catchment (cells.headD "")).isSome = true
              ∧ ∀ cell ∈ ((Sheet.read text).header.drop 1).zip (cells.drop 1),
                (flag? cell.2).isSome = true)
        ∧ flags = applied p.flags
            (verdicts p.catchment ((Sheet.read text).header.drop 1) (Sheet.read text).rows) := by
  obtain ⟨happlied, hnil⟩ := applyRows_eq p.catchment ((Sheet.read text).header.drop 1) 1 p.flags
    (Sheet.read text).rows
  rw [← Sheet.ragged?_eq_none_iff, ← hnil, ← happlied]
  unfold ActionTable.flags
  dsimp only
  by_cases hfirst : (Sheet.read text).header.headD "" = "SubCatchment"
  · rw [if_neg (not_not_intro hfirst), and_iff_right hfirst]
    cases (Sheet.read text).ragged? with
    | some ragged => exact iff_of_false nofun fun h => nomatch h.1
    | none =>
      rw [and_iff_right rfl]
      dsimp only
      split
      · rename_i flags' h
        rw [h, Except.ok.injEq, and_iff_right rfl, eq_comm]
      · rename_i violations after hne h
        refine iff_of_false nofun fun hok => ?_
        rw [h] at hok
        exact hne hok.1
  · rw [if_pos hfirst]
    exact iff_of_false nofun fun h => hfirst h.1

end ActionTable

end CatchmentPlanning
