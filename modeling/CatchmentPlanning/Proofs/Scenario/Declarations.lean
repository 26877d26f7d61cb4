import CatchmentPlanning.Scenario.Interpretation
import CatchmentPlanning.Proofs.Toml.Section

/-!
# Catchments that have been declared

An action is named by a planning unit and a kind. A catchment that a scenario describes
is indexed by these names (`Catchment.Indexed`): every action belongs to a planning unit
of the catchment, and no two actions have the same name. So each action is found under
its name (`Indexed.position?_eq`).

The ids of the planning units fit into 32 bits, since they have been read as such.
-/

namespace CatchmentPlanning

namespace Catchment

/-- **The actions are known by their planning units and kinds.** -/
structure Indexed (c : Catchment) : Prop where
  unit_mem : ∀ a ∈ c.actions, a.unit ∈ c.units
  nodup : (c.actions.map fun a => (a.unit, a.kind)).Nodup

variable {c : Catchment}

/-- **Each action is found under its name.** -/
theorem Indexed.position?_eq (h : c.Indexed) {i : Nat} {a : Action}
    (ha : c.actions[i]? = some a) : c.position? a.unit a.kind = some i := by
  obtain ⟨hi, rfl⟩ := List.getElem?_eq_some_iff.mp ha
  refine List.findIdx?_eq_some_iff_getElem.mpr ⟨hi, by simp, fun j hj => ?_⟩
  have hne := List.pairwise_iff_getElem.mp (List.pairwise_map.mp h.nodup) j i
    (Nat.lt_trans hj hi) hi hj
  simpa using hne

end Catchment

namespace Scenario

/-! ## Declarations -/

/-- The actions of a unit are of different kinds, none of which was declared before. -/
theorem declareActions_spec (names : List String) (unit : Nat) (kinds : List String)
    (declarations : List ActionDeclaration) :
    (∀ a ∈ (declareActions names unit kinds declarations).2, a.unit = unit ∧ a.kind ∉ kinds)
      ∧ ((declareActions names unit kinds declarations).2.map (·.kind)).Nodup := by
  induction declarations generalizing kinds with
  | nil => exact ⟨nofun, List.nodup_nil⟩
  | cons declaration rest ih =>
    rw [declareActions]
    split
    · exact ih kinds
    · split
      · exact ih kinds
      · rename_i hnew
        obtain ⟨hrest, hnodup⟩ := ih (declaration.kind :: kinds)
        constructor
        · intro a ha
          obtain rfl | ha := List.mem_cons.mp ha
          · exact ⟨rfl, hnew⟩
          · exact ⟨(hrest a ha).1, fun hmem => (hrest a ha).2 (List.mem_cons_of_mem _ hmem)⟩
        · refine List.nodup_cons.mpr ⟨fun hmem => ?_, hnodup⟩
          obtain ⟨a, ha, hkind⟩ := List.mem_map.mp hmem
          exact (hrest a ha).2 (hkind ▸ List.mem_cons_self)

/-- The units that are declared have ids from the declarations, none of which was
declared before. Every action belongs to one of them, and is known by its unit and its
kind. -/
theorem declareUnits_spec (names : List String) (ids : List Nat)
    (declarations : List UnitDeclaration) :
    (∀ unit ∈ (declareUnits names ids declarations).2.1,
        unit ∉ ids ∧ ∃ u ∈ declarations, u.id = unit)
      ∧ (∀ a ∈ (declareUnits names ids declarations).2.2,
        a.unit ∈ (declareUnits names ids declarations).2.1)
      ∧ ((declareUnits names ids declarations).2.2.map fun a => (a.unit, a.kind)).Nodup := by
  induction declarations generalizing ids with
  | nil => exact ⟨nofun, nofun, List.nodup_nil⟩
  | cons declaration rest ih =>
    rw [declareUnits]
    split
    · obtain ⟨hunits, hactions, hnodup⟩ := ih ids
      refine ⟨fun unit hunit => ?_, hactions, hnodup⟩
      obtain ⟨hnew, u, hu, hid⟩ := hunits unit hunit
      exact ⟨hnew, u, List.mem_cons_of_mem _ hu, hid⟩
    · rename_i hnew
      obtain ⟨hunits, hactions, hnodup⟩ := ih (declaration.id :: ids)
      obtain ⟨hhere, hkinds⟩ := declareActions_spec names declaration.id [] declaration.actions
      refine ⟨fun unit hunit => ?_, fun a ha => ?_, ?_⟩
      · obtain rfl | hunit := List.mem_cons.mp hunit
        · exact ⟨hnew, declaration, List.mem_cons_self, rfl⟩
        · obtain ⟨hother, u, hu, hid⟩ := hunits unit hunit
          exact ⟨fun hmem => hother (List.mem_cons_of_mem _ hmem), u,
            List.mem_cons_of_mem _ hu, hid⟩
      · obtain ha | ha := List.mem_append.mp ha
        · exact (hhere a ha).1 ▸ List.mem_cons_self
        · exact List.mem_cons_of_mem _ (hactions a ha)
      · rw [List.map_append, List.nodup_append]
        refine ⟨?_, hnodup, ?_⟩
        · -- within a unit the kinds differ
          exact List.pairwise_map.mpr ((List.pairwise_map.mp hkinds).imp
            fun hne heq => hne (congrArg Prod.snd heq))
        · -- the units after this one are other ones
          intro p hp q hq
          obtain ⟨a, ha, rfl⟩ := List.mem_map.mp hp
          obtain ⟨b, hb, rfl⟩ := List.mem_map.mp hq
          intro heq
          have hunit : a.unit = b.unit := congrArg Prod.fst heq
          have hb := (hunits _ (hactions b hb)).1
          rw [← hunit, (hhere a ha).1] at hb
          exact hb List.mem_cons_self

/-- No two units that are declared have the same id. -/
theorem nodup_declareUnits (names : List String) (ids : List Nat)
    (declarations : List UnitDeclaration) : (declareUnits names ids declarations).2.1.Nodup := by
  induction declarations generalizing ids with
  | nil => exact List.nodup_nil
  | cons declaration rest ih =>
    rw [declareUnits]
    split
    · exact ih ids
    · refine List.nodup_cons.mpr ⟨fun hmem => ?_, ih (declaration.id :: ids)⟩
      exact ((declareUnits_spec names _ rest).1 _ hmem).1 List.mem_cons_self

variable {s : Scenario} {c : Catchment}

/-- The units and actions of the catchment that a scenario describes are those of its
declarations. -/
theorem units_of_interpret (h : s.interpret = .ok c) :
    ∃ names, c.units = (declareUnits names [] s.units).2.1
      ∧ c.actions = (declareUnits names [] s.units).2.2 := by
  have hcheck := interpret_eq_ok_iff.mp h
  exact ⟨_, congrArg (·.2.units) hcheck.symm, congrArg (·.2.actions) hcheck.symm⟩

/-- **A catchment that a scenario describes is indexed.** -/
theorem indexed_of_interpret (h : s.interpret = .ok c) : c.Indexed := by
  obtain ⟨names, hunits, hactions⟩ := units_of_interpret h
  obtain ⟨-, hmem, hnodup⟩ := declareUnits_spec names [] s.units
  exact ⟨by rw [hunits, hactions]; exact hmem, by rw [hactions]; exact hnodup⟩

/-- **No planning unit is there twice.** -/
theorem nodup_units_of_interpret (h : s.interpret = .ok c) : c.units.Nodup := by
  obtain ⟨names, hunits, -⟩ := units_of_interpret h
  rw [hunits]
  exact nodup_declareUnits names [] s.units

/-! ## Ids -/

/-- The id of a unit that has been read fits into 32 bits. -/
theorem UnitDeclaration.lt_of_read {v : Toml.Value} {u : UnitDeclaration}
    (h : UnitDeclaration.read v = .ok u) : u.id < 2 ^ 32 := by
  obtain ⟨fields, -, h⟩ := Checks.bind_eq_ok_iff.mp h
  obtain ⟨id, hid, h⟩ := Checks.bind_eq_ok_iff.mp h
  obtain ⟨actions, -, h⟩ := Checks.bind_eq_ok_iff.mp h
  cases h
  obtain ⟨v, hv⟩ := Toml.Section.of_required hid
  exact Toml.Value.lt_of_whole hv

theorem lt_of_ofDocument {document : Toml.Value} (h : ofDocument document = .ok s) :
    ∀ u ∈ s.units, u.id < 2 ^ 32 := by
  obtain ⟨fields, -, h⟩ := Checks.bind_eq_ok_iff.mp h
  obtain ⟨name, -, h⟩ := Checks.bind_eq_ok_iff.mp h
  obtain ⟨annealing, -, h⟩ := Checks.bind_eq_ok_iff.mp h
  obtain ⟨model, h⟩ := Toml.Section.of_required h
  obtain ⟨fields, -, h⟩ := Checks.bind_eq_ok_iff.mp h
  obtain ⟨modelType, -, h⟩ := Checks.bind_eq_ok_iff.mp h
  obtain ⟨decisionVariables, -, h⟩ := Checks.bind_eq_ok_iff.mp h
  obtain ⟨units, hunits, h⟩ := Checks.bind_eq_ok_iff.mp h
  obtain ⟨limits, -, h⟩ := Checks.bind_eq_ok_iff.mp h
  cases h
  obtain rfl | ⟨v, hv⟩ := Toml.Section.of_withDefault hunits
  · exact nofun
  · intro u hu
    obtain ⟨v, hv⟩ := Toml.Value.of_mem_list hv u hu
    exact UnitDeclaration.lt_of_read hv

/-- **The planning units of a catchment that a text describes have ids that fit into 32
bits.** -/
theorem lt_of_mem_units {text : String} (hread : read text = .ok s) (h : s.interpret = .ok c) :
    ∀ unit ∈ c.units, unit < 2 ^ 32 := by
  have hids : ∀ u ∈ s.units, u.id < 2 ^ 32 := by
    unfold read at hread
    split at hread
    · rename_i hdocument
      cases hread
      obtain ⟨document, -, hs⟩ := Checks.bind_eq_ok_iff.mp hdocument
      exact lt_of_ofDocument hs
    · cases hread
  obtain ⟨names, hunits, -⟩ := units_of_interpret h
  intro unit hunit
  rw [hunits] at hunit
  obtain ⟨-, u, hu, rfl⟩ := (declareUnits_spec names [] s.units).1 unit hunit
  exact hids u hu

end Scenario

end CatchmentPlanning
