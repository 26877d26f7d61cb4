import CatchmentPlanning.Plan.Solution
import CatchmentPlanning.Proofs.Keyed
import CatchmentPlanning.Proofs.Scenario.Declarations
import CatchmentPlanning.Proofs.Scenario.Violations

/-!
# Well-formed scenarios

A scenario describes a catchment if it is well-formed (`WellFormed`): names are given once and are
not blank, ids are given once, and what speaks of a decision variable speaks of a declared one. The
catchment is then the one that the declarations spell out, declaration by declaration and in order
(`described`). Nothing is left out: a declaration is passed over only if it is at fault, and then
the scenario is turned down.

That a scenario is well-formed says that nothing is wrong anywhere in it (`wellFormed_iff`), also
where interpretation does not look. It need not look there, since what is wrong there is enclosed
in something else that is wrong.
-/

namespace CatchmentPlanning

namespace Scenario

variable {s : Scenario} {c : Catchment}

/-- **A scenario whose declarations hold up.** -/
structure WellFormed (s : Scenario) : Prop where
  name : Text.isBlankText s.name = false
  model : s.modelType = supportedModel
  variables_named : ∀ v ∈ s.decisionVariables, Text.isBlankText v.name = false
  nodup_variables : (s.decisionVariables.map (·.name)).Nodup
  nodup_units : (s.units.map (·.id)).Nodup
  actions_named : ∀ u ∈ s.units, ∀ a ∈ u.actions, Text.isBlankText a.kind = false
  nodup_actions : ∀ u ∈ s.units, (u.actions.map (·.kind)).Nodup
  affected : ∀ u ∈ s.units, ∀ a ∈ u.actions, ∀ e ∈ a.effects,
    e.1 ∈ s.decisionVariables.map (·.name)
  limited : ∀ l ∈ s.limits, l.name ∈ s.decisionVariables.map (·.name)

/-- **The catchment that the declarations spell out.** -/
def described (s : Scenario) : Catchment where
  name := s.name
  units := s.units.map (·.id)
  actions := s.units.flatMap fun u => u.actions.map fun a => ⟨u.id, a.kind, a.effects⟩
  decisionVariables := s.decisionVariables.map fun v => ⟨v.name, v.measure, v.value⟩
  limits := s.limits.map fun l => ⟨l.name, l.maximum⟩

/-! ## Nothing is wrong anywhere -/

/-- Values are all different if none of them stands in front of itself. -/
theorem nodup_iff_notMem_take {α : Type} {l : List α} :
    l.Nodup ↔ ∀ i a, l[i]? = some a → a ∉ l.take i := by
  rw [List.nodup_iff_getElem?_ne_getElem?]
  constructor
  · intro h i a ha hmem
    obtain ⟨j, hj, hja⟩ := List.mem_take_iff_getElem.mp hmem
    obtain ⟨hi, -⟩ := List.getElem?_eq_some_iff.mp ha
    refine h j i (Nat.lt_of_lt_of_le hj (Nat.min_le_left ..)) hi ?_
    rw [ha, ← hja, List.getElem?_eq_getElem]
  · intro h j i hj hi heq
    refine h i l[i] (List.getElem?_eq_getElem hi) (List.mem_take_iff_getElem.mpr ⟨j, ?_, ?_⟩)
    · omega
    · rw [List.getElem?_eq_getElem hi, List.getElem?_eq_getElem (Nat.lt_trans hj hi)] at heq
      exact Option.some.inj heq

theorem nameViolation?_eq_none_iff {blank : Violation} {repeated : String → Violation}
    {names : List String} :
    (∀ i, nameViolation? blank repeated names i = none) ↔
      (∀ name ∈ names, Text.isBlankText name = false) ∧ names.Nodup := by
  have hplace (i : Nat) : nameViolation? blank repeated names i = none ↔
      ∀ name, names[i]? = some name → Text.isBlankText name = false ∧ name ∉ names.take i := by
    rw [nameViolation?, Option.bind_eq_none_iff]
    refine forall_congr' fun name => imp_congr_right fun _ => ?_
    by_cases hblank : Text.isBlankText name = true
    · simp [hblank]
    · by_cases hmem : name ∈ names.take i <;> simp [hblank, hmem]
  simp only [hplace, nodup_iff_notMem_take, List.mem_iff_getElem?, forall_exists_index]
  constructor
  · exact fun h => ⟨fun name i hi => (h i name hi).1, fun i name hi => (h i name hi).2⟩
  · exact fun h i name hi => ⟨h.1 name i hi, h.2 i name hi⟩

theorem wellFormed_iff : s.WellFormed ↔ ∀ place, s.violation? place = none := by
  constructor
  · intro h place
    have hdeclared : s.declaredNames = s.decisionVariables.map (·.name) := by
      refine List.filter_eq_self.mpr fun name hname => ?_
      obtain ⟨v, hv, rfl⟩ := List.mem_map.mp hname
      rw [h.variables_named v hv]
      rfl
    cases place with
    | name => exact if_neg (by rw [h.name]; exact nofun)
    | model => exact if_pos h.model
    | decisionVariable i =>
      refine nameViolation?_eq_none_iff.mpr ⟨?_, h.nodup_variables⟩ i
      exact List.forall_mem_map.mpr h.variables_named
    | unit i =>
      refine Option.bind_eq_none_iff.mpr fun id hid => if_neg ?_
      exact nodup_iff_notMem_take.mp h.nodup_units i id hid
    | action i j =>
      refine Option.bind_eq_none_iff.mpr fun u hu => ?_
      have hu : u ∈ s.units := List.mem_of_getElem? hu
      refine nameViolation?_eq_none_iff.mpr ⟨?_, h.nodup_actions u hu⟩ j
      exact List.forall_mem_map.mpr (h.actions_named u hu)
    | effect i j k =>
      refine Option.bind_eq_none_iff.mpr fun u hu => Option.bind_eq_none_iff.mpr fun a ha =>
        Option.bind_eq_none_iff.mpr fun e he => if_pos ?_
      rw [hdeclared]
      exact h.affected u (List.mem_of_getElem? hu) a (List.mem_of_getElem? ha) e
        (List.mem_of_getElem? he)
    | limit i =>
      refine Option.bind_eq_none_iff.mpr fun l hl => if_pos ?_
      rw [hdeclared]
      exact h.limited l (List.mem_of_getElem? hl)
  · intro h
    have hvariables := nameViolation?_eq_none_iff.mp fun i => h (.decisionVariable i)
    have hactions (u : UnitDeclaration) (hu : u ∈ s.units) :
        (∀ kind ∈ u.actions.map (·.kind), Text.isBlankText kind = false)
          ∧ (u.actions.map (·.kind)).Nodup := by
      obtain ⟨i, hi⟩ := List.mem_iff_getElem?.mp hu
      exact nameViolation?_eq_none_iff.mp fun j =>
        Option.bind_eq_none_iff.mp (h (.action i j)) u hi
    have hdeclared {name : String} {v : Violation}
        (hnone : (if name ∈ s.declaredNames then none else some v) = none) :
        name ∈ s.decisionVariables.map (·.name) := by
      by_contra hnot
      have hundeclared : name ∉ s.declaredNames := fun hmem => hnot (List.mem_of_mem_filter hmem)
      cases (if_neg hundeclared).symm.trans hnone
    refine ⟨?_, ?_, List.forall_mem_map.mp hvariables.1, hvariables.2, ?_,
      fun u hu => List.forall_mem_map.mp (hactions u hu).1, fun u hu => (hactions u hu).2, ?_, ?_⟩
    · refine Bool.eq_false_iff.mpr fun hblank => ?_
      cases (if_pos hblank).symm.trans (h .name)
    · by_contra hmodel
      cases (if_neg hmodel).symm.trans (h .model)
    · refine nodup_iff_notMem_take.mpr fun i id hid hmem => ?_
      cases (if_pos hmem).symm.trans (Option.bind_eq_none_iff.mp (h (.unit i)) id hid)
    · intro u hu a ha e he
      obtain ⟨i, hi⟩ := List.mem_iff_getElem?.mp hu
      obtain ⟨j, hj⟩ := List.mem_iff_getElem?.mp ha
      obtain ⟨k, hk⟩ := List.mem_iff_getElem?.mp he
      have hunit := Option.bind_eq_none_iff.mp (h (.effect i j k)) u hi
      have haction := Option.bind_eq_none_iff.mp hunit a hj
      exact hdeclared (Option.bind_eq_none_iff.mp haction e hk)
    · intro l hl
      obtain ⟨i, hi⟩ := List.mem_iff_getElem?.mp hl
      exact hdeclared (Option.bind_eq_none_iff.mp (h (.limit i)) l hi)

/-! ## The declarations are taken over -/

theorem declareVariables_snd {names : List String} {declarations : List VariableDeclaration}
    (h : (declareVariables names declarations).1 = []) :
    (declareVariables names declarations).2
      = declarations.map fun v => ⟨v.name, v.measure, v.value⟩ := by
  induction declarations generalizing names with
  | nil => rfl
  | cons d rest ih =>
    rw [declareVariables] at h ⊢
    split at h
    · cases h
    · split at h
      · cases h
      · rename_i hblank hknown
        rw [if_neg hblank, if_neg hknown]
        exact congrArg (_ :: ·) (ih h)

theorem declareActions_snd {names kinds : List String} {unit : Nat}
    {declarations : List ActionDeclaration}
    (h : (declareActions names unit kinds declarations).1 = []) :
    (declareActions names unit kinds declarations).2
      = declarations.map fun a => ⟨unit, a.kind, a.effects⟩ := by
  induction declarations generalizing kinds with
  | nil => rfl
  | cons d rest ih =>
    rw [declareActions] at h ⊢
    split at h
    · cases h
    · split at h
      · cases h
      · rename_i hblank hknown
        rw [if_neg hblank, if_neg hknown]
        exact congrArg (_ :: ·) (ih (List.append_eq_nil_iff.mp h).2)

theorem declareUnits_snd {names : List String} {ids : List Nat}
    {declarations : List UnitDeclaration} (h : (declareUnits names ids declarations).1 = []) :
    (declareUnits names ids declarations).2 = (declarations.map (·.id),
      declarations.flatMap fun u => u.actions.map fun a => ⟨u.id, a.kind, a.effects⟩) := by
  induction declarations generalizing ids with
  | nil => rfl
  | cons d rest ih =>
    rw [declareUnits] at h ⊢
    split at h
    · cases h
    · rename_i hknown
      obtain ⟨hactions, hrest⟩ := List.append_eq_nil_iff.mp h
      rw [if_neg hknown]
      show (d.id :: (declareUnits names (d.id :: ids) rest).2.1,
        (declareActions names d.id [] d.actions).2
          ++ (declareUnits names (d.id :: ids) rest).2.2) = _
      rw [ih hrest, declareActions_snd hactions]
      rfl

theorem declareLimits_snd {names : List String} {declarations : List LimitDeclaration}
    (h : (declareLimits names declarations).1 = []) :
    (declareLimits names declarations).2 = declarations.map fun l => ⟨l.name, l.maximum⟩ := by
  induction declarations with
  | nil => rfl
  | cons d rest ih =>
    rw [declareLimits] at h ⊢
    dsimp only at h ⊢
    split at h
    · rename_i hname
      rw [if_pos hname]
      exact congrArg (_ :: ·) (ih h)
    · cases h

/-- If nothing is found wrong, the catchment is the one that the declarations spell out. -/
theorem check_snd (h : s.check.1 = []) : s.check.2 = s.described := by
  obtain ⟨hrest, hlimits⟩ := List.append_eq_nil_iff.mp h
  obtain ⟨hrest, hunits⟩ := List.append_eq_nil_iff.mp hrest
  obtain ⟨-, hvariables⟩ := List.append_eq_nil_iff.mp hrest
  show Catchment.mk s.name (declareUnits _ [] s.units).2.1 (declareUnits _ [] s.units).2.2
    (declareVariables [] s.decisionVariables).2 (declareLimits _ s.limits).2 = _
  rw [declareUnits_snd hunits, declareLimits_snd hlimits, declareVariables_snd hvariables]
  rfl

/-- Nothing is found wrong exactly if nothing is wrong. -/
theorem check_fst_eq_nil_iff : s.check.1 = [] ↔ s.WellFormed := by
  rw [wellFormed_iff]
  constructor
  · intro h place
    by_contra hne
    obtain ⟨v, hv⟩ := Option.ne_none_iff_exists'.mp hne
    exact check_ne_nil hv h
  · intro h
    rw [violations_check]
    refine List.filterMap_eq_nil_iff.mpr fun place _ => ?_
    rw [reported?, h place, ite_self]

/-- **A scenario is interpreted exactly if it is well-formed**, as the catchment that its
declarations spell out. -/
theorem interpret_eq_ok_iff_wellFormed : s.interpret = .ok c ↔ s.WellFormed ∧ c = s.described := by
  rw [interpret_eq_ok_iff, ← check_fst_eq_nil_iff]
  constructor
  · intro h
    have hnil : s.check.1 = [] := congrArg (·.1) h
    exact ⟨hnil, by rw [← check_snd hnil, h]⟩
  · rintro ⟨hnil, rfl⟩
    rw [← check_snd hnil, ← hnil]

end Scenario

/-! ## What is found under a name -/

namespace Catchment

/-- A decision variable has its value under its name if no other one has the name. -/
theorem value?_eq {c : Catchment} {v : Variable} (hnodup : c.variableNames.Nodup)
    (hv : v ∈ c.decisionVariables) (flags : List Bool) :
    c.value? flags v.name = some (c.total flags v) := by
  have hfind : c.decisionVariables.find? (·.name == v.name) = some v :=
    (Keyed.find?_eq_some_iff hnodup).mpr ⟨hv, rfl⟩
  rw [value?, hfind, Option.map_some]

/-- Every action can be set by its unit and its kind. -/
theorem Indexed.setAction_eq {p : Plan} (h : p.catchment.Indexed) {i : Nat} {a : Action}
    (ha : p.catchment.actions[i]? = some a) (active : Bool) :
    p.setAction a.unit a.kind active = .ok (p.setAt i active) := by
  have hunit : p.catchment.hasUnit a.unit = true :=
    List.contains_iff_mem.mpr (h.unit_mem a (List.mem_of_getElem? ha))
  unfold Plan.setAction
  rw [hunit, h.position?_eq ha]
  rfl

end Catchment

namespace Scenario

/-- **A scenario is interpreted exactly if it is well-formed.** The catchment is the one that its
declarations spell out, and in the beginning no action is taken. An action is known by its unit
and its kind, so that each of them can be set, and whichever actions are taken, a decision variable
has the value under its name that is listed for it. -/
theorem interpreted_iff_wellFormed (s : Scenario) :
    ((∃ c, s.interpret = .ok c) ↔ s.WellFormed)
      ∧ ∀ c, s.interpret = .ok c → c = s.described
        ∧ (Plan.idle c).flags = List.replicate c.actions.length false
        ∧ (∀ (i j : Nat) (a b : Action), c.actions[i]? = some a → c.actions[j]? = some b →
          a.unit = b.unit → a.kind = b.kind → i = j)
        ∧ ∀ p : Plan, p.catchment = c →
          p.variableValues.map (·.name) = s.decisionVariables.map (·.name)
          ∧ (∀ x ∈ p.variableValues, p.value? x.name = some x.value)
          ∧ ∀ (i : Nat) (a : Action) (active : Bool), c.actions[i]? = some a →
            p.setAction a.unit a.kind active = .ok (p.setAt i active) := by
  refine ⟨⟨fun ⟨c, h⟩ => (interpret_eq_ok_iff_wellFormed.mp h).1,
    fun h => ⟨_, interpret_eq_ok_iff_wellFormed.mpr ⟨h, rfl⟩⟩⟩, fun c h => ?_⟩
  obtain ⟨hwell, rfl⟩ := interpret_eq_ok_iff_wellFormed.mp h
  have hindexed := indexed_of_interpret h
  have hnames : s.described.variableNames = s.decisionVariables.map (·.name) := List.map_map
  refine ⟨rfl, rfl, fun i j a b ha hb hunit hkind => ?_, ?_⟩
  · have hi := hindexed.position?_eq ha
    rw [hunit, hkind, hindexed.position?_eq hb] at hi
    exact (Option.some.inj hi).symm
  · rintro p hp
    refine ⟨?_, fun x hx => ?_, fun i a active ha => ?_⟩
    · rw [Plan.variableValues, List.map_map, ← hnames, ← hp]
      rfl
    · obtain ⟨v, hv, rfl⟩ := List.mem_map.mp hx
      refine Catchment.value?_eq ?_ hv p.flags
      rw [hp, hnames]
      exact hwell.nodup_variables
    · rw [← hp] at hindexed ha
      exact hindexed.setAction_eq ha active

/-- Two units have an action of the same kind. The second one is set by its unit. -/
theorem interpreted_iff_wellFormed_with_shared_kind :
    ∃ (text : String) (s : Scenario) (c : Catchment), read text = .ok s ∧ s.interpret = .ok c
      ∧ s.WellFormed ∧ c.actions.map (fun a => (a.unit, a.kind)) = [(1, "B"), (2, "B")]
      ∧ ∀ p : Plan, p.catchment = c →
        p.variableValues.map (·.name) = s.decisionVariables.map (·.name)
          ∧ p.setAction 2 "B" true = .ok (p.setAt 1 true) := by
  let text := "[Scenario]\nName = \"A\"\n[Model]\nType = \"CatchmentModel\"\n"
    ++ "[[Model.DecisionVariables]]\nName = \"C\"\n"
    ++ "[[Model.PlanningUnits]]\nId = 1\n[[Model.PlanningUnits.Actions]]\nType = \"B\"\n"
    ++ "[[Model.PlanningUnits]]\nId = 2\n[[Model.PlanningUnits.Actions]]\nType = \"B\"\n"
    ++ "[Model.PlanningUnits.Actions.Effects]\nC = 1\n"
  have htext : ((read text).toOption.bind fun s => s.interpret.toOption.map fun c =>
      c.actions.map fun a => (a.unit, a.kind)) = some [(1, "B"), (2, "B")] := by
    decide +kernel
  obtain ⟨s, hread, hs⟩ := Option.bind_eq_some_iff.mp htext
  obtain ⟨c, hinterpret, hactions⟩ := Option.map_eq_some_iff.mp hs
  have hinterpret := Checks.toOption_eq_some_iff.mp hinterpret
  obtain ⟨hiff, hc⟩ := interpreted_iff_wellFormed s
  obtain ⟨-, -, -, hplans⟩ := hc c hinterpret
  refine ⟨text, s, c, Checks.toOption_eq_some_iff.mp hread, hinterpret, hiff.mp ⟨c, hinterpret⟩,
    hactions, fun p hp => ?_⟩
  obtain ⟨hnames, -, hset⟩ := hplans p hp
  have hsecond : (c.actions.map fun a => (a.unit, a.kind))[1]? = some (2, "B") := by
    rw [hactions]
    rfl
  rw [List.getElem?_map] at hsecond
  obtain ⟨a, ha, heq⟩ := Option.map_eq_some_iff.mp hsecond
  rw [Prod.mk.injEq] at heq
  obtain ⟨hunit, hkind⟩ := heq
  exact ⟨hnames, by rw [← hunit, ← hkind, hset 1 a true ha]⟩

end Scenario

end CatchmentPlanning
