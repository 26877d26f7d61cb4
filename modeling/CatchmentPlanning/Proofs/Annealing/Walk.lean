import CatchmentPlanning.Annealing
import CatchmentPlanning.Proofs.Checks
import CatchmentPlanning.Proofs.Plan.Edits

/-!
# What an annealing walk carries with it

A walk holds a plan, and beside it the energy of the plan and the flags and the energy of the
best plan so far. None of them is worked out anew: an action is switched in place, and switched
back if the step is not taken. Switching back restores the plan (`Plan.toggle_toggle`), so a step
either holds another plan or changes nothing but the temperature (`Walk.Advances`), and what the
walk carries stays accurate (`Walk.Accurate`) however the draws turn out.

A run that gets as far as walking (`Begins`) takes its outcome from the place that it has reached
in the end (`run_eq`).
-/

namespace CatchmentPlanning

/-! ## Plans and limits -/

/-- **An action that is switched twice is as it was before.** -/
theorem Plan.toggle_toggle (p : Plan) (i : Nat) : (p.toggle i).toggle i = p := by
  have hnot : not ∘ not = id := funext Bool.not_not
  refine Plan.ext_iff.mpr ⟨rfl, ?_, rfl⟩
  show (p.flags.modify i not).modify i not = p.flags
  rw [List.modify_modify_eq, hnot, List.modify_id]

/-- A plan is feasible if no variable that has a limit exceeds it. -/
theorem Plan.isFeasible_iff {p : Plan} : p.isFeasible = true ↔
    ∀ limit ∈ p.catchment.limits, ∀ x, p.value? limit.name = some x → ¬limit.maximum < x := by
  rw [Plan.isFeasible, Catchment.isFeasible, Catchment.breaches, List.isEmpty_iff,
    List.filterMap_eq_nil_iff]
  refine forall₂_congr fun limit _ => ?_
  rw [Plan.value?]
  cases p.catchment.value? p.flags limit.name with
  | none => simp
  | some x => simp

namespace Annealing

open Checks (ok_bind pure_eq_ok)

variable {σ : Type} {r : Random.Stream σ} {s : σ} {scenario : Scenario} {c : Catchment}
  {objective : String} {p q : Plan} {w w' : Walk} {v : Float}

/-! ## Energies -/

/-- The energy of a plan depends on the catchment and the flags alone. -/
theorem energy_congr (hcatchment : p.catchment = q.catchment) (hflags : p.flags = q.flags) :
    energy objective p = energy objective q := by
  unfold energy Plan.isFeasible Plan.value?
  rw [hcatchment, hflags]

/-- **The objective has a value in a plan within the limits.** -/
structure Attains (p : Plan) (objective : String) (v : Float) : Prop where
  feasible : p.isFeasible = true
  value : p.value? objective = some v

theorem Attains.energy_eq (h : Attains p objective v) : energy objective p = v := by
  rw [energy, if_pos h.feasible, h.value, Option.getD_some]

/-- **An energy other than infinity is attained.** -/
theorem attains_energy (h : energy objective p ≠ Decimal.infinity false) :
    Attains p objective (energy objective p) := by
  unfold energy at h ⊢
  split at h
  · rename_i hfeasible
    rw [if_pos hfeasible]
    cases hvalue : p.value? objective with
    | none =>
      rw [hvalue] at h
      exact absurd rfl h
    | some x => exact ⟨hfeasible, hvalue⟩
  · exact absurd rfl h

/-- **What holds of an energy but not of infinity** holds of a value that is attained. -/
theorem energy_iff_attains {P : Float → Prop} (hP : ¬P (Decimal.infinity false)) :
    P (energy objective p) ↔ ∃ v, Attains p objective v ∧ P v := by
  constructor
  · intro h
    exact ⟨_, attains_energy fun hinfinite => hP (hinfinite ▸ h), h⟩
  · rintro ⟨v, hattains, h⟩
    rwa [hattains.energy_eq]

/-- A finite energy is attained. -/
theorem attains_of_isFinite (h : (energy objective p).isFinite = true) :
    Attains p objective (energy objective p) :=
  attains_energy fun hinfinite => by
    rw [hinfinite] at h
    exact absurd h (by decide +kernel)

/-! ## One step -/

/-- **What a step can do**: another plan is held, or the walk stays where it is, in either case
with a temperature that the energies do not depend on. -/
inductive Walk.Advances (objective : String) (w : Walk) : Walk → Prop
  | hold (i : Nat) (temperature : Float) : Advances objective w
      { w.hold (w.plan.toggle i) (Annealing.energy objective (w.plan.toggle i)) with
        temperature := temperature }
  | stay (temperature : Float) : Advances objective w { w with temperature := temperature }

theorem advances_step (r : Random.Stream σ) (objective : String) (coolingFactor : Float) (w : Walk)
    (s : σ) : w.Advances objective (step r objective coolingFactor w s).1 := by
  unfold step
  split
  rename_i i _ _
  extract_lets p e
  split
  rename_i taken _ _
  cases taken with
  | true => exact .hold i _
  | false =>
    have hback : p.toggle i = w.plan := w.plan.toggle_toggle i
    rw [if_neg Bool.false_ne_true, hback]
    exact .stay _

/-- The walk takes its last step from where the steps before have led. -/
theorem walk_succ (r : Random.Stream σ) (objective : String) (coolingFactor : Float) (n : Nat)
    (w : Walk) (s : σ) :
    walk r objective coolingFactor (n + 1) w s
      = step r objective coolingFactor (walk r objective coolingFactor n w s).1
        (walk r objective coolingFactor n w s).2 := by
  induction n generalizing w s with
  | zero => rfl
  | succ n ih => exact ih _ _

/-! ## The walk of a run -/

/-- Where a run has got to after a number of steps. -/
def reached (r : Random.Stream σ) (s : σ) (scenario : Scenario) (c : Catchment)
    (objective : String) (n : Nat) : Walk :=
  let a := scenario.annealingOrDefault
  let (p, s) := initialise r (Plan.idle c) s a.initialState
  (walk r objective a.coolingFactor n (Walk.start objective a.temperature p) s).1

theorem advances_reached (r : Random.Stream σ) (s : σ) (scenario : Scenario) (c : Catchment)
    (objective : String) (n : Nat) : (reached r s scenario c objective n).Advances objective
      (reached r s scenario c objective (n + 1)) := by
  unfold reached
  dsimp only
  rw [walk_succ]
  exact advances_step ..

/-- **What a walk carries with it is accurate**: the energy is that of the plan held, and the
best energy that of the plan with the best flags. -/
structure Walk.Accurate (c : Catchment) (objective : String) (w : Walk) : Prop where
  catchment : w.plan.catchment = c
  energy : w.energy = Annealing.energy objective w.plan
  /-- There is a flag for each action. -/
  length : w.bestFlags.length = c.actions.length
  best : w.bestEnergy = Annealing.energy objective ((Plan.idle c).withFlags w.bestFlags)

/-- The energy of a plan is the one that can be worked out from its flags. -/
theorem energy_idle_withFlags (hcatchment : p.catchment = c) :
    energy objective ((Plan.idle c).withFlags p.flags) = energy objective p := by
  have hlength : p.flags.length = c.actions.length := hcatchment ▸ p.length_flags
  exact energy_congr hcatchment.symm (Plan.flags_withFlags hlength)

theorem Walk.accurate_start (hcatchment : p.catchment = c) (temperature : Float) :
    (Walk.start objective temperature p).Accurate c objective where
  catchment := hcatchment
  energy := rfl
  length := hcatchment ▸ p.length_flags
  best := (energy_idle_withFlags hcatchment).symm

/-- **A step keeps what is carried accurate.** -/
theorem Walk.Accurate.of_advances (haccurate : w.Accurate c objective)
    (hstep : w.Advances objective w') : w'.Accurate c objective := by
  cases hstep with
  | stay => exact ⟨haccurate.catchment, haccurate.energy, haccurate.length, haccurate.best⟩
  | hold i =>
    have hcatchment : (w.plan.toggle i).catchment = c := haccurate.catchment
    unfold Walk.hold
    split
    · exact ⟨hcatchment, rfl, hcatchment ▸ (w.plan.toggle i).length_flags,
        (energy_idle_withFlags hcatchment).symm⟩
    · exact ⟨hcatchment, rfl, haccurate.length, haccurate.best⟩

/-- **However the draws turn out, the walk of a run is accurate at every step.** -/
theorem accurate_reached (r : Random.Stream σ) (s : σ) (scenario : Scenario) (c : Catchment)
    (objective : String) (n : Nat) :
    (reached r s scenario c objective n).Accurate c objective := by
  induction n with
  | zero =>
    have hstart (a : Scenario.Annealing) :
        (initialise r (Plan.idle c) s a.initialState).1.catchment = c := by
      unfold initialise
      cases a.initialState <;> rfl
    exact Walk.accurate_start (hstart _) _
  | succ n ih => exact ih.of_advances (advances_reached ..)

/-! ## The run -/

/-- **A run gets as far as walking** in a catchment, with an objective. -/
structure Begins (scenario : Scenario) (c : Catchment) (objective : String) : Prop where
  interpret : scenario.interpret = .ok c
  parameters : parameterFault? scenario.annealingOrDefault = none
  objective : Annealing.objective scenario.annealingOrDefault c = .ok objective

/-- The objective of a run is the one that is asked for, or else the first variable. -/
theorem Begins.objective_eq (h : Begins scenario c objective) :
    match scenario.annealingOrDefault.objective with
    | some name => objective = name
    | none => c.variableNames.head? = some objective := by
  have hobjective := h.objective
  unfold Annealing.objective at hobjective
  dsimp only at hobjective
  split at hobjective
  · rename_i hmem
    obtain rfl := Except.ok.inj hobjective
    cases hasked : scenario.annealingOrDefault.objective with
    | some name => rfl
    | none =>
      -- the empty name stands in where there is no variable, and is refused
      rw [hasked, Option.getD_none] at hmem
      cases hnames : c.variableNames with
      | nil =>
        rw [hnames] at hmem
        cases hmem
      | cons first rest => rfl
  · cases hobjective

/-- Where a run ends. -/
def final (r : Random.Stream σ) (s : σ) (scenario : Scenario) (c : Catchment)
    (objective : String) : Walk :=
  reached r s scenario c objective (steps scenario.annealingOrDefault c)

/-- **The outcome of a run is read off the place that it has reached in the end.** -/
theorem run_eq (h : Begins scenario c objective) :
    run r s scenario =
      if (final r s scenario c objective).bestEnergy.isFinite then
        .ok ⟨Token.encode (final r s scenario c objective).bestFlags, objective,
          (final r s scenario c objective).bestEnergy, steps scenario.annealingOrDefault c⟩
      else .error .noFeasibleState := by
  unfold run
  simp only [h.interpret, h.parameters, h.objective, pure_eq_ok, ok_bind]
  rfl

/-- Only a run that gets as far as walking finds something. -/
theorem exists_begins {o : Outcome} (h : run r s scenario = .ok o) :
    ∃ c objective, Begins scenario c objective := by
  unfold run at h
  cases hc : scenario.interpret with
  | error e => simp [hc] at h
  | ok c =>
    cases hparameters : parameterFault? scenario.annealingOrDefault with
    | some fault => simp [hc, hparameters] at h
    | none =>
      cases hobjective : objective scenario.annealingOrDefault c with
      | error fault => simp [hc, hparameters, hobjective] at h
      | ok objective => exact ⟨c, objective, hc, hparameters, hobjective⟩

end Annealing

end CatchmentPlanning
