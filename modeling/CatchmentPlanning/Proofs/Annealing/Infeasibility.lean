import CatchmentPlanning.Proofs.Annealing.Walk
import CatchmentPlanning.Proofs.Decimal.Comparison

/-!
# When an annealing run finds nothing

A run has no outcome if its best energy is not finite. A plan outside the limits has an infinite
energy, so this is what happens if the walk holds nothing but such plans. It is not the only way.
A variable may come to negative infinity, which is less than every other energy and is never given
up again; and if the walk starts with an energy that is not a number, then nothing is less, and
the walk finds nothing better (`Best.isFinite_eq_false_iff`).

`noFeasibleState_iff` says exactly when a run finds nothing. A plan that keeps within the limits
and whose objective has a finite value is passed over in the other two cases
(`feasible_plan_passed_over`).
-/

namespace CatchmentPlanning

namespace Annealing

open Checks (toOption_eq_some_iff)
open FloatView (lt_iff lt_trans not_lt_of_isNaN lt_infinity neg_infinity_lt isNaN_or_eq_infinity)

/-! ## The best of a sequence -/

/-- **The best of the energies up to a step**, where one is taken for better only if it is
less. -/
structure Best (energies : ℕ → Float) (n : ℕ) (best : Float) : Prop where
  attained : ∃ k ≤ n, energies k = best
  least : ∀ k ≤ n, ¬energies k < best
  /-- The first energy is given up for lesser ones only. -/
  start : best = energies 0 ∨ best < energies 0

namespace Best

variable {energies : ℕ → Float} {n : ℕ} {best : Float}

theorem zero (energies : ℕ → Float) : Best energies 0 (energies 0) where
  attained := ⟨0, le_rfl, rfl⟩
  least := by
    rintro k hk hlt
    obtain rfl := Nat.le_zero.mp hk
    exact lt_irrefl _ (lt_iff.mp hlt).2.2
  start := .inl rfl

/-- **The best energy so far is compared with each new one.** -/
theorem succ (h : Best energies n best) :
    Best energies (n + 1) (if energies (n + 1) < best then energies (n + 1) else best) := by
  split
  · rename_i hless
    refine ⟨⟨n + 1, le_rfl, rfl⟩, fun k hk hlt => ?_, ?_⟩
    · obtain hk | rfl := Nat.le_succ_iff.mp hk
      · exact h.least k hk (lt_trans hlt hless)
      · exact lt_irrefl _ (lt_iff.mp hlt).2.2
    · obtain hstart | hstart := h.start
      · exact .inr (hstart ▸ hless)
      · exact .inr (lt_trans hless hstart)
  · rename_i hnot
    obtain ⟨k, hk, hbest⟩ := h.attained
    refine ⟨⟨k, by omega, hbest⟩, fun k hk => ?_, h.start⟩
    obtain hk | rfl := Nat.le_succ_iff.mp hk
    · exact h.least k hk
    · exact hnot

/-- **When the best energy is not finite**: the first is not a number, one is negative infinity,
or none is finite. -/
theorem isFinite_eq_false_iff (h : Best energies n best) : best.isFinite = false ↔
    (energies 0).isNaN = true ∨ (∃ k ≤ n, energies k = Decimal.infinity true)
      ∨ ∀ k ≤ n, (energies k).isFinite = false := by
  constructor
  · intro hbest
    obtain hnan | rfl | rfl := isNaN_or_eq_infinity hbest
    · obtain hstart | hstart := h.start
      · exact .inl (hstart ▸ hnan)
      · rw [(lt_iff.mp hstart).1] at hnan
        cases hnan
    · exact .inr (.inl h.attained)
    · refine .inr (.inr fun k hk => ?_)
      exact Bool.eq_false_iff.mpr fun hfinite => h.least k hk (lt_infinity hfinite)
  · rintro (hnan | ⟨k, hk, hinfinite⟩ | hnone)
    · obtain hstart | hstart := h.start
      · exact Bool.eq_false_iff.mpr fun hfinite => by
          rw [← hstart, FloatView.isNaN_of_isFinite hfinite] at hnan
          cases hnan
      · exact absurd hstart (not_lt_of_isNaN hnan)
    · exact Bool.eq_false_iff.mpr fun hfinite =>
        h.least k hk (hinfinite ▸ neg_infinity_lt hfinite)
    · obtain ⟨k, hk, rfl⟩ := h.attained
      exact hnone k hk

end Best

/-! ## The best energy of a walk -/

variable {σ : Type} {r : Random.Stream σ} {s : σ} {scenario : Scenario} {c : Catchment}
  {objective : String} {p : Plan} {w w' : Walk} {v : Float}

/-- A step compares the energy of the plan that is held then with the best one. -/
theorem Walk.Advances.bestEnergy_eq (hstep : w.Advances objective w')
    (hleast : ¬w.energy < w.bestEnergy) :
    w'.bestEnergy = if w'.energy < w.bestEnergy then w'.energy else w.bestEnergy := by
  cases hstep with
  | stay => exact (if_neg hleast).symm
  | hold i =>
    show (w.hold _ _).bestEnergy = if (w.hold _ _).energy < _ then (w.hold _ _).energy else _
    rw [w.energy_hold]
    exact w.bestEnergy_hold _ _

/-- **However the draws turn out, the best energy of a walk is the best of those it has held.** -/
theorem best_reached (r : Random.Stream σ) (s : σ) (scenario : Scenario) (c : Catchment)
    (objective : String) (n : Nat) :
    Best (fun k => (reached r s scenario c objective k).energy) n
      (reached r s scenario c objective n).bestEnergy := by
  induction n with
  | zero => exact Best.zero _
  | succ n ih =>
    rw [(advances_reached r s scenario c objective n).bestEnergy_eq (ih.least n le_rfl)]
    exact ih.succ

/-! ## Runs without an outcome -/

theorem isFinite_energy_eq_false_iff : (energy objective p).isFinite = false ↔
    ∀ v, Attains p objective v → v.isFinite = false := by
  rw [← Bool.not_eq_true,
    energy_iff_attains (P := fun v => v.isFinite = true) (by decide +kernel)]
  simp

/-- A run that gets as far as walking finds nothing if its best energy is not finite. -/
theorem run_eq_error_iff (h : Begins scenario c objective) :
    run r s scenario = .error .noFeasibleState
      ↔ (final r s scenario c objective).bestEnergy.isFinite = false := by
  rw [run_eq h]
  split
  · rename_i hfinite
    simp [hfinite]
  · rename_i hfinite
    simp [hfinite]

/-- **When a run finds nothing.** Either the walk starts from a plan within the limits in which
the value of the objective is not a number; or it holds one in which it is negative infinity; or
no plan within the limits that it holds has a finite value of the objective. -/
theorem noFeasibleState_iff (h : Begins scenario c objective) :
    run r s scenario = .error .noFeasibleState ↔
      (∃ v, Attains (reached r s scenario c objective 0).plan objective v ∧ v.isNaN = true)
        ∨ (∃ k ≤ steps scenario.annealingOrDefault c,
            Attains (reached r s scenario c objective k).plan objective (Decimal.infinity true))
        ∨ ∀ k ≤ steps scenario.annealingOrDefault c, ∀ v,
            Attains (reached r s scenario c objective k).plan objective v →
              v.isFinite = false := by
  have hbest := best_reached r s scenario c objective (steps scenario.annealingOrDefault c)
  have henergy (k : Nat) := (accurate_reached r s scenario c objective k).energy
  refine (run_eq_error_iff h).trans
    (hbest.isFinite_eq_false_iff.trans (or_congr ?_ (or_congr ?_ ?_)))
  · rw [henergy]
    exact energy_iff_attains (P := fun v => v.isNaN = true) (by decide +kernel)
  · refine exists_congr fun k => and_congr_right fun _ => ?_
    rw [henergy, energy_iff_attains (P := (· = Decimal.infinity true)) (by decide +kernel),
      exists_eq_right]
  · refine forall₂_congr fun k _ => ?_
    rw [henergy]
    exact isFinite_energy_eq_false_iff

/-- A walk of three steps comes to each plan of two actions, and finds nothing, since all of them
exceed a limit. -/
theorem noFeasibleState_of_breach :
    ∃ (scenario : Scenario) (c : Catchment) (r : Random.Stream Nat),
      Begins scenario c "Load" ∧ steps scenario.annealingOrDefault c = 3
      ∧ (List.range 4).map (fun k => (reached r 0 scenario c "Load" k).plan.flags)
        = [[false, false], [true, false], [true, true], [false, true]]
      ∧ run r 0 scenario = .error .noFeasibleState := by
  let scenario : Scenario :=
    { name := "A"
      annealing := some { maximumIterations := 3 }
      modelType := "CatchmentModel"
      decisionVariables := [⟨"Load", "t", 3.0⟩]
      units := [⟨1, [⟨"Fence", [("Load", -0.25)]⟩, ⟨"Hedge", [("Load", 0.5)]⟩]⟩]
      limits := [⟨"Load", 2.5⟩] }
  -- the two actions are drawn in turn
  let r : Random.Stream Nat := ⟨fun n => (if n % 2 = 0 then 0 else 2 ^ 63, n + 1)⟩
  let a := scenario.annealingOrDefault
  have hbegins : scenario.interpret.toOption.map (fun c =>
      (parameterFault? a, (objective a c).toOption, steps a c)) = some (none, some "Load", 3) := by
    decide +kernel
  have hheld : scenario.interpret.toOption.map (fun c => (List.range 4).map fun k =>
      ((reached r 0 scenario c "Load" k).plan.flags,
        (reached r 0 scenario c "Load" k).plan.isFeasible))
      = some [([false, false], false), ([true, false], false), ([true, true], false),
          ([false, true], false)] := by
    decide +kernel
  obtain ⟨c, hinterpret, hbegins⟩ := Option.map_eq_some_iff.mp hbegins
  rw [hinterpret] at hheld
  have hflags := congrArg (List.map Prod.fst) (Option.some.inj hheld)
  have hexceeds := congrArg (List.map Prod.snd) (Option.some.inj hheld)
  rw [List.map_map] at hflags hexceeds
  simp only [Prod.mk.injEq] at hbegins
  obtain ⟨hparameters, hobjective, hsteps⟩ := hbegins
  have hbegins : Begins scenario c "Load" :=
    ⟨toOption_eq_some_iff.mp hinterpret, hparameters, toOption_eq_some_iff.mp hobjective⟩
  refine ⟨scenario, c, r, hbegins, hsteps, hflags,
    (noFeasibleState_iff hbegins).mpr (.inr (.inr ?_))⟩
  intro k hk v hattains
  have hmem : (reached r 0 scenario c "Load" k).plan.isFeasible ∈ [false, false, false, false] := by
    rw [← show _ = [false, false, false, false] from hexceeds]
    exact List.mem_map_of_mem (List.mem_range.mpr (Nat.lt_succ_of_le (hsteps ▸ hk)))
  simp [hattains.feasible] at hmem

/-- **A plan within the limits is passed over.** It is not so that a run finds nothing only if
no plan within the limits that it holds has a finite value of the objective: a variable that
comes to negative infinity is better than any other, but no outcome. -/
theorem feasible_plan_passed_over :
    ¬ ∀ (text : String) (scenario : Scenario) (c : Catchment) (objective : String)
      (r : Random.Stream Unit) (s : Unit), Scenario.read text = .ok scenario →
      Begins scenario c objective → run r s scenario = .error .noFeasibleState →
      ∀ k ≤ steps scenario.annealingOrDefault c, ∀ v,
        Attains (reached r s scenario c objective k).plan objective v → v.isFinite = false := by
  intro hnone
  let text := "[Scenario]\nName = \"A\"\n[Annealer]\nMaximumIterations = 1\n[Model]\n"
    ++ "Type = \"CatchmentModel\"\n[[Model.DecisionVariables]]\nName = \"C\"\nValue = 1.0\n"
    ++ "[[Model.PlanningUnits]]\nId = 1\n[[Model.PlanningUnits.Actions]]\nType = \"B\"\n"
    ++ "Effects = \x7b C = -inf \x7d\n"
  let r : Random.Stream Unit := ⟨fun s => (0, s)⟩
  have hchecks : (Scenario.read text).toOption.bind (fun scenario =>
      scenario.interpret.toOption.map fun c =>
        let a := scenario.annealingOrDefault
        let start := (reached r () scenario c "C" 0).plan
        (parameterFault? a, (objective a c).toOption,
          (final r () scenario c "C").bestEnergy.isFinite, start.isFeasible,
          (start.value? "C").map Float.isFinite))
      = some (none, some "C", false, true, some true) := by
    decide +kernel
  obtain ⟨scenario, hread, hchecks⟩ := Option.bind_eq_some_iff.mp hchecks
  obtain ⟨c, hinterpret, hchecks⟩ := Option.map_eq_some_iff.mp hchecks
  simp only [Prod.mk.injEq] at hchecks
  obtain ⟨hparameters, hobjective, hnothing, hfeasible, hvalue⟩ := hchecks
  have hbegins : Begins scenario c "C" :=
    ⟨toOption_eq_some_iff.mp hinterpret, hparameters, toOption_eq_some_iff.mp hobjective⟩
  obtain ⟨v, hv, hfinite⟩ := Option.map_eq_some_iff.mp hvalue
  have hinfinite := hnone text scenario c "C" r () (toOption_eq_some_iff.mp hread) hbegins
    ((run_eq_error_iff hbegins).mpr hnothing) 0 (Nat.zero_le _) v ⟨hfeasible, hv⟩
  rw [hinfinite] at hfinite
  cases hfinite

end Annealing

end CatchmentPlanning
