import CatchmentPlanning.Proofs.Annealing.Infeasibility

/-!
# The outcome of an annealing run is its least plan

A walk also takes steps that raise the energy, and it may pass through plans outside the limits or
with a value that is not a number. What it reports is nevertheless the least energy of all the
plans that it has held, and a plan that has this energy (`minimum_of_run`).

That no energy held is less than the best is part of `Best`, which holds at every step
(`best_reached`). Two things are left. The best flags have to be those of a plan that was held
(`exists_held_of_best`), which is an invariant of its own. And for energies to be compared with
the best at all, the best has to be a number; it is, since a run has no outcome otherwise.
-/

namespace CatchmentPlanning

/-- **Two plans that differ in one action at most.** -/
def Plan.IsNextTo (p q : Plan) : Prop :=
  p.catchment = q.catchment ∧ ∃ i : Nat, ∀ j, j ≠ i → p.flags[j]? = q.flags[j]?

theorem Plan.isNextTo_refl (p : Plan) : p.IsNextTo p := ⟨rfl, 0, fun _ _ => rfl⟩

theorem Plan.isNextTo_toggle (p : Plan) (i : Nat) : p.IsNextTo (p.toggle i) := by
  refine ⟨rfl, i, fun j hj => ?_⟩
  show _ = (p.flags.modify i not)[j]?
  rw [List.getElem?_modify_ne not _ hj.symm]

namespace Annealing

variable {σ : Type} {r : Random.Stream σ} {s : σ} {scenario : Scenario} {c : Catchment}
  {objective : String} {w w' : Walk} {o : Outcome}

/-! ## The plans held -/

/-- A step leads to a plan next to the one that was held. -/
theorem Walk.Advances.isNextTo (hstep : w.Advances objective w') : w.plan.IsNextTo w'.plan := by
  cases hstep with
  | stay => exact w.plan.isNextTo_refl
  | hold i =>
    show w.plan.IsNextTo (w.hold _ _).plan
    rw [w.plan_hold]
    exact w.plan.isNextTo_toggle i

/-- **What is the best after a step** was the best before, or is the plan held then. -/
theorem Walk.Advances.best_eq (hstep : w.Advances objective w') :
    (w'.bestFlags = w.bestFlags ∧ w'.bestEnergy = w.bestEnergy)
      ∨ (w'.bestFlags = w'.plan.flags ∧ w'.bestEnergy = w'.energy) := by
  cases hstep with
  | stay => exact .inl ⟨rfl, rfl⟩
  | hold i =>
    unfold Walk.hold
    split
    · exact .inr ⟨rfl, rfl⟩
    · exact .inl ⟨rfl, rfl⟩

/-- **The best flags of a walk are those of a plan that it has held**, and its energy is the best
one. -/
theorem exists_held_of_best (r : Random.Stream σ) (s : σ) (scenario : Scenario) (c : Catchment)
    (objective : String) (n : Nat) :
    ∃ k ≤ n,
      (reached r s scenario c objective n).bestFlags
          = (reached r s scenario c objective k).plan.flags
        ∧ (reached r s scenario c objective n).bestEnergy
          = (reached r s scenario c objective k).energy := by
  induction n with
  | zero => exact ⟨0, le_rfl, rfl, rfl⟩
  | succ n ih =>
    obtain ⟨hflags, henergy⟩ | hnew := (advances_reached r s scenario c objective n).best_eq
    · obtain ⟨k, hk, hold⟩ := ih
      rw [hflags, henergy]
      exact ⟨k, by omega, hold⟩
    · exact ⟨n + 1, le_rfl, hnew⟩

/-! ## The outcome -/

/-- **An outcome is the least of a sequence of plans** that a run has held one after the other. -/
structure Outcome.IsLeast (o : Outcome) (a : Scenario.Annealing) (c : Catchment)
    (held : ℕ → Plan) : Prop where
  /-- As many steps are tried as are asked for, if there is an action to switch. -/
  iterations : o.iterations = if c.actions = [] then 0 else a.maximumIterations
  catchment : ∀ k, (held k).catchment = c
  /-- The outcome is the token and the energy of a plan held. -/
  attained : ∃ k ≤ o.iterations,
    o.token = (held k).token ∧ o.value = energy o.objective (held k)
  /-- No plan held has a smaller energy. -/
  least : ∀ k ≤ o.iterations, (energy o.objective (held k)).isNaN = false →
    o.value ≤ energy o.objective (held k)
  /-- In particular the plan at the start has none, if it keeps within the limits. -/
  initial : ∀ v, Attains (held 0) o.objective v → o.value ≤ v
  /-- From one plan to the next one action is switched at most. -/
  isNextTo : ∀ k < o.iterations, (held k).IsNextTo (held (k + 1))

/-- **However the draws turn out, the outcome of a run is the least of the plans it has held.** -/
theorem minimum_of_run (h : run r s scenario = .ok o) :
    ∃ c, scenario.interpret = .ok c
      ∧ o.IsLeast scenario.annealingOrDefault c
          fun k => (reached r s scenario c o.objective k).plan := by
  obtain ⟨c, objective, hbegins⟩ := exists_begins h
  rw [run_eq hbegins] at h
  split at h
  · rename_i hfinite
    cases h
    refine ⟨c, hbegins.interpret, ?_⟩
    have haccurate (k : ℕ) := accurate_reached r s scenario c objective k
    have hbest := best_reached r s scenario c objective (steps scenario.annealingOrDefault c)
    have hnumber := FloatView.isNaN_of_isFinite hfinite
    unfold final at hfinite hnumber ⊢
    have hleast (k : ℕ) (hk : k ≤ steps scenario.annealingOrDefault c)
        (henergy : (energy objective (reached r s scenario c objective k).plan).isNaN = false) :
        (reached r s scenario c objective (steps scenario.annealingOrDefault c)).bestEnergy
          ≤ energy objective (reached r s scenario c objective k).plan := by
      refine FloatView.le_of_not_lt hnumber henergy ?_
      rw [← (haccurate k).energy]
      exact hbest.least k hk
    refine ⟨?_, fun k => (haccurate k).catchment, ?_, hleast, fun v hv => ?_,
      fun k _ => (advances_reached r s scenario c objective k).isNextTo⟩
    · show steps scenario.annealingOrDefault c = _
      simp only [steps, List.isEmpty_iff]
    · obtain ⟨k, hk, hflags, henergy⟩ :=
        exists_held_of_best r s scenario c objective (steps scenario.annealingOrDefault c)
      exact ⟨k, hk, congrArg Token.encode hflags, henergy.trans (haccurate k).energy⟩
    · rw [← hv.energy_eq]
      refine hleast 0 (Nat.zero_le _) ?_
      -- a walk that starts from what is not a number never finds a best energy
      rw [← (haccurate 0).energy]
      obtain hstart | hstart := hbest.start
      · exact hstart ▸ hnumber
      · exact (FloatView.lt_iff.mp hstart).2.1
  · cases h

/-- A run that starts outside the limits, goes through two plans whose energy is not a number and
only then reaches one with a finite energy. -/
theorem minimum_of_run_past_no_number :
    let r : Random.Stream ℕ := ⟨fun n => (if n = 1 then 2 ^ 63 else 0, n + 1)⟩
    ∃ scenario o c,
      let held k := (reached r 0 scenario c "Load" k).plan
      run r 0 scenario = .ok o ∧ o.IsLeast scenario.annealingOrDefault c held
        ∧ o.token = "6" ∧ o.iterations = 3
        ∧ (held 0).isFeasible = false ∧ (energy "Load" (held 1)).isNaN = true
        ∧ (energy "Load" (held 2)).isNaN = true := by
  intro r
  let scenario : Scenario :=
    { name := "A"
      annealing := some { maximumIterations := 3 }
      modelType := "CatchmentModel"
      decisionVariables := [⟨"Load", "t", 3.0⟩, ⟨"Cost", "$", 2.0⟩]
      units := [⟨1,
        [⟨"Fence", [("Cost", -1.0), ("Load", 0.0 / 0.0)]⟩, ⟨"Hedge", [("Cost", -1.0)]⟩]⟩]
      limits := [⟨"Cost", 1.5⟩] }
  have hrun : (run r 0 scenario).toOption.map (fun o => (o.objective, o.token, o.iterations))
      = some ("Load", "6", 3) := by
    decide +kernel
  have hheld : scenario.interpret.toOption.map (fun c =>
      let held k := (reached r 0 scenario c "Load" k).plan
      ((held 0).isFeasible, (energy "Load" (held 1)).isNaN, (energy "Load" (held 2)).isNaN))
      = some (false, true, true) := by
    decide +kernel
  obtain ⟨o, ho, hfacts⟩ := Option.map_eq_some_iff.mp hrun
  simp only [Prod.mk.injEq] at hfacts
  obtain ⟨hobjective, htoken, hiterations⟩ := hfacts
  have ho := Checks.toOption_eq_some_iff.mp ho
  obtain ⟨c, hinterpret, hleast⟩ := minimum_of_run ho
  rw [hinterpret] at hheld
  have hheld := Option.some.inj hheld
  simp only [Prod.mk.injEq] at hheld
  rw [hobjective] at hleast
  exact ⟨scenario, o, c, ho, hleast, htoken, hiterations, hheld⟩

end Annealing

end CatchmentPlanning
