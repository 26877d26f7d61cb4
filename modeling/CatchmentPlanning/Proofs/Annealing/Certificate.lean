import CatchmentPlanning.Proofs.Annealing.Walk
import CatchmentPlanning.Proofs.Token.Exactness

/-!
# The outcome of an annealing run can be checked

The outcome tells the token of a plan and what its objective comes to. Neither the walk nor the
draws are needed to check it: the token is taken up by the catchment as the scenario describes
it, and the plan keeps within the limits and has the value that is told (`certificate_of_run`).

The best energy of the walk is that of the best flags (`accurate_reached`). It is finite when the
run has an outcome, and the energy of a plan outside the limits is not.
-/

namespace CatchmentPlanning

namespace Annealing

variable {σ : Type} {r : Random.Stream σ} {s : σ} {scenario : Scenario} {o : Outcome}

/-- **The plan that an outcome tells of**, in the catchment as the scenario describes it. -/
structure Outcome.Certificate (o : Outcome) (scenario : Scenario) (c : Catchment) (p : Plan) :
    Prop where
  interpret : scenario.interpret = .ok c
  decode : (Plan.idle c).decode o.token = .ok p
  /-- No variable that has a limit exceeds it. -/
  within : ∀ limit ∈ c.limits, ∀ x, p.value? limit.name = some x → ¬limit.maximum < x
  feasible : p.isFeasible = true
  value : p.value? o.objective = some o.value
  finite : o.value.isFinite = true
  /-- The objective is the one that is asked for, or else the first variable. -/
  objective : match scenario.annealingOrDefault.objective with
    | some name => o.objective = name
    | none => c.variableNames.head? = some o.objective

/-- **However the draws turn out, the outcome of a run has a certificate.** -/
theorem certificate_of_run (h : run r s scenario = .ok o) :
    ∃ c p, o.Certificate scenario c p := by
  obtain ⟨c, objective, hbegins⟩ := exists_begins h
  rw [run_eq hbegins] at h
  split at h
  · rename_i hfinite
    cases h
    have haccurate : (final r s scenario c objective).Accurate c objective :=
      accurate_reached ..
    generalize final r s scenario c objective = w at hfinite haccurate ⊢
    have hattains : Attains ((Plan.idle c).withFlags w.bestFlags) objective w.bestEnergy := by
      rw [haccurate.best] at hfinite ⊢
      exact attains_of_isFinite hfinite
    have hdecode : (Plan.idle c).decode (Token.encode w.bestFlags)
        = .ok ((Plan.idle c).withFlags w.bestFlags) :=
      Plan.decode_eq_ok (haccurate.length ▸ Token.decode_encode w.bestFlags)
    exact ⟨c, _, hbegins.interpret, hdecode, Plan.isFeasible_iff.mp hattains.feasible,
      hattains.feasible, hattains.value, hfinite, hbegins.objective_eq⟩
  · cases h

/-- A run that starts outside the limits and ends within them. -/
theorem certificate_of_run_from_outside :
    ∃ scenario o, run (σ := Unit) ⟨fun s => (0, s)⟩ () scenario = .ok o ∧ o.token = "3"
      ∧ ∃ c p, o.Certificate scenario c p ∧ (Plan.idle c).isFeasible = false := by
  let scenario : Scenario :=
    { name := "A"
      annealing := some { maximumIterations := 1 }
      modelType := "CatchmentModel"
      decisionVariables := [⟨"Load", "t", 3.0⟩]
      units := [⟨1, [⟨"Fence", [("Load", -1.0)]⟩]⟩]
      limits := [⟨"Load", 2.5⟩] }
  have hrun : (run (σ := Unit) ⟨fun s => (0, s)⟩ () scenario).toOption.map (·.token)
      = some "3" := by
    decide +kernel
  have houtside : scenario.interpret.toOption.map (fun c => (Plan.idle c).isFeasible)
      = some false := by
    decide +kernel
  obtain ⟨o, ho, htoken⟩ := Option.map_eq_some_iff.mp hrun
  have ho := Checks.toOption_eq_some_iff.mp ho
  obtain ⟨c, p, hcertificate⟩ := certificate_of_run ho
  rw [hcertificate.interpret] at houtside
  exact ⟨scenario, o, ho, htoken, c, p, hcertificate, Option.some.inj houtside⟩

end Annealing

end CatchmentPlanning
