import CatchmentPlanning.Annealing
import CatchmentPlanning.Random.Keystream

/-!
# Seeded annealing runs

A run draws from the keystream of its seed, so a scenario that fixes a seed
always has the same outcome. Where the scenario fixes none, the seed comes from
outside.
-/

namespace CatchmentPlanning

namespace Annealing

/-- The seed of a run: the one that the scenario fixes, or else the fallback. -/
def seed (scenario : Scenario) (fallback : UInt64) : UInt64 :=
  match scenario.annealingOrDefault.seed with
  | some n => n.toUInt64
  | none => fallback

/-- Carries out the annealing run of a scenario on the keystream of its seed. -/
def runSeeded (fallback : UInt64) (scenario : Scenario) : Except Fault Outcome :=
  run ⟨Random.Keystream.next⟩ (Random.Keystream.ofSeed (seed scenario fallback)) scenario

/-- Where the scenario fixes a seed, the one from outside does not matter. -/
theorem runSeeded_eq_of_seed {scenario : Scenario} {n : Nat}
    (h : scenario.annealingOrDefault.seed = some n) (a b : UInt64) :
    runSeeded a scenario = runSeeded b scenario := by
  simp [runSeeded, seed, h]

end Annealing

end CatchmentPlanning
