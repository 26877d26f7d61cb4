import CatchmentPlanning.Plan.Basic
import CatchmentPlanning.Random.Draw
import CatchmentPlanning.Scenario.Interpretation

/-!
# Annealing

An annealing run walks through the plans of a scenario, switching one action at
a time, in search of a plan within the limits whose objective – one of the
decision variables – is small. The **energy** of a plan is the value of its
objective, or infinity if the plan exceeds a limit. A step that does not raise
the energy is always taken; one that does is taken with a chance that falls with
the rise and with the temperature, which sinks from step to step. The plan with
the least energy that the walk has held is the outcome.
-/

namespace CatchmentPlanning

namespace Annealing

/-- What a run has found. -/
structure Outcome where
  /-- The token of the best plan. -/
  token : String
  objective : String
  /-- The value of the objective in the best plan. -/
  value : Float
  /-- How many steps were tried. -/
  iterations : Nat

/-- Why a run has found nothing. -/
inductive Fault where
  | scenario (fault : Scenario.Fault)
  | unknownObjective (name : String)
  | invalidParameter (detail : String)
  | noFeasibleState
  | aborted (detail : String)
deriving Repr, DecidableEq

/-- What is wrong, in words. -/
def Fault.message : Fault → String
  | scenario fault => fault.message
  | unknownObjective name => "objective [" ++ name ++ "] is not a decision variable of the model"
  | invalidParameter detail => "invalid annealer parameter: " ++ detail
  | noFeasibleState => "no state satisfying the scenario limits was found"
  | aborted detail => "scenario run aborted: " ++ detail

/-! ## Parameters -/

/-- What is wrong with the parameters of a run, if anything is. Only a positive
temperature and a cooling factor strictly between zero and one will do. -/
def parameterFault? (a : Scenario.Annealing) : Option Fault :=
  if !(0.0 < a.temperature) then
    some (.invalidParameter
      ("Temperature must be positive, got " ++ Decimal.plainText a.temperature))
  else if !(0.0 < a.coolingFactor && a.coolingFactor < 1.0) then
    some (.invalidParameter
      ("CoolingFactor must lie strictly between 0 and 1, got "
        ++ Decimal.plainText a.coolingFactor))
  else none

/-- The objective of a run: the variable that is asked for, or else the first. -/
def objective (a : Scenario.Annealing) (c : Catchment) : Except Fault String :=
  let name := a.objective.getD (c.variableNames.headD "")
  if name ∈ c.variableNames then .ok name else .error (.unknownObjective name)

/-! ## The walk -/

/-- The energy of a plan. -/
def energy (objective : String) (p : Plan) : Float :=
  if p.isFeasible then (p.value? objective).getD (Decimal.infinity false)
  else Decimal.infinity false

/-- A place on the walk. -/
structure Walk where
  /-- The plan held. -/
  plan : Plan
  /-- Its energy. -/
  energy : Float
  /-- The flags of the best plan held so far. -/
  bestFlags : List Bool
  /-- Its energy. -/
  bestEnergy : Float
  temperature : Float

namespace Walk

/-- The start of a walk. -/
def start (objective : String) (temperature : Float) (p : Plan) : Walk :=
  let e := Annealing.energy objective p
  ⟨p, e, p.flags, e, temperature⟩

/-- Holds another plan. -/
def hold (w : Walk) (p : Plan) (e : Float) : Walk :=
  if e < w.bestEnergy then
    { w with plan := p, energy := e, bestFlags := p.flags, bestEnergy := e }
  else { w with plan := p, energy := e }

end Walk

variable {σ : Type}

/-- Whether a step from one energy to another is taken. A fraction is drawn only
if it matters. -/
def accepts (r : Random.Stream σ) (current candidate temperature : Float) (s : σ) :
    Bool × σ :=
  if !current.isFinite || candidate ≤ current then (true, s)
  else if !candidate.isFinite then (false, s)
  else
    let (x, s) := r.fraction s
    (decide (x < Float.exp (-(candidate - current) / temperature)), s)

/-- Tries one step. The action is switched in place, and switched back if the step is
not taken. -/
def step (r : Random.Stream σ) (objective : String) (coolingFactor : Float) (w : Walk) (s : σ) :
    Walk × σ :=
  let (i, s) := r.index w.plan.flags.length s
  let p := w.plan.toggle i
  let e := energy objective p
  let (taken, s) := accepts r w.energy e w.temperature s
  let w := if taken then w.hold p e else { w with plan := p.toggle i }
  ({ w with temperature := w.temperature * coolingFactor }, s)

/-- Tries a number of steps. -/
def walk (r : Random.Stream σ) (objective : String) (coolingFactor : Float) :
    Nat → Walk → σ → Walk × σ
  | 0, w, s => (w, s)
  | n + 1, w, s =>
    let (w, s) := step r objective coolingFactor w s
    walk r objective coolingFactor n w s

/-- Brings a plan into a starting state. -/
def initialise (r : Random.Stream σ) (p : Plan) (s : σ) : Scenario.InitialState → Plan × σ
  | .asIs => (p.withFlags (List.replicate p.flags.length false), s)
  | .random =>
    let (flags, s) := r.coins p.flags.length s
    (p.withFlags flags, s)

/-- How many steps a run tries: none where there is no action to switch. -/
def steps (a : Scenario.Annealing) (c : Catchment) : Nat :=
  if c.actions.isEmpty then 0 else a.maximumIterations

/-- Carries out the annealing run of a scenario. -/
def run (r : Random.Stream σ) (s : σ) (scenario : Scenario) : Except Fault Outcome := do
  let c ←
    match scenario.interpret with
    | .ok c => pure c
    | .error e => throw (.scenario e)
  let a := scenario.annealingOrDefault
  if let some fault := parameterFault? a then throw fault
  let objective ← objective a c
  let (p, s) := initialise r (Plan.idle c) s a.initialState
  let iterations := steps a c
  let start := Walk.start objective a.temperature p
  let (w, _) := walk r objective a.coolingFactor iterations start s
  if w.bestEnergy.isFinite then
    return ⟨Token.encode w.bestFlags, objective, w.bestEnergy, iterations⟩
  else throw .noFeasibleState

@[simp] theorem Walk.plan_hold (w : Walk) (p : Plan) (e : Float) : (w.hold p e).plan = p := by
  unfold Walk.hold
  split <;> rfl

@[simp] theorem Walk.energy_hold (w : Walk) (p : Plan) (e : Float) :
    (w.hold p e).energy = e := by
  unfold Walk.hold
  split <;> rfl

/-- Holding another plan never gives up a better one. -/
theorem Walk.bestEnergy_hold (w : Walk) (p : Plan) (e : Float) :
    (w.hold p e).bestEnergy = if e < w.bestEnergy then e else w.bestEnergy := by
  unfold Walk.hold
  split <;> rfl

end Annealing

end CatchmentPlanning
