/-!
# Work in steps

What belongs to an exploration is changed in place, one step after the other. A
step that fails ends the work, and what the steps before it have changed stays
changed: nothing is taken back. Whether work leaves something half done when it
fails is therefore a matter of the order of its steps.

Such work is an `EStateM` computation. This module adds the kinds of step it is
made of – a check, which leaves everything as it is, and a change, which is made
as a whole or not at all – and what comes of work that is carried to its end.
-/

namespace CatchmentPlanning

namespace Steps

variable {σ ε α : Type}

/-- A check is a step that leaves the state as it is. -/
instance liftCheck : MonadLift (Except ε) (EStateM ε σ) where
  monadLift check state :=
    match check with
    | .ok a => .ok a state
    | .error e => .error e state

/-- A change that is made as a whole or not at all. -/
def change (f : σ → Except ε σ) : EStateM ε σ Unit := fun state =>
  match f state with
  | .ok state' => .ok () state'
  | .error e => .error e state

/-- What comes of work that is carried to its end. -/
def outcome (work : EStateM ε σ α) (state : σ) : Except ε (α × σ) :=
  match work state with
  | .ok a state' => .ok (a, state')
  | .error e _ => .error e

end Steps

end CatchmentPlanning
