/-!
# Problems found together

A check does not stop at the first thing that is wrong. It collects every
problem it meets and reports them in one message, under a heading that says
what was checked.
-/

namespace CatchmentPlanning

/-- Everything that a check found wrong, in the order it was found. -/
structure Problems where
  /-- What was checked. -/
  heading : String
  /-- One message for each problem. -/
  messages : List String
deriving Repr, DecidableEq

namespace Problems

/-- The report: the heading, and the messages in brackets. -/
def report (p : Problems) : String :=
  p.heading ++ ": [" ++ "; ".intercalate p.messages ++ "]"

/-- A check with no problem has passed. -/
def passed (p : Problems) : Bool := p.messages.isEmpty

@[simp] theorem passed_iff (p : Problems) : p.passed = true ↔ p.messages = [] := by
  simp [passed]

end Problems

end CatchmentPlanning
