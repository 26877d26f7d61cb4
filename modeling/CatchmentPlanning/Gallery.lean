import CatchmentPlanning.Roster

/-!
# Galleries

The solution for a row of the loaded front is built from As-Is when it is first
asked for, and kept. A gallery holds the solutions built so far under the labels
of their rows. It is apart from the roster, so that a row and a client's plan
may carry the same label.
-/

namespace CatchmentPlanning

/-- Solutions built for rows of the front, by label. -/
structure Gallery where
  solutions : Named Solution

namespace Gallery

/-- Nothing has been built yet. -/
def empty : Gallery := ⟨[]⟩

/-- The solution built for a label. -/
def solution? (g : Gallery) (label : String) : Option Solution :=
  Named.valueOf? label g.solutions

/-- Whether a solution has been built for a label. -/
def contains (g : Gallery) (label : String) : Bool := (g.solution? label).isSome

/-- How many solutions have been built. -/
def size (g : Gallery) : Nat := g.solutions.length

/-- The solution of a row of the front: As-Is with the row's actions. -/
def built (asIs : Plan) (label token summary : String) (front : Front) :
    Except Roster.Fault Solution :=
  match Roster.variant asIs label token summary with
  | .ok p => .ok ((p.refresh (some (front.onFront p.token))).solution label)
  | .error e => .error e

/-- Builds the solution of a row and keeps it in place of an earlier one. -/
def materialise (g : Gallery) (asIs : Plan) (label token summary : String) (front : Front) :
    Except Roster.Fault (Solution × Gallery) :=
  match built asIs label token summary front with
  | .ok s => .ok (s, ⟨(label, s) :: g.solutions.filter (·.1 ≠ label)⟩)
  | .error e => .error e

/-- What is built is kept under its label, and what was built for other labels
stays. -/
theorem materialise_eq_ok_iff {g g' : Gallery} {asIs : Plan}
    {label token summary : String} {front : Front} {s : Solution} :
    g.materialise asIs label token summary front = .ok (s, g') ↔
      built asIs label token summary front = .ok s
        ∧ g' = ⟨(label, s) :: g.solutions.filter (·.1 ≠ label)⟩ := by
  unfold materialise
  cases built asIs label token summary front with
  | error e => exact iff_of_false nofun nofun
  | ok s' =>
    rw [Except.ok.injEq, Prod.mk.injEq, Except.ok.injEq]
    constructor
    · rintro ⟨rfl, rfl⟩
      exact ⟨rfl, rfl⟩
    · rintro ⟨rfl, rfl⟩
      exact ⟨rfl, rfl⟩

/-- What a gallery holds once a solution has been built. -/
theorem solution?_of_materialise {g g' : Gallery} {asIs : Plan}
    {label token summary : String} {front : Front} {s : Solution}
    (h : g.materialise asIs label token summary front = .ok (s, g')) (key : String) :
    g'.solution? key = if label = key then some s else g.solution? key := by
  obtain ⟨-, rfl⟩ := materialise_eq_ok_iff.mp h
  unfold solution?
  rw [Named.valueOf?_cons, Named.valueOf?_filter_ne]
  by_cases hkey : label = key
  · simp [hkey]
  · simp [hkey]

end Gallery

end CatchmentPlanning
