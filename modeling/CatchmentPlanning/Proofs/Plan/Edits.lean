import CatchmentPlanning.Plan.Basic
import CatchmentPlanning.Proofs.Checks

/-!
# Editing a plan

There are several ways to say which actions a plan takes: a token names all of them, and
an action can be taken or dropped on its own. Each of them comes down to other flags
(`Plan.withFlags`), and of several edits of the flags only the last one is left to be seen
(`withFlags_withFlags`).

Attributes that a client posts describe the plan, but for an `Encoding` among them, which
says which actions it takes (`Plan.Redescribed`).
-/

namespace CatchmentPlanning

namespace Plan

variable {p q : Plan} {flags : List Bool}

/-! ## Flags -/

/-- A plan with a flag for each action takes exactly these actions. -/
theorem flags_withFlags (h : flags.length = p.catchment.actions.length) :
    (p.withFlags flags).flags = flags :=
  overwrite_eq (h.trans p.length_flags.symm)

/-- A plan is known by its catchment, its flags and its attributes. -/
theorem ext_iff : p = q ↔
    p.catchment = q.catchment ∧ p.flags = q.flags ∧ p.attributes = q.attributes := by
  constructor
  · rintro rfl
    exact ⟨rfl, rfl, rfl⟩
  · cases p
    cases q
    rintro ⟨rfl, rfl, rfl⟩
    rfl

/-- Plans for one catchment that take the same actions are told apart by their attributes
alone. -/
theorem eq_with_attributes (hcatchment : q.catchment = p.catchment) (hflags : q.flags = p.flags) :
    ∃ a, q = { p with attributes := a } :=
  ⟨q.attributes, ext_iff.mpr ⟨hcatchment, hflags, rfl⟩⟩

/-- A plan that takes the actions that it takes is the plan. -/
@[simp] theorem withFlags_flags (p : Plan) : p.withFlags p.flags = p :=
  ext_iff.mpr ⟨rfl, overwrite_eq rfl, rfl⟩

/-- **Of several edits of the flags the last one counts.** -/
theorem withFlags_withFlags {flags' : List Bool} (h : flags'.length = p.catchment.actions.length) :
    (p.withFlags flags).withFlags flags' = p.withFlags flags' := by
  have hboth : ((p.withFlags flags).withFlags flags').flags = flags' := flags_withFlags h
  exact ext_iff.mpr ⟨rfl, hboth.trans (flags_withFlags h).symm, rfl⟩

/-- Taking or dropping one action is an edit of the flags. -/
theorem withFlags_set (p : Plan) (i : Nat) (active : Bool) :
    p.withFlags (p.flags.set i active) = p.setAt i active :=
  ext_iff.mpr ⟨rfl, overwrite_eq (List.length_set ..), rfl⟩

/-- A token that can be read can be applied. -/
theorem decode_eq_ok {token : String}
    (h : Token.decode p.catchment.actions.length token = .ok flags) :
    p.decode token = .ok (p.withFlags flags) := by
  rw [decode, h]
  rfl

/-! ## Attributes -/

/-- The attributes that are brought up to date with the flags. -/
def derivedNames : List String := [encodingName, frontMemberName, validName, errorsName]

/-- **What posted attributes make of a plan.** An `Encoding` names the actions that it takes
from then on, and is not kept as it is. The other attributes describe the plan. -/
inductive Redescribed (p : Plan) (a : Attributes) : Plan → Prop
  /-- No actions are named. -/
  | plain (hnone : a.get? encodingName = none) : Redescribed p a (p.describeAll a)
  /-- Actions are named by a token. -/
  | token {token : String} {flags : List Bool}
      (htoken : a.get? encodingName = some (.str token))
      (hflags : Token.decode p.catchment.actions.length token = .ok flags) :
      Redescribed p a ((p.withFlags flags).describeAll (a.remove encodingName))

theorem Redescribed.catchment_eq {a : Attributes} (h : p.Redescribed a q) :
    q.catchment = p.catchment := by
  cases h <;> rfl

end Plan

end CatchmentPlanning
