import CatchmentPlanning.Proofs.Exploration.Solutions

/-!
# What the scratchpad shows follows from its actions

An edit of the actions on the scratchpad changes more than its flags: derived attributes are
set, dropped and set again, and move about among the others. What is left of all this, once
several edits have been made, are the flags that the last of them has set
(`Redirected.edit`), for a coherent exploration derives everything else from them. So
explorations that edits of the actions lead to from one and the same exploration show the
same scratchpad as soon as it takes the same actions (`Redirected.showsSame`). The order of
its attributes may differ.
-/

namespace CatchmentPlanning

/-- **Two solutions show the same**, the order of their attributes aside. -/
structure Solution.ShowsSame (s s' : Solution) : Prop where
  id : s.id = s'.id
  decisionVariables : s.decisionVariables = s'.decisionVariables
  token : s.token = s'.token
  units : s.units = s'.units
  active : s.active = s'.active
  inactive : s.inactive = s'.inactive
  attributes : ∀ name, s.attributes.get? name = s'.attributes.get? name

namespace Plan

variable {p q : Plan}

/-- They show the same if their attributes have the same values. -/
theorem showsSame_solution (hcatchment : q.catchment = p.catchment) (hflags : q.flags = p.flags)
    (hattributes : ∀ name, q.attributes.get? name = p.attributes.get? name) (id : String) :
    (q.solution id).ShowsSame (p.solution id) := by
  obtain ⟨a, rfl⟩ := eq_with_attributes hcatchment hflags
  exact ⟨rfl, rfl, rfl, rfl, rfl, rfl, hattributes⟩

end Plan

namespace Exploration

variable {x x₁ x₂ : Exploration} {c : Catchment}

/-- The flags that an edit of the actions leaves. -/
theorem flags_edited_withFlags {flags : List Bool}
    (h : flags.length = x.scratchpad.catchment.actions.length) :
    (x.edited (x.scratchpad.withFlags flags)).scratchpad.flags = flags :=
  Plan.flags_withFlags h

/-- **An exploration in which the scratchpad takes other actions**, after any number of
edits: everything but the scratchpad is the same, and so are those of its attributes that do
not follow from its actions. -/
structure Redirected (x x' : Exploration) : Prop where
  rest : x' = { x with roster := { x.roster with scratchpad := x'.roster.scratchpad } }
  attributes : ∀ name, name ∉ Plan.derivedNames →
    x'.scratchpad.attributes.get? name = x.scratchpad.attributes.get? name

theorem Redirected.refl (x : Exploration) : x.Redirected x where
  rest := rfl
  attributes _ _ := rfl

/-- One more edit of the actions. -/
theorem Redirected.edit (h : x.Redirected x₁) (flags : List Bool) :
    x.Redirected (x₁.edited (x₁.scratchpad.withFlags flags)) where
  rest := by
    rw [h.rest]
    rfl
  attributes name hname :=
    (Plan.get?_refresh_of_ne (x₁.scratchpad.withFlags flags) _ hname).trans
      (h.attributes name hname)

/-- The front is the same. -/
theorem Redirected.front_eq (h : x.Redirected x₁) : x₁.front = x.front :=
  congrArg (·.front) h.rest

/-- **Explorations with the same actions on the scratchpad show the same scratchpad** if
edits of the actions have led to both of them from the same exploration. -/
theorem Redirected.showsSame (h₁ : x.Redirected x₁) (h₂ : x.Redirected x₂)
    (hc₁ : x₁.Coherent c) (hc₂ : x₂.Coherent c)
    (hflags : x₁.scratchpad.flags = x₂.scratchpad.flags) :
    x₁.roster.scratchpad.solution.ShowsSame x₂.roster.scratchpad.solution := by
  have hmem (x : Exploration) : x.roster.scratchpad ∈ x.roster.entries :=
    List.mem_cons_of_mem _ List.mem_cons_self
  have he₁ := hc₁.entries _ (hmem x₁)
  have he₂ := hc₂.entries _ (hmem x₂)
  have hcatchment : x₁.scratchpad.catchment = x₂.scratchpad.catchment :=
    he₁.catchment.trans he₂.catchment.symm
  have htoken : x₁.scratchpad.token = x₂.scratchpad.token := by
    rw [Plan.token, Plan.token, hflags]
  have hfrontMember : x₁.scratchpad.attributes.get? Plan.frontMemberName
      = x₂.scratchpad.attributes.get? Plan.frontMemberName := by
    rw [hc₁.frontMember, hc₂.frontMember, htoken, h₁.front_eq, h₂.front_eq]
  rw [he₁.solution, he₂.solution, hc₁.label_scratchpad, hc₂.label_scratchpad]
  refine Plan.showsSame_solution hcatchment hflags (fun name => ?_) _
  by_cases hname : name ∈ Plan.derivedNames
  · exact he₂.truthful.get?_eq he₁.truthful hcatchment hflags hfrontMember hname
  · exact (h₁.attributes name hname).trans (h₂.attributes name hname).symm

end Exploration

end CatchmentPlanning
