import CatchmentPlanning.Toml.Section
import CatchmentPlanning.Proofs.Checks

/-!
# Values that have been read

A reader is given to a section, or to an array, and reads what stands there. So
whatever holds of every value that a reader answers holds of the values that have been
read from a section or an array.
-/

namespace CatchmentPlanning

namespace Toml

variable {α : Type} {read : Value → Except Fault α} {s : Section} {key : String}

/-- A value that must be there has been read. -/
theorem Section.of_required {a : α} (h : s.required key read = .ok a) :
    ∃ v, read v = .ok a := by
  unfold Section.required at h
  split at h
  · exact ⟨_, h⟩
  · cases h

/-- A value that may be missing has been read, or is the one that stands in for it. -/
theorem Section.of_withDefault {a fallback : α} (h : s.withDefault key read fallback = .ok a) :
    a = fallback ∨ ∃ v, read v = .ok a := by
  obtain ⟨found, hfound, h⟩ := Checks.bind_eq_ok_iff.mp h
  cases h
  unfold Section.optional at hfound
  split at hfound
  · obtain ⟨a, ha, rfl⟩ := Checks.map_eq_ok_iff.mp hfound
    exact .inr ⟨_, ha⟩
  · cases hfound
    exact .inl rfl

namespace Value

/-- Every item of an array has been read. -/
theorem of_mem_mapM {items : List Value} {as : List α} (h : items.mapM read = .ok as) :
    ∀ a ∈ as, ∃ v, read v = .ok a := by
  induction items generalizing as with
  | nil =>
    cases h
    exact nofun
  | cons item items ih =>
    rw [List.mapM_cons] at h
    obtain ⟨first, hfirst, h⟩ := Checks.bind_eq_ok_iff.mp h
    obtain ⟨rest, hrest, h⟩ := Checks.bind_eq_ok_iff.mp h
    cases h
    intro a ha
    obtain rfl | ha := List.mem_cons.mp ha
    · exact ⟨item, hfirst⟩
    · exact ih hrest a ha

@[inherit_doc of_mem_mapM]
theorem of_mem_list {v : Value} {as : List α} (h : list read v = .ok as) :
    ∀ a ∈ as, ∃ v, read v = .ok a := by
  unfold list at h
  split at h
  · exact of_mem_mapM h
  · cases h

/-- A whole number that has been read is below the bound. -/
theorem lt_of_whole {bound n : Nat} {v : Value} (h : whole bound v = .ok n) : n < bound := by
  unfold whole at h
  split at h
  · split at h
    · rename_i hrange
      cases h
      omega
    · cases h
  · cases h

end Value

end Toml

end CatchmentPlanning
