import CatchmentPlanning.Attributes
import CatchmentPlanning.Proofs.Keyed
import CatchmentPlanning.Proofs.Text.Named
import Mathlib.Data.List.Induction

/-!
# Attributes are a map

No name stands twice among attributes, so what is found under a name is the one value that
stands there (`get?_eq_some_iff`), and of attributes that are set one after another each is found
again (`get?_setAll`). The attributes under other names keep their values and their order
(`besides_set`, `besides_remove`).
-/

namespace CatchmentPlanning

namespace Attributes

variable {a b : Attributes} {name : String} {v : Json}

theorem ext_iff : a = b ↔ a.entries = b.entries := by
  cases a
  cases b
  simp

/-- A name that does not occur has no value. -/
theorem get?_eq_none_iff : a.get? name = none ↔ name ∉ a.names := Named.valueOf?_eq_none_iff

/-- **What is found under a name is the one value that stands there.** -/
theorem get?_eq_some_iff : a.get? name = some v ↔ (name, v) ∈ a.entries := by
  obtain ⟨entries, hnodup⟩ := a
  show Named.valueOf? name entries = some v ↔ (name, v) ∈ entries
  induction entries with
  | nil => exact iff_of_false nofun nofun
  | cons e rest ih =>
    rw [List.map_cons, List.nodup_cons] at hnodup
    rw [Named.valueOf?_cons, List.mem_cons]
    by_cases he : e.1 = name
    · subst he
      rw [if_pos (beq_self_eq_true _), Option.some.injEq]
      constructor
      · rintro rfl
        exact .inl rfl
      · rintro (heq | hmem)
        · rw [← heq]
        · -- the name does not come up a second time
          exact absurd (List.mem_map_of_mem hmem) hnodup.1
    · rw [if_neg (by simpa using he), ih hnodup.2]
      refine (or_iff_right fun heq => ?_).symm
      exact he (congrArg (·.1) heq).symm

/-- Removing a name takes out what stands under it and leaves the rest in order. -/
theorem entries_remove (a : Attributes) (name : String) :
    (a.remove name).entries = a.entries.filter (·.1 ≠ name) :=
  Keyed.eraseP_eq_filter a.nodup_names name

/-- A name that has been dropped has no value, and the other names keep theirs. -/
theorem get?_remove (a : Attributes) (name key : String) :
    (a.remove name).get? key = if name = key then none else a.get? key := by
  rw [get?, entries_remove, Named.valueOf?_filter_ne]
  rfl

theorem setAll_snoc (a : Attributes) (entries : Named Json) (e : String × Json) :
    a.setAll (entries ++ [e]) = (a.setAll entries).set e.1 e.2 :=
  List.foldl_concat ..

/-- Of values that are set one after another the last one of each name is found. -/
theorem get?_setAll_entries (a : Attributes) (entries : Named Json) (name : String) :
    (a.setAll entries).get? name = (Named.valueOf? name entries.reverse).or (a.get? name) := by
  induction entries using List.reverseRecOn with
  | nil => rfl
  | append_singleton entries e ih =>
    rw [setAll_snoc, get?_set, ih, List.reverse_concat, Named.valueOf?_cons]
    by_cases he : e.1 = name
    · rw [if_pos he, if_pos (beq_iff_eq.mpr he), Option.some_or]
    · rw [if_neg he, if_neg (by simpa using he)]

/-- Of attributes that are set one after another, the new values are found. -/
theorem get?_setAll (a b : Attributes) (name : String) :
    (a.setAll b.entries).get? name = (b.get? name).or (a.get? name) := by
  rw [get?_setAll_entries, Named.valueOf?_reverse b.nodup_names]
  rfl

/-- The attributes besides those under some names, in order. -/
def besides (a : Attributes) (names : List String) : Named Json :=
  a.entries.filter (·.1 ∉ names)

variable {names : List String}

/-- What is found under another name is found besides. -/
theorem valueOf?_besides (a : Attributes) (h : name ∉ names) :
    Named.valueOf? name (a.besides names) = a.get? name := by
  have hboth : (fun e : String × Json => decide (e.1 ∉ names) && e.1 == name) = (·.1 == name) := by
    funext e
    by_cases he : e.1 = name
    · simp [he, h]
    · simp [he]
  rw [besides, get?, Named.valueOf?, Named.valueOf?, List.find?_filter]
  simp only [Bool.decide_and, Bool.decide_eq_true, hboth]

theorem besides_set (a : Attributes) (h : name ∈ names) (v : Json) :
    (a.set name v).besides names = a.besides names := by
  show (setEntry name v a.entries).filter _ = a.entries.filter _
  induction a.entries with
  | nil => exact List.filter_cons_of_neg (by simpa using h)
  | cons e rest ih =>
    rw [setEntry]
    split
    · rename_i he
      rw [List.filter_cons_of_neg (by simpa using h),
        List.filter_cons_of_neg (by simpa [he] using h)]
    · rw [List.filter_cons, List.filter_cons, ih]

theorem besides_remove (a : Attributes) (h : name ∈ names) :
    (a.remove name).besides names = a.besides names := by
  rw [besides, entries_remove, List.filter_filter]
  refine List.filter_congr fun e _ => ?_
  by_cases he : e.1 = name <;> simp [he, h]

end Attributes

end CatchmentPlanning
