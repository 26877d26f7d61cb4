/-!
# Entries in the order of their names

JSON objects and the effects of an action are collections of named values in
which the order of writing does not count. They are kept as lists sorted by
name, character code by character code, with one entry for each name; of
several entries written under one name the last one counts.
-/

namespace CatchmentPlanning

/-- Values with the names they stand under. -/
abbrev Named (α : Type) := List (String × α)

namespace Named

variable {α : Type}

/-- Whether the first entry may stand in front of the second. -/
def before (a b : String × α) : Bool := decide (a.1 ≤ b.1)

/-- Of neighbouring entries with one name, the last one. -/
def lastOfEach : Named α → Named α
  | a :: b :: rest => if a.1 = b.1 then lastOfEach (b :: rest) else a :: lastOfEach (b :: rest)
  | entries => entries

/-- The entries sorted by name, the last of each name only. Sorting keeps
entries of one name in the order in which they were written. -/
def sorted (entries : Named α) : Named α :=
  lastOfEach (entries.mergeSort before)

/-- The value under a name, the first one if there are several. -/
def valueOf? (name : String) (entries : Named α) : Option α :=
  (List.find? (·.1 == name) entries).map (·.2)

@[simp] theorem valueOf?_nil (name : String) : valueOf? name ([] : Named α) = none := rfl

theorem valueOf?_cons (name : String) (a : String × α) (rest : Named α) :
    valueOf? name (a :: rest) = if a.1 == name then some a.2 else valueOf? name rest := by
  by_cases h : a.1 == name <;> simp [valueOf?, h]

/-- A name that does not occur has no value. -/
theorem valueOf?_eq_none_iff {name : String} {entries : Named α} :
    valueOf? name entries = none ↔ name ∉ entries.map (·.1) := by
  rw [valueOf?, Option.map_eq_none_iff, List.find?_eq_none, List.mem_map]
  constructor
  · rintro hnone ⟨e, he, rfl⟩
    exact hnone e he (beq_self_eq_true _)
  · exact fun hnone e he heq => hnone ⟨e, he, eq_of_beq heq⟩

/-- Taking the entries of one name out leaves the other names their values. -/
theorem valueOf?_filter_ne (name key : String) (entries : Named α) :
    valueOf? key (entries.filter (·.1 ≠ name))
      = if name = key then none else valueOf? key entries := by
  induction entries with
  | nil => simp
  | cons a rest ih =>
    by_cases ha : a.1 = name
    · rw [List.filter_cons_of_neg (by simpa using ha), ih, valueOf?_cons, ha]
      by_cases h : name = key
      · rw [if_pos h, if_pos h]
      · rw [if_neg h, if_neg h, if_neg (by simpa using h)]
    · rw [List.filter_cons_of_pos (by simpa using ha), valueOf?_cons, ih, valueOf?_cons]
      by_cases h : name = key
      · rw [if_pos h, if_pos h, if_neg (by simpa [← h] using ha)]
      · rw [if_neg h, if_neg h]

/-- No name is lost or invented by keeping the last of each. -/
theorem mem_names_lastOfEach {name : String} {entries : Named α} :
    name ∈ (lastOfEach entries).map (·.1) ↔ name ∈ entries.map (·.1) := by
  fun_induction lastOfEach entries with
  | case1 a b rest h ih => simp [ih, h]
  | case2 a b rest h ih => simp [ih]
  | case3 => rfl

end Named

end CatchmentPlanning
