import CatchmentPlanning.Text.Blank
import Mathlib.Data.List.DropRight

/-!
# Trimmed texts

A trimmed text has no blanks around it, so trimming it again changes nothing
(`trim_trim`). The names that a table can mention are therefore the texts that trimming
leaves alone.
-/

namespace CatchmentPlanning

namespace Text

/-- Trimming drops blanks from the front, and then from the back. -/
theorem trimmed_eq_rdropWhile (cs : List Char) :
    trimmed cs = (cs.dropWhile isBlank).rdropWhile isBlank :=
  rfl

/-- Nothing is dropped where there is no blank. -/
theorem trimmed_eq_self {cs : List Char} (h : ∀ c ∈ cs, isBlank c = false) :
    trimmed cs = cs := by
  have hdrop : ∀ ds : List Char, (∀ d ∈ ds, d ∈ cs) → ds.dropWhile isBlank = ds := by
    intro ds hds
    cases ds with
    | nil => rfl
    | cons d ds => rw [List.dropWhile_cons_of_neg (by simp [h d (hds d List.mem_cons_self)])]
  rw [trimmed, hdrop cs fun _ => id, hdrop _ fun _ => List.mem_reverse.mp, List.reverse_reverse]

/-- **A trimmed text is not changed by trimming.** -/
theorem trimmed_trimmed (cs : List Char) : trimmed (trimmed cs) = trimmed cs := by
  have hfront : (trimmed cs).dropWhile isBlank = trimmed cs := by
    cases hcs : trimmed cs with
    | nil => rfl
    | cons c rest =>
      -- the first character is the one that dropping blanks from the front has stopped at
      obtain ⟨behind, hbehind⟩ : trimmed cs <+: cs.dropWhile isBlank := List.rdropWhile_prefix _ _
      rw [hcs, List.cons_append] at hbehind
      have hne : cs.dropWhile isBlank ≠ [] := hbehind ▸ List.cons_ne_nil _ _
      have hhead := List.head_dropWhile_not isBlank hne
      simp only [← hbehind, List.head_cons] at hhead
      exact List.dropWhile_cons_of_neg (by rw [hhead]; decide)
  rw [trimmed_eq_rdropWhile (trimmed cs), hfront, trimmed_eq_rdropWhile,
    List.rdropWhile_idempotent]

@[inherit_doc trimmed_trimmed]
theorem trim_trim (s : String) : trim (trim s) = trim s := by
  rw [trim, trim, String.toList_ofList, trimmed_trimmed]

end Text

end CatchmentPlanning
