import CatchmentPlanning.Text.Named
import Mathlib.Data.String.Basic

/-!
# Sorted entries

Sorting leaves the names strictly ascending (`isSorted_sorted`), and entries whose names are
strictly ascending are not changed by it (`sorted_eq_self`). Of several entries under one name the
last one is left (`valueOf?_sorted`), since sorting keeps them in order.
-/

namespace CatchmentPlanning

namespace Named

variable {α : Type} {entries : Named α} {name : String}

/-- The names are strictly ascending. -/
def IsSorted (entries : Named α) : Prop := entries.Pairwise (·.1 < ·.1)

theorem lastOfEach_sublist (entries : Named α) : (lastOfEach entries).Sublist entries := by
  fun_induction lastOfEach entries with
  | case1 a b rest h ih => exact ih.cons _
  | case2 a b rest h ih => exact ih.cons_cons _
  | case3 => exact List.Sublist.refl _

theorem mem_of_mem_sorted {e : String × α} (h : e ∈ sorted entries) : e ∈ entries :=
  List.mem_mergeSort.mp ((lastOfEach_sublist _).subset h)

/-- Of entries in the order of their names, the last of each name are strictly ascending. -/
theorem isSorted_lastOfEach (h : entries.Pairwise (·.1 ≤ ·.1)) : IsSorted (lastOfEach entries) := by
  fun_induction lastOfEach entries with
  | case1 a b rest heq ih => exact ih (List.pairwise_cons.mp h).2
  | case2 a b rest hne ih =>
    obtain ⟨ha, hrest⟩ := List.pairwise_cons.mp h
    refine List.pairwise_cons.mpr ⟨fun e he => ?_, ih hrest⟩
    have hlt : a.1 < b.1 := lt_of_le_of_ne (ha b List.mem_cons_self) hne
    obtain rfl | he := List.mem_cons.mp ((lastOfEach_sublist _).subset he)
    · exact hlt
    · exact hlt.trans_le ((List.pairwise_cons.mp hrest).1 e he)
  | case3 entries hne =>
    cases entries with
    | nil => exact List.Pairwise.nil
    | cons a rest =>
      cases rest with
      | nil => exact List.pairwise_singleton ..
      | cons b rest => exact absurd rfl (hne a b rest)

theorem lastOfEach_eq_self (h : IsSorted entries) : lastOfEach entries = entries := by
  fun_induction lastOfEach entries with
  | case1 a b rest heq ih => exact absurd heq ((List.pairwise_cons.mp h).1 b List.mem_cons_self).ne
  | case2 a b rest hne ih => rw [ih (List.pairwise_cons.mp h).2]
  | case3 => rfl

theorem before_trans (a b c : String × α) (hab : before a b = true) (hbc : before b c = true) :
    before a c = true :=
  decide_eq_true (le_trans (of_decide_eq_true hab) (of_decide_eq_true hbc))

theorem before_total (a b : String × α) : (before a b || before b a) = true := by
  simpa [before] using le_total a.1 b.1

theorem IsSorted.nodup_names (h : IsSorted entries) : (entries.map (·.1)).Nodup :=
  List.pairwise_map.mpr (h.imp ne_of_lt)

/-- **Sorting leaves the names strictly ascending.** -/
theorem isSorted_sorted (entries : Named α) : IsSorted (sorted entries) := by
  refine isSorted_lastOfEach ?_
  exact (List.pairwise_mergeSort before_trans before_total entries).imp of_decide_eq_true

/-- **Entries whose names are strictly ascending are sorted.** -/
theorem sorted_eq_self (h : IsSorted entries) : sorted entries = entries := by
  have hmerge : entries.mergeSort before = entries :=
    List.mergeSort_of_pairwise (h.imp fun hlt => decide_eq_true hlt.le)
  rw [sorted, hmerge, lastOfEach_eq_self h]

/-! ## Searching -/

theorem valueOf?_append (name : String) (entries rest : Named α) :
    valueOf? name (entries ++ rest) = (valueOf? name entries).or (valueOf? name rest) := by
  rw [valueOf?, List.find?_append, Option.map_or]
  rfl

/-- Where every name stands once it does not matter from which end it is searched for. -/
theorem valueOf?_reverse (hnodup : (entries.map (·.1)).Nodup) (name : String) :
    valueOf? name entries.reverse = valueOf? name entries := by
  induction entries with
  | nil => rfl
  | cons e rest ih =>
    rw [List.map_cons, List.nodup_cons] at hnodup
    rw [List.reverse_cons, valueOf?_append, ih hnodup.2, valueOf?_cons, valueOf?_cons]
    by_cases he : e.1 = name
    · -- the name does not come up a second time
      rw [valueOf?_eq_none_iff.mpr (he ▸ hnodup.1), Option.none_or, if_pos (beq_iff_eq.mpr he),
        if_pos (beq_iff_eq.mpr he)]
    · rw [if_neg (by simpa using he), if_neg (by simpa using he), valueOf?_nil, Option.or_none]

/-- Of entries in the order of their names the last one of each name is kept. -/
theorem valueOf?_lastOfEach (h : entries.Pairwise (·.1 ≤ ·.1)) (name : String) :
    valueOf? name (lastOfEach entries) = valueOf? name entries.reverse := by
  fun_induction lastOfEach entries with
  | case1 a b rest heq ih =>
    rw [ih (List.pairwise_cons.mp h).2, List.reverse_cons (a := a), valueOf?_append]
    cases hlast : valueOf? name (b :: rest).reverse with
    | some v => rfl
    | none =>
      have hne : ¬(a.1 == name) = true := by
        refine fun ha => valueOf?_eq_none_iff.mp hlast ?_
        rw [List.map_reverse, List.mem_reverse, List.map_cons, ← heq, eq_of_beq ha]
        exact List.mem_cons_self
      rw [valueOf?_cons, if_neg hne]
      rfl
  | case2 a b rest hne ih =>
    obtain ⟨ha, hrest⟩ := List.pairwise_cons.mp h
    rw [valueOf?_cons, ih hrest, List.reverse_cons (a := a), valueOf?_append, valueOf?_cons,
      valueOf?_nil]
    by_cases hname : (a.1 == name) = true
    · -- the names behind are greater
      have hlt : a.1 < b.1 := lt_of_le_of_ne (ha b List.mem_cons_self) hne
      have hnone : valueOf? name (b :: rest).reverse = none := by
        rw [valueOf?_eq_none_iff, List.map_reverse, List.mem_reverse, ← eq_of_beq hname]
        intro hmem
        obtain ⟨e, he, heq⟩ := List.mem_map.mp hmem
        obtain rfl | he := List.mem_cons.mp he
        · exact hlt.ne heq.symm
        · exact (hlt.trans_le ((List.pairwise_cons.mp hrest).1 e he)).ne heq.symm
      rw [if_pos hname, if_pos hname, hnone, Option.none_or]
    · rw [if_neg hname, if_neg hname, Option.or_none]
  | case3 entries hne =>
    cases entries with
    | nil => rfl
    | cons a rest =>
      cases rest with
      | nil => rfl
      | cons b rest => exact absurd rfl (hne a b rest)

/-- Sorting keeps the entries of one name in order. -/
theorem filter_mergeSort (name : String) (entries : Named α) :
    (entries.mergeSort before).filter (·.1 == name) = entries.filter (·.1 == name) := by
  have hsame : (entries.filter (·.1 == name)).Pairwise fun a b => before a b = true := by
    refine List.pairwise_of_forall_mem_list fun a ha b hb => decide_eq_true (le_of_eq ?_)
    exact (eq_of_beq (List.mem_filter.mp ha).2).trans (eq_of_beq (List.mem_filter.mp hb).2).symm
  have hsub := (List.sublist_mergeSort before_trans before_total hsame
    List.filter_sublist).filter (·.1 == name)
  rw [List.filter_filter] at hsub
  simp only [Bool.and_self] at hsub
  refine (hsub.eq_of_length ?_).symm
  exact ((List.mergeSort_perm entries before).filter _).length_eq.symm

/-- **Of several entries of one name the last one counts.** -/
theorem valueOf?_sorted (name : String) (entries : Named α) :
    valueOf? name (sorted entries) = valueOf? name entries.reverse := by
  have hfilter (entries : Named α) :
      valueOf? name entries = ((entries.filter (·.1 == name)).head?).map (·.2) := by
    rw [valueOf?, List.head?_filter]
  have hsorted : (entries.mergeSort before).Pairwise (·.1 ≤ ·.1) :=
    (List.pairwise_mergeSort before_trans before_total entries).imp of_decide_eq_true
  rw [sorted, valueOf?_lastOfEach hsorted, hfilter, hfilter, List.filter_reverse,
    List.filter_reverse, filter_mergeSort]

end Named

end CatchmentPlanning
