/-!
# Lists of values that are known by a key

A roster holds entries under labels, and the history holds jobs under
identifiers. Both are lists that are searched for the first value with a key; if
no key occurs twice, that value is the only one.
-/

namespace CatchmentPlanning

namespace Keyed

variable {α κ : Type} [DecidableEq κ] {key : α → κ} {l : List α}

/-- **What is found under a key** is the one value with the key. -/
theorem find?_eq_some_iff (hnodup : (l.map key).Nodup) {k : κ} {a : α} :
    l.find? (fun b => key b = k) = some a ↔ a ∈ l ∧ key a = k := by
  constructor
  · intro h
    have hkey := List.find?_some h
    exact ⟨List.mem_of_find?_eq_some h, by simpa using hkey⟩
  · rintro ⟨ha, rfl⟩
    induction l with
    | nil => cases ha
    | cons b l ih =>
      rw [List.map_cons, List.nodup_cons] at hnodup
      obtain rfl | ha := List.mem_cons.mp ha
      · rw [List.find?_cons, decide_eq_true rfl]
      · -- the value in front has another key
        have hne : key b ≠ key a := fun heq => hnodup.1 (heq ▸ List.mem_map_of_mem ha)
        rw [List.find?_cons, decide_eq_false hne]
        exact ih hnodup.2 ha

/-- Changing the first value with a key changes what is found under the key. -/
theorem find?_modify_findIdx? {k : κ} {a : α} {f : α → α} (hf : ∀ a, key (f a) = key a)
    (h : l.find? (fun b => key b = k) = some a) :
    (match l.findIdx? fun a => key a = k with
      | some i => l.modify i f
      | none => l).find? (fun b => key b = k) = some (f a) := by
  induction l with
  | nil => cases h
  | cons b l ih =>
    rw [List.find?_cons] at h
    rw [List.findIdx?_cons]
    by_cases hb : key b = k
    · rw [decide_eq_true hb] at h ⊢
      cases h
      rw [if_pos rfl]
      show (f a :: l).find? _ = _
      rw [List.find?_cons, hf, decide_eq_true hb]
    · rw [decide_eq_false hb] at h ⊢
      rw [if_neg Bool.false_ne_true]
      have ih := ih h
      revert ih
      cases l.findIdx? fun a => key a = k with
      | none =>
        intro ih
        rw [← ih]
        exact List.find?_cons_of_neg (by simpa using hb)
      | some i =>
        intro ih
        rw [← ih]
        exact List.find?_cons_of_neg (by simpa using hb)

/-- What has another key is left alone where no value has the key. -/
theorem map_ite_of_notMem {k : κ} (h : k ∉ l.map key) (f : α → α) :
    (l.map fun a => if key a = k then f a else a) = l := by
  rw [List.map_congr_left fun a ha =>
    if_neg fun heq : key a = k => h (heq ▸ List.mem_map_of_mem ha)]
  exact List.map_id' l

/-- Changing the first value with a key changes every value with the key. -/
theorem modify_findIdx?_eq_map (hnodup : (l.map key).Nodup) (k : κ) (f : α → α) :
    (match l.findIdx? fun a => key a = k with
      | some i => l.modify i f
      | none => l) = l.map fun a => if key a = k then f a else a := by
  induction l with
  | nil => rfl
  | cons b l ih =>
    rw [List.map_cons, List.nodup_cons] at hnodup
    rw [List.findIdx?_cons, List.map_cons]
    by_cases hb : key b = k
    · rw [decide_eq_true hb, if_pos rfl, if_pos hb, map_ite_of_notMem (hb ▸ hnodup.1)]
      rfl
    · rw [decide_eq_false hb, if_neg Bool.false_ne_true, if_neg hb, ← ih hnodup.2]
      cases l.findIdx? fun a => key a = k with
      | none => rfl
      | some i => rfl

/-- Taking the first value with a key out takes every value with the key out. -/
theorem eraseP_eq_filter (hnodup : (l.map key).Nodup) (k : κ) :
    (l.eraseP fun a => key a = k) = l.filter fun a => key a ≠ k := by
  induction l with
  | nil => rfl
  | cons b l ih =>
    rw [List.map_cons, List.nodup_cons] at hnodup
    by_cases hb : key b = k
    · rw [List.eraseP_cons, decide_eq_true hb, cond_true,
        List.filter_cons_of_neg (by simp [hb]), List.filter_eq_self.mpr]
      intro a ha
      have hne : key a ≠ k := fun heq => hnodup.1 (hb ▸ heq ▸ List.mem_map_of_mem ha)
      exact decide_eq_true hne
    · rw [List.eraseP_cons, decide_eq_false hb, cond_false,
        List.filter_cons_of_pos (by simp [hb]), ih hnodup.2]

end Keyed

end CatchmentPlanning
