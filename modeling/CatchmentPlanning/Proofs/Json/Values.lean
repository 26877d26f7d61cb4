import CatchmentPlanning.Proofs.Json.Numbers
import CatchmentPlanning.Proofs.Text.Named
import Mathlib.Data.List.Forall2

/-!
# Values that can be written and read again

Attributes keep JSON values in a form of their own: objects are sorted by name, and whole
numbers fit a 64-bit word (`IsStored`). Values in this form stay what they are when they are
put into canonical form again.

What printing a value and reading it again makes of it is told by `reread?`: floats become
what their texts are read as, and nothing else changes. How deep containers are nested in a
value (`depth`) decides whether a reader takes it.
-/

namespace CatchmentPlanning

namespace Json

/-! ## Values within values -/

/-- What holds of every value if it holds of arrays and objects whenever it holds of what is
in them. -/
@[elab_as_elim]
theorem induction {p : Json → Prop} (null : p .null) (bool : ∀ b, p (.bool b))
    (int : ∀ n, p (.int n)) (float : ∀ x, p (.float x)) (str : ∀ s, p (.str s))
    (arr : ∀ items, (∀ v ∈ items, p v) → p (.arr items))
    (obj : ∀ entries, (∀ e ∈ entries, p e.2) → p (.obj entries)) (v : Json) : p v := by
  refine Json.rec (motive_1 := p) (motive_2 := fun items => ∀ v ∈ items, p v)
    (motive_3 := fun entries => ∀ e ∈ entries, p e.2) (motive_4 := fun e => p e.2)
    null bool int float str arr obj ?_ ?_ ?_ ?_ ?_ v
  · exact List.forall_mem_nil _
  · exact fun v items hv hitems => List.forall_mem_cons.mpr ⟨hv, hitems⟩
  · exact List.forall_mem_nil _
  · exact fun e entries he hentries => List.forall_mem_cons.mpr ⟨he, hentries⟩
  · exact fun name v hv => hv

mutual

/-- How deep containers are nested in a value. -/
def depth : Json → Nat
  | arr items => depthItems items + 1
  | obj entries => depthEntries entries + 1
  | _ => 0

/-- `depth` over the items of an array. -/
def depthItems : List Json → Nat
  | [] => 0
  | v :: rest => max (depth v) (depthItems rest)

/-- `depth` over the values of an object. -/
def depthEntries : List (String × Json) → Nat
  | [] => 0
  | (_, v) :: rest => max (depth v) (depthEntries rest)

end

/-! ## Values as they are stored -/

mutual

/-- **The whole numbers in a value fit a word.** -/
def IsWordSized : Json → Prop
  | int n => FitsWord n
  | arr items => AreWordSizedItems items
  | obj entries => AreWordSizedEntries entries
  | _ => True

/-- `IsWordSized` for the items of an array. -/
def AreWordSizedItems : List Json → Prop
  | [] => True
  | v :: rest => IsWordSized v ∧ AreWordSizedItems rest

/-- `IsWordSized` for the values of an object. -/
def AreWordSizedEntries : List (String × Json) → Prop
  | [] => True
  | (_, v) :: rest => IsWordSized v ∧ AreWordSizedEntries rest

end

@[simp] theorem isWordSized_arr_iff {items : List Json} :
    (arr items).IsWordSized ↔ ∀ v ∈ items, v.IsWordSized := by
  rw [IsWordSized]
  induction items with
  | nil => simp [AreWordSizedItems]
  | cons v rest ih => simp [AreWordSizedItems, ih]

@[simp] theorem isWordSized_obj_iff {entries : List (String × Json)} :
    (obj entries).IsWordSized ↔ ∀ e ∈ entries, e.2.IsWordSized := by
  rw [IsWordSized]
  induction entries with
  | nil => simp [AreWordSizedEntries]
  | cons e rest ih => simp [AreWordSizedEntries, ih]

/-- **The canonical form is in canonical form.** -/
theorem canonical_canonical (v : Json) : v.canonical.canonical = v.canonical := by
  induction v using induction with
  | null | bool | int | float | str => rfl
  | arr items ih =>
    simp only [canonical, canonicalItems_eq_map, List.map_map, arr.injEq]
    exact List.map_congr_left ih
  | obj entries ih =>
    simp only [canonical, canonicalEntries_eq_map, obj.injEq]
    -- the values of the sorted entries are in canonical form, so that only sorting is repeated
    have hvalues : (Named.sorted (entries.map fun e => (e.1, e.2.canonical))).map
        (fun e => (e.1, e.2.canonical)) = Named.sorted (entries.map fun e => (e.1, e.2.canonical)) := by
      refine (List.map_congr_left fun e he => ?_).trans (List.map_id _)
      obtain ⟨e', he', rfl⟩ := List.mem_map.mp (Named.mem_of_mem_sorted he)
      rw [ih e' he']
      rfl
    rw [hvalues, Named.sorted_eq_self (Named.isSorted_sorted _)]

/-- An array is in canonical form if its items are. -/
theorem canonical_arr_eq_self_iff {items : List Json} :
    (arr items).canonical = arr items ↔ ∀ v ∈ items, v.canonical = v := by
  rw [canonical, canonicalItems_eq_map, arr.injEq]
  constructor
  · exact fun h => List.map_inj_left.mp (h.trans (List.map_id' items).symm)
  · exact fun h => (List.map_congr_left h).trans (List.map_id' items)

/-- An object is in canonical form if its names are ascending and its values are in
canonical form. -/
theorem canonical_obj_eq_self_iff {entries : List (String × Json)} :
    (obj entries).canonical = obj entries ↔
      Named.IsSorted entries ∧ ∀ e ∈ entries, e.2.canonical = e.2 := by
  rw [canonical, canonicalEntries_eq_map, obj.injEq]
  constructor
  · intro h
    refine ⟨h ▸ Named.isSorted_sorted _, fun e he => ?_⟩
    rw [← h] at he
    obtain ⟨e', -, rfl⟩ := List.mem_map.mp (Named.mem_of_mem_sorted he)
    exact canonical_canonical e'.2
  · rintro ⟨hsorted, h⟩
    have hmap : entries.map (fun e => (e.1, e.2.canonical)) = entries := by
      refine (List.map_congr_left fun e he => ?_).trans (List.map_id _)
      rw [h e he]
      rfl
    rw [hmap, Named.sorted_eq_self hsorted]

theorem isWordSized_canonical {v : Json} (h : v.IsWordSized) : v.canonical.IsWordSized := by
  induction v using induction with
  | null | bool | int | float | str => exact h
  | arr items ih =>
    rw [isWordSized_arr_iff] at h
    rw [canonical, canonicalItems_eq_map, isWordSized_arr_iff]
    exact List.forall_mem_map.mpr fun v hv => ih v hv (h v hv)
  | obj entries ih =>
    rw [isWordSized_obj_iff] at h
    rw [canonical, canonicalEntries_eq_map, isWordSized_obj_iff]
    intro e he
    obtain ⟨e', he', rfl⟩ := List.mem_map.mp (Named.mem_of_mem_sorted he)
    exact ih e' he' (h e' he')

/-- **A value as it is stored**: it is in canonical form, and its whole numbers fit a word. -/
structure IsStored (v : Json) : Prop where
  canonical : v.canonical = v
  wordSized : v.IsWordSized

theorem isStored_canonical {v : Json} (h : v.IsWordSized) : v.canonical.IsStored :=
  ⟨canonical_canonical v, isWordSized_canonical h⟩

theorem isStored_bool (b : Bool) : (bool b).IsStored := ⟨rfl, trivial⟩

theorem isStored_str (s : String) : (str s).IsStored := ⟨rfl, trivial⟩

/-! ## Values that are printed and read again -/

mutual

/-- **What the text of a value is read as.** Floats become what their texts are read as, if
these can be read at all; nothing else changes. -/
def reread? : Json → Option Json
  | float x => rereadFloat? x
  | arr items => (rereadItems? items).map arr
  | obj entries => (rereadEntries? entries).map obj
  | other => some other

/-- `reread?` on the items of an array. -/
def rereadItems? : List Json → Option (List Json)
  | [] => some []
  | v :: rest => do return (← reread? v) :: (← rereadItems? rest)

/-- `reread?` on the values of an object. -/
def rereadEntries? : List (String × Json) → Option (List (String × Json))
  | [] => some []
  | (name, v) :: rest => do return (name, ← reread? v) :: (← rereadEntries? rest)

end

theorem rereadItems?_eq_some_iff {items items' : List Json} :
    rereadItems? items = some items' ↔
      List.Forall₂ (fun v w => reread? v = some w) items items' := by
  induction items generalizing items' with
  | nil => simp [rereadItems?, eq_comm]
  | cons v rest ih =>
    simp only [rereadItems?, bind, Option.bind_eq_some_iff, pure, Option.some.injEq,
      List.forall₂_cons_left_iff, ← ih]
    constructor
    · rintro ⟨w, hw, rest', hrest, rfl⟩
      exact ⟨w, rest', hw, hrest, rfl⟩
    · rintro ⟨w, rest', hw, hrest, rfl⟩
      exact ⟨w, hw, rest', hrest, rfl⟩

theorem rereadEntries?_eq_some_iff {entries entries' : List (String × Json)} :
    rereadEntries? entries = some entries' ↔
      List.Forall₂ (fun e e' => e'.1 = e.1 ∧ reread? e.2 = some e'.2) entries entries' := by
  induction entries generalizing entries' with
  | nil => simp [rereadEntries?, eq_comm]
  | cons e rest ih =>
    simp only [rereadEntries?, bind, Option.bind_eq_some_iff, pure, Option.some.injEq,
      List.forall₂_cons_left_iff, ← ih]
    constructor
    · rintro ⟨w, hw, rest', hrest, rfl⟩
      exact ⟨(e.1, w), rest', ⟨rfl, hw⟩, hrest, rfl⟩
    · rintro ⟨⟨_, w⟩, rest', ⟨rfl, hw⟩, hrest, rfl⟩
      exact ⟨w, hw, rest', hrest, rfl⟩

/-- Every value on the right comes from one on the left. -/
theorem exists_of_forall₂ {α β : Type} {R : α → β → Prop} {as : List α} {bs : List β}
    (h : List.Forall₂ R as bs) : ∀ b ∈ bs, ∃ a ∈ as, R a b := by
  induction h with
  | nil => exact List.forall_mem_nil _
  | cons hab _ ih =>
    refine List.forall_mem_cons.mpr ⟨⟨_, List.mem_cons_self, hab⟩, fun b hb => ?_⟩
    obtain ⟨a, ha, hab⟩ := ih b hb
    exact ⟨a, List.mem_cons_of_mem _ ha, hab⟩

/-- A relation may be replaced by one that follows from it for what is on the left. -/
theorem forall₂_of_mem {α β : Type} {R S : α → β → Prop} {as : List α} {bs : List β}
    (h : List.Forall₂ R as bs) (himp : ∀ a ∈ as, ∀ b, R a b → S a b) : List.Forall₂ S as bs := by
  induction h with
  | nil => exact .nil
  | cons hab _ ih =>
    rw [List.forall_mem_cons] at himp
    exact .cons (himp.1 _ hab) (ih himp.2)

/-- Objects are read with the names that they are written with. -/
theorem names_of_rereadEntries? {entries entries' : List (String × Json)}
    (h : rereadEntries? entries = some entries') : entries'.map (·.1) = entries.map (·.1) := by
  rw [rereadEntries?_eq_some_iff] at h
  induction h with
  | nil => rfl
  | cons hname _ ih => rw [List.map_cons, List.map_cons, ih, hname.1]

/-- **A value in canonical form is read as one.** -/
theorem canonical_of_reread? {v w : Json} (h : v.canonical = v) (hw : v.reread? = some w) :
    w.canonical = w := by
  induction v using induction generalizing w with
  | null | bool | int | str =>
    cases hw
    exact h
  | float x =>
    obtain ⟨n, rfl, -⟩ | ⟨y, rfl⟩ := isNumber_of_number (number_compact_float hw) <;> rfl
  | arr items ih =>
    obtain ⟨items', hitems, rfl⟩ := Option.map_eq_some_iff.mp hw
    rw [canonical_arr_eq_self_iff] at h ⊢
    intro w hw
    obtain ⟨v, hv, hvw⟩ := exists_of_forall₂ (rereadItems?_eq_some_iff.mp hitems) w hw
    exact ih v hv (h v hv) hvw
  | obj entries ih =>
    obtain ⟨entries', hentries, rfl⟩ := Option.map_eq_some_iff.mp hw
    rw [canonical_obj_eq_self_iff] at h ⊢
    refine ⟨?_, fun e' he' => ?_⟩
    · rw [Named.IsSorted, ← List.pairwise_map, names_of_rereadEntries? hentries, List.pairwise_map]
      exact h.1
    · obtain ⟨e, he, -, hee'⟩ := exists_of_forall₂ (rereadEntries?_eq_some_iff.mp hentries) e' he'
      exact ih e he (h.2 e he) hee'

mutual

/-- The floats in a value. -/
def floats : Json → List Float
  | float x => [x]
  | arr items => floatsItems items
  | obj entries => floatsEntries entries
  | _ => []

/-- `floats` over the items of an array. -/
def floatsItems : List Json → List Float
  | [] => []
  | v :: rest => floats v ++ floatsItems rest

/-- `floats` over the values of an object. -/
def floatsEntries : List (String × Json) → List Float
  | [] => []
  | (_, v) :: rest => floats v ++ floatsEntries rest

end

theorem mem_floats_arr {x : Float} {items : List Json} {v : Json} (hv : v ∈ items)
    (hx : x ∈ v.floats) : x ∈ (arr items).floats := by
  rw [floats]
  induction items with
  | nil => cases hv
  | cons u rest ih =>
    rw [floatsItems, List.mem_append]
    obtain rfl | hv := List.mem_cons.mp hv
    · exact .inl hx
    · exact .inr (ih hv)

theorem mem_floats_obj {x : Float} {entries : List (String × Json)} {e : String × Json}
    (he : e ∈ entries) (hx : x ∈ e.2.floats) : x ∈ (obj entries).floats := by
  rw [floats]
  induction entries with
  | nil => cases he
  | cons e' rest ih =>
    rw [floatsEntries, List.mem_append]
    obtain rfl | he := List.mem_cons.mp he
    · exact .inl hx
    · exact .inr (ih he)

/-- **A value is read as itself if each of its floats is**, in particular if there are none. -/
theorem reread?_eq_self {v : Json} (h : ∀ x ∈ v.floats, rereadFloat? x = some (.float x)) :
    v.reread? = some v := by
  induction v using induction with
  | null | bool | int | str => rfl
  | float x => exact h x List.mem_cons_self
  | arr items ih =>
    rw [reread?, rereadItems?_eq_some_iff.mpr (List.forall₂_same.mpr fun v hv =>
      ih v hv fun x hx => h x (mem_floats_arr hv hx))]
    rfl
  | obj entries ih =>
    rw [reread?, rereadEntries?_eq_some_iff.mpr (List.forall₂_same.mpr fun e he =>
      ⟨rfl, ih e he fun x hx => h x (mem_floats_obj he hx)⟩)]
    rfl

end Json

end CatchmentPlanning
