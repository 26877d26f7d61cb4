import CatchmentPlanning.Proofs.Attributes
import CatchmentPlanning.Proofs.Json.RoundTrip

/-!
# Attributes that are saved and posted again

Attributes are shown as a list of pairs, and a list of pairs can be posted. What comes of
posting the text of a list that has been shown are the same attributes, but for the floats in
them (`read_compact_toJson`). This takes values as they are stored, and all that reading
leaves are such values (`isStored_of_read`).
-/

namespace CatchmentPlanning

namespace Attributes

variable {a b : Attributes} {name : String} {v : Json}

/-! ## Stored values -/

/-- **Every value is stored** in canonical form, with whole numbers that fit a word. -/
def IsStored (a : Attributes) : Prop := ∀ e ∈ a.entries, e.2.IsStored

theorem isStored_empty : empty.IsStored := List.forall_mem_nil _

theorem mem_of_mem_setEntry {entries : Named Json} {e : String × Json}
    (h : e ∈ setEntry name v entries) : e = (name, v) ∨ e ∈ entries := by
  induction entries with
  | nil => exact .inl (List.mem_singleton.mp h)
  | cons e' rest ih =>
    rw [setEntry] at h
    split at h
    · exact (List.mem_cons.mp h).imp_right (List.mem_cons_of_mem _)
    · obtain rfl | h := List.mem_cons.mp h
      · exact .inr List.mem_cons_self
      · exact (ih h).imp_right (List.mem_cons_of_mem _)

theorem IsStored.set (h : a.IsStored) (hv : v.IsStored) (name : String) :
    (a.set name v).IsStored := by
  intro e he
  obtain rfl | he := mem_of_mem_setEntry he
  · exact hv
  · exact h e he

theorem IsStored.remove (h : a.IsStored) (name : String) : (a.remove name).IsStored :=
  fun e he => h e (List.mem_of_mem_eraseP he)

theorem IsStored.setAll (h : a.IsStored) {entries : Named Json}
    (hentries : ∀ e ∈ entries, e.2.IsStored) : (a.setAll entries).IsStored := by
  induction entries generalizing a with
  | nil => exact h
  | cons e rest ih =>
    rw [List.forall_mem_cons] at hentries
    exact ih (h.set hentries.1 e.1) hentries.2

/-! ## Reading -/

theorem isStored_of_pair? {u : Json} {e : String × Json} (hu : u.IsWordSized)
    (h : pair? u = some e) : e.2.IsStored := by
  unfold pair? at h
  split at h
  · split at h
    · rename_i entries _ _ _ _ v _ hvalue
      cases h
      rw [Json.isWordSized_obj_iff] at hu
      have hmem := List.mem_filter.mp (hvalue.symm ▸ List.mem_cons_self)
      exact Json.isStored_canonical (hu _ hmem.1)
    · cases h
  · cases h
    rw [Json.isWordSized_arr_iff] at hu
    exact Json.isStored_canonical (hu _ (List.mem_cons_of_mem _ List.mem_cons_self))
  · cases h

theorem isStored_of_mapM_pair? {items : List Json} {entries : Named Json}
    (hitems : ∀ u ∈ items, u.IsWordSized) (h : items.mapM pair? = some entries) :
    ∀ e ∈ entries, e.2.IsStored := by
  induction items generalizing entries with
  | nil =>
    cases h
    exact List.forall_mem_nil _
  | cons u rest ih =>
    rw [List.forall_mem_cons] at hitems
    rw [List.mapM_cons] at h
    obtain ⟨e, he, h⟩ := Option.bind_eq_some_iff.mp h
    obtain ⟨entries, hentries, h⟩ := Option.bind_eq_some_iff.mp h
    cases h
    exact List.forall_mem_cons.mpr ⟨isStored_of_pair? hitems.1 he, ih hitems.2 hentries⟩

/-- **What is read is stored.** -/
theorem isStored_of_read {text : String} (h : read text = .ok a) : a.IsStored := by
  unfold read at h
  split at h
  · cases h
  rename_i u hu
  have hwords := Json.isWordSized_of_read hu
  split at h
  · rename_i a' ha
    cases h
    unfold ofJson? at ha
    split at ha
    · rename_i items
      obtain ⟨entries, hentries, rfl⟩ := Option.map_eq_some_iff.mp ha
      rw [Json.isWordSized_arr_iff] at hwords
      exact isStored_empty.setAll (isStored_of_mapM_pair? hwords hentries)
    · rename_i entries
      cases ha
      rw [Json.isWordSized_obj_iff] at hwords
      refine isStored_empty.setAll fun e he => ?_
      rw [Json.canonicalEntries_eq_map] at he
      obtain ⟨e', he', rfl⟩ := List.mem_map.mp (Named.mem_of_mem_sorted he)
      exact Json.isStored_canonical (hwords e' he')
    · cases ha
  · cases h

/-! ## Writing and reading -/

/-- A name that does not occur in front is set behind. -/
theorem setEntry_append {entries : Named Json} (h : name ∉ entries.map (·.1)) (rest : Named Json) :
    setEntry name v (entries ++ rest) = entries ++ setEntry name v rest := by
  induction entries with
  | nil => rfl
  | cons e entries ih =>
    rw [List.map_cons, List.mem_cons, not_or] at h
    rw [List.cons_append, setEntry, if_neg (Ne.symm h.1), ih h.2, List.cons_append]

theorem entries_set_of_notMem (h : name ∉ a.names) (v : Json) :
    (a.set name v).entries = a.entries ++ [(name, v)] := by
  have happend := setEntry_append (v := v) h []
  rwa [List.append_nil] at happend

/-- New names are put at the end, in order. -/
theorem entries_setAll {entries : Named Json} (h : (a.names ++ entries.map (·.1)).Nodup) :
    (a.setAll entries).entries = a.entries ++ entries := by
  induction entries generalizing a with
  | nil => exact (List.append_nil _).symm
  | cons e rest ih =>
    have hset : (a.set e.1 e.2).entries = a.entries ++ [e] := by
      refine entries_set_of_notMem (fun hmem => ?_) e.2
      exact (List.nodup_append.mp h).2.2 _ hmem _ List.mem_cons_self rfl
    have hnames : (a.set e.1 e.2).names = a.names ++ [e.1] := by
      rw [names, hset, List.map_append]
      rfl
    have hrest : ((a.set e.1 e.2).names ++ rest.map (·.1)).Nodup := by
      rwa [hnames, List.append_assoc]
    show ((a.set e.1 e.2).setAll rest).entries = _
    rw [ih hrest, hset, List.append_assoc]
    rfl

/-- Setting attributes from nothing leaves these attributes. -/
theorem setAll_entries (a : Attributes) : empty.setAll a.entries = a :=
  ext_iff.mpr (entries_setAll a.nodup_names)

/-- An attribute as it is shown. -/
def pairJson (e : String × Json) : Json := .obj [("Name", .str e.1), ("Value", e.2)]

theorem toJson_eq (a : Attributes) : a.toJson = .arr (a.entries.map pairJson) := rfl

theorem pair?_pairJson (e : String × Json) : pair? (pairJson e) = some (e.1, e.2.canonical) := by
  simp [pair?, pairJson]

theorem mapM_pair?_map_pairJson {entries : Named Json}
    (h : ∀ e ∈ entries, e.2.canonical = e.2) :
    (entries.map pairJson).mapM pair? = some entries := by
  induction entries with
  | nil => rfl
  | cons e rest ih =>
    rw [List.forall_mem_cons] at h
    rw [List.map_cons, List.mapM_cons, pair?_pairJson, ih h.2, h.1]
    rfl

/-- **A list of attributes in canonical form is read as these attributes.** -/
theorem ofJson?_toJson (h : ∀ e ∈ a.entries, e.2.canonical = e.2) :
    ofJson? a.toJson = some a := by
  show ((a.entries.map pairJson).mapM pair?).map empty.setAll = some a
  rw [mapM_pair?_map_pairJson h, Option.map_some, setAll_entries]

theorem rereadItems?_map_pairJson (entries : Named Json) :
    Json.rereadItems? (entries.map pairJson)
      = (Json.rereadEntries? entries).map fun entries => entries.map pairJson := by
  induction entries with
  | nil => rfl
  | cons e rest ih =>
    have hpair : (pairJson e).reread? = e.2.reread?.map fun w => pairJson (e.1, w) := by
      rw [pairJson, Json.reread?, Json.rereadEntries?, Json.rereadEntries?, Json.rereadEntries?]
      cases e.2.reread? <;> rfl
    rw [List.map_cons, Json.rereadItems?, hpair, ih, Json.rereadEntries?]
    cases e.2.reread? <;> cases Json.rereadEntries? rest <;> rfl

/-- **The text of a list of attributes is read as a list of attributes** with the same names
and with the values that the texts of the values are read as. -/
theorem reread?_toJson_eq_some_iff {w : Json} :
    a.toJson.reread? = some w ↔
      ∃ b : Attributes, Json.rereadEntries? a.entries = some b.entries ∧ w = b.toJson := by
  rw [toJson_eq, Json.reread?, rereadItems?_map_pairJson, Option.map_map, Option.map_eq_some_iff]
  constructor
  · rintro ⟨entries, hentries, rfl⟩
    exact ⟨⟨entries, Json.names_of_rereadEntries? hentries ▸ a.nodup_names⟩, hentries, rfl⟩
  · rintro ⟨b, hentries, rfl⟩
    exact ⟨b.entries, hentries, rfl⟩

/-- Attributes are told from how they are shown. -/
theorem toJson_injective (h : a.toJson = b.toJson) : a = b := by
  have hpair : Function.Injective pairJson := by
    rintro ⟨name, v⟩ ⟨name', v'⟩ heq
    simpa [pairJson] using heq
  rw [toJson_eq, toJson_eq, Json.arr.injEq] at h
  exact ext_iff.mpr (hpair.list_map h)

theorem forall₂_of_reread? (h : a.toJson.reread? = some b.toJson) :
    List.Forall₂ (fun e e' => e'.1 = e.1 ∧ e.2.reread? = some e'.2) a.entries b.entries := by
  obtain ⟨b', hentries, heq⟩ := reread?_toJson_eq_some_iff.mp h
  obtain rfl := toJson_injective heq
  exact Json.rereadEntries?_eq_some_iff.mp hentries

/-- What a value is read as stands under its name. -/
theorem get?_of_reread? (h : a.toJson.reread? = some b.toJson) (hv : a.get? name = some v) :
    ∃ w, v.reread? = some w ∧ b.get? name = some w := by
  rw [get?_eq_some_iff] at hv
  obtain ⟨⟨_, w⟩, he, rfl, hw⟩ := Json.exists_of_forall₂ (forall₂_of_reread? h).flip _ hv
  exact ⟨w, hw, get?_eq_some_iff.mpr he⟩

theorem isWordSized_toJson (h : a.IsStored) : a.toJson.IsWordSized := by
  rw [toJson_eq, Json.isWordSized_arr_iff]
  refine List.forall_mem_map.mpr fun e he => ?_
  rw [pairJson, Json.isWordSized_obj_iff]
  simp [Json.IsWordSized, (h e he).wordSized]

/-- A list of simple values nests no deeper than its pairs. -/
theorem depth_toJson_le (h : ∀ e ∈ a.entries, e.2.depth = 0) : a.toJson.depth ≤ 2 := by
  rw [toJson_eq, Json.depth]
  revert h
  induction a.entries with
  | nil => exact fun _ => Nat.le_add_left ..
  | cons e rest ih =>
    intro h
    obtain ⟨he, hrest⟩ := List.forall_mem_cons.mp h
    have hpair : (pairJson e).depth = 1 := by
      simp [pairJson, Json.depth, Json.depthEntries, he]
    rw [List.map_cons, Json.depthItems, hpair]
    have := ih hrest
    omega

/-- **The text of attributes that are stored is read as attributes**, the same ones but for
their floats, unless containers are nested too deeply in them. -/
theorem read_compact_toJson (h : a.IsStored) (hb : a.toJson.reread? = some b.toJson) :
    read a.toJson.compact
      = if a.toJson.depth ≤ nestingLimit then .ok b else .error (.json .tooDeep) := by
  have hcanonical : ∀ e ∈ b.entries, e.2.canonical = e.2 := by
    intro e' he'
    obtain ⟨e, he, -, hw⟩ := Json.exists_of_forall₂ (forall₂_of_reread? hb) e' he'
    exact Json.canonical_of_reread? (h e he).canonical hw
  rw [read, Json.read_compact (isWordSized_toJson h) hb]
  by_cases hdepth : a.toJson.depth ≤ nestingLimit
  · simp only [if_pos hdepth, ofJson?_toJson hcanonical]
  · simp only [if_neg hdepth]

end Attributes

end CatchmentPlanning
