import CatchmentPlanning.Proofs.Attributes.Stored
import Mathlib.Data.List.Nodup

/-!
# Attributes in the order of insertion

Attributes come about by operations: names are set and removed, and all attributes are replaced by
those of a text that has been sent. An operation amounts to edits (`Operation.toEdits`), a text to
as many as it has entries, and everything about attributes can be told from the edits alone. What
is found under a name is what it was last set to, unless it was dropped since (`get?_ofEdits`).
One name stands in front of another if it has stood since a time when the other one did not
(`sublist_names_ofEdits_iff`). Both are carried from edit to edit, so the inductions take the
latest edit off.

A text is a list or an object. Entries of an object are sorted before they are set, so that the
same entries come in another order than in a list, but the same values are found under the names
(`get?_setAll_sorted`).
-/

namespace CatchmentPlanning

namespace Attributes

variable {a : Attributes} {name x y : String} {v : Json}

/-! ## Edits -/

/-- A change of one attribute, or the loss of all. -/
inductive Edit where
  | clear
  | set (name : String) (v : Json)
  | remove (name : String)

namespace Edit

/-- Attributes after an edit. -/
def apply (a : Attributes) : Edit → Attributes
  | clear => empty
  | set name v => a.set name v
  | remove name => a.remove name

/-- Whether an edit has to do with a name. -/
def Concerns (name : String) : Edit → Prop
  | clear => True
  | set key _ => key = name
  | remove key => key = name

end Edit

/-- Attributes that have come about by edits. -/
def ofEdits (edits : List Edit) : Attributes := edits.foldl Edit.apply empty

/-- **A name was set to a value**, and no edit has had to do with the name since. -/
def LastSet (edits : List Edit) (name : String) (v : Json) : Prop :=
  ∃ early late, edits = early ++ .set name v :: late ∧ ∀ edit ∈ late, ¬edit.Concerns name

/-- A name was set and has not been dropped since. -/
def Stands (edits : List Edit) (name : String) : Prop := ∃ v, LastSet edits name v

/-- **A name has stood since a time when another one did not.** -/
def Precedes (edits : List Edit) (x y : String) : Prop :=
  ∃ early late, edits = early ++ late ∧ ¬Stands early y
    ∧ ∀ meanwhile, meanwhile <+: late → Stands (early ++ meanwhile) x

variable {edits : List Edit} {edit : Edit}

theorem ofEdits_snoc (edits : List Edit) (edit : Edit) :
    ofEdits (edits ++ [edit]) = edit.apply (ofEdits edits) :=
  List.foldl_concat ..

theorem not_lastSet_nil : ¬LastSet [] name v := by
  rintro ⟨early, late, hnil, -⟩
  cases early <;> cases hnil

theorem lastSet_snoc :
    LastSet (edits ++ [edit]) name v
      ↔ edit = .set name v ∨ ¬edit.Concerns name ∧ LastSet edits name v := by
  constructor
  · rintro ⟨early, late, heq, hlate⟩
    induction late using List.reverseRecOn with
    | nil => exact .inl (List.singleton_inj.mp (List.append_inj' heq rfl).2)
    | append_singleton late edit' =>
      rw [← List.cons_append, ← List.append_assoc] at heq
      obtain ⟨rfl, hlast⟩ := List.append_inj' heq rfl
      obtain rfl := List.singleton_inj.mp hlast
      rw [List.forall_mem_append, List.forall_mem_singleton] at hlate
      exact .inr ⟨hlate.2, early, late, rfl, hlate.1⟩
  · rintro (rfl | ⟨hedit, early, late, rfl, hlate⟩)
    · exact ⟨edits, [], rfl, List.forall_mem_nil _⟩
    · refine ⟨early, late ++ [edit], by simp, ?_⟩
      exact List.forall_mem_append.mpr ⟨hlate, List.forall_mem_singleton.mpr hedit⟩

/-- **What is found under a name is what it was last set to**, unless it was dropped since. -/
theorem get?_ofEdits : (ofEdits edits).get? name = some v ↔ LastSet edits name v := by
  induction edits using List.reverseRecOn with
  | nil => exact iff_of_false nofun not_lastSet_nil
  | append_singleton edits edit ih =>
    rw [ofEdits_snoc, lastSet_snoc, ← ih]
    cases edit with
    | clear => simp [Edit.apply, Edit.Concerns]
    | set key w =>
      rw [Edit.apply, get?_set]
      by_cases hkey : key = name <;> simp [Edit.Concerns, hkey]
    | remove key =>
      rw [Edit.apply, get?_remove]
      by_cases hkey : key = name <;> simp [Edit.Concerns, hkey]

theorem mem_names_ofEdits : name ∈ (ofEdits edits).names ↔ Stands edits name := by
  rw [← not_iff_not, ← get?_eq_none_iff, Option.eq_none_iff_forall_ne_some, Stands, not_exists]
  exact forall_congr' fun v => not_congr get?_ofEdits

/-! ## The order of the names -/

/-- What an edit leaves of the names stays in order, or there is a new name and it comes last. -/
theorem Edit.names_apply (edit : Edit) (a : Attributes) :
    (edit.apply a).names.Sublist a.names
      ∨ ∃ name, name ∉ a.names ∧ (edit.apply a).names = a.names ++ [name] := by
  cases edit with
  | clear => exact .inl (List.nil_sublist _)
  | set name v =>
    have hnames : (a.set name v).names = if name ∈ a.names then a.names else a.names ++ [name] :=
      names_setEntry ..
    by_cases hname : name ∈ a.names
    · rw [if_pos hname] at hnames
      exact .inl (hnames ▸ List.Sublist.refl _)
    · rw [if_neg hname] at hnames
      exact .inr ⟨name, hname, hnames⟩
  | remove name => exact .inl (List.eraseP_sublist.map _)

theorem Precedes.stands (h : Precedes edits x y) : Stands edits x := by
  obtain ⟨early, late, rfl, -, hstands⟩ := h
  exact hstands late (List.prefix_refl _)

/-- A name keeps its place as long as it stands. -/
theorem Precedes.snoc (h : Precedes edits x y) (hx : Stands (edits ++ [edit]) x) :
    Precedes (edits ++ [edit]) x y := by
  obtain ⟨early, late, rfl, hy, hstands⟩ := h
  refine ⟨early, late ++ [edit], List.append_assoc .., hy, fun meanwhile hprefix => ?_⟩
  obtain rfl | hprefix := List.prefix_concat_iff.mp hprefix
  · rwa [← List.append_assoc]
  · exact hstands meanwhile hprefix

/-- A name that is new comes after those that stand. -/
theorem precedes_of_new (hx : Stands edits x) (hx' : Stands (edits ++ [edit]) x)
    (hy : ¬Stands edits y) : Precedes (edits ++ [edit]) x y := by
  refine ⟨edits, [edit], rfl, hy, fun meanwhile hprefix => ?_⟩
  obtain rfl | hprefix := List.prefix_concat_iff.mp (show meanwhile <+: [] ++ [edit] from hprefix)
  · exact hx'
  · rwa [List.prefix_nil.mp hprefix, List.append_nil]

/-- **Names stand in the order in which they came up.** -/
theorem pairwise_names_ofEdits (edits : List Edit) :
    (ofEdits edits).names.Pairwise (Precedes edits) := by
  induction edits using List.reverseRecOn with
  | nil => exact List.Pairwise.nil
  | append_singleton edits edit ih =>
    have hstands {x : String} (hx : x ∈ (edit.apply (ofEdits edits)).names) :
        Stands (edits ++ [edit]) x := mem_names_ofEdits.mp (ofEdits_snoc .. ▸ hx)
    rw [ofEdits_snoc]
    -- what stands behind the edit stood before it and so keeps its place, but for a new name
    obtain hsub | ⟨name, hname, hnames⟩ := edit.names_apply (ofEdits edits)
    · exact (ih.sublist hsub).imp_of_mem fun hx _ hxy => hxy.snoc (hstands hx)
    · rw [hnames] at hstands ⊢
      refine List.pairwise_append.mpr ⟨?_, List.pairwise_singleton .., fun x hx y hy => ?_⟩
      · exact ih.imp_of_mem fun hx _ hxy => hxy.snoc (hstands (List.mem_append_left _ hx))
      · obtain rfl := List.mem_singleton.mp hy
        exact precedes_of_new (mem_names_ofEdits.mp hx) (hstands (List.mem_append_left _ hx))
          (mt mem_names_ofEdits.mpr hname)

/-- Of two names only one precedes the other. -/
theorem Precedes.asymm (hxy : Precedes edits x y) : ¬Precedes edits y x := by
  rintro ⟨early', late', heq', hx, hystands⟩
  obtain ⟨early, late, heq, hy, hxstands⟩ := hxy
  -- the later of the two times is one at which both names stand
  obtain ⟨between, rfl, rfl⟩ | ⟨between, rfl, rfl⟩ :=
    List.append_eq_append_iff.mp (heq.symm.trans heq')
  · exact hx (hxstands between (List.prefix_append ..))
  · exact hy (hystands between (List.prefix_append ..))

/-- Of two names in a list one stands in front of the other. -/
theorem sublist_or_sublist {names : List String} (hx : x ∈ names) (hy : y ∈ names) (hne : x ≠ y) :
    [x, y].Sublist names ∨ [y, x].Sublist names := by
  obtain ⟨front, behind, rfl⟩ := List.append_of_mem hx
  obtain hy | hy := List.mem_append.mp hy
  · have hx : [x].Sublist (x :: behind) := List.singleton_sublist.mpr List.mem_cons_self
    exact .inr ((List.singleton_sublist.mpr hy).append hx)
  · have hy : y ∈ behind := (List.mem_cons.mp hy).resolve_left hne.symm
    exact .inl (((List.singleton_sublist.mpr hy).cons_cons x).trans (List.sublist_append_right ..))

/-- **One name stands in front of another exactly if it precedes it.** -/
theorem sublist_names_ofEdits_iff :
    [x, y].Sublist (ofEdits edits).names ↔ Stands edits y ∧ Precedes edits x y := by
  have hpairwise := pairwise_names_ofEdits edits
  constructor
  · intro hsub
    have hy : y ∈ (ofEdits edits).names := hsub.subset (List.mem_cons_of_mem _ List.mem_cons_self)
    exact ⟨mem_names_ofEdits.mp hy, List.pairwise_iff_forall_sublist.mp hpairwise hsub⟩
  · rintro ⟨hy, hxy⟩
    have hx : Stands edits x := hxy.stands
    have hne : x ≠ y := fun heq => hxy.asymm (heq ▸ hxy)
    obtain hsub | hsub :=
      sublist_or_sublist (mem_names_ofEdits.mpr hx) (mem_names_ofEdits.mpr hy) hne
    · exact hsub
    · exact absurd (List.pairwise_iff_forall_sublist.mp hpairwise hsub) hxy.asymm

/-! ## Texts -/

/-- A text is a list in which some entries are written in order. -/
def IsListOf (entries : Named Json) (text : String) : Prop :=
  ∃ items, Json.read nestingLimit text = .ok (.arr items) ∧ items.mapM pair? = some entries

/-- A text is an object in which some entries are written in order. -/
def IsObjectOf (entries : Named Json) (text : String) : Prop :=
  ∃ members, Json.read nestingLimit text = .ok (.obj members)
    ∧ Json.canonicalEntries members = entries

/-- The entries of a text in the order in which they are set. -/
def entries? (text : String) : Option (Named Json) :=
  match Json.read nestingLimit text with
  | .ok (.arr items) => items.mapM pair?
  | .ok (.obj members) => some (Named.sorted (Json.canonicalEntries members))
  | _ => none

variable {text : String} {entries : Named Json}

theorem read_of_isListOf (h : IsListOf entries text) : read text = .ok (empty.setAll entries) := by
  obtain ⟨items, hitems, hentries⟩ := h
  simp [read, hitems, ofJson?, hentries]

theorem read_of_isObjectOf (h : IsObjectOf entries text) :
    read text = .ok (empty.setAll (Named.sorted entries)) := by
  obtain ⟨members, hmembers, rfl⟩ := h
  simp [read, hmembers, ofJson?]

/-- A text is read by setting its entries one after another. -/
theorem toOption_read (text : String) :
    (read text).toOption = (entries? text).map empty.setAll := by
  unfold read entries?
  cases Json.read nestingLimit text with
  | error fault => rfl
  | ok u =>
    cases u with
    | arr items => cases hentries : items.mapM pair? <;> simp [ofJson?, hentries, Except.toOption]
    | obj | null | bool | int | float | str => rfl

/-- The last value under a name counts among entries that are set one after another. -/
theorem get?_setAll_empty (entries : Named Json) (name : String) :
    (empty.setAll entries).get? name = Named.valueOf? name entries.reverse := by
  rw [get?_setAll_entries, get?_empty, Option.or_none]

/-- The same values are found under the names if the entries are sorted first. -/
theorem get?_setAll_sorted (entries : Named Json) (name : String) :
    (empty.setAll (Named.sorted entries)).get? name = Named.valueOf? name entries.reverse := by
  rw [get?_setAll_empty, Named.valueOf?_reverse (Named.isSorted_sorted _).nodup_names,
    Named.valueOf?_sorted]

/-! ## Operations -/

/-- What is done to attributes. -/
inductive Operation where
  /-- A name is set to a value of the kind that is stored. -/
  | set (name : String) (v : Json) (stored : v.IsStored)
  | remove (name : String)
  /-- All attributes give way to those of a text, unless it holds none. -/
  | replace (text : String)

namespace Operation

/-- Attributes after an operation. -/
def apply (a : Attributes) : Operation → Attributes
  | set name v _ => a.set name v
  | remove name => a.remove name
  | replace text => (read text).toOption.getD a

/-- The edits that an operation amounts to. -/
def toEdits : Operation → List Edit
  | set name v _ => [.set name v]
  | remove name => [.remove name]
  | replace text =>
    match entries? text with
    | some entries => .clear :: entries.map fun e => .set e.1 e.2
    | none => []

theorem foldl_toEdits (op : Operation) (a : Attributes) :
    op.toEdits.foldl Edit.apply a = op.apply a := by
  cases op with
  | set | remove => rfl
  | replace text =>
    rw [toEdits, apply, toOption_read]
    cases entries? text with
    | none => rfl
    | some entries => exact List.foldl_map ..

end Operation

/-- Attributes that have come about by operations. -/
def after (ops : List Operation) : Attributes := ops.foldl Operation.apply empty

/-- The edits that operations amount to. -/
def editsOf (ops : List Operation) : List Edit := ops.flatMap Operation.toEdits

theorem after_snoc (ops : List Operation) (op : Operation) :
    after (ops ++ [op]) = op.apply (after ops) :=
  List.foldl_concat ..

theorem after_eq_ofEdits (ops : List Operation) : after ops = ofEdits (editsOf ops) := by
  induction ops using List.reverseRecOn with
  | nil => rfl
  | append_singleton ops op ih =>
    have hsnoc : editsOf (ops ++ [op]) = editsOf ops ++ op.toEdits := by simp [editsOf]
    rw [after_snoc, ih, hsnoc, ofEdits, ofEdits, List.foldl_append, op.foldl_toEdits]

theorem isStored_after (ops : List Operation) : (after ops).IsStored := by
  induction ops using List.reverseRecOn with
  | nil => exact isStored_empty
  | append_singleton ops op ih =>
    rw [after_snoc]
    cases op with
    | set name v hv => exact ih.set hv name
    | remove name => exact ih.remove name
    | replace text =>
      rw [Operation.apply]
      cases hread : read text with
      | ok b => exact isStored_of_read hread
      | error fault => exact ih

/-! ## Attributes are an insertion-ordered map -/

/-- **What attributes are**, told from the edits they have come about by. -/
structure IsInsertionOrdered (edits : List Edit) (a : Attributes) : Prop where
  nodup_names : a.names.Nodup
  /-- What is found under a name is what it was last set to. -/
  get?_eq_some_iff : ∀ name v, a.get? name = some v ↔ LastSet edits name v
  /-- A name stands in front of another one that came up while it stood. -/
  order : ∀ x y, [x, y].Sublist a.names ↔ Stands edits y ∧ Precedes edits x y
  /-- A name that is there is overwritten in its place. -/
  overwrite : ∀ name v old before behind, a.entries = before ++ (name, old) :: behind →
    (a.set name v).entries = before ++ (name, v) :: behind
  /-- A new name comes last. -/
  append : ∀ name v, name ∉ a.names → (a.set name v).entries = a.entries ++ [(name, v)]
  /-- Removing a name leaves the others in order and nothing under the name. -/
  remove : ∀ name, (a.remove name).entries = a.entries.filter (·.1 ≠ name)
    ∧ (a.remove name).get? name = none

theorem entries_set_of_entries_eq {old : Json} {before behind : Named Json}
    (h : a.entries = before ++ (name, old) :: behind) (v : Json) :
    (a.set name v).entries = before ++ (name, v) :: behind := by
  have hnodup := a.nodup_names
  rw [h, List.map_append, List.map_cons] at hnodup
  -- the name does not come up in front
  have hbefore : name ∉ before.map (·.1) :=
    fun hmem => (List.nodup_append'.mp hnodup).2.2 hmem List.mem_cons_self
  show setEntry name v a.entries = _
  rw [h, setEntry_append hbefore, setEntry, if_pos rfl]

theorem isInsertionOrdered_ofEdits (edits : List Edit) :
    IsInsertionOrdered edits (ofEdits edits) where
  nodup_names := (ofEdits edits).nodup_names
  get?_eq_some_iff _ _ := get?_ofEdits
  order _ _ := sublist_names_ofEdits_iff
  overwrite _ v _ _ _ h := entries_set_of_entries_eq h v
  append _ v h := entries_set_of_notMem h v
  remove name := ⟨entries_remove _ name, by rw [get?_remove, if_pos rfl]⟩

/-- **Attributes are an insertion-ordered map.** Whatever is set, removed and replaced by what is
read from a text, no name stands twice, under a name is found what it was last set to since it was
last dropped, and the names stand in the order in which they came up. What is done next overwrites
a name in its place, puts a new one last, or takes one out and leaves the others in order. The
list that attributes are shown as holds these very attributes, in their order; what becomes of it
when it is written as a text is told by `read_compact_toJson`.

Of a list and an object in which the same entries are written in the same order, attributes are
read in which the same values are found, and these are the last ones of each name. -/
theorem insertion_ordered_map :
    (∀ ops, IsInsertionOrdered (editsOf ops) (after ops)
        ∧ ofJson? (after ops).toJson = some (after ops))
      ∧ ∀ entries list object, IsListOf entries list → IsObjectOf entries object →
          ∃ a b, read list = .ok a ∧ read object = .ok b
            ∧ ∀ name, a.get? name = Named.valueOf? name entries.reverse
              ∧ b.get? name = Named.valueOf? name entries.reverse := by
  refine ⟨fun ops => ⟨?_, ?_⟩, fun entries list object hlist hobject => ?_⟩
  · rw [after_eq_ofEdits]
    exact isInsertionOrdered_ofEdits _
  · exact ofJson?_toJson fun e he => (isStored_after ops e he).canonical
  · exact ⟨_, _, read_of_isListOf hlist, read_of_isObjectOf hobject,
      fun name => ⟨get?_setAll_empty entries name, get?_setAll_sorted entries name⟩⟩

/-- In a list and an object one name is written twice, and the last value is found under it in
both, though the names come in another order. Of the attributes of the object one is then
overwritten in its place, and another one is removed and comes last when it is set again. -/
theorem insertion_ordered_map_of_repeats :
    ∃ entries list object a b ops, IsListOf entries list ∧ IsObjectOf entries object
      ∧ read list = .ok a ∧ a.names = ["B", "A"] ∧ a.get? "B" = some (.bool true)
      ∧ read object = .ok b ∧ b.names = ["A", "B"] ∧ b.get? "B" = some (.bool true)
      ∧ ops.head? = some (.replace object) ∧ (after ops).names = ["B", "C", "A"]
      ∧ IsInsertionOrdered (editsOf ops) (after ops)
      ∧ ofJson? (after ops).toJson = some (after ops) := by
  let entries : Named Json := [("B", .null), ("A", .null), ("B", .bool true)]
  let list := (Json.arr (entries.map pairJson)).compact
  let object := (Json.obj entries).compact
  let ops : List Operation := [.replace object, .set "C" (.str "x") (Json.isStored_str _),
    .remove "A", .set "B" (.str "y") (Json.isStored_str _),
    .set "A" (.bool false) (Json.isStored_bool _)]
  have hlist : IsListOf entries list := by
    have hwords : (Json.arr (entries.map pairJson)).IsWordSized := by
      simp [entries, pairJson, Json.IsWordSized, Json.AreWordSizedItems, Json.AreWordSizedEntries]
    exact ⟨entries.map pairJson, Json.read_compact hwords rfl nestingLimit, rfl⟩
  have hobject : IsObjectOf entries object := by
    have hwords : (Json.obj entries).IsWordSized := by
      simp [entries, Json.IsWordSized, Json.AreWordSizedEntries]
    exact ⟨entries, Json.read_compact hwords rfl nestingLimit, rfl⟩
  obtain ⟨hmap, hforms⟩ := insertion_ordered_map
  obtain ⟨a, b, ha, hb, hget⟩ := hforms entries list object hlist hobject
  have hasame : a = empty.setAll entries := by
    simpa [read_of_isListOf hlist] using ha.symm
  have hsorted : Named.sorted entries = [("A", .null), ("B", .bool true)] := by
    simp +decide [entries, Named.sorted, List.mergeSort, Named.before, Named.lastOfEach]
  have hbsame : b = empty.setAll [("A", .null), ("B", .bool true)] := by
    simpa [read_of_isObjectOf hobject, hsorted] using hb.symm
  refine ⟨entries, list, object, a, b, ops, hlist, hobject, ha, ?_, (hget "B").1, hb, ?_,
    (hget "B").2, rfl, ?_, (hmap ops).1, (hmap ops).2⟩
  · rw [hasame]
    decide +kernel
  · rw [hbsame]
    decide +kernel
  · show (((((read object).toOption.getD empty).set "C" (.str "x")).remove "A").set "B"
      (.str "y") |>.set "A" (.bool false)).names = _
    rw [hb, hbsame]
    decide +kernel

end Attributes

end CatchmentPlanning
