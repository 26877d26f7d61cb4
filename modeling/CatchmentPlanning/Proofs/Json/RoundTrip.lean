import CatchmentPlanning.Proofs.Json.Printing

/-!
# JSON that is printed and read again

The printed text of a value is read as the value, but for its floats: these become what
their texts are read as (`read_compact`). The reader goes through the text as the printer has
gone through the value, so the proof is by induction on the value, with an inner induction on
the items of an array and on the entries of an object. Three things are to be seen to on the
way: the steps that the reader may take suffice, containers are not nested too deeply, and
whatever stands behind a value closes it (`Closes`).
-/

namespace CatchmentPlanning

namespace Json

/-! ## What is read fits words -/

/-- What is read in at most so many steps fits words: values, and arrays and objects if what
has been read of them does. -/
structure ReadsWordSized (fuel : Nat) : Prop where
  value : ∀ {depth cs v rest}, value fuel depth cs = .ok (v, rest) → v.IsWordSized
  items : ∀ {depth acc cs v rest}, (∀ u ∈ acc, u.IsWordSized) →
    items fuel depth acc cs = .ok (v, rest) → v.IsWordSized
  entries : ∀ {depth acc cs v rest}, (∀ e ∈ acc, e.2.IsWordSized) →
    entries fuel depth acc cs = .ok (v, rest) → v.IsWordSized

theorem isWordSized_of_number {cs rest : List Char} {v : Json} (h : number cs = .ok (v, rest)) :
    v.IsWordSized := by
  obtain ⟨n, rfl, hn⟩ | ⟨x, rfl⟩ := isNumber_of_number h
  · exact hn
  · exact trivial

variable {fuel depth : Nat} {cs rest : List Char} {v w : Json}

theorem ReadsWordSized.value_succ (h : ReadsWordSized fuel)
    (hv : Json.value (fuel + 1) depth cs = .ok (v, rest)) : v.IsWordSized := by
  rw [Json.value] at hv
  split at hv
  · cases hv
  · cases hv
    exact trivial
  · cases hv
    exact trivial
  · cases hv
    exact trivial
  · obtain ⟨s, -, hv⟩ := Checks.map_eq_ok_iff.mp hv
    cases hv
    exact trivial
  · split at hv
    · cases hv
    · split at hv
      · cases hv
        exact trivial
      · exact h.items (List.forall_mem_nil _) hv
  · split at hv
    · cases hv
    · split at hv
      · cases hv
        exact trivial
      · exact h.entries (List.forall_mem_nil _) hv
  · exact isWordSized_of_number hv

theorem ReadsWordSized.items_succ (h : ReadsWordSized fuel) {acc : List Json}
    (hacc : ∀ u ∈ acc, u.IsWordSized) (hv : Json.items (fuel + 1) depth acc cs = .ok (v, rest)) :
    v.IsWordSized := by
  rw [Json.items] at hv
  split at hv
  · cases hv
  rename_i v' rest' hv'
  have hacc' : ∀ u ∈ v' :: acc, u.IsWordSized := List.forall_mem_cons.mpr ⟨h.value hv', hacc⟩
  split at hv
  · exact h.items hacc' hv
  · cases hv
    rw [isWordSized_arr_iff]
    exact fun u hu => hacc' u (List.mem_reverse.mp hu)
  · cases hv
  · cases hv

theorem ReadsWordSized.entries_succ (h : ReadsWordSized fuel) {acc : List (String × Json)}
    (hacc : ∀ e ∈ acc, e.2.IsWordSized)
    (hv : Json.entries (fuel + 1) depth acc cs = .ok (v, rest)) : v.IsWordSized := by
  rw [Json.entries] at hv
  split at hv
  · split at hv
    · cases hv
    rename_i name rest' hname
    split at hv
    · split at hv
      · cases hv
      rename_i v' rest'' hv'
      have hacc' : ∀ e ∈ (name, v') :: acc, e.2.IsWordSized :=
        List.forall_mem_cons.mpr ⟨h.value hv', hacc⟩
      split at hv
      · exact h.entries hacc' hv
      · cases hv
        rw [isWordSized_obj_iff]
        exact fun e he => hacc' e (List.mem_reverse.mp he)
      · cases hv
      · cases hv
    · cases hv
    · cases hv
  · cases hv
  · cases hv

theorem readsWordSized (fuel : Nat) : ReadsWordSized fuel := by
  induction fuel with
  | zero => exact ⟨nofun, nofun, nofun⟩
  | succ fuel ih => exact ⟨ih.value_succ, ih.items_succ, ih.entries_succ⟩

/-- **The whole numbers in what is read fit words.** -/
theorem isWordSized_of_read {text : String} (h : read depth text = .ok v) : v.IsWordSized := by
  unfold read at h
  dsimp only at h
  split at h
  · cases h
  · rename_i v' rest hv
    split at h
    · cases h
      exact (readsWordSized _).value hv
    · cases h

/-! ## Values as they are printed -/

theorem skipSpace_cons {c : Char} (h : isSpace c = false) (cs : List Char) :
    skipSpace (c :: cs) = c :: cs := by
  rw [skipSpace, List.dropWhile_cons_of_neg (by simp [h])]

/-- No space stands in front of a number, and it closes no array. -/
theorem isSpace_of_number {cs : List Char} {answer : Json × List Char}
    (h : number cs = .ok answer) : ∃ c cs', cs = c :: cs' ∧ isSpace c = false ∧ c ≠ ']' := by
  obtain ⟨c, cs, rfl, hc⟩ := head_of_number h
  refine ⟨c, cs, rfl, Bool.eq_false_iff.mpr fun hspace => ?_, ?_⟩
  · simp only [isSpace, Bool.or_eq_true, decide_eq_true_eq, or_assoc] at hspace
    obtain rfl | rfl | rfl | rfl := hspace <;> exact absurd hc (by decide)
  · rintro rfl
    exact absurd hc (by decide)

/-- A text that starts with a number is read as the number. -/
theorem value_of_number {cs : List Char} {answer : Json × List Char} (h : number cs = .ok answer)
    (fuel depth : Nat) : value (fuel + 1) depth cs = .ok answer := by
  obtain ⟨_, _, rfl, hspace, -⟩ := isSpace_of_number h
  obtain ⟨_, _, heq, hc⟩ := head_of_number h
  cases heq
  rw [value, skipSpace_cons hspace]
  split
  case h_1 heq => cases heq
  case h_8 => exact h
  -- a number starts with no other token
  all_goals
    rename_i heq
    cases heq
    exact absurd hc (by decide)

theorem value_bracket {c : Char} (hspace : isSpace c = false) (hne : c ≠ ']') (cs : List Char)
    (fuel depth : Nat) :
    value (fuel + 1) (depth + 1) ('[' :: c :: cs) = items fuel depth [] (c :: cs) := by
  rw [value, skipSpace_cons (by decide)]
  simp only [skipSpace_cons hspace]
  split
  · rename_i heq
    cases heq
    exact absurd rfl hne
  · rfl

/-- **The text of a value is read as a value**, in front of anything that closes it, unless
containers are nested too deeply in it. -/
def IsReadAs (v w : Json) : Prop :=
  ∀ (fuel depth : Nat) (rest : List Char), 2 * v.chars.length + 1 ≤ fuel → Closes rest →
    value fuel depth (v.chars ++ rest) = if v.depth ≤ depth then .ok (w, rest) else .error .tooDeep

/-- The first step of reading a value is always there. -/
theorem isReadAs_of_succ {v w : Json}
    (h : ∀ (fuel depth : Nat) (rest : List Char), 2 * v.chars.length ≤ fuel → Closes rest →
      value (fuel + 1) depth (v.chars ++ rest)
        = if v.depth ≤ depth then .ok (w, rest) else .error .tooDeep) : IsReadAs v w := by
  intro fuel depth rest hfuel hrest
  obtain ⟨fuel, rfl⟩ := Nat.exists_eq_add_one_of_ne_zero (show fuel ≠ 0 by omega)
  exact h fuel depth rest (Nat.le_of_succ_le_succ hfuel) hrest

/-- A value that is no container is never nested too deeply. -/
theorem isReadAs_of_depth_eq_zero {v w : Json} (hv : v.depth = 0)
    (h : ∀ (fuel depth : Nat) (rest : List Char), Closes rest →
      value (fuel + 1) depth (v.chars ++ rest) = .ok (w, rest)) : IsReadAs v w := by
  refine isReadAs_of_succ fun fuel depth rest _ hrest => ?_
  rw [h fuel depth rest hrest, if_pos (hv ▸ Nat.zero_le depth)]

theorem closes_itemChars (items : List Json) (rest : List Char) :
    Closes (itemChars items ++ ']' :: rest) := by
  cases items with
  | nil => exact closes_cons (.inr (.inl rfl)) _
  | cons v items => exact closes_cons (.inl rfl) _

theorem closes_entryChars (entries : List (String × Json)) (rest : List Char) :
    Closes (entryChars entries ++ '\x7d' :: rest) := by
  cases entries with
  | nil => exact closes_cons (.inr (.inr rfl)) _
  | cons e entries => exact closes_cons (.inl rfl) _

theorem length_itemChars_cons (v : Json) (items : List Json) :
    (itemChars (v :: items)).length = 1 + v.chars.length + (itemChars items).length := by
  simp [itemChars]
  omega

/-- Containers are nested too deeply in a list exactly if they are so in its first item or in
the others. -/
theorem ite_max_le {α : Type} {d d' : Nat} (h : d ≤ depth) (a b : α) :
    (if max d d' ≤ depth then a else b) = if d' ≤ depth then a else b :=
  if_congr (Nat.max_le.trans (and_iff_right h)) rfl rfl

@[inherit_doc ite_max_le]
theorem ite_max_le_of_lt {α : Type} {d d' : Nat} (h : ¬ d ≤ depth) (a b : α) :
    (if max d d' ≤ depth then a else b) = b :=
  if_neg fun hall => h ((Nat.le_max_left d d').trans hall)

/-- The items of an array are read one after the other, up to the first one in which containers
are nested too deeply. -/
theorem items_itemChars {us us' : List Json} (h : List.Forall₂ IsReadAs us us') {v w : Json}
    (hv : IsReadAs v w) (hfuel : 2 * (v.chars.length + (itemChars us).length) + 2 ≤ fuel)
    (acc : List Json) (rest : List Char) :
    items fuel depth acc (v.chars ++ (itemChars us ++ ']' :: rest))
      = if depthItems (v :: us) ≤ depth then .ok (.arr (acc.reverse ++ w :: us'), rest)
        else .error .tooDeep := by
  induction h generalizing v w fuel acc with
  | nil =>
    obtain ⟨fuel, rfl⟩ := Nat.exists_eq_add_one_of_ne_zero (show fuel ≠ 0 by omega)
    rw [items, hv fuel depth _ (by omega) (closes_itemChars [] rest), depthItems]
    by_cases hdepth : v.depth ≤ depth
    · rw [if_pos hdepth, ite_max_le hdepth, ← List.reverse_cons]
      rfl
    · rw [if_neg hdepth, ite_max_le_of_lt hdepth]
  | @cons u u' us us' hu _ ih =>
    obtain ⟨fuel, rfl⟩ := Nat.exists_eq_add_one_of_ne_zero (show fuel ≠ 0 by omega)
    have hcomma : itemChars (u :: us) ++ ']' :: rest
        = ',' :: (u.chars ++ (itemChars us ++ ']' :: rest)) := by
      simp [itemChars]
    rw [length_itemChars_cons] at hfuel
    rw [items, hv fuel depth _ (by omega) (closes_itemChars (u :: us) rest), depthItems]
    by_cases hdepth : v.depth ≤ depth
    · rw [if_pos hdepth, ite_max_le hdepth, hcomma]
      show items fuel depth (w :: acc) _ = _
      refine (ih hu (by omega) (w :: acc)).trans ?_
      rw [List.reverse_cons, List.append_assoc]
      rfl
    · rw [if_neg hdepth, ite_max_le_of_lt hdepth]

theorem length_entryChars_cons (e : String × Json) (entries : List (String × Json)) :
    (entryChars (e :: entries)).length
      = 2 + (stringChars e.1).length + e.2.chars.length + (entryChars entries).length := by
  simp [entryChars]
  omega

/-- An entry is read by reading its value. -/
theorem entries_stringChars (name : String) (cs : List Char) (acc : List (String × Json)) :
    entries (fuel + 1) depth acc (stringChars name ++ ':' :: cs) =
      match value fuel depth cs with
      | .error e => .error e
      | .ok (v, rest) =>
        match skipSpace rest with
        | ',' :: rest => entries fuel depth ((name, v) :: acc) rest
        | '\x7d' :: rest => .ok (.obj ((name, v) :: acc).reverse, rest)
        | c :: _ => .error (.unexpected c)
        | [] => .error .endOfText := by
  obtain ⟨cs', hcs', hname⟩ := exists_stringRest_stringChars name (':' :: cs)
  have hquote : skipSpace ('"' :: cs') = '"' :: cs' := skipSpace_cons (by decide) cs'
  have hcolon : skipSpace (':' :: cs) = ':' :: cs := skipSpace_cons (by decide) cs
  have hstep := entries.eq_def (fuel + 1) depth acc ('"' :: cs')
  simp only [hquote, hname, hcolon] at hstep
  rw [hcs']
  exact hstep

/-- The entries of an object are read one after the other, up to the first one in which
containers are nested too deeply. -/
theorem entries_entryChars {es es' : List (String × Json)}
    (h : List.Forall₂ (fun e e' => e'.1 = e.1 ∧ IsReadAs e.2 e'.2) es es') (name : String)
    {v w : Json} (hv : IsReadAs v w)
    (hfuel : 2 * (v.chars.length + (entryChars es).length) + 2 ≤ fuel)
    (acc : List (String × Json)) (rest : List Char) :
    entries fuel depth acc (stringChars name ++ ':' :: (v.chars ++ (entryChars es ++ '\x7d' :: rest)))
      = if depthEntries ((name, v) :: es) ≤ depth then
          .ok (.obj (acc.reverse ++ (name, w) :: es'), rest)
        else .error .tooDeep := by
  induction h generalizing name v w fuel acc with
  | nil =>
    obtain ⟨fuel, rfl⟩ := Nat.exists_eq_add_one_of_ne_zero (show fuel ≠ 0 by omega)
    rw [entries_stringChars, hv fuel depth _ (by omega) (closes_entryChars [] rest), depthEntries]
    by_cases hdepth : v.depth ≤ depth
    · rw [if_pos hdepth, ite_max_le hdepth, ← List.reverse_cons]
      rfl
    · rw [if_neg hdepth, ite_max_le_of_lt hdepth]
  | @cons e e' es es' he _ ih =>
    obtain ⟨fuel, rfl⟩ := Nat.exists_eq_add_one_of_ne_zero (show fuel ≠ 0 by omega)
    obtain ⟨_, u⟩ := e
    obtain ⟨name', u'⟩ := e'
    obtain ⟨rfl, he⟩ := he
    have hcomma : entryChars ((name', u) :: es) ++ '\x7d' :: rest
        = ',' :: (stringChars name' ++ ':' :: (u.chars ++ (entryChars es ++ '\x7d' :: rest))) := by
      simp [entryChars]
    rw [length_entryChars_cons] at hfuel
    rw [entries_stringChars, hv fuel depth _ (by omega) (closes_entryChars _ rest), depthEntries]
    by_cases hdepth : v.depth ≤ depth
    · rw [if_pos hdepth, ite_max_le hdepth, hcomma]
      show entries fuel depth ((name, w) :: acc) _ = _
      refine (ih name' he (by omega) ((name, w) :: acc)).trans ?_
      rw [List.reverse_cons, List.append_assoc]
      rfl
    · rw [if_neg hdepth, ite_max_le_of_lt hdepth]

/-! ## Every value -/

theorem chars_int (n : Int) : (int n).chars = (toString n).toList := by
  simp [chars_eq, append]

/-- The text of a value starts with a character that is no space and closes no array. -/
theorem exists_chars_eq_cons {v w : Json} (hwords : v.IsWordSized) (hw : v.reread? = some w) :
    ∃ c cs, v.chars = c :: cs ∧ isSpace c = false ∧ c ≠ ']' := by
  cases v with
  | null => exact ⟨_, _, rfl, by decide⟩
  | bool b => cases b <;> exact ⟨_, _, rfl, by decide⟩
  | int n => exact chars_int n ▸ isSpace_of_number (number_toString hwords)
  | float x => exact isSpace_of_number (number_compact_float hw)
  | str s => exact ⟨_, _, chars_str s, by decide⟩
  | arr items =>
    cases items with
    | nil => exact ⟨_, _, rfl, by decide⟩
    | cons v rest => exact ⟨_, _, chars_arr_cons v rest, by decide⟩
  | obj entries =>
    cases entries with
    | nil => exact ⟨_, _, rfl, by decide⟩
    | cons e rest => exact ⟨_, _, chars_obj_cons e rest, by decide⟩

theorem isReadAs_str (s : String) : IsReadAs (str s) (str s) := by
  refine isReadAs_of_depth_eq_zero rfl fun fuel depth rest _ => ?_
  obtain ⟨cs, hcs, hread⟩ := exists_stringRest_stringChars s rest
  rw [chars_str, hcs, value, skipSpace_cons (by decide)]
  simp only [hread]
  rfl

/-- An array is read if its items are, none of which may look like the end of it. -/
theorem isReadAs_arr {us us' : List Json}
    (hreads : List.Forall₂ (fun u u' => IsReadAs u u'
      ∧ ∃ c cs, u.chars = c :: cs ∧ isSpace c = false ∧ c ≠ ']') us us') :
    IsReadAs (arr us) (arr us') := by
  refine isReadAs_of_succ fun fuel depth rest hfuel _ => ?_
  cases hreads with
  | nil => cases depth <;> rfl
  | @cons v v' us us' hv hus =>
    have htext : (arr (v :: us)).chars ++ rest
        = '[' :: (v.chars ++ (itemChars us ++ ']' :: rest)) := by
      simp [chars_arr_cons]
    have hlength : 2 * (v.chars.length + (itemChars us).length) + 2 ≤ fuel := by
      simp [chars_arr_cons] at hfuel
      omega
    rw [htext, Json.depth]
    cases depth with
    | zero => rfl
    | succ depth =>
      obtain ⟨hv, c, cs, hchars, hspace, hne⟩ := hv
      have hread := @items_itemChars fuel depth us us' (hus.imp fun _ _ h => h.1) v v' hv
        hlength [] rest
      rw [hchars, List.cons_append] at hread ⊢
      rw [value_bracket hspace hne, hread]
      exact if_congr Nat.succ_le_succ_iff.symm rfl rfl

/-- An object is read if the values of its entries are. -/
theorem isReadAs_obj {es es' : List (String × Json)}
    (hreads : List.Forall₂ (fun e e' => e'.1 = e.1 ∧ IsReadAs e.2 e'.2) es es') :
    IsReadAs (obj es) (obj es') := by
  refine isReadAs_of_succ fun fuel depth rest hfuel _ => ?_
  cases hreads with
  | nil => cases depth <;> rfl
  | @cons e e' es es' he hes =>
    obtain ⟨name, w⟩ := e'
    obtain ⟨rfl, he⟩ := he
    have htext : (obj (e :: es)).chars ++ rest = '\x7b' :: (stringChars e.1 ++ ':' ::
        (e.2.chars ++ (entryChars es ++ '\x7d' :: rest))) := by
      simp [chars_obj_cons]
    have hlength : 2 * (e.2.chars.length + (entryChars es).length) + 2 ≤ fuel := by
      simp [chars_obj_cons] at hfuel
      omega
    rw [htext, Json.depth]
    cases depth with
    | zero => rfl
    | succ depth =>
      have hread := @entries_entryChars fuel depth es es' hes e.1 e.2 w he hlength [] rest
      exact hread.trans (if_congr Nat.succ_le_succ_iff.symm rfl rfl)

/-- **A value is read as what `reread?` tells.** -/
theorem isReadAs_of_reread? (hwords : v.IsWordSized) (hw : v.reread? = some w) :
    IsReadAs v w := by
  induction v using induction generalizing w with
  | null =>
    cases hw
    exact isReadAs_of_depth_eq_zero rfl fun fuel depth rest _ => rfl
  | bool b =>
    cases hw
    refine isReadAs_of_depth_eq_zero rfl fun fuel depth rest _ => ?_
    cases b <;> rfl
  | int n =>
    cases hw
    refine isReadAs_of_depth_eq_zero rfl fun fuel depth rest hrest => ?_
    rw [chars_int]
    exact value_of_number (stops_number hrest (number_toString hwords)) fuel depth
  | float x =>
    refine isReadAs_of_depth_eq_zero rfl fun fuel depth rest hrest => ?_
    exact value_of_number (stops_number hrest (number_compact_float hw)) fuel depth
  | str s =>
    cases hw
    exact isReadAs_str s
  | arr items ih =>
    obtain ⟨items', hitems, rfl⟩ := Option.map_eq_some_iff.mp hw
    rw [rereadItems?_eq_some_iff] at hitems
    rw [isWordSized_arr_iff] at hwords
    exact isReadAs_arr (forall₂_of_mem hitems fun v hv w hw =>
      ⟨ih v hv (hwords v hv) hw, exists_chars_eq_cons (hwords v hv) hw⟩)
  | obj entries ih =>
    obtain ⟨entries', hentries, rfl⟩ := Option.map_eq_some_iff.mp hw
    rw [rereadEntries?_eq_some_iff] at hentries
    rw [isWordSized_obj_iff] at hwords
    exact isReadAs_obj
      (forall₂_of_mem hentries fun e he e' h => ⟨h.1, ih e he (hwords e he) h.2⟩)

/-- **A printed value is read as what `reread?` tells**, unless containers are nested more deeply
in it than the reader takes them. -/
theorem read_compact {v w : Json} (hwords : v.IsWordSized) (hw : v.reread? = some w)
    (depth : Nat) :
    read depth v.compact = if v.depth ≤ depth then .ok w else .error .tooDeep := by
  have hread := isReadAs_of_reread? hwords hw (2 * v.chars.length + 2) depth [] (by omega)
    closes_nil
  rw [List.append_nil] at hread
  unfold read
  dsimp only
  rw [show v.compact.toList = v.chars from rfl, hread]
  by_cases hdepth : v.depth ≤ depth
  · rw [if_pos hdepth, if_pos hdepth]
    rfl
  · rw [if_neg hdepth, if_neg hdepth]

end Json

end CatchmentPlanning
