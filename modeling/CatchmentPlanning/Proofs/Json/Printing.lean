import CatchmentPlanning.Json.Printer
import CatchmentPlanning.Json.Reader
import CatchmentPlanning.Proofs.Json.Values

/-!
# Printed JSON, character by character

A value is printed behind what has been printed before it. What it adds is its text, which
does not depend on what stands in front (`toList_append`); the text of a container is made up
of the texts of what is in it. A string is escaped so that it is read as itself
(`exists_stringRest_stringChars`).
-/

namespace CatchmentPlanning

namespace Json

/-! ## Texts -/

/-- The characters of a printed string, quotes and escapes included. -/
def stringChars (s : String) : List Char :=
  '"' :: (s.toList.flatMap fun c => (escaped c).toList) ++ ['"']

/-- The characters of a printed value. -/
def chars (v : Json) : List Char := v.compact.toList

/-- The characters of further items of an array. -/
def itemChars (items : List Json) : List Char := items.flatMap fun v => ',' :: v.chars

/-- The characters of further entries of an object. -/
def entryChars (entries : List (String × Json)) : List Char :=
  entries.flatMap fun e => ',' :: stringChars e.1 ++ ':' :: e.2.chars

theorem toList_appendString (acc s : String) :
    (appendString acc s).toList = acc.toList ++ stringChars s := by
  have hfold (cs : List Char) (acc : String) :
      (cs.foldl (fun acc c => acc ++ escaped c) acc).toList
        = acc.toList ++ cs.flatMap fun c => (escaped c).toList := by
    induction cs generalizing acc with
    | nil => simp
    | cons c cs ih => simp [ih]
  simp [appendString, stringChars, hfold]

variable {items : List Json} {entries : List (String × Json)}

theorem toList_appendItems
    (h : ∀ v ∈ items, ∀ acc, (append acc v).toList = acc.toList ++ v.chars) (acc : String) :
    (appendItems acc items).toList = acc.toList ++ itemChars items := by
  induction items generalizing acc with
  | nil => simp [appendItems, itemChars]
  | cons v rest ih =>
    obtain ⟨hv, hrest⟩ := List.forall_mem_cons.mp h
    simp [appendItems, ih hrest, hv, itemChars]

theorem toList_appendEntries
    (h : ∀ e ∈ entries, ∀ acc, (append acc e.2).toList = acc.toList ++ e.2.chars) (acc : String) :
    (appendEntries acc entries).toList = acc.toList ++ entryChars entries := by
  induction entries generalizing acc with
  | nil => simp [appendEntries, entryChars]
  | cons e rest ih =>
    obtain ⟨he, hrest⟩ := List.forall_mem_cons.mp h
    simp [appendEntries, ih hrest, he, entryChars, toList_appendString]

theorem chars_eq (v : Json) : v.chars = (append "" v).toList := rfl

/-- **What printing a value adds is its text**, whatever has been printed before. -/
theorem toList_append (v : Json) (acc : String) : (append acc v).toList = acc.toList ++ v.chars := by
  induction v using induction generalizing acc with
  | null | bool | int | float => simp [chars_eq, append]
  | str s => simp [chars_eq, append, toList_appendString]
  | arr items ih =>
    rw [chars_eq]
    cases items with
    | nil => simp [append]
    | cons v rest =>
      obtain ⟨hv, hrest⟩ := List.forall_mem_cons.mp ih
      simp [append, toList_appendItems hrest, hv]
  | obj entries ih =>
    rw [chars_eq]
    cases entries with
    | nil => simp [append]
    | cons e rest =>
      obtain ⟨he, hrest⟩ := List.forall_mem_cons.mp ih
      simp [append, toList_appendEntries hrest, he, toList_appendString]

theorem chars_str (s : String) : (str s).chars = stringChars s := by
  simp [chars_eq, append, toList_appendString]

theorem chars_arr_cons (v : Json) (rest : List Json) :
    (arr (v :: rest)).chars = '[' :: v.chars ++ itemChars rest ++ [']'] := by
  rw [chars_eq]
  simp [append, toList_appendItems fun v _ => toList_append v, toList_append]

theorem chars_obj_cons (e : String × Json) (rest : List (String × Json)) :
    (obj (e :: rest)).chars
      = '\x7b' :: stringChars e.1 ++ ':' :: e.2.chars ++ entryChars rest ++ ['\x7d'] := by
  rw [chars_eq]
  simp [append, toList_appendEntries fun e _ => toList_append e.2, toList_append,
    toList_appendString]

/-! ## Strings -/

theorem hexUnit?_hexDigit : ∀ n < 0x20,
    hexUnit? '0' '0' (hexDigit (n / 16)) (hexDigit (n % 16)) = some n := by
  decide

/-- **An escaped character is read as the character.** -/
theorem stringRest_escaped (acc : List Char) (c : Char) (cs : List Char) :
    stringRest acc ((escaped c).toList ++ cs) = stringRest (c :: acc) cs := by
  unfold escaped
  -- the characters with a letter of their own
  iterate 7
    split
    · subst_vars
      rfl
  rename_i hquote hbackslash _ _ _ _ _
  split
  · -- the other control characters, of which none is half of a surrogate pair
    rename_i hlt
    have hunit := hexUnit?_hexDigit c.toNat hlt
    have htrailing : isTrailing c.toNat = false := by
      simp only [isTrailing, Bool.and_eq_false_iff, decide_eq_false_iff_not]
      omega
    have hleading : isLeading c.toNat = false := by
      simp only [isLeading, Bool.and_eq_false_iff, decide_eq_false_iff_not]
      omega
    simp [stringRest, hunit, htrailing, hleading]
  · rename_i hprintable
    rw [Char.toString_eq_singleton, String.toList_singleton, List.singleton_append,
      stringRest.eq_def]
    split <;> simp_all

theorem stringRest_flatMap_escaped (cs rest : List Char) (acc : List Char) :
    stringRest acc ((cs.flatMap fun c => (escaped c).toList) ++ '"' :: rest)
      = .ok (String.ofList (acc.reverse ++ cs), rest) := by
  induction cs generalizing acc with
  | nil => simp [stringRest]
  | cons c cs ih => simp [stringRest_escaped, ih]

/-- **A printed string is read as the string.** -/
theorem exists_stringRest_stringChars (s : String) (rest : List Char) :
    ∃ cs, stringChars s ++ rest = '"' :: cs ∧ stringRest [] cs = .ok (s, rest) := by
  refine ⟨(s.toList.flatMap fun c => (escaped c).toList) ++ '"' :: rest, ?_, ?_⟩
  · simp [stringChars]
  · rw [stringRest_flatMap_escaped, List.reverse_nil, List.nil_append, String.ofList_toList]

end Json

end CatchmentPlanning
