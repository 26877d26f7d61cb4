/-!
# Blank characters

Names, table cells, environment values and media types are all compared after
the blanks around them have been dropped. A **blank** is a character with
Unicode's `White_Space` property: the no-break space and the ideographic space
are blanks, the zero-width space is not.
-/

namespace CatchmentPlanning

namespace Text

/-- The characters with Unicode's `White_Space` property. -/
def isBlank (c : Char) : Bool :=
  ('\t' ≤ c && c ≤ '\r') || c == ' ' || c == '\u0085' || c == '\u00a0'
    || c == '\u1680' || ('\u2000' ≤ c && c ≤ '\u200a')
    || c == '\u2028' || c == '\u2029' || c == '\u202f' || c == '\u205f'
    || c == '\u3000'

/-- Every blank that the core library knows is a blank here. -/
theorem isBlank_of_isWhitespace {c : Char} (h : c.isWhitespace) : isBlank c := by
  simp only [Char.isWhitespace, Bool.or_eq_true, decide_eq_true_eq] at h
  rcases h with ((h | h) | h) | h <;> subst h <;> decide

/-- The characters that remain when leading and trailing blanks are dropped. -/
def trimmed (cs : List Char) : List Char :=
  ((cs.dropWhile isBlank).reverse.dropWhile isBlank).reverse

/-- A text without its leading and trailing blanks. -/
def trim (s : String) : String :=
  String.ofList (trimmed s.toList)

/-- Whether a text has nothing but blanks. -/
def isBlankText (s : String) : Bool :=
  s.toList.all isBlank

@[simp] theorem trimmed_nil : trimmed [] = [] := rfl

/-- Dropping blanks from the front leaves nothing exactly when there is nothing
but blanks. -/
theorem dropWhile_isBlank_eq_nil_iff {cs : List Char} :
    cs.dropWhile isBlank = [] ↔ cs.all isBlank = true := by
  induction cs with
  | nil => simp
  | cons c cs ih => by_cases h : isBlank c = true <;> simp [h, ih]

/-- Trimming leaves nothing exactly when there is nothing but blanks. -/
theorem trimmed_eq_nil_iff {cs : List Char} : trimmed cs = [] ↔ cs.all isBlank = true := by
  rw [← dropWhile_isBlank_eq_nil_iff, trimmed, List.reverse_eq_nil_iff,
    dropWhile_isBlank_eq_nil_iff]
  constructor
  · intro h
    cases hd : cs.dropWhile isBlank with
    | nil => rfl
    | cons c r =>
      -- what is left after the first pass starts with a character that is no blank
      have hne : cs.dropWhile isBlank ≠ [] := by simp [hd]
      have hc := List.head_dropWhile_not isBlank hne
      simp only [hd, List.head_cons, List.all_reverse, List.all_cons, Bool.and_eq_true] at hc h
      simp [hc] at h
  · intro h
    simp [h]

end Text

end CatchmentPlanning
