/-!
# Separated texts

Tokens, paths and media types are texts of several pieces with one separator
between them. There is always at least one piece, and joining the pieces with
the separator gives the text back.
-/

namespace CatchmentPlanning

namespace Text

/-- The pieces of a text between the occurrences of a separator. -/
def pieces (separator : Char) : List Char → List (List Char)
  | [] => [[]]
  | c :: cs =>
    if c = separator then [] :: pieces separator cs
    else
      match pieces separator cs with
      | piece :: rest => (c :: piece) :: rest
      | [] => [[c]]

/-- The pieces joined again, with the separator between them. -/
def joined (separator : Char) : List (List Char) → List Char
  | [] => []
  | [piece] => piece
  | piece :: rest => piece ++ separator :: joined separator rest

theorem pieces_ne_nil (separator : Char) (cs : List Char) : pieces separator cs ≠ [] := by
  induction cs with
  | nil => simp [pieces]
  | cons c cs ih =>
    rw [pieces]
    split
    · simp
    · split <;> simp

/-- Joining the pieces of a text gives the text. -/
theorem joined_pieces (separator : Char) (cs : List Char) :
    joined separator (pieces separator cs) = cs := by
  induction cs with
  | nil => rfl
  | cons c cs ih =>
    cases hp : pieces separator cs with
    | nil => exact absurd hp (pieces_ne_nil separator cs)
    | cons piece rest =>
      rw [hp] at ih
      by_cases hc : c = separator
      · simp [pieces, hc, hp, joined, ih]
      · cases rest with
        | nil => simpa [pieces, hc, hp, joined] using ih
        | cons p rest => simpa [pieces, hc, hp, joined] using ih

/-- A text without the separator is a single piece. -/
theorem pieces_of_not_mem {separator : Char} {cs : List Char} (h : separator ∉ cs) :
    pieces separator cs = [cs] := by
  induction cs with
  | nil => rfl
  | cons c cs ih =>
    rw [List.mem_cons, not_or] at h
    simp [pieces, ih h.2, Ne.symm h.1]

/-- The piece in front of the first separator is cut off there. -/
theorem pieces_append {separator : Char} {piece : List Char} (h : separator ∉ piece)
    (cs : List Char) :
    pieces separator (piece ++ separator :: cs) = piece :: pieces separator cs := by
  induction piece with
  | nil => simp [pieces]
  | cons c piece ih =>
    rw [List.mem_cons, not_or] at h
    simp [pieces, ih h.2, Ne.symm h.1]

/-- No piece has the separator in it. -/
theorem not_mem_of_mem_pieces {separator : Char} {piece cs : List Char}
    (h : piece ∈ pieces separator cs) : separator ∉ piece := by
  induction cs generalizing piece with
  | nil =>
    rw [pieces, List.mem_singleton] at h
    simp [h]
  | cons c cs ih =>
    by_cases hc : c = separator
    · rw [pieces, if_pos hc] at h
      rcases List.mem_cons.mp h with rfl | h
      · simp
      · exact ih h
    · cases hp : pieces separator cs with
      | nil => exact absurd hp (pieces_ne_nil separator cs)
      | cons first rest =>
        rw [pieces, if_neg hc, hp] at h
        rcases List.mem_cons.mp h with rfl | h
        · simpa [Ne.symm hc] using ih (hp ▸ List.mem_cons_self)
        · exact ih (hp ▸ List.mem_cons_of_mem first h)

/-- Every character of a piece is one of the text. -/
theorem mem_of_mem_pieces {separator c : Char} {piece cs : List Char}
    (h : piece ∈ pieces separator cs) (hc : c ∈ piece) : c ∈ cs := by
  induction cs generalizing piece with
  | nil =>
    rw [pieces, List.mem_singleton] at h
    exact h ▸ hc
  | cons d cs ih =>
    by_cases hd : d = separator
    · rw [pieces, if_pos hd] at h
      rcases List.mem_cons.mp h with rfl | h
      · cases hc
      · exact List.mem_cons_of_mem _ (ih h hc)
    · cases hp : pieces separator cs with
      | nil => exact absurd hp (pieces_ne_nil separator cs)
      | cons first rest =>
        rw [pieces, if_neg hd, hp] at h
        rcases List.mem_cons.mp h with rfl | h
        · rcases List.mem_cons.mp hc with rfl | hc
          · exact List.mem_cons_self
          · exact List.mem_cons_of_mem _ (ih (hp ▸ List.mem_cons_self) hc)
        · exact List.mem_cons_of_mem _ (ih (hp ▸ List.mem_cons_of_mem first h) hc)

/-- Pieces without the separator are the pieces of what they are joined to. -/
theorem pieces_joined {separator : Char} {ps : List (List Char)} (hne : ps ≠ [])
    (h : ∀ piece ∈ ps, separator ∉ piece) : pieces separator (joined separator ps) = ps := by
  induction ps with
  | nil => exact absurd rfl hne
  | cons piece rest ih =>
    have hpiece := h piece List.mem_cons_self
    cases rest with
    | nil => rw [joined, pieces_of_not_mem hpiece]
    | cons p rest =>
      have hrest := ih (by simp) fun q hq => h q (List.mem_cons_of_mem _ hq)
      rw [joined, pieces_append hpiece, hrest]
      simp

/-- Changing the characters of joined pieces changes those of each piece, if the
separator stays what it is. -/
theorem map_joined {f : Char → Char} {separator : Char} (hf : f separator = separator)
    (ps : List (List Char)) :
    (joined separator ps).map f = joined separator (ps.map (·.map f)) := by
  fun_induction joined separator ps with
  | case1 => rfl
  | case2 piece => rfl
  | case3 piece rest hrest ih =>
    cases rest with
    | nil => exact absurd rfl hrest
    | cons p rest => simp [joined, hf, ih]

/-- Joined pieces are made of separators and the characters of the pieces. -/
theorem mem_joined {separator c : Char} {ps : List (List Char)} (h : c ∈ joined separator ps) :
    c = separator ∨ ∃ piece ∈ ps, c ∈ piece := by
  fun_induction joined separator ps with
  | case1 => simp at h
  | case2 piece => exact .inr ⟨piece, by simp, h⟩
  | case3 piece rest hrest ih => grind

end Text

end CatchmentPlanning
