import CatchmentPlanning.Proofs.Checks
import CatchmentPlanning.Proofs.Token.Numeral
import CatchmentPlanning.Proofs.Token.Words

/-!
# Tokens are read exactly as they are written

A token is cut at its colons, each group is read as a word, and the words are
taken apart into flags. Each of these steps undoes one step of writing, and
each refuses what that step would not have written: `word_eq_ok_iff` says so for
a group and `eq_words_iff` for the words.

Put together, a text is a token for a number of actions exactly if its
upper-case form is what writing the flags gives (`decode_eq_ok_iff`). Letter
case is the one freedom that is left, so a text names at most one sequence of
flags, and every sequence is named by its own token (`decode_encode`).
-/

namespace CatchmentPlanning

namespace Token

open Checks
open Text (hexValue? pieces joined)

/-! ## Characters -/

theorem isTokenChar_toUpper (c : Char) : isTokenChar c.toUpper = isTokenChar c := by
  rw [Bool.eq_iff_iff]
  simp only [isTokenChar, hexValue?_toUpper, Bool.or_eq_true, beq_iff_eq, toUpper_eq_colon_iff]

theorem colon_not_mem_numeral (n : Nat) : ':' ∉ numeral n := by
  intro h
  obtain ⟨d, hd, hc⟩ := exists_hexDigit_of_mem_numeral h
  exact hexDigit_ne_colon hd hc.symm

/-- Numerals are in upper case. -/
theorem map_toUpper_numeral (n : Nat) : (numeral n).map Char.toUpper = numeral n := by
  have hdigit : ∀ c ∈ numeral n, c.toUpper = id c := by
    intro c hc
    obtain ⟨d, hd, rfl⟩ := exists_hexDigit_of_mem_numeral hc
    exact (toUpper_eq_hexDigit (hexValue?_hexDigit hd)).2
  rw [List.map_congr_left hdigit, List.map_id]

/-- No character of a text is invalid exactly if all may occur in tokens. -/
theorem firstInvalid?_eq_none_iff {cs : List Char} :
    firstInvalid? cs = none ↔ ∀ c ∈ cs, isTokenChar c = true := by
  rw [firstInvalid?, List.find?_eq_none]
  constructor
  · intro h c hc
    obtain ⟨i, hi, rfl⟩ := List.getElem_of_mem hc
    have hmem : (cs[i], i) ∈ cs.zipIdx :=
      List.mem_zipIdx_iff_getElem?.mpr (List.getElem?_eq_getElem hi)
    simpa using h _ hmem
  · intro h x hx
    simpa using h x.1 (List.mem_of_getElem? (List.mem_zipIdx_iff_getElem?.mp hx))

/-! ## Writing -/

theorem toList_encode (flags : List Bool) :
    (encode flags).toList = joined ':' ((words flags).map numeral) :=
  String.toList_ofList

/-- Tokens are made of the characters of tokens. -/
theorem isTokenChar_of_mem_encode {flags : List Bool} {c : Char} (h : c ∈ (encode flags).toList) :
    isTokenChar c = true := by
  rw [toList_encode] at h
  rcases Text.mem_joined h with rfl | ⟨group, hgroup, hc⟩
  · decide
  · obtain ⟨w, -, rfl⟩ := List.mem_map.mp hgroup
    obtain ⟨d, hd, rfl⟩ := exists_hexDigit_of_mem_numeral hc
    simp [isTokenChar, hexValue?_hexDigit hd]

/-- Tokens are written in upper case. -/
theorem toUpper_encode (flags : List Bool) : (encode flags).toUpper = encode flags := by
  rw [← String.toList_inj, String.toUpper, String.toList_map, toList_encode,
    Text.map_joined (by decide), List.map_map]
  refine congrArg (joined ':') (List.map_congr_left fun w _ => ?_)
  exact map_toUpper_numeral w

/-- The groups of a token are the numerals of its words. -/
theorem pieces_encode (flags : List Bool) :
    pieces ':' (encode flags).toList = (words flags).map numeral := by
  rw [toList_encode]
  refine Text.pieces_joined (by simpa using words_ne_nil flags) fun group hgroup => ?_
  obtain ⟨w, -, rfl⟩ := List.mem_map.mp hgroup
  exact colon_not_mem_numeral w

/-- A text reads as a token in upper case exactly if its groups do. -/
theorem toUpper_eq_encode_iff {token : String} {flags : List Bool} :
    token.toUpper = encode flags ↔
      (pieces ':' token.toList).map (·.map Char.toUpper) = (words flags).map numeral := by
  have hupper : token.toUpper.toList
      = joined ':' ((pieces ':' token.toList).map (·.map Char.toUpper)) := by
    rw [String.toUpper, String.toList_map, ← Text.map_joined (by decide), Text.joined_pieces]
  have hpieces : pieces ':' token.toUpper.toList
      = (pieces ':' token.toList).map (·.map Char.toUpper) := by
    rw [hupper]
    refine Text.pieces_joined (by simpa using Text.pieces_ne_nil ':' _) fun group hgroup => ?_
    obtain ⟨piece, hpiece, rfl⟩ := List.mem_map.mp hgroup
    intro hmem
    obtain ⟨c, hc, hcolon⟩ := List.mem_map.mp hmem
    exact Text.not_mem_of_mem_pieces hpiece (toUpper_eq_colon_iff.mp hcolon ▸ hc)
  constructor
  · intro h
    rw [← hpieces, h, pieces_encode]
  · intro h
    rw [← String.toList_inj, hupper, h, toList_encode]

/-! ## Reading -/

/-- The groups are read as words exactly if they are the words' numerals, but for
the case of their letters. -/
theorem wordsFrom_eq_ok_iff {index : Nat} {groups : List (List Char)} {ws : List Nat} :
    wordsFrom index groups = .ok ws ↔
      (∀ w ∈ ws, w < 2 ^ wordSize) ∧ groups.map (·.map Char.toUpper) = ws.map numeral := by
  induction groups generalizing index ws with
  | nil =>
    cases ws with
    | nil => simp [wordsFrom]
    | cons w ws => simp [wordsFrom]
  | cons group groups ih =>
    have hread : wordsFrom index (group :: groups) = .ok ws ↔
        ∃ w, word index group = .ok w ∧ ∃ rest, wordsFrom (index + 1) groups = .ok rest
          ∧ w :: rest = ws := by
      simp only [wordsFrom, bind_eq_ok_iff, pure_eq_ok, Except.ok.injEq]
    rw [hread]
    constructor
    · rintro ⟨w, hw, rest, hrest, rfl⟩
      obtain ⟨hlt, hnum⟩ := word_eq_ok_iff.mp hw
      obtain ⟨hlts, hnums⟩ := ih.mp hrest
      exact ⟨List.forall_mem_cons.mpr ⟨hlt, hlts⟩, by simp [hnum, hnums]⟩
    · rintro ⟨hlts, hnums⟩
      cases ws with
      | nil => simp at hnums
      | cons w rest =>
        obtain ⟨hlt, hlts⟩ := List.forall_mem_cons.mp hlts
        obtain ⟨hnum, hnums⟩ := List.cons.inj hnums
        exact ⟨w, word_eq_ok_iff.mpr ⟨hlt, hnum⟩, rest, ih.mpr ⟨hlts, hnums⟩, rfl⟩

/-- What reading a token checks, step by step. -/
theorem decode_eq_ok_iff_words {actions : Nat} {token : String} {flags : List Bool} :
    decode actions token = .ok flags ↔
      (∀ c ∈ token.toList, isTokenChar c = true)
        ∧ (pieces ':' token.toList).length = wordCount actions
        ∧ ∃ ws, wordsFrom 0 (pieces ':' token.toList) = .ok ws
          ∧ ws.getLastD 0 / 2 ^ (actions % wordSize) = 1
          ∧ (ws.flatMap (bits wordSize)).take actions = flags := by
  rw [← firstInvalid?_eq_none_iff, decode]
  cases firstInvalid? token.toList with
  | some x => simp
  | none =>
    by_cases hcount : (pieces ':' token.toList).length = wordCount actions
    · simp only [hcount, if_true, pure_eq_ok, bind_eq_ok_iff, true_and]
      refine exists_congr fun ws => and_congr_right fun _ => ?_
      by_cases hlast : ws.getLastD 0 / 2 ^ (actions % wordSize) = 1
      · rw [if_pos hlast]
        simp only [Except.ok.injEq, hlast, true_and]
      · rw [if_neg hlast]
        simp only [throw_eq_error, error_bind, reduceCtorEq, hlast, false_and]
    · simp [hcount]

/-- **Reading a token gives the flags it was written for, and nothing else does**:
a text is accepted exactly if its upper-case form is a token for that number of
actions. -/
theorem decode_eq_ok_iff {actions : Nat} {token : String} {flags : List Bool} :
    decode actions token = .ok flags ↔
      flags.length = actions ∧ token.toUpper = encode flags := by
  rw [decode_eq_ok_iff_words]
  constructor
  · rintro ⟨-, hcount, ws, hws, hlast, hflags⟩
    obtain ⟨hlt, hnums⟩ := wordsFrom_eq_ok_iff.mp hws
    have hlen : ws.length = wordCount actions := by
      rw [← hcount, ← List.length_map numeral, ← hnums, List.length_map]
    obtain ⟨hn, rfl⟩ := eq_words_iff.mpr ⟨hlen, hlt, hlast, hflags.symm⟩
    exact ⟨hn, toUpper_eq_encode_iff.mpr hnums⟩
  · rintro ⟨hn, htoken⟩
    have hnums := toUpper_eq_encode_iff.mp htoken
    obtain ⟨hlen, hlt, hlast, hflags⟩ := eq_words_iff.mp ⟨hn, rfl⟩
    refine ⟨fun c hc => ?_, ?_, words flags, wordsFrom_eq_ok_iff.mpr ⟨hlt, hnums⟩, hlast,
      hflags.symm⟩
    · have hmem : c.toUpper ∈ (encode flags).toList := by
        rw [← htoken, String.toUpper, String.toList_map]
        exact List.mem_map_of_mem hc
      rw [← isTokenChar_toUpper]
      exact isTokenChar_of_mem_encode hmem
    · rw [← hlen, ← List.length_map numeral, ← hnums, List.length_map]

/-- **A token is read as the flags it was written for.** -/
theorem decode_encode (flags : List Bool) : decode flags.length (encode flags) = .ok flags :=
  decode_eq_ok_iff.mpr ⟨rfl, toUpper_encode flags⟩

/-- **Reading is exact**: a text gives certain flags exactly if it is their token
but for letter case, it is accepted exactly if it is the token of some flags of
the right number, and every token is accepted for the flags it was written
for. -/
theorem decode_exact (actions : Nat) (token : String) (flags : List Bool) :
    (decode actions token = .ok flags ↔
        flags.length = actions ∧ token.toUpper = encode flags)
      ∧ ((decode actions token).isOk ↔
        ∃ fs : List Bool, fs.length = actions ∧ token.toUpper = encode fs)
      ∧ decode flags.length (encode flags) = .ok flags := by
  refine ⟨decode_eq_ok_iff, ?_, decode_encode flags⟩
  constructor
  · intro h
    cases hread : decode actions token with
    | ok fs => exact ⟨fs, decode_eq_ok_iff.mp hread⟩
    | error e => simp [hread, Except.isOk, Except.toBool] at h
  · rintro ⟨fs, hfs⟩
    rw [decode_eq_ok_iff.mpr hfs]
    rfl

example : decode 7 "a1" = .ok [true, false, false, false, false, true, false] := rfl

end Token

end CatchmentPlanning
