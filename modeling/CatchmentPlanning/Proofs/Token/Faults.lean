import CatchmentPlanning.Proofs.Token.BinaryNumber
import Mathlib.Data.Nat.Bitwise

/-!
# What is wrong with a text that is no token

Several things may be wrong with a text at once. What is reported is the first of them, in an
order in which the text as a whole comes before its groups: a character that no token has, then
the number of groups, then whatever is wrong with the first group that is not the numeral of a
word, and last the place of the closing flag (`Faulty`). The groups are looked at only once all
characters are known to be hex digits, and whether a number fits into a word is told from the
length of its numeral. This is the same only because a leading zero has been ruled out before
(`length_le_iff_lt`).

The last section reads a token as a machine does, with words that have 64 bits and lists that
end: an index may be out of range, a shift may be too wide, digits may be too many for a word
(`strictDecode`). None of this happens, for any text and any number of actions.
-/

namespace CatchmentPlanning

namespace Token

open Checks
open Text (hexValue? hexDigitsValue? pieces)

/-! ## Characters -/

/-- A hex digit, in either case. -/
def IsHexDigit (c : Char) : Prop := c ∈ "0123456789abcdefABCDEF".toList

/-- Hex digits are the characters that have a value. -/
theorem isSome_hexValue?_iff {c : Char} : (hexValue? c).isSome = true ↔ IsHexDigit c := by
  constructor
  · intro h
    have hcode : 48 ≤ c.toNat ∧ c.toNat ≤ 57 ∨ 97 ≤ c.toNat ∧ c.toNat ≤ 102
        ∨ 65 ≤ c.toNat ∧ c.toNat ≤ 70 := by
      rw [hexValue?_eq] at h
      grind
    have hdigit : ∀ n < 128, (48 ≤ n ∧ n ≤ 57 ∨ 97 ≤ n ∧ n ≤ 102 ∨ 65 ≤ n ∧ n ≤ 70) →
        Char.ofNat n ∈ "0123456789abcdefABCDEF".toList := by
      decide
    have hmem := hdigit c.toNat (by omega) hcode
    rwa [Char.ofNat_toNat] at hmem
  · have hdigits : ("0123456789abcdefABCDEF".toList.all fun c => (hexValue? c).isSome) = true := by
      decide
    exact List.all_eq_true.mp hdigits c

theorem isTokenChar_iff {c : Char} : isTokenChar c = true ↔ IsHexDigit c ∨ c = ':' := by
  rw [isTokenChar, Bool.or_eq_true, isSome_hexValue?_iff, beq_iff_eq]

/-- A run of hex digits has a value. -/
theorem exists_hexDigitsValue? (n : Nat) {cs : List Char} (h : ∀ c ∈ cs, IsHexDigit c) :
    ∃ v, hexDigitsValue? n cs = some v := by
  induction cs generalizing n with
  | nil => exact ⟨n, rfl⟩
  | cons c cs ih =>
    obtain ⟨hc, hcs⟩ := List.forall_mem_cons.mp h
    obtain ⟨d, hd⟩ := Option.isSome_iff_exists.mp (isSome_hexValue?_iff.mpr hc)
    simp only [hexDigitsValue?, hd]
    exact ih _ hcs

theorem hexDigitsValue?_eq_groupValue {group : List Char} (h : ∀ c ∈ group, IsHexDigit c) :
    hexDigitsValue? 0 group = some (groupValue group) := by
  obtain ⟨v, hv⟩ := exists_hexDigitsValue? 0 h
  rw [groupValue, hv, Option.getD_some]

/-- Of a list of things some of which are not in order, one comes first. -/
theorem exists_first {α : Type} {P : α → Prop} {l : List α} (h : ¬ ∀ a ∈ l, P a) :
    ∃ before a after, l = before ++ a :: after ∧ (∀ b ∈ before, P b) ∧ ¬ P a := by
  induction l with
  | nil => exact absurd (List.forall_mem_nil _) h
  | cons a l ih =>
    by_cases ha : P a
    · obtain ⟨before, b, after, rfl, hbefore, hb⟩ :=
        ih fun hall => h (List.forall_mem_cons.mpr ⟨ha, hall⟩)
      exact ⟨a :: before, b, after, rfl, List.forall_mem_cons.mpr ⟨ha, hbefore⟩, hb⟩
    · exact ⟨[], a, l, rfl, List.forall_mem_nil _, ha⟩

/-- The first character that no token has is found behind characters that tokens have. -/
theorem firstInvalid?_append {before after : List Char} {c : Char}
    (hbefore : ∀ d ∈ before, isTokenChar d = true) (hc : isTokenChar c = false) :
    firstInvalid? (before ++ c :: after) = some (c, before.length) := by
  have hnone : firstInvalid? before = none := firstInvalid?_eq_none_iff.mpr hbefore
  unfold firstInvalid? at hnone ⊢
  rw [List.zipIdx_append, List.find?_append, hnone, Option.none_or, List.zipIdx_cons,
    List.find?_cons_of_pos (by simp [hc]), Nat.zero_add]

/-! ## Groups -/

/-- **A group is the numeral of a word.** -/
structure IsWord (group : List Char) : Prop where
  ne_nil : group ≠ []
  noLeadingZero : group.head? = some '0' → group = ['0']
  lt : groupValue group < 2 ^ 64

/-- **What is wrong with a group**, which is the first of three things. -/
inductive GroupFault (index : Nat) : List Char → Fault → Prop
  | empty : GroupFault index [] (.emptyGroup index)
  | leadingZero {cs : List Char} (h : cs ≠ []) : GroupFault index ('0' :: cs) (.leadingZero index)
  /-- The number of the group does not fit into a word. -/
  | overflow {group : List Char} (hzero : group.head? = some '0' → group = ['0'])
      (hlarge : 2 ^ 64 ≤ groupValue group) : GroupFault index group (.groupOverflow index)

theorem head?_cons_eq_zero_iff {c : Char} {cs : List Char} :
    ((c :: cs).head? = some '0' → c :: cs = ['0']) ↔ (c = '0' → cs = []) := by
  rw [List.head?_cons, Option.some.injEq, List.cons.injEq]
  exact ⟨fun h hc => (h hc).2, fun h hc => ⟨hc, h hc⟩⟩

/-- Without a leading zero, a group of at most sixteen digits is a number that fits into a
word, and a longer one is not. -/
theorem length_le_iff_lt {c : Char} {cs : List Char} (h : ∀ d ∈ c :: cs, IsHexDigit d)
    (hzero : c = '0' → cs = []) :
    (c :: cs).length ≤ wordSize / 4 ↔ groupValue (c :: cs) < 2 ^ 64 := by
  rw [← List.length_map Char.toUpper,
    map_toUpper_eq_numeral hzero (hexDigitsValue?_eq_groupValue h), length_numeral_le_iff]
  rfl

variable {index : Nat} {group : List Char} {fault : Fault}

/-- A group that is in order is read as its number. -/
theorem word_of_isWord (h : ∀ c ∈ group, IsHexDigit c) (hword : IsWord group) (index : Nat) :
    word index group = .ok (groupValue group) := by
  cases group with
  | nil => exact absurd rfl hword.ne_nil
  | cons c cs =>
    have hzero := head?_cons_eq_zero_iff.mp hword.noLeadingZero
    exact word_cons_eq_ok_iff.mpr
      ⟨hzero, (length_le_iff_lt h hzero).mpr hword.lt, hexDigitsValue?_eq_groupValue h⟩

/-- A group that is not in order is not read, and the report says what is wrong. -/
theorem word_of_groupFault (h : ∀ c ∈ group, IsHexDigit c) (hfault : GroupFault index group fault) :
    word index group = .error fault := by
  cases hfault with
  | empty => rfl
  | leadingZero hcs => exact if_pos ⟨rfl, hcs⟩
  | overflow hzero hlarge =>
    cases group with
    | nil => exact absurd hlarge (by decide)
    | cons c cs =>
      have hzero := head?_cons_eq_zero_iff.mp hzero
      have hlong : wordSize / 4 < (c :: cs).length := Nat.lt_of_not_le fun hle =>
        Nat.not_lt.mpr hlarge ((length_le_iff_lt h hzero).mp hle)
      rw [word, if_neg fun hlead => hlead.2 (hzero hlead.1), if_pos hlong]

/-- A group is in order, or something is wrong with it. -/
theorem isWord_or_groupFault (index : Nat) (group : List Char) :
    IsWord group ∨ ∃ fault, GroupFault index group fault := by
  cases group with
  | nil => exact .inr ⟨_, .empty⟩
  | cons c cs =>
    by_cases hlead : c = '0' ∧ cs ≠ []
    · obtain ⟨rfl, hcs⟩ := hlead
      exact .inr ⟨_, .leadingZero hcs⟩
    · have hzero : c = '0' → cs = [] := by simpa using hlead
      have hzero := head?_cons_eq_zero_iff.mpr hzero
      by_cases hlt : groupValue (c :: cs) < 2 ^ 64
      · exact .inl ⟨List.cons_ne_nil _ _, hzero, hlt⟩
      · exact .inr ⟨_, .overflow hzero (Nat.le_of_not_lt hlt)⟩

/-- **Groups that are all in order** are read as their numbers. -/
theorem wordsFrom_of_isWord {groups : List (List Char)} (index : Nat)
    (h : ∀ group ∈ groups, ∀ c ∈ group, IsHexDigit c) (hwords : ∀ group ∈ groups, IsWord group) :
    wordsFrom index groups = .ok (groups.map groupValue) := by
  induction groups generalizing index with
  | nil => rfl
  | cons group groups ih =>
    obtain ⟨hgroup, hrest⟩ := List.forall_mem_cons.mp h
    obtain ⟨hword, hwords⟩ := List.forall_mem_cons.mp hwords
    rw [wordsFrom, word_of_isWord hgroup hword, ok_bind, ih (index + 1) hrest hwords]
    rfl

/-- **The first group that is not in order** decides what is reported. -/
theorem wordsFrom_of_groupFault {before after : List (List Char)} (index : Nat)
    (h : ∀ g ∈ before ++ group :: after, ∀ c ∈ g, IsHexDigit c)
    (hbefore : ∀ g ∈ before, IsWord g) (hfault : GroupFault (index + before.length) group fault) :
    wordsFrom index (before ++ group :: after) = .error fault := by
  induction before generalizing index with
  | nil =>
    have hword : word index group = .error fault :=
      word_of_groupFault (h _ List.mem_cons_self) hfault
    rw [List.nil_append, wordsFrom, hword, error_bind]
  | cons g before ih =>
    obtain ⟨hg, hrest⟩ := List.forall_mem_cons.mp h
    obtain ⟨hword, hwords⟩ := List.forall_mem_cons.mp hbefore
    rw [List.length_cons, ← Nat.add_assoc, Nat.add_right_comm] at hfault
    rw [List.cons_append, wordsFrom, word_of_isWord hg hword, ok_bind,
      ih (index + 1) hrest hwords hfault, error_bind]

/-! ## The closing flag -/

/-- The highest bit of a number. -/
structure IsHighestBit (n k : Nat) : Prop where
  set : n.testBit k = true
  highest : ∀ i, k < i → n.testBit i = false

theorem isHighestBit_iff {n k : Nat} : IsHighestBit n k ↔ n / 2 ^ k = 1 := by
  constructor
  · intro h
    refine Nat.eq_of_testBit_eq fun i => ?_
    rw [Nat.testBit_div_two_pow]
    cases i with
    | zero => rw [Nat.zero_add, h.set]; rfl
    | succ i =>
      rw [h.highest _ (by omega), Nat.testBit_succ]
      simp
  · intro h
    have hbit (i : Nat) : n.testBit (i + k) = Nat.testBit 1 i := by
      rw [← Nat.testBit_div_two_pow, h]
    refine ⟨by simpa using hbit 0, fun i hi => ?_⟩
    obtain ⟨d, rfl⟩ := Nat.exists_eq_add_of_lt hi
    rw [show k + d + 1 = d + 1 + k by omega, hbit, Nat.testBit_succ]
    simp

/-! ## Texts -/

/-- **What is wrong with a text** that is no token for a number of actions, which is the first of
these things. -/
inductive Faulty (actions : Nat) (token : String) : Fault → Prop
  /-- A character is neither a hex digit nor a colon. -/
  | invalidCharacter {before after : List Char} {c : Char}
      (htoken : token.toList = before ++ c :: after)
      (hbefore : ∀ d ∈ before, IsHexDigit d ∨ d = ':') (hc : ¬ (IsHexDigit c ∨ c = ':')) :
      Faulty actions token (.invalidCharacter c before.length)
  /-- There are too few or too many groups. -/
  | groupCount (hchars : ∀ c ∈ token.toList, IsHexDigit c ∨ c = ':')
      (hcount : (groups token).length ≠ actions / 64 + 1) :
      Faulty actions token (.groupCount (actions / 64 + 1) (groups token).length actions)
  /-- A group is not the numeral of a word. -/
  | group {before after : List (List Char)} {group : List Char} {fault : Fault}
      (hchars : ∀ c ∈ token.toList, IsHexDigit c ∨ c = ':')
      (hcount : (groups token).length = actions / 64 + 1)
      (hgroups : groups token = before ++ group :: after) (hbefore : ∀ g ∈ before, IsWord g)
      (hfault : GroupFault before.length group fault) : Faulty actions token fault
  /-- The closing flag is not where the number of actions puts it. -/
  | lengthMismatch {before : List (List Char)} {top : List Char}
      (hchars : ∀ c ∈ token.toList, IsHexDigit c ∨ c = ':')
      (hcount : (groups token).length = actions / 64 + 1)
      (hgroups : groups token = before ++ [top]) (hwords : ∀ g ∈ groups token, IsWord g)
      (hbit : ¬ IsHighestBit (groupValue top) (actions % 64)) :
      Faulty actions token (.lengthMismatch actions)

variable {actions : Nat} {token : String}

/-- Groups of hex digits are left between the colons. -/
theorem isHexDigit_of_mem_groups (hchars : ∀ c ∈ token.toList, IsHexDigit c ∨ c = ':') :
    ∀ group ∈ groups token, ∀ c ∈ group, IsHexDigit c := by
  intro group hgroup c hc
  refine (hchars c (Text.mem_of_mem_pieces hgroup hc)).resolve_right ?_
  rintro rfl
  exact Text.not_mem_of_mem_pieces hgroup hc

/-- Reading a text of hex digits and colons that has as many groups as it should. -/
theorem decode_eq_of_groups (hchars : ∀ c ∈ token.toList, IsHexDigit c ∨ c = ':')
    (hcount : (groups token).length = actions / 64 + 1) :
    decode actions token = (wordsFrom 0 (groups token)).bind fun ws =>
      if ws.getLastD 0 / 2 ^ (actions % 64) = 1 then .ok ((ws.flatMap (bits wordSize)).take actions)
      else .error (.lengthMismatch actions) := by
  have hnone : firstInvalid? token.toList = none :=
    firstInvalid?_eq_none_iff.mpr fun c hc => isTokenChar_iff.mpr (hchars c hc)
  have hcount' : (pieces ':' token.toList).length = wordCount actions := hcount
  unfold decode
  dsimp only
  rw [hnone]
  dsimp only
  rw [if_pos hcount']
  rfl

/-- If all groups are in order, the last one decides. -/
theorem decode_eq_of_isWord {before : List (List Char)} {top : List Char}
    (hchars : ∀ c ∈ token.toList, IsHexDigit c ∨ c = ':')
    (hcount : (groups token).length = actions / 64 + 1) (hgroups : groups token = before ++ [top])
    (hwords : ∀ g ∈ groups token, IsWord g) :
    decode actions token = if groupValue top / 2 ^ (actions % 64) = 1 then
        .ok ((((groups token).map groupValue).flatMap (bits wordSize)).take actions)
      else .error (.lengthMismatch actions) := by
  have hlast : ((groups token).map groupValue).getLastD 0 = groupValue top := by
    rw [hgroups, List.map_append, List.map_singleton, List.getLastD_concat]
  rw [decode_eq_of_groups hchars hcount,
    wordsFrom_of_isWord 0 (isHexDigit_of_mem_groups hchars) hwords, Except.bind, hlast]

/-- **What is wrong is reported.** -/
theorem Faulty.decode_eq (h : Faulty actions token fault) :
    decode actions token = .error fault := by
  cases h with
  | @invalidCharacter before after c htoken hbefore hc =>
    have hfirst : firstInvalid? token.toList = some (c, before.length) := by
      rw [htoken]
      refine firstInvalid?_append (fun d hd => isTokenChar_iff.mpr (hbefore d hd)) ?_
      exact Bool.eq_false_iff.mpr fun h => hc (isTokenChar_iff.mp h)
    unfold decode
    dsimp only
    rw [hfirst]
    rfl
  | groupCount hchars hcount =>
    have hnone : firstInvalid? token.toList = none :=
      firstInvalid?_eq_none_iff.mpr fun c hc => isTokenChar_iff.mpr (hchars c hc)
    have hcount' : (pieces ':' token.toList).length ≠ wordCount actions := hcount
    unfold decode
    dsimp only
    rw [hnone]
    dsimp only
    rw [if_neg hcount']
    rfl
  | @group before after group _ hchars hcount hgroups hbefore hfault =>
    have hdigits := isHexDigit_of_mem_groups hchars
    rw [hgroups] at hdigits
    have hwords : wordsFrom 0 (before ++ group :: after) = .error fault :=
      wordsFrom_of_groupFault 0 hdigits hbefore ((Nat.zero_add before.length).symm ▸ hfault)
    rw [decode_eq_of_groups hchars hcount, hgroups, hwords]
    rfl
  | lengthMismatch hchars hcount hgroups hwords hbit =>
    rw [decode_eq_of_isWord hchars hcount hgroups hwords,
      if_neg fun h => hbit (isHighestBit_iff.mpr h)]

/-- **A text in which nothing is wrong is read.** -/
theorem faulty_or_decode_eq (actions : Nat) (token : String) :
    (∃ fault, Faulty actions token fault) ∨ ∃ flags, decode actions token = .ok flags := by
  by_cases hchars : ∀ c ∈ token.toList, IsHexDigit c ∨ c = ':'
  · by_cases hcount : (groups token).length = actions / 64 + 1
    · by_cases hwords : ∀ group ∈ groups token, IsWord group
      · obtain ⟨before, top, hgroups⟩ :=
          (List.eq_nil_or_concat (groups token)).resolve_left (Text.pieces_ne_nil ':' _)
        rw [List.concat_eq_append] at hgroups
        by_cases hbit : IsHighestBit (groupValue top) (actions % 64)
        · exact .inr ⟨_, (decode_eq_of_isWord hchars hcount hgroups hwords).trans
            (if_pos (isHighestBit_iff.mp hbit))⟩
        · exact .inl ⟨_, .lengthMismatch hchars hcount hgroups hwords hbit⟩
      · obtain ⟨before, group, after, hgroups, hbefore, hgroup⟩ := exists_first hwords
        obtain ⟨fault, hfault⟩ := (isWord_or_groupFault before.length group).resolve_left hgroup
        exact .inl ⟨fault, .group hchars hcount hgroups hbefore hfault⟩
    · exact .inl ⟨_, .groupCount hchars hcount⟩
  · obtain ⟨before, c, after, htoken, hbefore, hc⟩ := exists_first hchars
    exact .inl ⟨_, .invalidCharacter htoken hbefore hc⟩

/-- **The report says what is wrong**, and nothing else is reported. -/
theorem decode_eq_error_iff : decode actions token = .error fault ↔ Faulty actions token fault := by
  refine ⟨fun h => ?_, Faulty.decode_eq⟩
  obtain ⟨fault', hfault⟩ | ⟨flags, hflags⟩ := faulty_or_decode_eq actions token
  · obtain rfl : fault' = fault := Except.error.inj (hfault.decode_eq.symm.trans h)
    exact hfault
  · cases hflags.symm.trans h

/-! ## Reading with words that have 64 bits -/

/-- Shifts a word to the right; the width of a shift is less than that of a word. -/
def shiftedRight? (w k : Nat) : Option Nat := if k < wordSize then some (w >>> k) else none

/-- Shifts a word to the left, losing what goes beyond its highest bit. -/
def shiftedLeft? (w k : Nat) : Option Nat :=
  if k < wordSize then some ((w <<< k) % 2 ^ wordSize) else none

/-- An outcome if there is one. -/
def ifDefined {α : Type} (a : Option α) : ExceptT Fault Option α := ExceptT.lift a

/-- Reads the group at an index as a word. There is no outcome if sixteen digits or fewer are no
number, or one that does not fit into a word. -/
def strictWord (index : Nat) (group : List Char) : ExceptT Fault Option Nat := do
  if group.isEmpty then throw (.emptyGroup index)
  if 1 < group.length ∧ group.head? = some '0' then throw (.leadingZero index)
  if 16 < group.length then throw (.groupOverflow index)
  ifDefined ((hexDigitsValue? 0 group).filter (· < 2 ^ wordSize))

/-- The flag at an index in words. There is no outcome if there is no such word, or if the mask
for its bit is too wide for a word. -/
def strictFlag (ws : List Nat) (index : Nat) : Option Bool := do
  let w ← ws[index / wordSize]?
  let mask ← shiftedLeft? 1 (index % wordSize)
  return w &&& mask ≠ 0

/-- Reads the flags off the words. There is no outcome if there is no last word or not a bit for
each flag. -/
def strictFlags (actions : Nat) (ws : List Nat) : ExceptT Fault Option (List Bool) := do
  let top ← ifDefined ws[ws.length - 1]?
  let high ← ifDefined (shiftedRight? top (actions % wordSize))
  if high ≠ 1 then throw (.lengthMismatch actions)
  (List.range actions).mapM fun index => ifDefined (strictFlag ws index)

/-- Reads a token step by step. There is no outcome if a step cannot be taken: an index is out
of range, a shift is too wide, or a group is no word although nothing is wrong with it. -/
def strictDecode (actions : Nat) (token : String) : ExceptT Fault Option (List Bool) := do
  if let some (c, position) := firstInvalid? token.toList then
    throw (.invalidCharacter c position)
  if (groups token).length ≠ wordCount actions then
    throw (.groupCount (wordCount actions) (groups token).length actions)
  let ws ← (groups token).zipIdx.mapM fun g => strictWord g.2 g.1
  strictFlags actions ws

/-- An outcome that is there. -/
def defined {α : Type} (outcome : Except Fault α) : ExceptT Fault Option α :=
  ExceptT.mk (some outcome)

theorem defined_bind {α β : Type} (x : Except Fault α) (f : α → ExceptT Fault Option β) :
    (defined x >>= f) = match x with
      | .ok a => f a
      | .error e => defined (.error e) := by
  cases x <;> rfl

theorem ifDefined_some_bind {α β : Type} (a : α) (f : α → ExceptT Fault Option β) :
    (ifDefined (some a) >>= f) = f a := rfl

/-- A group of hex digits has an outcome. -/
theorem strictWord_eq (h : ∀ c ∈ group, IsHexDigit c) (index : Nat) :
    strictWord index group = defined (word index group) := by
  cases group with
  | nil => rfl
  | cons c cs =>
    have hlead : (1 < (c :: cs).length ∧ (c :: cs).head? = some '0') ↔ c = '0' ∧ cs ≠ [] := by
      rw [List.head?_cons, Option.some.injEq, List.length_cons, Nat.lt_add_left_iff_pos,
        List.length_pos_iff, and_comm]
    rw [strictWord, word, if_neg (by simp)]
    by_cases hzero : c = '0' ∧ cs ≠ []
    · rw [if_pos (hlead.mpr hzero), if_pos hzero]
      rfl
    · rw [if_neg fun h => hzero (hlead.mp h), if_neg hzero]
      by_cases hlong : wordSize / 4 < (c :: cs).length
      · rw [if_pos hlong, if_pos (show 16 < (c :: cs).length from hlong)]
        rfl
      · have hlt := (length_le_iff_lt h (by simpa using hzero)).mp (Nat.le_of_not_lt hlong)
        rw [if_neg hlong, if_neg (show ¬ 16 < (c :: cs).length from hlong),
          hexDigitsValue?_eq_groupValue h, Option.filter_some,
          if_pos (decide_eq_true (show groupValue (c :: cs) < 2 ^ wordSize from hlt))]
        rfl

theorem mapM_strictWord_eq {groups : List (List Char)}
    (h : ∀ group ∈ groups, ∀ c ∈ group, IsHexDigit c) (index : Nat) :
    (groups.zipIdx index).mapM (fun g => strictWord g.2 g.1)
      = defined (wordsFrom index groups) := by
  induction groups generalizing index with
  | nil => rfl
  | cons group groups ih =>
    obtain ⟨hgroup, hrest⟩ := List.forall_mem_cons.mp h
    rw [List.zipIdx_cons, List.mapM_cons, strictWord_eq hgroup, ih hrest, wordsFrom, defined_bind]
    cases word index group with
    | error e => rfl
    | ok w =>
      dsimp only
      rw [defined_bind, ok_bind]
      cases wordsFrom (index + 1) groups <;> rfl

/-- The bits of words are found by the word and the place in it. -/
theorem getElem?_flatMap_bits (ws : List Nat) (i : Nat) :
    (ws.flatMap (bits wordSize))[i]? = ws[i / wordSize]?.map (·.testBit (i % wordSize)) := by
  induction ws generalizing i with
  | nil => rfl
  | cons w ws ih =>
    rw [List.flatMap_cons]
    by_cases hi : i < wordSize
    · rw [List.getElem?_append_left (by simpa using hi), Nat.div_eq_of_lt hi, Nat.mod_eq_of_lt hi]
      simp [bits, hi]
    · obtain ⟨j, rfl⟩ := Nat.exists_eq_add_of_le (Nat.le_of_not_lt hi)
      rw [List.getElem?_append_right (by simp), length_bits, Nat.add_sub_cancel_left, ih,
        Nat.add_div_left _ (by decide), Nat.add_mod_left, List.getElem?_cons_succ]

/-- The flag at an index is the bit at this place of the words. -/
theorem strictFlag_eq (ws : List Nat) (i : Nat) :
    strictFlag ws i = (ws.flatMap (bits wordSize))[i]? := by
  have hshift : i % wordSize < wordSize := Nat.mod_lt _ (by decide)
  have hone : 2 ^ (i % wordSize) < 2 ^ wordSize := Nat.pow_lt_pow_right (by decide) hshift
  have hmask : shiftedLeft? 1 (i % wordSize) = some (2 ^ (i % wordSize)) := by
    rw [shiftedLeft?, if_pos hshift, Nat.one_shiftLeft, Nat.mod_eq_of_lt hone]
  have hbit (w : Nat) : decide (w &&& 2 ^ (i % wordSize) ≠ 0) = w.testBit (i % wordSize) := by
    rw [Nat.and_two_pow]
    cases w.testBit (i % wordSize) <;> simp
  rw [getElem?_flatMap_bits, strictFlag, hmask]
  cases ws[i / wordSize]? with
  | none => rfl
  | some w => exact congrArg some (hbit w)

/-- Flags are read one by one as far as there are any. -/
theorem mapM_range_eq (flags : List Bool) {n : Nat} (hn : n ≤ flags.length) :
    (List.range n).mapM (fun i => ifDefined flags[i]?) = defined (.ok (flags.take n)) := by
  induction n with
  | zero => rfl
  | succ n ih =>
    have hlt : n < flags.length := hn
    rw [List.range_succ, List.mapM_append, ih (Nat.le_of_succ_le hn), List.mapM_cons,
      List.getElem?_eq_getElem hlt, List.take_add_one, List.getElem?_eq_getElem hlt]
    rfl

/-- With as many words as there should be, there is a last one and a bit for each flag. -/
theorem strictFlags_eq {actions : Nat} {ws : List Nat} (hlength : ws.length = actions / 64 + 1) :
    strictFlags actions ws = defined
      (if ws.getLastD 0 / 2 ^ (actions % 64) = 1 then
          .ok ((ws.flatMap (bits wordSize)).take actions)
        else .error (.lengthMismatch actions)) := by
  have htop : ws[ws.length - 1]? = some (ws.getLastD 0) := by
    rw [← List.getLast?_eq_getElem?]
    cases ws with
    | nil => cases hlength
    | cons w ws => rw [List.getLast?_cons, List.getLastD_cons, List.getLastD_eq_getLast?]
  have hshift : shiftedRight? (ws.getLastD 0) (actions % wordSize)
      = some (ws.getLastD 0 / 2 ^ (actions % 64)) := by
    rw [shiftedRight?, if_pos (Nat.mod_lt _ (by decide)), Nat.shiftRight_eq_div_pow]
    rfl
  have hflags : actions ≤ (ws.flatMap (bits wordSize)).length := by
    rw [length_flatMap_bits, hlength, wordSize]
    omega
  have hread : (List.range actions).mapM (fun index => ifDefined (strictFlag ws index))
      = defined (.ok ((ws.flatMap (bits wordSize)).take actions)) := by
    simp only [strictFlag_eq]
    exact mapM_range_eq _ hflags
  rw [strictFlags, htop, ifDefined_some_bind, hshift, ifDefined_some_bind, hread]
  by_cases hclosing : ws.getLastD 0 / 2 ^ (actions % 64) = 1
  · rw [if_neg (not_not_intro hclosing), if_pos hclosing]
  · rw [if_pos hclosing, if_neg hclosing]
    rfl

/-- There are as many words as groups. -/
theorem length_of_wordsFrom {index : Nat} {groups : List (List Char)} {ws : List Nat}
    (h : wordsFrom index groups = .ok ws) : ws.length = groups.length := by
  simpa using (congrArg List.length (wordsFrom_eq_ok_iff.mp h).2).symm

/-- **Every step can be taken.** -/
theorem strictDecode_eq (actions : Nat) (token : String) :
    strictDecode actions token = defined (decode actions token) := by
  unfold strictDecode
  cases hfirst : firstInvalid? token.toList with
  | some invalid =>
    unfold decode
    dsimp only
    rw [hfirst]
    rfl
  | none =>
    have hchars : ∀ c ∈ token.toList, IsHexDigit c ∨ c = ':' := fun c hc =>
      isTokenChar_iff.mp (firstInvalid?_eq_none_iff.mp hfirst c hc)
    dsimp only
    by_cases hcount : (groups token).length = wordCount actions
    · rw [if_neg (not_not_intro hcount), decode_eq_of_groups hchars hcount,
        mapM_strictWord_eq (isHexDigit_of_mem_groups hchars), defined_bind]
      cases hws : wordsFrom 0 (groups token) with
      | error fault => rfl
      | ok ws => exact strictFlags_eq ((length_of_wordsFrom hws).trans hcount)
    · rw [if_pos hcount, (Faulty.groupCount hchars hcount).decode_eq]
      rfl

/-- **What is reported of a text that is no token is right, and reading never goes wrong.** A
fault is reported exactly if it is the first one of the text: a character that is neither a hex
digit nor a colon, by its position; otherwise a number of groups that is not one for every 64
actions and one more; otherwise the first group that is empty, has a leading zero, or is a number
that needs more than 64 bits; otherwise a highest bit of the last group that is not the one the
number of actions says. There are flags exactly if there is no fault. No step of reading looks
for something that is not there. -/
theorem first_fault_is_reported (actions : Nat) (token : String) :
    (∀ fault, decode actions token = .error fault ↔ Faulty actions token fault)
      ∧ ((∃ flags, decode actions token = .ok flags) ↔ ∀ fault, ¬ Faulty actions token fault)
      ∧ (strictDecode actions token).run = some (decode actions token) := by
  refine ⟨fun fault => decode_eq_error_iff, ?_,
    congrArg ExceptT.run (strictDecode_eq actions token)⟩
  constructor
  · rintro ⟨flags, hflags⟩ fault hfault
    cases hflags.symm.trans hfault.decode_eq
  · intro hnone
    obtain ⟨fault, hfault⟩ | hflags := faulty_or_decode_eq actions token
    · exact absurd hfault (hnone fault)
    · exact hflags

/-- Of a group that is empty, one with a leading zero and a character that no token has, the
character is reported, and its position counts characters and not bytes. -/
example : decode 70 ":0é" = .error (.invalidCharacter 'é' 2) := by
  decide +kernel

end Token

end CatchmentPlanning
