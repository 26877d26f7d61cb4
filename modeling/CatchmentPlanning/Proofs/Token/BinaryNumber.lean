import CatchmentPlanning.Proofs.Token.Exactness
import Mathlib.Data.Nat.Digits.Lemmas

/-!
# A token is a binary number

The groups of a token are digits to the base `2 ^ 64`, lowest digit first, so that a token
writes a number. This number is the plain one: a power of two for each active flag, at the
place of the flag, and one for the closing flag behind them (`number_encode`).

That has nothing to do with how the flags are put into words. They may be cut into runs of 64,
as they are here, or be packed into bytes of eight flags each, of which eight at a time are then
read as a word, the lowest byte first (`byteWords`). Either way the words have the same number of
digits and the same number, and a number has only one such sequence of digits
(`words_eq_byteWords`).
-/

namespace CatchmentPlanning

namespace Token

/-! ## Words are digits -/

/-- A sum over places is a number of digits. -/
theorem sum_mapIdx_eq_ofDigits {α : Type} (base : Nat) (f : α → Nat) (l : List α) :
    (l.mapIdx fun i a => f a * base ^ i).sum = Nat.ofDigits base (l.map f) := by
  have hmap : (l.map f).mapIdx (fun i a => a * base ^ i) = l.mapIdx fun i a => f a * base ^ i :=
    List.ext_getElem? (by simp [Function.comp_def])
  rw [Nat.ofDigits_eq_sum_mapIdx, ← hmap]

/-- Bits are the digits of their number to the base two. -/
theorem binary_eq_ofDigits (bits : List Bool) :
    binary bits = Nat.ofDigits 2 (bits.map Bool.toNat) := by
  induction bits with
  | nil => rfl
  | cons b bits ih => rw [binary, ih, List.map_cons, Nat.ofDigits_cons]

/-- The words that bits are cut into are the digits of their number to the base `2 ^ 64`. -/
theorem ofDigits_packed (bits : List Bool) :
    Nat.ofDigits (2 ^ wordSize) (packed bits) = binary bits := by
  fun_induction packed bits with
  | case1 => rfl
  | case2 b bs ih =>
    rw [Nat.ofDigits_cons, ih]
    conv_rhs => rw [← List.take_append_drop wordSize (b :: bs), binary_append]
    by_cases h : (b :: bs).length ≤ wordSize
    · -- nothing is left behind a short word
      rw [List.drop_of_length_le h, binary, Nat.mul_zero, Nat.mul_zero]
    · rw [List.length_take_of_le (Nat.le_of_not_le h)]

/-! ## Bytes -/

/-- Sets a bit in a sequence of bytes, which have eight each. -/
def setBit (bytes : List UInt8) (i : Nat) : List UInt8 :=
  bytes.modify (i / 8) (· ||| 1 <<< UInt8.ofNat (i % 8))

/-- The positions of the active flags, in order. -/
def activePositions (flags : List Bool) : List Nat :=
  (List.range flags.length).filter fun i => flags.getD i false

/-- The flags in bytes of eight: the bits of the active ones are set, and then the bit of the
closing flag. -/
def bytes (flags : List Bool) : List UInt8 :=
  setBit ((activePositions flags).foldl setBit (List.replicate (flags.length / 8 + 1) 0))
    flags.length

/-- The number of a sequence of bytes, the lowest byte first. -/
def littleEndian (bytes : List UInt8) : Nat := Nat.ofDigits 256 (bytes.map UInt8.toNat)

@[simp] theorem length_setBit (bytes : List UInt8) (i : Nat) :
    (setBit bytes i).length = bytes.length :=
  List.length_modify ..

@[simp] theorem length_foldl_setBit (positions : List Nat) (bytes : List UInt8) :
    (positions.foldl setBit bytes).length = bytes.length := by
  induction positions generalizing bytes with
  | nil => rfl
  | cons i positions ih => rw [List.foldl_cons, ih, length_setBit]

@[simp] theorem length_bytes (flags : List Bool) :
    (bytes flags).length = flags.length / 8 + 1 := by
  rw [bytes, length_setBit, length_foldl_setBit, List.length_replicate]

theorem mem_activePositions_iff {flags : List Bool} {i : Nat} :
    i ∈ activePositions flags ↔ flags[i]? = some true := by
  rw [activePositions, List.mem_filter, List.mem_range, List.getD_eq_getElem?_getD]
  constructor
  · rintro ⟨hi, hactive⟩
    rw [List.getElem?_eq_getElem hi, Option.getD_some] at hactive
    rw [List.getElem?_eq_getElem hi, hactive]
  · intro h
    exact ⟨(List.getElem?_eq_some_iff.mp h).1, by rw [h]; rfl⟩

/-- Bit by bit, a sequence of bytes is its number. -/
theorem testBit_littleEndian (bytes : List UInt8) (i : Nat) :
    (littleEndian bytes).testBit i = (bytes.getD (i / 8) 0).toNat.testBit (i % 8) := by
  induction bytes generalizing i with
  | nil => simp [littleEndian]
  | cons b bytes ih =>
    have hsplit : littleEndian (b :: bytes) = 2 ^ 8 * littleEndian bytes + b.toNat := by
      rw [littleEndian, List.map_cons, Nat.ofDigits_cons, Nat.add_comm]
      rfl
    rw [hsplit, Nat.testBit_two_pow_mul_add _ b.toNat_lt]
    by_cases hi : i < 8
    · rw [if_pos hi, Nat.div_eq_of_lt hi, Nat.mod_eq_of_lt hi, List.getD_cons_zero]
    · rw [if_neg hi, ih, show i / 8 = (i - 8) / 8 + 1 by omega, List.getD_cons_succ,
        show (i - 8) % 8 = i % 8 by omega]

/-- The bits of a byte in which one more has been set. -/
theorem testBit_or_shiftLeft (b : UInt8) {j k : Nat} (hj : j < 8) (hk : k < 8) :
    (b ||| 1 <<< UInt8.ofNat k).toNat.testBit j = (b.toNat.testBit j || decide (j = k)) := by
  have hmask : ∀ j < 8, ∀ k < 8,
      ((1 : UInt8) <<< UInt8.ofNat k).toNat.testBit j = decide (j = k) := by
    decide
  rw [UInt8.toNat_or, Nat.testBit_or, hmask j hj k hk]

/-- **The bit that is set is that of the number**, and no other one changes. -/
theorem testBit_littleEndian_setBit {bytes : List UInt8} {i : Nat} (hi : i / 8 < bytes.length)
    (j : Nat) :
    (littleEndian (setBit bytes i)).testBit j
      = ((littleEndian bytes).testBit j || decide (j = i)) := by
  rw [testBit_littleEndian, testBit_littleEndian, setBit, List.getD_eq_getElem?_getD,
    List.getD_eq_getElem?_getD, List.getElem?_modify]
  by_cases hbyte : i / 8 = j / 8
  · have hj : j / 8 < bytes.length := hbyte ▸ hi
    simp only [hbyte, if_true, List.getElem?_eq_getElem hj, Option.map_eq_map, Option.map_some,
      Option.getD_some]
    rw [testBit_or_shiftLeft _ (Nat.mod_lt _ (by decide)) (Nat.mod_lt _ (by decide))]
    congr 1
    exact decide_eq_decide.mpr (by omega)
  · have hne : j ≠ i := fun h => hbyte (h ▸ rfl)
    simp only [hbyte, if_false, id_map', decide_eq_false hne, Bool.or_false]

theorem testBit_littleEndian_foldl_setBit {positions : List Nat} {bytes : List UInt8}
    (h : ∀ i ∈ positions, i / 8 < bytes.length) (j : Nat) :
    (littleEndian (positions.foldl setBit bytes)).testBit j
      = ((littleEndian bytes).testBit j || decide (j ∈ positions)) := by
  induction positions generalizing bytes with
  | nil => simp
  | cons i positions ih =>
    obtain ⟨hi, hrest⟩ := List.forall_mem_cons.mp h
    rw [List.foldl_cons, ih (by simpa using hrest), testBit_littleEndian_setBit hi, Bool.or_assoc,
      ← Bool.decide_or]
    simp only [List.mem_cons]

/-- **The bytes have the number of the flags** with the closing flag behind them. -/
theorem littleEndian_bytes (flags : List Bool) :
    littleEndian (bytes flags) = binary (flags ++ [true]) := by
  have hactive : ∀ i ∈ activePositions flags,
      i / 8 < (List.replicate (flags.length / 8 + 1) (0 : UInt8)).length := by
    intro i hi
    have hlt := (List.getElem?_eq_some_iff.mp (mem_activePositions_iff.mp hi)).1
    rw [List.length_replicate]
    omega
  have hzero : littleEndian (List.replicate (flags.length / 8 + 1) 0) = 0 := by
    rw [littleEndian, List.map_replicate]
    exact Nat.ofDigits_replicate_zero
  refine Nat.eq_of_testBit_eq fun j => ?_
  rw [bytes, testBit_littleEndian_setBit (by simp),
    testBit_littleEndian_foldl_setBit hactive, hzero, Nat.zero_testBit, Bool.false_or,
    testBit_binary, List.getD_eq_getElem?_getD]
  obtain hj | rfl | hj := Nat.lt_trichotomy j flags.length
  · rw [List.getElem?_append_left hj, decide_eq_false (Nat.ne_of_lt hj), Bool.or_false,
      List.getElem?_eq_getElem hj, Option.getD_some]
    simp [mem_activePositions_iff, List.getElem?_eq_getElem hj]
  · simp
  · have hnone : (flags ++ [true])[j]? = none := List.getElem?_eq_none (by simp; omega)
    have hfar : flags[j]? = none := List.getElem?_eq_none (Nat.le_of_lt hj)
    rw [hnone, decide_eq_false (Nat.ne_of_gt hj)]
    simp [mem_activePositions_iff, hfar]

/-! ## Bytes as words -/

/-- Bytes cut into runs of eight, of which only the last one may be short. -/
def chunks (bytes : List UInt8) : List (List UInt8) :=
  match bytes with
  | [] => []
  | b :: bs => (b :: bs).take 8 :: chunks ((b :: bs).drop 8)
termination_by bytes.length
decreasing_by simp only [List.length_drop, List.length_cons]; omega

/-- Eight bytes, of which the missing ones are zero. -/
def padded (chunk : List UInt8) : List UInt8 := chunk ++ List.replicate (8 - chunk.length) 0

/-- The words of a sequence of flags, byte by byte. -/
def byteWords (flags : List Bool) : List Nat :=
  (chunks (bytes flags)).map fun chunk => littleEndian (padded chunk)

theorem length_chunks (bytes : List UInt8) : (chunks bytes).length = (bytes.length + 7) / 8 := by
  fun_induction chunks bytes with
  | case1 => rfl
  | case2 b bs ih =>
    rw [List.length_cons, ih, List.length_drop, List.length_cons]
    omega

theorem length_le_of_mem_chunks {bytes chunk : List UInt8} (h : chunk ∈ chunks bytes) :
    chunk.length ≤ 8 := by
  fun_induction chunks bytes with
  | case1 => cases h
  | case2 b bs ih =>
    obtain rfl | h := List.mem_cons.mp h
    · exact List.length_take_le ..
    · exact ih h

theorem littleEndian_padded (chunk : List UInt8) :
    littleEndian (padded chunk) = littleEndian chunk := by
  rw [littleEndian, littleEndian, padded, List.map_append, List.map_replicate]
  exact Nat.ofDigits_append_replicate_zero _

/-- The words that bytes are cut into are the digits of their number to the base `2 ^ 64`. -/
theorem ofDigits_map_chunks (bytes : List UInt8) :
    Nat.ofDigits (2 ^ wordSize) ((chunks bytes).map fun chunk => littleEndian (padded chunk))
      = littleEndian bytes := by
  fun_induction chunks bytes with
  | case1 => rfl
  | case2 b bs ih =>
    rw [List.map_cons, Nat.ofDigits_cons, ih, littleEndian_padded]
    conv_rhs => rw [← List.take_append_drop 8 (b :: bs), littleEndian, List.map_append,
      Nat.ofDigits_append, List.length_map]
    by_cases h : (b :: bs).length ≤ 8
    · -- nothing is left behind a short word
      rw [List.drop_of_length_le h]
      rfl
    · rw [List.length_take_of_le (Nat.le_of_not_le h)]
      rfl

/-- Bytes that make up a word have a number of 64 bits. -/
theorem littleEndian_padded_lt {chunk : List UInt8} (h : chunk.length ≤ 8) :
    littleEndian (padded chunk) < 2 ^ wordSize := by
  have hlength : ((padded chunk).map UInt8.toNat).length = 8 := by
    rw [List.length_map, padded, List.length_append, List.length_replicate]
    omega
  have hlt := Nat.ofDigits_lt_base_pow_length (b := 256) (l := (padded chunk).map UInt8.toNat)
    (by decide) fun n hn => by
      obtain ⟨b, -, rfl⟩ := List.mem_map.mp hn
      exact b.toNat_lt
  rwa [hlength] at hlt

/-- **Packing the flags into bytes first gives the same words.** -/
theorem words_eq_byteWords (flags : List Bool) : words flags = byteWords flags := by
  refine Nat.ofDigits_inj_of_len_eq (b := 2 ^ wordSize) (by decide) ?_
    (fun w hw => lt_of_mem_words hw) (fun w hw => ?_) ?_
  · rw [byteWords, List.length_map, length_chunks, length_bytes, length_words, wordCount, wordSize]
    omega
  · obtain ⟨chunk, hchunk, rfl⟩ := List.mem_map.mp hw
    exact littleEndian_padded_lt (length_le_of_mem_chunks hchunk)
  · rw [byteWords, ofDigits_map_chunks, littleEndian_bytes, words, ofDigits_packed]

/-! ## The number of a token -/

/-- The groups of a token. -/
def groups (token : String) : List (List Char) := Text.pieces ':' token.toList

/-- The number that a group writes. -/
def groupValue (group : List Char) : Nat := (Text.hexDigitsValue? 0 group).getD 0

/-- The number that a token writes. -/
def number (token : String) : Nat :=
  ((groups token).mapIdx fun i group => groupValue group * 2 ^ (wordSize * i)).sum

/-- **The upper-case hex numeral of a number**, without leading zeros; only zero starts with
the digit `0`. -/
structure IsNumeral (n : Nat) (cs : List Char) : Prop where
  ne_nil : cs ≠ []
  digits : ∀ c ∈ cs, c ∈ "0123456789ABCDEF".toList
  noLeadingZero : cs.head? = some '0' → cs = ['0']
  value : Text.hexDigitsValue? 0 cs = some n

theorem hexDigit_mem {d : Nat} (h : d < 16) : hexDigit d ∈ "0123456789ABCDEF".toList := by
  revert d
  decide

theorem isNumeral_numeral (n : Nat) : IsNumeral n (numeral n) where
  ne_nil := numeral_ne_nil n
  digits c hc := by
    obtain ⟨d, hd, rfl⟩ := exists_hexDigit_of_mem_numeral hc
    exact hexDigit_mem hd
  noLeadingZero h := by
    obtain ⟨cs, hcs⟩ := List.head?_eq_some_iff.mp h
    rw [hcs, eq_nil_of_numeral_eq_zero_cons hcs]
  value := hexDigitsValue?_numeral n

theorem groupValue_numeral (n : Nat) : groupValue (numeral n) = n := by
  rw [groupValue, hexDigitsValue?_numeral, Option.getD_some]

/-- The groups of a token are digits of the number of its flags. -/
theorem number_encode_eq_binary (flags : List Bool) :
    number (encode flags) = binary (flags ++ [true]) := by
  have hvalues : ((words flags).map numeral).map groupValue = words flags := by
    rw [List.map_map, Function.comp_def]
    simp only [groupValue_numeral, List.map_id']
  have hsum := sum_mapIdx_eq_ofDigits (2 ^ wordSize) groupValue ((words flags).map numeral)
  rw [hvalues, words, ofDigits_packed] at hsum
  rw [← hsum, number, groups, pieces_encode, words]
  simp only [Nat.pow_mul]

/-- The number of bits is a sum of powers of two. -/
theorem binary_eq_sum (bits : List Bool) :
    binary bits = (bits.mapIdx fun j active => if active then 2 ^ j else 0).sum := by
  have hplace (j : Nat) (active : Bool) :
      active.toNat * 2 ^ j = if active = true then 2 ^ j else 0 := by
    cases active <;> simp
  rw [binary_eq_ofDigits, ← sum_mapIdx_eq_ofDigits]
  simp only [hplace]

/-- **The number of a token** is a power of two for each active flag and one for the closing
flag. -/
theorem number_encode (flags : List Bool) :
    number (encode flags)
      = 2 ^ flags.length + (flags.mapIdx fun j active => if active then 2 ^ j else 0).sum := by
  rw [number_encode_eq_binary, binary_append, ← binary_eq_sum, show binary [true] = 1 from rfl,
    Nat.mul_one, Nat.add_comm]

/-- Changing one bit changes the number at the place of this bit. -/
theorem binary_set {bits : List Bool} {j : Nat} (hj : j < bits.length) (b : Bool) :
    binary (bits.set j b) + bits[j].toNat * 2 ^ j = binary bits + b.toNat * 2 ^ j := by
  induction bits generalizing j with
  | nil => cases hj
  | cons b₀ bits ih =>
    cases j with
    | zero =>
      rw [List.set_cons_zero, binary, binary, List.getElem_cons_zero]
      omega
    | succ j =>
      have hrest := ih (Nat.lt_of_succ_lt_succ hj)
      rw [List.set_cons_succ, binary, binary, List.getElem_cons_succ, Nat.pow_succ]
      grind

/-- Switching an action changes the number of the token by the power of two at its place. -/
theorem number_encode_modify_not {flags : List Bool} {j : Nat} (hj : j < flags.length) :
    (number (encode (flags.modify j not)) : ℤ)
      = number (encode flags) + if flags[j] then -2 ^ j else 2 ^ j := by
  have hj' : j < (flags ++ [true]).length := by rw [List.length_append]; omega
  have hset := binary_set hj' (!flags[j])
  rw [List.set_append_left _ _ hj, List.getElem_append_left hj] at hset
  have hmodify : flags.modify j not = flags.set j (!flags[j]) := List.modify_eq_set_get not hj
  rw [number_encode_eq_binary, number_encode_eq_binary, hmodify]
  have hcast := congrArg (Nat.cast : ℕ → ℤ) hset
  push_cast at hcast
  cases hactive : flags[j] with
  | true =>
    simp only [hactive, Bool.not_true, Bool.toNat_true, Bool.toNat_false, Nat.cast_one,
      Nat.cast_zero, if_true] at hcast ⊢
    omega
  | false =>
    simp only [hactive, Bool.not_false, Bool.toNat_true, Bool.toNat_false, Nat.cast_one,
      Nat.cast_zero, Bool.false_eq_true, if_false] at hcast ⊢
    omega

/-- **A token is the plain binary number of its flags.** There is a group for every 64 bits of
the flags and the closing flag, and one for what is left of them. Each is an upper-case hex
numeral of a number below `2 ^ 64`, without leading zeros, and as digits to this base they write
a power of two for each active flag and one for the closing flag. Packing the flags into bytes,
and the bytes into words of which the lowest byte comes first, gives the same token; and to
switch an action is to change the number by the power of two at its place. -/
theorem token_is_binary_number (flags : List Bool) :
    (groups (encode flags)).length = flags.length / 64 + 1
      ∧ (∀ group ∈ groups (encode flags), ∃ v < 2 ^ 64, IsNumeral v group)
      ∧ number (encode flags)
        = 2 ^ flags.length + (flags.mapIdx fun j active => if active then 2 ^ j else 0).sum
      ∧ encode flags = String.ofList (Text.joined ':' ((byteWords flags).map numeral))
      ∧ ∀ (j : Nat) (hj : j < flags.length),
        (number (encode (flags.modify j not)) : ℤ)
          = number (encode flags) + if flags[j] then -2 ^ j else 2 ^ j := by
  refine ⟨?_, fun group hgroup => ?_, number_encode flags, ?_, fun j hj =>
    number_encode_modify_not hj⟩
  · rw [groups, pieces_encode, List.length_map, length_words]
    rfl
  · rw [groups, pieces_encode] at hgroup
    obtain ⟨w, hw, rfl⟩ := List.mem_map.mp hgroup
    exact ⟨w, lt_of_mem_words hw, isNumeral_numeral w⟩
  · rw [encode, words_eq_byteWords]

/-- Of 64 flags none is active, so that the closing flag is in a group of its own. Switching the
last action changes the group in front of it. -/
theorem token_is_binary_number_at_word_boundary :
    ['1'] ∈ groups (encode (List.replicate 64 false)) ∧ (∃ v < 2 ^ 64, IsNumeral v ['1'])
      ∧ 63 < (List.replicate 64 false).length
      ∧ encode ((List.replicate 64 false).modify 63 not) = "8000000000000000:1"
      ∧ (number (encode ((List.replicate 64 false).modify 63 not)) : ℤ)
        = number (encode (List.replicate 64 false)) + 2 ^ 63 := by
  obtain ⟨-, hnumerals, -, -, hswitch⟩ := token_is_binary_number (List.replicate 64 false)
  have hmem : ['1'] ∈ groups (encode (List.replicate 64 false)) := by decide +kernel
  exact ⟨hmem, hnumerals _ hmem, by decide, by decide +kernel, hswitch 63 (by decide)⟩

end Token

end CatchmentPlanning
