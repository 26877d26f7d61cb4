import CatchmentPlanning.Json.Printer
import CatchmentPlanning.Json.Reader
import CatchmentPlanning.Proofs.Checks
import CatchmentPlanning.Proofs.Text.Numeral

/-!
# Numbers inside a JSON text

A number has no closing token: it ends where something comes that does not continue it.
In printed JSON that is a comma, a closing bracket, or the end of the text. So a text that
is read as a number on its own is read as the same number in front of these
(`number_append`).

A whole number that fits a 64-bit word is printed with its digits and read as itself
(`number_toString`). A float is read quickly rather than exactly, and what comes of it is
whatever its text is read as (`rereadFloat?`).
-/

namespace CatchmentPlanning

namespace Json

/-! ## Where a number ends -/

/-- What follows a value in a printed text: nothing, a comma or a closing bracket. -/
def Closes (rest : List Char) : Prop :=
  ∀ c ∈ rest.head?, c = ',' ∨ c = ']' ∨ c = '}'

theorem closes_nil : Closes [] := nofun

theorem closes_cons {c : Char} (h : c = ',' ∨ c = ']' ∨ c = '}') (rest : List Char) :
    Closes (c :: rest) := by
  rintro _ ⟨⟩
  exact h

variable {rest : List Char}

/-- What holds of the first character of a text. -/
theorem forall_mem_head?_cons {p : Char → Prop} {c : Char} (h : p c) (cs : List Char) :
    ∀ c' ∈ (c :: cs).head?, p c' := by
  rintro _ ⟨⟩
  exact h

/-- A digit does not close a value. -/
theorem Closes.digitValue?_eq_none {c : Char} (h : Closes (c :: rest)) :
    Text.digitValue? c = none := by
  obtain rfl | rfl | rfl := h c rfl <;> decide

/-- A run of digits ends where a value is closed. -/
theorem leadingDigits_append (hrest : Closes rest) (limit : Nat) (run : Digits)
    (cs : List Char) :
    leadingDigits limit run (cs ++ rest)
      = ((leadingDigits limit run cs).1, (leadingDigits limit run cs).2 ++ rest) := by
  induction cs generalizing run with
  | nil =>
    cases rest with
    | nil => rfl
    | cons c rest => simp [leadingDigits, hrest.digitValue?_eq_none]
  | cons c cs ih =>
    simp only [List.cons_append, leadingDigits]
    cases Text.digitValue? c with
    | none => rfl
    | some d =>
      dsimp only
      split
      · exact ih _
      · exact ih _

/-- A reader that stops where a value is closed. -/
def Stops {α : Type} (read : List Char → Except Fault (α × List Char)) : Prop :=
  ∀ {cs cs' rest : List Char} {a : α}, Closes rest → read cs = .ok (a, cs') →
    read (cs ++ rest) = .ok (a, cs' ++ rest)

theorem stops_digits (limit n : Nat) : Stops (digits limit n) := by
  intro cs cs' rest run hrest h
  unfold digits at h ⊢
  rw [leadingDigits_append hrest]
  generalize leadingDigits limit ⟨n, 0, 0⟩ cs = answer at h ⊢
  obtain ⟨run', cs''⟩ := answer
  dsimp only at h ⊢
  split at h
  · split at h <;> cases h
  · rename_i hsome
    cases h
    rw [if_neg hsome]

/-- A sign is looked for at the first character and nowhere else. -/
theorem signOf_cons_append (c : Char) (cs rest : List Char) :
    Decimal.signOf (c :: cs ++ rest)
      = ((Decimal.signOf (c :: cs)).1, (Decimal.signOf (c :: cs)).2 ++ rest) := by
  by_cases hminus : c = '-'
  · subst hminus
    rfl
  by_cases hplus : c = '+'
  · subst hplus
    rfl
  simp [Decimal.signOf, hminus, hplus]

theorem stops_exponentRest : Stops exponentRest := by
  intro cs cs' rest e hrest h
  cases cs with
  | nil => cases h
  | cons c cs =>
    unfold exponentRest at h ⊢
    rw [signOf_cons_append]
    generalize Decimal.signOf (c :: cs) = answer at h ⊢
    obtain ⟨negative, cs₁⟩ := answer
    obtain ⟨⟨run, cs₂⟩, hrun, h⟩ := Checks.bind_eq_ok_iff.mp h
    cases h
    exact Checks.bind_eq_ok_iff.mpr ⟨_, stops_digits _ _ hrest hrun, rfl⟩

/-- What is not the letter of an exponent is left behind the number. -/
theorem fractionRest_of_ne {cs : List Char} (h : ∀ c ∈ cs.head?, c ≠ 'e' ∧ c ≠ 'E')
    (negative : Bool) (n : Nat) (exponent : Int) :
    fractionRest negative n exponent cs
      = (floatValue ⟨negative, n, exponent⟩).map (·, cs) := by
  unfold fractionRest
  split
  · exact absurd rfl (h 'e' rfl).1
  · exact absurd rfl (h 'E' rfl).2
  · cases floatValue ⟨negative, n, exponent⟩ <;> rfl

theorem fractionRest_of_letter {c : Char} (h : c = 'e' ∨ c = 'E') (negative : Bool) (n : Nat)
    (exponent : Int) (cs : List Char) :
    fractionRest negative n exponent (c :: cs) = (do
      let (e, rest) ← exponentRest cs
      return (← floatValue ⟨negative, n, exponent + e⟩, rest)) := by
  obtain rfl | rfl := h <;> rfl

theorem Closes.ne (hrest : Closes rest) :
    ∀ c ∈ rest.head?, c ≠ '.' ∧ c ≠ 'e' ∧ c ≠ 'E' := by
  intro c hc
  obtain rfl | rfl | rfl := hrest c hc <;> decide

theorem stops_fractionRest (negative : Bool) (n : Nat) (exponent : Int) :
    Stops (fractionRest negative n exponent) := by
  intro cs cs' rest v hrest h
  have hplain (hcs : ∀ c ∈ cs.head?, c ≠ 'e' ∧ c ≠ 'E')
      (hall : ∀ c ∈ (cs ++ rest).head?, c ≠ 'e' ∧ c ≠ 'E') :
      fractionRest negative n exponent (cs ++ rest) = .ok (v, cs' ++ rest) := by
    rw [fractionRest_of_ne hcs] at h
    obtain ⟨v, hv, h⟩ := Checks.map_eq_ok_iff.mp h
    cases h
    rw [fractionRest_of_ne hall, hv]
    rfl
  cases cs with
  | nil => exact hplain nofun fun c hc => (hrest.ne c hc).2
  | cons c cs =>
    by_cases hc : c = 'e' ∨ c = 'E'
    · rw [fractionRest_of_letter hc] at h
      obtain ⟨⟨e, cs₁⟩, he, h⟩ := Checks.bind_eq_ok_iff.mp h
      obtain ⟨v, hv, h⟩ := Checks.bind_eq_ok_iff.mp h
      cases h
      rw [List.cons_append, fractionRest_of_letter hc]
      exact Checks.bind_eq_ok_iff.mpr
        ⟨_, stops_exponentRest hrest he, Checks.bind_eq_ok_iff.mpr ⟨v, hv, rfl⟩⟩
    · exact hplain (forall_mem_head?_cons (not_or.mp hc) _)
        (forall_mem_head?_cons (not_or.mp hc) _)

/-! ## Numbers -/

theorem numberRest_of_ne {cs : List Char} (h : ∀ c ∈ cs.head?, c ≠ '.' ∧ c ≠ 'e' ∧ c ≠ 'E')
    (negative : Bool) (whole : Digits) :
    numberRest negative whole cs = (wholeValue negative whole).map (·, cs) := by
  unfold numberRest
  split
  · exact absurd rfl (h '.' rfl).1
  · exact absurd rfl (h 'e' rfl).2.1
  · exact absurd rfl (h 'E' rfl).2.2
  · cases wholeValue negative whole <;> rfl

theorem stops_numberRest (negative : Bool) (whole : Digits) :
    Stops (numberRest negative whole) := by
  intro cs cs' rest v hrest h
  have hplain (hcs : ∀ c ∈ cs.head?, c ≠ '.' ∧ c ≠ 'e' ∧ c ≠ 'E')
      (hall : ∀ c ∈ (cs ++ rest).head?, c ≠ '.' ∧ c ≠ 'e' ∧ c ≠ 'E') :
      numberRest negative whole (cs ++ rest) = .ok (v, cs' ++ rest) := by
    rw [numberRest_of_ne hcs] at h
    obtain ⟨v, hv, h⟩ := Checks.map_eq_ok_iff.mp h
    cases h
    rw [numberRest_of_ne hall, hv]
    rfl
  cases cs with
  | nil => exact hplain nofun hrest.ne
  | cons c cs =>
    by_cases hpoint : c = '.'
    · subst hpoint
      obtain ⟨⟨run, cs₁⟩, hrun, h⟩ := Checks.bind_eq_ok_iff.mp h
      exact Checks.bind_eq_ok_iff.mpr
        ⟨_, stops_digits _ _ hrest hrun, stops_fractionRest _ _ _ hrest h⟩
    by_cases hc : c = 'e' ∨ c = 'E'
    · have hletter (cs : List Char) : numberRest negative whole (c :: cs)
          = fractionRest negative whole.value whole.dropped (c :: cs) := by
        obtain rfl | rfl := hc <;> rfl
      rw [hletter] at h
      exact (hletter _).trans (stops_fractionRest _ _ _ hrest h)
    · exact hplain (forall_mem_head?_cons ⟨hpoint, not_or.mp hc⟩ _)
        (forall_mem_head?_cons ⟨hpoint, not_or.mp hc⟩ _)

/-- Reads a number behind its sign. -/
def unsignedNumber (negative : Bool) (cs : List Char) : Except Fault (Json × List Char) :=
  match cs with
  | '0' :: c :: rest =>
    if (Text.digitValue? c).isSome then .error (.unexpected c)
    else numberRest negative ⟨0, 1, 0⟩ (c :: rest)
  | cs => do
    let (run, rest) ← digits digitLimit 0 cs
    numberRest negative run rest

theorem number_minus (cs : List Char) : number ('-' :: cs) = unsignedNumber true cs := rfl

theorem number_of_ne {cs : List Char} (h : ∀ c ∈ cs.head?, c ≠ '-') :
    number cs = unsignedNumber false cs := by
  unfold number
  split
  rename_i negative cs' heq
  split at heq
  · exact absurd rfl (h '-' rfl)
  · cases heq
    rfl

/-- A zero in front of something else than a digit is all of the whole part. -/
theorem unsignedNumber_zero {cs : List Char} (h : ∀ c ∈ cs.head?, Text.digitValue? c = none)
    (negative : Bool) :
    unsignedNumber negative ('0' :: cs) = numberRest negative ⟨0, 1, 0⟩ cs := by
  cases cs with
  | nil => rfl
  | cons c cs => simp [unsignedNumber, h c rfl]

theorem unsignedNumber_of_ne {cs : List Char} (h : ∀ c ∈ cs.head?, c ≠ '0') (negative : Bool) :
    unsignedNumber negative cs = (do
      let (run, rest) ← digits digitLimit 0 cs
      numberRest negative run rest) := by
  unfold unsignedNumber
  split
  · exact absurd rfl (h '0' rfl)
  · rfl

theorem stops_unsignedNumber (negative : Bool) : Stops (unsignedNumber negative) := by
  intro cs cs' rest v hrest h
  cases cs with
  | nil => cases h
  | cons c cs =>
    by_cases hzero : c = '0'
    · subst hzero
      have hnone : ∀ c ∈ cs.head?, Text.digitValue? c = none := by
        cases cs with
        | nil => nofun
        | cons c cs =>
          rintro _ ⟨⟩
          refine Option.not_isSome_iff_eq_none.mp fun hsome => ?_
          simp [unsignedNumber, hsome] at h
      have hnone' : ∀ c ∈ (cs ++ rest).head?, Text.digitValue? c = none := by
        cases cs with
        | nil => exact fun c hc => by obtain rfl | rfl | rfl := hrest c hc <;> decide
        | cons c cs => exact hnone
      rw [unsignedNumber_zero hnone] at h
      rw [List.cons_append, unsignedNumber_zero hnone']
      exact stops_numberRest _ _ hrest h
    · rw [unsignedNumber_of_ne (forall_mem_head?_cons hzero _)] at h
      obtain ⟨⟨run, cs₁⟩, hrun, h⟩ := Checks.bind_eq_ok_iff.mp h
      rw [List.cons_append, unsignedNumber_of_ne (forall_mem_head?_cons hzero _)]
      exact Checks.bind_eq_ok_iff.mpr
        ⟨_, stops_digits _ _ hrest hrun, stops_numberRest _ _ hrest h⟩

/-- **A number is read in front of what closes it as it is read on its own.** -/
theorem stops_number : Stops number := by
  intro cs cs' rest v hrest h
  cases cs with
  | nil => cases h
  | cons c cs =>
    by_cases hminus : c = '-'
    · subst hminus
      exact stops_unsignedNumber true hrest h
    · rw [number_of_ne (forall_mem_head?_cons hminus _)] at h
      rw [List.cons_append, number_of_ne (forall_mem_head?_cons hminus _)]
      exact stops_unsignedNumber false hrest h

/-- A number starts with a minus or with a digit. -/
theorem head_of_number {cs : List Char} {answer : Json × List Char}
    (h : number cs = .ok answer) :
    ∃ c cs', cs = c :: cs' ∧ (c = '-' ∨ (Text.digitValue? c).isSome = true) := by
  cases cs with
  | nil => cases h
  | cons c cs =>
    refine ⟨c, cs, rfl, or_iff_not_imp_left.mpr fun hminus => ?_⟩
    refine Option.isSome_iff_ne_none.mpr fun hnone => ?_
    have hzero : c ≠ '0' := by
      rintro rfl
      cases hnone
    have hdigits : digits digitLimit 0 (c :: cs) = .error (.unexpected c) := by
      simp [digits, leadingDigits, hnone]
    rw [number_of_ne (forall_mem_head?_cons hminus _),
      unsignedNumber_of_ne (forall_mem_head?_cons (p := (· ≠ '0')) hzero _), hdigits] at h
    cases h

/-! ## Whole numbers -/

theorem le_of_digitsValue? {cs : List Char} {n m : Nat} (h : Text.digitsValue? n cs = some m) :
    n ≤ m := by
  induction cs generalizing n with
  | nil => exact (Option.some.inj h).le
  | cons c cs ih =>
    simp only [Text.digitsValue?] at h
    split at h
    · exact le_trans (by omega) (ih h)
    · cases h

/-- The digits of a number that is not past the limit are all kept. -/
theorem leadingDigits_of_digitsValue? {limit : Nat} {cs : List Char} {n m kept : Nat}
    (h : Text.digitsValue? n cs = some m) (hm : m ≤ limit) :
    leadingDigits limit ⟨n, kept, 0⟩ cs = (⟨m, kept + cs.length, 0⟩, []) := by
  induction cs generalizing n kept with
  | nil =>
    cases h
    rfl
  | cons c cs ih =>
    rw [Text.digitsValue?] at h
    cases hd : Text.digitValue? c with
    | none =>
      rw [hd] at h
      cases h
    | some d =>
      rw [hd] at h
      have hfits : 10 * n + d ≤ limit := (le_of_digitsValue? h).trans hm
      rw [leadingDigits, hd]
      refine (if_pos ⟨rfl, hfits⟩).trans ?_
      rw [ih h, List.length_cons, Nat.add_right_comm kept 1, Nat.add_assoc]

/-- The digits of a positive number do not start with a zero. -/
theorem ne_zero_of_mem_head?_toDigits {n : Nat} (hn : 0 < n) :
    ∀ c ∈ (Nat.toDigits 10 n).head?, c ≠ '0' := by
  induction n using Nat.strongRecOn with
  | ind n ih =>
    by_cases hlt : n < 10
    · rw [Nat.toDigits_of_lt_base hlt]
      refine forall_mem_head?_cons (fun hzero => ?_) _
      have hvalue := Text.digitValue?_digitChar hlt
      rw [hzero] at hvalue
      exact hn.ne (Option.some.inj hvalue)
    · have hd : n % 10 < 10 := Nat.mod_lt _ (by decide)
      have hdigits : Nat.toDigits 10 n
          = Nat.toDigits 10 (n / 10) ++ Nat.toDigits 10 (n % 10) := by
        rw [Nat.toDigits_append_toDigits (by decide) (by omega) hd, Nat.div_add_mod]
      rw [hdigits, List.head?_append_of_ne_nil _ Nat.toDigits_ne_nil]
      exact ih (n / 10) (by omega) (by omega)

/-- A whole number that fits a signed or an unsigned 64-bit word. -/
def FitsWord (n : Int) : Prop := -2 ^ 63 ≤ n ∧ n < 2 ^ 64

/-- The digits of a number are read as a whole part, of which nothing is left. -/
theorem unsignedNumber_toDigits (negative : Bool) {n : Nat} (hn : n ≤ digitLimit) :
    unsignedNumber negative (Nat.toDigits 10 n)
      = (wholeValue negative ⟨n, (Nat.toDigits 10 n).length, 0⟩).map (·, []) := by
  by_cases hzero : n = 0
  · subst hzero
    cases negative <;> rfl
  · have hdigits : digits digitLimit 0 (Nat.toDigits 10 n)
        = .ok (⟨n, (Nat.toDigits 10 n).length, 0⟩, []) := by
      unfold digits
      rw [leadingDigits_of_digitsValue? (Text.digitsValue?_toDigits n) hn]
      simp
    rw [unsignedNumber_of_ne (ne_zero_of_mem_head?_toDigits (Nat.pos_of_ne_zero hzero)), hdigits]
    exact numberRest_of_ne closes_nil.ne _ _

/-- **A whole number that fits a word is read as it was written.** -/
theorem number_toString {n : Int} (h : FitsWord n) :
    number (toString n).toList = .ok (.int n, []) := by
  obtain ⟨hlow, hhigh⟩ := h
  have htext (n : Nat) : (toString n).toList = Nat.toDigits 10 n := by
    rw [Nat.toString_eq_ofList_toDigits, String.toList_ofList]
  cases n with
  | ofNat n =>
    have hminus : ∀ c ∈ (Nat.toDigits 10 n).head?, c ≠ '-' := by
      rintro c hc rfl
      have hdigit := Nat.isDigit_of_mem_toDigits (by decide) (by decide)
        (List.mem_of_mem_head? hc)
      exact absurd hdigit (by decide)
    have hn : n ≤ digitLimit := by
      show n ≤ 2 ^ 64 - 1
      simp only [Int.ofNat_eq_natCast] at hhigh
      omega
    show number (toString n).toList = _
    rw [htext, number_of_ne hminus, unsignedNumber_toDigits false hn]
    rfl
  | negSucc n =>
    have hn : n + 1 ≤ 2 ^ 63 := by
      rw [Int.negSucc_eq] at hlow
      omega
    have hcons : (toString (Int.negSucc n)).toList = '-' :: Nat.toDigits 10 (n + 1) := by
      show ("-" ++ toString (n + 1)).toList = _
      rw [String.toList_append, htext]
      rfl
    have hvalue (kept : Nat) : wholeValue true ⟨n + 1, kept, 0⟩ = .ok (.int (.negSucc n)) := by
      simp [wholeValue, hn, Int.negSucc_eq]
    rw [hcons, number_minus, unsignedNumber_toDigits true (hn.trans (by decide)), hvalue]
    rfl

/-! ## What numbers are read as -/

/-- **A number is read as a whole number that fits a word, or as a float.** -/
def IsNumber (v : Json) : Prop := (∃ n, v = .int n ∧ FitsWord n) ∨ ∃ x, v = .float x

theorem isNumber_of_floatValue {d : Decimal} {v : Json} (h : floatValue d = .ok v) :
    IsNumber v := by
  unfold floatValue at h
  split at h
  · cases h
    exact .inr ⟨_, rfl⟩
  · cases h

theorem isNumber_of_wholeValue {negative : Bool} {run : Digits} {v : Json}
    (hrun : run.value ≤ digitLimit) (h : wholeValue negative run = .ok v) : IsNumber v := by
  have hlimit : run.value < 2 ^ 64 := Nat.lt_of_le_pred (by decide) hrun
  simp only [wholeValue] at h
  split at h
  · exact isNumber_of_floatValue h
  split at h
  · split at h
    · rename_i hn
      cases h
      exact .inl ⟨_, rfl, by unfold FitsWord; omega⟩
    · exact isNumber_of_floatValue h
  · cases h
    exact .inl ⟨_, rfl, by unfold FitsWord; omega⟩

theorem isNumber_of_fractionRest {negative : Bool} {n : Nat} {exponent : Int}
    {cs rest : List Char} {v : Json} (h : fractionRest negative n exponent cs = .ok (v, rest)) :
    IsNumber v := by
  unfold fractionRest at h
  split at h
  · obtain ⟨e, -, h⟩ := Checks.bind_eq_ok_iff.mp h
    obtain ⟨v, hv, h⟩ := Checks.bind_eq_ok_iff.mp h
    cases h
    exact isNumber_of_floatValue hv
  · obtain ⟨e, -, h⟩ := Checks.bind_eq_ok_iff.mp h
    obtain ⟨v, hv, h⟩ := Checks.bind_eq_ok_iff.mp h
    cases h
    exact isNumber_of_floatValue hv
  · obtain ⟨v, hv, h⟩ := Checks.bind_eq_ok_iff.mp h
    cases h
    exact isNumber_of_floatValue hv

theorem isNumber_of_numberRest {negative : Bool} {whole : Digits} {cs rest : List Char}
    {v : Json} (hwhole : whole.value ≤ digitLimit)
    (h : numberRest negative whole cs = .ok (v, rest)) : IsNumber v := by
  unfold numberRest at h
  split at h
  · obtain ⟨run, -, h⟩ := Checks.bind_eq_ok_iff.mp h
    exact isNumber_of_fractionRest h
  · exact isNumber_of_fractionRest h
  · exact isNumber_of_fractionRest h
  · obtain ⟨v, hv, h⟩ := Checks.bind_eq_ok_iff.mp h
    cases h
    exact isNumber_of_wholeValue hwhole hv

theorem value_le_of_digits {limit n : Nat} {cs rest : List Char} {run : Digits} (hn : n ≤ limit)
    (h : digits limit n cs = .ok (run, rest)) : run.value ≤ limit := by
  have hle : (leadingDigits limit ⟨n, 0, 0⟩ cs).1.value ≤ limit := value_leadingDigits_le hn cs
  unfold digits at h
  split at h
  rename_i run' rest' heq
  split at h
  · split at h <;> cases h
  · cases h
    rw [heq] at hle
    exact hle

theorem isNumber_of_unsignedNumber {negative : Bool} {cs rest : List Char} {v : Json}
    (h : unsignedNumber negative cs = .ok (v, rest)) : IsNumber v := by
  unfold unsignedNumber at h
  split at h
  · split at h
    · cases h
    · exact isNumber_of_numberRest (Nat.zero_le _) h
  · obtain ⟨⟨run, cs'⟩, hrun, h⟩ := Checks.bind_eq_ok_iff.mp h
    exact isNumber_of_numberRest (value_le_of_digits (Nat.zero_le _) hrun) h

theorem isNumber_of_number {cs rest : List Char} {v : Json} (h : number cs = .ok (v, rest)) :
    IsNumber v := by
  cases cs with
  | nil => cases h
  | cons c cs =>
    by_cases hminus : c = '-'
    · subst hminus
      exact isNumber_of_unsignedNumber h
    · rw [number_of_ne (forall_mem_head?_cons hminus _)] at h
      exact isNumber_of_unsignedNumber h

/-! ## Floats -/

/-- **What the text of a float is read as**, if it is read as a number at all. -/
def rereadFloat? (x : Float) : Option Json :=
  match number (float x).compact.toList with
  | .ok (v, []) => some v
  | _ => none

theorem number_compact_float {x : Float} {v : Json} (h : rereadFloat? x = some v) :
    number (float x).compact.toList = .ok (v, []) := by
  unfold rereadFloat? at h
  split at h
  · rename_i hread
    cases h
    exact hread
  · cases h

end Json

end CatchmentPlanning
