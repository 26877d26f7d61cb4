import CatchmentPlanning.Api.UnitUpdate
import CatchmentPlanning.Proofs.ActionTable
import CatchmentPlanning.Proofs.Attributes
import CatchmentPlanning.Proofs.Checks
import CatchmentPlanning.Proofs.Scenario.Declarations
import Mathlib.Data.List.Forall2

/-!
# What an update of a planning unit says

Like the cells of a table, the changes of an update give verdicts about actions, and they
are taken over one after the other. An update that states for each action of its unit what
some flags say of it (`States`) is without violations, and leaves these flags for the unit
and the old ones for all others (`States.getElem?_applied`), in whatever order and in
whichever of the two ways it states them.
-/

namespace CatchmentPlanning

namespace UnitUpdate

variable {c : Catchment} {unit : Nat} {v : List Bool} {a : Attributes} {e : String × Json}

/-! ## What attributes ask for -/

/-- **A value says of an action whether it is taken.** -/
inductive Says : Json → Bool → Prop
  | active : Says (.str "Active") true
  | inactive : Says (.str "Inactive") false
  | bool (active : Bool) : Says (.bool active) active

/-- The attribute asks for a change: it names a kind of action at the unit, and its value says
whether the action is taken. -/
structure IsChange (c : Catchment) (unit : Nat) (e : String × Json) : Prop where
  kind : ∃ b ∈ c.actions, b.unit = unit ∧ b.kind = e.1
  state : ∃ active, Says e.2 active

/-- **What is wrong with an attribute** that asks for no change. A value that says nothing comes
before a name that is unknown. -/
inductive Offends (c : Catchment) (unit : Nat) : String × Json → Violation → Prop
  | notAState {kind : String} {found : Json} (h : ∀ active, ¬ Says found active) :
      Offends c unit (kind, found) (.notAState kind found)
  | notApplicable {kind : String} {found : Json} {active : Bool} (hstate : Says found active)
      (hkind : ∀ b ∈ c.actions, b.unit = unit → b.kind ≠ kind) :
      Offends c unit (kind, found) (.notApplicable kind unit)

/-- **What the client is told of an attribute** that asks for no change. The attribute is named
first. -/
inductive Told (c : Catchment) (unit : Nat) : String × Json → String → Prop
  | notAState {kind : String} {found : Json} (h : ∀ active, ¬ Says found active) :
      Told c unit (kind, found)
        ("[" ++ kind ++ "]: [" ++ found.compact ++ "] is neither Active nor Inactive")
  | notApplicable {kind : String} {found : Json} {active : Bool} (hstate : Says found active)
      (hkind : ∀ b ∈ c.actions, b.unit = unit → b.kind ≠ kind) :
      Told c unit (kind, found)
        ("[" ++ kind ++ "] is not applicable to subcatchment [" ++ toString unit ++ "]")

/-- The message of a violation tells what is wrong. -/
theorem Offends.told {violation : Violation} (h : Offends c unit e violation) :
    Told c unit e violation.message := by
  cases h with
  | @notAState kind found h =>
    have hmessage : (Violation.notAState kind found).message
        = "[" ++ kind ++ "]: [" ++ found.compact ++ "] is neither Active nor Inactive" := by
      simp only [Violation.message, activeText, inactiveText, String.append_assoc]
      rfl
    exact hmessage ▸ .notAState h
  | notApplicable hstate hkind => exact .notApplicable hstate hkind

theorem state?_eq_some_iff {u : Json} {active : Bool} : state? u = some active ↔ Says u active := by
  constructor
  · intro h
    unfold state? at h
    split at h
    · split at h
      · rename_i htext
        cases h
        exact htext ▸ .active
      · rename_i htext
        obtain ⟨rfl, hactive⟩ := Option.ite_none_right_eq_some.mp h
        cases hactive
        exact .inactive
    · cases h
      exact .bool _
    · cases h
  · rintro (_ | _ | _) <;> rfl

theorem any_kind_iff {kind : String} :
    (c.actionsAt unit).any (·.kind == kind) = true
      ↔ ∃ b ∈ c.actions, b.unit = unit ∧ b.kind = kind := by
  simp only [Catchment.actionsAt, List.any_eq_true, List.mem_filter, beq_iff_eq, and_assoc]

/-- Which change an attribute asks for. -/
theorem change_eq_ok_iff {w : String × Bool} :
    change c unit e = .ok w ↔ IsChange c unit e ∧ w.1 = e.1 ∧ Says e.2 w.2 := by
  obtain ⟨kind, active⟩ := w
  unfold change
  cases hstate : state? e.2 with
  | none =>
    refine iff_of_false nofun fun h => ?_
    rw [state?_eq_some_iff.mpr h.2.2] at hstate
    cases hstate
  | some active' =>
    have hsays := state?_eq_some_iff.mp hstate
    dsimp only
    split
    · rename_i hkind
      rw [Except.ok.injEq, Prod.mk.injEq, ← state?_eq_some_iff, hstate, Option.some.injEq, eq_comm,
        iff_and_self]
      exact fun _ => ⟨any_kind_iff.mp hkind, _, hsays⟩
    · rename_i hkind
      exact iff_of_false nofun fun h => hkind (any_kind_iff.mpr h.1.kind)

/-- What is wrong with an attribute is found. -/
theorem offends_of_change {violation : Violation} (h : change c unit e = .error violation) :
    Offends c unit e violation := by
  unfold change at h
  split at h
  · rename_i hnone
    cases h
    refine .notAState fun active hsays => ?_
    rw [state?_eq_some_iff.mpr hsays] at hnone
    cases hnone
  · rename_i active hstate
    split at h
    · cases h
    · rename_i hkind
      cases h
      refine .notApplicable (state?_eq_some_iff.mp hstate) fun b hb hunit hname => ?_
      exact hkind (any_kind_iff.mpr ⟨b, hb, hunit, hname⟩)

/-- Nothing is wrong with an attribute that asks for a change. -/
theorem Offends.not_isChange {violation : Violation} (h : Offends c unit e violation) :
    ¬ IsChange c unit e := by
  rintro ⟨⟨b, hb, hunit, hkind⟩, active, hsays⟩
  cases h with
  | notAState h => exact h active hsays
  | notApplicable hstate hnone => exact hnone b hb hunit hkind

theorem exists_change_iff : (∃ w, change c unit e = .ok w) ↔ IsChange c unit e := by
  constructor
  · rintro ⟨w, hw⟩
    exact (change_eq_ok_iff.mp hw).1
  · intro h
    obtain ⟨active, hsays⟩ := h.state
    exact ⟨(e.1, active), change_eq_ok_iff.mpr ⟨h, rfl, hsays⟩⟩

instance (c : Catchment) (unit : Nat) (e : String × Json) : Decidable (IsChange c unit e) :=
  match h : change c unit e with
  | .ok w => .isTrue (exists_change_iff.mp ⟨w, h⟩)
  | .error _ => .isFalse (offends_of_change h).not_isChange

/-- **There is one violation for each attribute that asks for no change**, in their order. -/
theorem forall₂_violations (c : Catchment) (unit : Nat) (entries : Named Json) :
    List.Forall₂ (Offends c unit) (entries.filter fun e => ¬ IsChange c unit e)
      (violations c unit entries) := by
  induction entries with
  | nil => exact .nil
  | cons e rest ih =>
    rw [violations, List.filterMap_cons, List.filter_cons]
    cases hchange : change c unit e with
    | ok w =>
      rw [if_neg (by simpa using exists_change_iff.mp ⟨w, hchange⟩)]
      exact ih
    | error violation =>
      have hoffends := offends_of_change hchange
      rw [if_pos (by simpa using hoffends.not_isChange)]
      exact .cons hoffends ih

/-- **There is one message for each attribute that asks for no change**, in their order. -/
theorem forall₂_messages (c : Catchment) (unit : Nat) (entries : Named Json) :
    List.Forall₂ (Told c unit) (entries.filter fun e => ¬ IsChange c unit e)
      (report unit (violations c unit entries)).messages :=
  List.forall₂_map_right_iff.mpr ((forall₂_violations c unit entries).imp fun _ _ h => h.told)

/-- The text of the report names the unit, and gives all messages. -/
theorem text_report (unit : Nat) (violations : List Violation) :
    (report unit violations).report = "invalid actions for subcatchment [" ++ toString unit
      ++ "]: [" ++ "; ".intercalate (report unit violations).messages ++ "]" := by
  have hjoint : "]: [" = "]" ++ ": [" := by decide +kernel
  rw [hjoint, ← String.append_assoc, Problems.report]
  rfl

theorem violations_eq_nil_iff {entries : Named Json} :
    violations c unit entries = [] ↔ ∀ e ∈ entries, IsChange c unit e := by
  have hlength := (forall₂_violations c unit entries).length_eq
  rw [← List.length_eq_zero_iff, ← hlength, List.length_eq_zero_iff, List.filter_eq_nil_iff]
  simp

/-! ## Taking changes over -/

/-- What changes of the actions at a unit say, action by action. -/
def verdicts (c : Catchment) (unit : Nat) (changes : List (String × Bool)) : List (Nat × Bool) :=
  changes.filterMap fun (kind, active) => (c.position? unit kind).map (·, active)

theorem mem_verdicts_iff {changes : List (String × Bool)} {w : Nat × Bool} :
    w ∈ verdicts c unit changes ↔
      ∃ kind, (kind, w.2) ∈ changes ∧ c.position? unit kind = some w.1 := by
  rw [verdicts, List.mem_filterMap]
  constructor
  · rintro ⟨⟨kind, active⟩, hmem, hw⟩
    obtain ⟨i, hi, rfl⟩ := Option.map_eq_some_iff.mp hw
    exact ⟨kind, hmem, hi⟩
  · rintro ⟨kind, hmem, hi⟩
    exact ⟨(kind, w.2), hmem, Option.map_eq_some_iff.mpr ⟨w.1, hi, rfl⟩⟩

theorem mem_changes_iff {entries : Named Json} {w : String × Bool} :
    w ∈ changes c unit entries ↔
      ∃ e ∈ entries, IsChange c unit e ∧ w.1 = e.1 ∧ Says e.2 w.2 := by
  simp only [changes, List.mem_filterMap, Checks.toOption_eq_some_iff, change_eq_ok_iff]

/-- A change that passes the checks of an update names an action of the unit. -/
theorem applicable_of_mem_changes {entries : Named Json} {change : String × Bool}
    (h : change ∈ changes c unit entries) :
    (c.actionsAt unit).any (·.kind == change.1) = true := by
  obtain ⟨e, -, hchange, hkind, -⟩ := mem_changes_iff.mp h
  exact any_kind_iff.mpr (hkind ▸ hchange.kind)

/-- **An action is given a flag exactly if it is one of the unit, and the attribute of its kind
says so.** -/
theorem mem_verdicts_changes_iff (hc : c.Indexed) {i : Nat} {b : Action}
    (hb : c.actions[i]? = some b) {active : Bool} :
    (i, active) ∈ verdicts c unit (changes c unit a.entries) ↔
      b.unit = unit ∧ (a.get? b.kind).bind state? = some active := by
  have hmem := List.mem_of_getElem? hb
  simp only [mem_verdicts_iff, mem_changes_iff, Option.bind_eq_some_iff,
    Attributes.get?_eq_some_iff, state?_eq_some_iff]
  constructor
  · rintro ⟨_, ⟨e, he, -, rfl, hsays⟩, hi⟩
    obtain ⟨b', hb', hunit, hkind⟩ := Catchment.getElem?_of_position? hi
    rw [hb, Option.some.injEq] at hb'
    subst hb'
    exact ⟨hunit, e.2, hkind ▸ he, hsays⟩
  · rintro ⟨rfl, u, he, hsays⟩
    exact ⟨b.kind, ⟨_, he, ⟨⟨b, hmem, rfl, rfl⟩, active, hsays⟩, rfl, hsays⟩, hc.position?_eq hb⟩

/-- **The flags once an update has been taken over.** -/
theorem getElem?_applied (hc : c.Indexed) {flags : List Bool}
    (hflags : flags.length = c.actions.length) {i : Nat} {b : Action}
    (hb : c.actions[i]? = some b) :
    (ActionTable.applied flags (verdicts c unit (changes c unit a.entries)))[i]?
      = if b.unit = unit then ((a.get? b.kind).bind state?).or flags[i]? else flags[i]? := by
  have hi : i < flags.length := hflags ▸ (List.getElem?_eq_some_iff.mp hb).1
  have hverdict (active : Bool) : (i, active) ∈ verdicts c unit (changes c unit a.entries) ↔
      b.unit = unit ∧ (a.get? b.kind).bind state? = some active := mem_verdicts_changes_iff hc hb
  split
  · rename_i hunit
    cases hstate : (a.get? b.kind).bind state? with
    | none =>
      refine ActionTable.getElem?_applied_of_forall_ne ?_
      rintro ⟨_, active⟩ hw rfl
      cases hstate.symm.trans ((hverdict active).mp hw).2
    | some active =>
      refine ActionTable.getElem?_applied_of_agree hi ((hverdict active).mpr ⟨hunit, hstate⟩) ?_
      rintro ⟨_, active'⟩ hw rfl
      exact Option.some.inj (((hverdict active').mp hw).2.symm.trans hstate)
  · rename_i hunit
    refine ActionTable.getElem?_applied_of_forall_ne ?_
    rintro ⟨_, active⟩ hw rfl
    exact hunit ((hverdict active).mp hw).1

/-- **The flags that an update makes of flags**: the actions that it names are taken or not as it
says, and all others – of other units, of the same kind or not – are left as they are. -/
structure Updated (c : Catchment) (unit : Nat) (a : Attributes) (flags flags' : List Bool) :
    Prop where
  length : flags'.length = flags.length
  named : ∀ (i : Nat) (b : Action) (e : String × Json) (active : Bool), c.actions[i]? = some b →
    b.unit = unit → e ∈ a.entries → b.kind = e.1 → Says e.2 active → flags'[i]? = some active
  others : ∀ (i : Nat) (b : Action), c.actions[i]? = some b → (b.unit = unit → b.kind ∉ a.names) →
    flags'[i]? = flags[i]?

theorem updated_applied (hc : c.Indexed) {flags : List Bool}
    (hflags : flags.length = c.actions.length) (unit : Nat) (a : Attributes) :
    Updated c unit a flags
      (ActionTable.applied flags (verdicts c unit (changes c unit a.entries))) where
  length := ActionTable.length_applied _ _
  named i b e active hb hunit he hkind hsays := by
    have hget : a.get? b.kind = some e.2 := hkind ▸ Attributes.get?_eq_some_iff.mpr he
    rw [getElem?_applied hc hflags hb, if_pos hunit, hget, Option.bind_some,
      state?_eq_some_iff.mpr hsays, Option.some_or]
  others i b hb hother := by
    rw [getElem?_applied hc hflags hb]
    split
    · rename_i hunit
      rw [Attributes.get?_eq_none_iff.mpr (hother hunit), Option.bind_none, Option.none_or]
    · rfl

/-- **The attributes state what flags say of the actions of a unit**: each action is named
by its kind, and nothing else is. -/
structure States (c : Catchment) (v : List Bool) (unit : Nat) (a : Attributes) : Prop where
  states : ∀ (i : Nat) (b : Action), c.actions[i]? = some b → b.unit = unit →
    (a.get? b.kind).bind state? = v[i]?
  names : ∀ name ∈ a.names, ∃ b ∈ c.actions, b.unit = unit ∧ b.kind = name

/-- Nothing is wrong with them. -/
theorem States.violations_eq_nil (h : States c v unit a) (hv : v.length = c.actions.length) :
    violations c unit a.entries = [] := by
  refine violations_eq_nil_iff.mpr fun e he => ?_
  obtain ⟨b, hb, hunit, hkind⟩ := h.names e.1 (List.mem_map_of_mem he)
  obtain ⟨i, hi⟩ := List.mem_iff_getElem?.mp hb
  have hlength : i < v.length := hv ▸ (List.getElem?_eq_some_iff.mp hi).1
  have hstates := h.states i b hi hunit
  rw [hkind, Attributes.get?_eq_some_iff.mpr he, Option.bind_some,
    List.getElem?_eq_getElem hlength, state?_eq_some_iff] at hstates
  exact ⟨⟨b, hb, hunit, hkind⟩, _, hstates⟩

/-- **The flags once they have been taken over.** -/
theorem States.getElem?_applied (h : States c v unit a) (hv : v.length = c.actions.length)
    (hc : c.Indexed) {flags : List Bool} (hflags : flags.length = c.actions.length) {i : Nat}
    {b : Action} (hb : c.actions[i]? = some b) :
    (ActionTable.applied flags (verdicts c unit (changes c unit a.entries)))[i]?
      = if b.unit = unit then v[i]? else flags[i]? := by
  rw [UnitUpdate.getElem?_applied hc hflags hb]
  split
  · rename_i hunit
    have hi : i < v.length := hv ▸ (List.getElem?_eq_some_iff.mp hb).1
    rw [h.states i b hb hunit, List.getElem?_eq_getElem hi, Option.some_or]
  · rfl

end UnitUpdate

end CatchmentPlanning
