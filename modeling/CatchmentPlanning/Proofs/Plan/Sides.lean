import CatchmentPlanning.Plan.Solution
import CatchmentPlanning.Proofs.Keyed
import CatchmentPlanning.Proofs.Plan.Edits
import CatchmentPlanning.Proofs.Scenario.Declarations
import CatchmentPlanning.Proofs.Token.Separation
import Mathlib.Data.List.Sort

/-!
# What a solution shows of the actions

A solution shows which actions of a plan are taken in two ways: by the token, and by listing the
kinds of action under the planning units, on one side those that are taken and on the other side
those that are not. Since an action is known by its unit and its kind, either way tells the flags
of the plan, and nothing but the flags.

The sides are described unit by unit. They are also what comes of filing one action after the
other under its unit, on the side where it belongs, and sorting the kinds in the end
(`filed_eq_sides`).
-/

namespace CatchmentPlanning

namespace Solution

/-! ## Lists by unit -/

/-- What is listed under a unit. -/
def listed (side : List (Nat × List String)) (unit : Nat) : List String :=
  ((side.find? fun e => e.1 = unit).map (·.2)).getD []

variable {side other : List (Nat × List String)} {unit u : Nat} {kind : String}

@[simp] theorem listed_nil (unit : Nat) : listed [] unit = [] := rfl

theorem listed_cons (e : Nat × List String) (side : List (Nat × List String)) (unit : Nat) :
    listed (e :: side) unit = if e.1 = unit then e.2 else listed side unit := by
  by_cases h : e.1 = unit <;> simp [listed, h]

/-- **A side in good order**: the units ascend, and something is listed under each of them. -/
structure IsSide (side : List (Nat × List String)) : Prop where
  ascending : side.Pairwise (·.1 < ·.1)
  ne_nil : ∀ e ∈ side, e.2 ≠ []

theorem isSide_nil : IsSide [] := ⟨List.Pairwise.nil, nofun⟩

theorem isSide_cons {e : Nat × List String} :
    IsSide (e :: side) ↔ (∀ f ∈ side, e.1 < f.1) ∧ e.2 ≠ [] ∧ IsSide side := by
  constructor
  · rintro ⟨hascending, hne⟩
    obtain ⟨hlt, hascending⟩ := List.pairwise_cons.mp hascending
    obtain ⟨he, hne⟩ := List.forall_mem_cons.mp hne
    exact ⟨hlt, he, hascending, hne⟩
  · rintro ⟨hlt, he, hascending, hne⟩
    exact ⟨List.pairwise_cons.mpr ⟨hlt, hascending⟩, List.forall_mem_cons.mpr ⟨he, hne⟩⟩

/-- A side has those entries that its lists say. -/
theorem IsSide.mem_iff (h : IsSide side) {e : Nat × List String} :
    e ∈ side ↔ listed side e.1 = e.2 ∧ e.2 ≠ [] := by
  have hnodup : (side.map Prod.fst).Nodup :=
    List.pairwise_map.mpr (h.ascending.imp fun hlt => Nat.ne_of_lt hlt)
  have hfind (f : Nat × List String) :
      side.find? (fun f => f.1 = e.1) = some f ↔ f ∈ side ∧ f.1 = e.1 :=
    Keyed.find?_eq_some_iff hnodup
  constructor
  · intro hmem
    rw [listed, (hfind e).mpr ⟨hmem, rfl⟩]
    exact ⟨rfl, h.ne_nil _ hmem⟩
  · rintro ⟨heq, hne⟩
    rw [listed] at heq
    cases hfound : side.find? fun f => f.1 = e.1 with
    | none =>
      rw [hfound] at heq
      exact absurd heq.symm hne
    | some f =>
      rw [hfound] at heq
      obtain ⟨hmem, hunit⟩ := (hfind f).mp hfound
      exact Prod.ext hunit heq ▸ hmem

/-- **A side is known by what it lists.** -/
theorem IsSide.ext (h : IsSide side) (hother : IsSide other)
    (hlisted : ∀ unit, listed side unit = listed other unit) : side = other := by
  have hmem (e : Nat × List String) : e ∈ side ↔ e ∈ other := by
    rw [h.mem_iff, hother.mem_iff, hlisted]
  have hperm : side.Perm other :=
    (List.perm_ext_iff_of_nodup (h.ascending.imp fun hlt => ne_of_apply_ne Prod.fst hlt.ne)
      (hother.ascending.imp fun hlt => ne_of_apply_ne Prod.fst hlt.ne)).mpr hmem
  exact hperm.eq_of_pairwise (fun _ _ _ _ hlt hgt => absurd hlt hgt.asymm) h.ascending
    hother.ascending

/-- Nothing is listed under a unit that comes before all others. -/
theorem listed_of_lt (h : ∀ e ∈ side, unit < e.1) : listed side unit = [] := by
  have hnone : side.find? (fun e => e.1 = unit) = none :=
    List.find?_eq_none.mpr fun e he => by simpa using (h e he).ne'
  rw [listed, hnone]
  rfl

/-- Lists that are changed one by one. -/
theorem listed_map {f : List String → List String} (hf : f [] = [])
    (side : List (Nat × List String)) (unit : Nat) :
    listed (side.map fun e => (e.1, f e.2)) unit = f (listed side unit) := by
  induction side with
  | nil => exact hf.symm
  | cons e side ih => rw [List.map_cons, listed_cons, listed_cons, ih, apply_ite f]

/-! ## Filing -/

/-- Files a kind of action under a unit. -/
def fileUnder (unit : Nat) (kind : String) : List (Nat × List String) → List (Nat × List String)
  | [] => [(unit, [kind])]
  | e :: side =>
    if unit < e.1 then (unit, [kind]) :: e :: side
    else if unit = e.1 then (unit, e.2 ++ [kind]) :: side
    else e :: fileUnder unit kind side

/-- Files an action on the side where it belongs. -/
def fileAction (sides : List (Nat × List String) × List (Nat × List String))
    (a : Action × Bool) : List (Nat × List String) × List (Nat × List String) :=
  if a.2 then (fileUnder a.1.unit a.1.kind sides.1, sides.2)
  else (sides.1, fileUnder a.1.unit a.1.kind sides.2)

/-- Sorts what is listed under each unit. -/
def sortKinds (side : List (Nat × List String)) : List (Nat × List String) :=
  side.map fun e => (e.1, e.2.mergeSort fun a b => decide (a ≤ b))

/-- Files one action after the other, and sorts the kinds in the end. -/
def filed (actions : List (Action × Bool)) :
    List (Nat × List String) × List (Nat × List String) :=
  let sides := actions.foldl fileAction ([], [])
  (sortKinds sides.1, sortKinds sides.2)

theorem lt_of_mem_fileUnder {n : Nat} (h : ∀ e ∈ side, n < e.1) (hunit : n < unit) :
    ∀ e ∈ fileUnder unit kind side, n < e.1 := by
  induction side with
  | nil => simpa [fileUnder] using hunit
  | cons e side ih =>
    obtain ⟨he, hside⟩ := List.forall_mem_cons.mp h
    rw [fileUnder]
    split
    · exact List.forall_mem_cons.mpr ⟨hunit, h⟩
    · split
      · exact List.forall_mem_cons.mpr ⟨hunit, hside⟩
      · exact List.forall_mem_cons.mpr ⟨he, ih hside⟩

/-- Filing leaves a side in good order. -/
theorem isSide_fileUnder (h : IsSide side) : IsSide (fileUnder unit kind side) := by
  induction side with
  | nil => exact isSide_cons.mpr ⟨nofun, List.cons_ne_nil _ _, isSide_nil⟩
  | cons e side ih =>
    obtain ⟨hlt, hne, hside⟩ := isSide_cons.mp h
    rw [fileUnder]
    split
    · rename_i hbefore
      refine isSide_cons.mpr ⟨?_, List.cons_ne_nil _ _, h⟩
      exact List.forall_mem_cons.mpr ⟨hbefore, fun f hf => hbefore.trans (hlt f hf)⟩
    · split
      · rename_i heq
        exact isSide_cons.mpr ⟨heq ▸ hlt, by simp, hside⟩
      · exact isSide_cons.mpr ⟨lt_of_mem_fileUnder hlt (by omega), hne, ih hside⟩

/-- **Filing adds a kind to the list under its unit** and leaves the other lists alone. -/
theorem listed_fileUnder (h : IsSide side) :
    listed (fileUnder unit kind side) u
      = listed side u ++ if unit = u then [kind] else [] := by
  induction side with
  | nil => simp [fileUnder, listed_cons]
  | cons e side ih =>
    obtain ⟨hlt, -, hside⟩ := isSide_cons.mp h
    rw [fileUnder]
    split
    · rename_i hbefore
      rw [listed_cons]
      split
      · rename_i heq
        have hnone : listed (e :: side) unit = [] := listed_of_lt
          (List.forall_mem_cons.mpr ⟨hbefore, fun f hf => hbefore.trans (hlt f hf)⟩)
        rw [← heq, hnone, List.nil_append]
      · rw [List.append_nil]
    · split
      · rename_i heq
        rw [listed_cons, listed_cons, ← heq]
        split
        · rfl
        · rw [List.append_nil]
      · rename_i hne
        rw [listed_cons, listed_cons, ih hside]
        split
        · rename_i heq
          rw [if_neg fun h => hne (h.trans heq.symm), List.append_nil]
        · rfl

/-- **Filing one action after the other** lists under each unit the kinds of its actions, in
their order. -/
theorem foldl_fileUnder_spec (h : IsSide side) (actions : List (Action × Bool)) :
    IsSide (actions.foldl (fun side a => fileUnder a.1.unit a.1.kind side) side)
      ∧ ∀ unit, listed
          (actions.foldl (fun side a => fileUnder a.1.unit a.1.kind side) side) unit
        = listed side unit ++ (actions.filter (·.1.unit == unit)).map (·.1.kind) := by
  induction actions generalizing side with
  | nil => exact ⟨h, fun unit => (List.append_nil _).symm⟩
  | cons a actions ih =>
    have hfirst : IsSide (fileUnder a.1.unit a.1.kind side) := isSide_fileUnder h
    obtain ⟨hside, hlisted⟩ := ih hfirst
    refine ⟨hside, fun unit => ?_⟩
    rw [List.foldl_cons, hlisted, listed_fileUnder h, List.append_assoc]
    by_cases heq : a.1.unit = unit <;> simp [heq]

/-- Each side is filed on its own. -/
theorem foldl_fileAction (actions : List (Action × Bool))
    (sides : List (Nat × List String) × List (Nat × List String)) :
    actions.foldl fileAction sides
      = ((actions.filter (·.2 == true)).foldl (fun side a => fileUnder a.1.unit a.1.kind side)
          sides.1,
        (actions.filter (·.2 == false)).foldl (fun side a => fileUnder a.1.unit a.1.kind side)
          sides.2) := by
  induction actions generalizing sides with
  | nil => rfl
  | cons a actions ih =>
    rw [List.foldl_cons, ih]
    obtain ⟨a, _ | _⟩ := a <;> rfl

theorem listed_sortKinds (side : List (Nat × List String)) (unit : Nat) :
    listed (sortKinds side) unit = (listed side unit).mergeSort fun a b => decide (a ≤ b) :=
  listed_map (f := fun kinds => kinds.mergeSort fun a b => decide (a ≤ b)) List.mergeSort_nil side
    unit

theorem isSide_sortKinds (h : IsSide side) : IsSide (sortKinds side) where
  ascending := List.pairwise_map.mpr h.ascending
  ne_nil := List.forall_mem_map.mpr fun e he hnil =>
    h.ne_nil e he (List.perm_nil.mp (hnil ▸ (List.mergeSort_perm e.2 _).symm))

/-! ## Listing unit by unit -/

/-- Units in ascending order, without those that have nothing listed. -/
theorem isSide_filter_map {units : List Nat} (hnodup : units.Nodup) (kinds : Nat → List String) :
    IsSide (((units.mergeSort fun a b => decide (a ≤ b)).map
      fun unit => (unit, kinds unit)).filter (!·.2.isEmpty)) where
  ascending := by
    have hle := List.pairwise_mergeSort' (· ≤ ·) units
    have hne := (List.mergeSort_perm units fun a b => decide (a ≤ b)).nodup_iff.mpr hnodup
    refine List.Pairwise.filter _ (List.pairwise_map.mpr ?_)
    exact hle.imp₂ (fun _ _ => lt_of_le_of_ne) hne
  ne_nil e he := by simpa using (List.mem_filter.mp he).2

/-- What is listed under a unit is found in the list, unless it is nothing. -/
theorem listed_filter_map (units : List Nat) (kinds : Nat → List String) (unit : Nat) :
    listed ((units.map fun unit => (unit, kinds unit)).filter (!·.2.isEmpty)) unit
      = if unit ∈ units then kinds unit else [] := by
  induction units with
  | nil => rfl
  | cons u units ih =>
    rw [List.map_cons, List.filter_cons]
    by_cases hunit : u = unit
    · subst hunit
      cases hkinds : kinds u <;> simp [listed_cons, ih, hkinds]
    · have hmem : unit ∈ u :: units ↔ unit ∈ units := by simp [Ne.symm hunit]
      cases hkinds : kinds u <;> simp [listed_cons, ih, hunit, Ne.symm hunit]

end Solution

namespace Plan

open Solution

variable {p q : Plan} {active : Bool} {unit : Nat} {kind : String}

/-- The kinds of action that are taken, or not taken, at a planning unit. -/
theorem mem_kindsAt : kind ∈ p.kindsAt active unit ↔
    ∃ a, (a, active) ∈ p.catchment.actions.zip p.flags ∧ a.unit = unit ∧ a.kind = kind := by
  simp only [kindsAt, actionsAt, List.mem_mergeSort, List.mem_map, List.mem_filter, beq_iff_eq,
    Prod.exists, and_assoc]
  constructor
  · rintro ⟨a, _, hmem, hunit, rfl, hkind⟩
    exact ⟨a, hmem, hunit, hkind⟩
  · rintro ⟨a, hmem, hunit, hkind⟩
    exact ⟨a, active, hmem, hunit, rfl, hkind⟩

/-- Each kind of action at a unit is taken or not. -/
theorem perm_kindsAt (p : Plan) (unit : Nat) :
    (p.kindsAt true unit ++ p.kindsAt false unit).Perm
      ((p.catchment.actionsAt unit).map (·.kind)) := by
  have hsplit := List.filter_append_perm (fun a : Action × Bool => a.2 == true) (p.actionsAt unit)
  have hdropped : (p.actionsAt unit).filter (fun a => !(a.2 == true))
      = (p.actionsAt unit).filter (·.2 == false) :=
    List.filter_congr fun a _ => by cases a.2 <;> rfl
  rw [hdropped] at hsplit
  refine ((List.mergeSort_perm _ _).append (List.mergeSort_perm _ _)).trans ?_
  rw [← List.map_append, ← map_fst_actionsAt, List.map_map]
  exact hsplit.map _

/-- Nothing is listed where there is no unit. -/
theorem kindsAt_eq_nil (h : p.catchment.Indexed) (hunit : unit ∉ p.catchment.units) :
    p.kindsAt active unit = [] := by
  refine List.eq_nil_iff_forall_not_mem.mpr fun kind hkind => ?_
  obtain ⟨a, hmem, rfl, -⟩ := mem_kindsAt.mp hkind
  exact hunit (h.unit_mem a (List.of_mem_zip hmem).1)

/-- **What a side lists** under a unit are the kinds of action that are taken there, or not
taken. -/
theorem listed_side (h : p.catchment.Indexed) :
    listed (p.side active) unit = p.kindsAt active unit := by
  rw [side, listed_filter_map]
  split
  · rfl
  · rename_i hunit
    exact (kindsAt_eq_nil h fun hmem => hunit (List.mem_mergeSort.mpr hmem)).symm

theorem isSide_side (h : p.catchment.units.Nodup) (active : Bool) : IsSide (p.side active) :=
  isSide_filter_map h (p.kindsAt active)

/-- The kinds at a unit are sorted. -/
theorem pairwise_kindsAt (p : Plan) (active : Bool) (unit : Nat) :
    (p.kindsAt active unit).Pairwise (· ≤ ·) :=
  List.pairwise_mergeSort' (· ≤ ·) _

/-- **A kind of action is listed as taken, or not taken, exactly if the flag of its action says
so.** -/
theorem mem_kindsAt_iff (h : p.catchment.Indexed) {i : Nat} {a : Action}
    (ha : p.catchment.actions[i]? = some a) :
    a.kind ∈ p.kindsAt active a.unit ↔ p.flags[i]? = some active := by
  rw [mem_kindsAt]
  constructor
  · rintro ⟨b, hmem, hunit, hkind⟩
    obtain ⟨j, hj⟩ := List.mem_iff_getElem?.mp hmem
    obtain ⟨hb, hflag⟩ := List.getElem?_zip_eq_some.mp hj
    -- the action that is listed is the one asked for
    have hposition := h.position?_eq hb
    rw [hunit, hkind, h.position?_eq ha, Option.some.injEq] at hposition
    rwa [hposition]
  · intro hflag
    exact ⟨a, List.mem_of_getElem? (List.getElem?_zip_eq_some.mpr ⟨ha, hflag⟩), rfl, rfl⟩

/-- **No unit is listed with kinds of action that are taken exactly if none is taken.** -/
theorem side_true_eq_nil_iff (h : p.catchment.Indexed) :
    p.side true = [] ↔ ∀ flag ∈ p.flags, flag = false := by
  simp only [side, List.filter_eq_nil_iff, List.forall_mem_map, List.mem_mergeSort,
    Bool.not_eq_true', Bool.not_eq_false, List.isEmpty_iff]
  constructor
  · intro hnone flag hflag
    obtain ⟨i, hi, rfl⟩ := List.getElem_of_mem hflag
    have ha := List.getElem?_eq_getElem (p.length_flags ▸ hi : i < p.catchment.actions.length)
    refine Bool.eq_false_iff.mpr fun htaken => ?_
    have hkind := (mem_kindsAt_iff h ha).mpr ((List.getElem?_eq_getElem hi).trans (by rw [htaken]))
    rw [hnone _ (h.unit_mem _ (List.mem_of_getElem? ha))] at hkind
    cases hkind
  · intro hnone unit _
    refine List.eq_nil_iff_forall_not_mem.mpr fun kind hkind => ?_
    obtain ⟨a, hmem, -⟩ := mem_kindsAt.mp hkind
    exact absurd (hnone true (List.of_mem_zip hmem).2) (by decide)

/-- **One side tells the flags.** -/
theorem side_eq_iff (h : p.catchment.Indexed) (hcatchment : q.catchment = p.catchment) :
    p.side active = q.side active ↔ p.flags = q.flags := by
  constructor
  · intro hside
    have hkinds (unit : Nat) : p.kindsAt active unit = q.kindsAt active unit := by
      rw [← listed_side h, ← listed_side (hcatchment ▸ h), hside]
    have hlength : p.flags.length = q.flags.length := by
      rw [p.length_flags, q.length_flags, hcatchment]
    have hbool : ∀ b b' active : Bool, (b = active ↔ b' = active) → b = b' := by decide
    refine List.ext_getElem hlength fun i hp hq => hbool _ _ active ?_
    obtain ⟨a, ha⟩ : ∃ a, p.catchment.actions[i]? = some a :=
      ⟨_, List.getElem?_eq_getElem (p.length_flags ▸ hp)⟩
    have hlisted : a.kind ∈ p.kindsAt active a.unit ↔ p.flags[i]? = some active :=
      mem_kindsAt_iff h ha
    rw [hkinds, mem_kindsAt_iff (hcatchment ▸ h) (hcatchment ▸ ha), List.getElem?_eq_getElem hp,
      List.getElem?_eq_getElem hq, Option.some.injEq, Option.some.injEq] at hlisted
    exact hlisted.symm
  · intro hflags
    obtain ⟨a, rfl⟩ := eq_with_attributes hcatchment.symm hflags
    rfl

/-- **The sides are what comes of filing** one action after the other. -/
theorem filed_eq_sides (h : p.catchment.Indexed) (hunits : p.catchment.units.Nodup) :
    filed (p.catchment.actions.zip p.flags) = (p.side true, p.side false) := by
  have hside (active : Bool) : sortKinds (((p.catchment.actions.zip p.flags).filter
      (·.2 == active)).foldl (fun side a => fileUnder a.1.unit a.1.kind side) [])
      = p.side active := by
    obtain ⟨hfiled, hlisted⟩ :=
      foldl_fileUnder_spec isSide_nil ((p.catchment.actions.zip p.flags).filter (·.2 == active))
    refine (isSide_sortKinds hfiled).ext (isSide_side hunits active) fun unit => ?_
    rw [listed_sortKinds, hlisted, listed_side h, listed_nil, List.nil_append, kindsAt, actionsAt,
      List.filter_comm]
  rw [filed, foldl_fileAction]
  exact Prod.ext (hside true) (hside false)

/-- **What a solution shows of the actions of a plan**: the kinds of action at each unit, divided
into those that are taken and those that are not, and the token. -/
structure ShownBy (p : Plan) (s : Solution) : Prop where
  active : IsSide s.active
  inactive : IsSide s.inactive
  sorted : ∀ unit, (listed s.active unit).Pairwise (· ≤ ·)
    ∧ (listed s.inactive unit).Pairwise (· ≤ ·)
  perm : ∀ unit, (listed s.active unit ++ listed s.inactive unit).Perm
    ((p.catchment.actionsAt unit).map (·.kind))
  mem_active : ∀ (i : Nat) (a : Action), p.catchment.actions[i]? = some a →
    (a.kind ∈ listed s.active a.unit ↔ p.flags[i]? = some true)
  mem_inactive : ∀ (i : Nat) (a : Action), p.catchment.actions[i]? = some a →
    (a.kind ∈ listed s.inactive a.unit ↔ p.flags[i]? = some false)
  token : Token.decode p.catchment.actions.length s.token = .ok p.flags

theorem shownBy_solution (h : p.catchment.Indexed) (hunits : p.catchment.units.Nodup)
    (id : String) : p.ShownBy (p.solution id) where
  active := isSide_side hunits true
  inactive := isSide_side hunits false
  sorted unit := by
    simp only [solution, listed_side h]
    exact ⟨p.pairwise_kindsAt true unit, p.pairwise_kindsAt false unit⟩
  perm unit := by
    simp only [solution, listed_side h]
    exact p.perm_kindsAt unit
  mem_active i a ha := by
    simp only [solution, listed_side h]
    exact mem_kindsAt_iff h ha
  mem_inactive i a ha := by
    simp only [solution, listed_side h]
    exact mem_kindsAt_iff h ha
  token := p.length_flags ▸ Token.decode_encode p.flags

/-- **A solution loses nothing of the actions.** For any plan in a catchment that a scenario
describes, the solution divides the kinds of action at each planning unit into those that are
taken and those that are not, as the flags say, each list sorted and none of them empty, and its
token is read as the flags; the sides are what comes of filing the actions one after the other.
Solutions of two plans in the catchment list the same kinds as taken exactly if they have the same
token, and have the same token exactly if the plans have the same flags. -/
theorem solution_loses_nothing {s : Scenario} {p : Plan} (h : s.interpret = .ok p.catchment)
    (id : String) :
    p.ShownBy (p.solution id)
      ∧ filed (p.catchment.actions.zip p.flags)
        = ((p.solution id).active, (p.solution id).inactive)
      ∧ ∀ (q : Plan) (id' : String), q.catchment = p.catchment →
        ((p.solution id).active = (q.solution id').active
            ↔ (p.solution id).token = (q.solution id').token)
          ∧ ((p.solution id).token = (q.solution id').token ↔ p.flags = q.flags) := by
  have hindexed := Scenario.indexed_of_interpret h
  have hunits := Scenario.nodup_units_of_interpret h
  refine ⟨shownBy_solution hindexed hunits id, filed_eq_sides hindexed hunits, ?_⟩
  intro q id' hcatchment
  have htoken : (p.solution id).token = (q.solution id').token ↔ p.flags = q.flags :=
    Token.encode_injective.eq_iff
  have hactive : (p.solution id).active = (q.solution id').active ↔ p.flags = q.flags :=
    side_eq_iff hindexed hcatchment
  exact ⟨hactive.trans htoken.symm, htoken⟩

/-- Two units have an action of kind `A`; two plans that take one of them each are not shown
alike. -/
theorem solution_loses_nothing_of_repeated_kind :
    ∃ (s : Scenario) (p q : Plan), s.interpret = .ok p.catchment
      ∧ p.catchment.actions.map (fun a => (a.unit, a.kind)) = [(3, "A"), (3, "B"), (7, "A")]
      ∧ p.flags = [true, false, false] ∧ q.flags = [false, false, true]
      ∧ p.ShownBy (p.solution "P")
      ∧ (p.solution "P").active = [(3, ["A"])]
      ∧ (p.solution "P").inactive = [(3, ["B"]), (7, ["A"])]
      ∧ (p.solution "P").active ≠ (q.solution "Q").active := by
  let s : Scenario :=
    { name := "N", annealing := none, modelType := "CatchmentModel", decisionVariables := [],
      units := [⟨3, [⟨"A", []⟩, ⟨"B", []⟩]⟩, ⟨7, [⟨"A", []⟩]⟩], limits := [] }
  let p : Plan := ⟨s.check.2, [true, false, false], ∅, by decide +kernel⟩
  let q : Plan := ⟨s.check.2, [false, false, true], ∅, by decide +kernel⟩
  have hnothing : s.check.1 = [] := by decide +kernel
  have hinterpret : s.interpret = .ok p.catchment :=
    Scenario.interpret_eq_ok_iff.mpr (Prod.ext hnothing rfl)
  obtain ⟨hshown, hfiled, hsame⟩ := solution_loses_nothing hinterpret "P"
  have hsides : filed (p.catchment.actions.zip p.flags)
      = ([(3, ["A"])], [(3, ["B"]), (7, ["A"])]) := by
    decide +kernel
  obtain ⟨hactive, hinactive⟩ := Prod.mk.inj (hfiled.symm.trans hsides)
  obtain ⟨hlisted, htoken⟩ := hsame q "Q" rfl
  refine ⟨s, p, q, hinterpret, by decide +kernel, rfl, rfl, hshown, hactive, hinactive, ?_⟩
  exact fun heq => absurd (htoken.mp (hlisted.mp heq)) (by decide)

end Plan

end CatchmentPlanning
