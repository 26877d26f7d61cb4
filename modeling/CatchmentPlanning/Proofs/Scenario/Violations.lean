import CatchmentPlanning.Proofs.Checks
import CatchmentPlanning.Scenario.Interpretation
import Mathlib.Data.List.Nodup

/-!
# What is wrong with the declarations of a scenario

Every declaration of a scenario has a place, and whatever is wrong with it can be said of the place
alone (`violation?`), with no regard to the order in which the declarations are looked at or to
what is wrong in other places.

Interpretation goes through the places in order and reports what is wrong place by place
(`violations_check`). It does not go inside a declaration that is at fault itself: the actions of a
unit that was declared before are not looked at, and neither are the effects of an action whose
kind is blank or was declared before. What is wrong there is not reported
(`enclosed_violations_hidden`). Every other violation is, in a message of its own
(`every_reached_violation_reported`).
-/

namespace CatchmentPlanning

namespace Scenario

/-! ## Places -/

/-- **Where something is declared.** Declarations of a kind are counted from zero. -/
inductive Place where
  | name
  | model
  | decisionVariable (i : Nat)
  | unit (i : Nat)
  /-- The action `j` of the unit `i`. -/
  | action (i j : Nat)
  /-- The effect `k` of the action `j` of the unit `i`. -/
  | effect (i j k : Nat)
  | limit (i : Nat)
deriving Repr, DecidableEq

/-- The declarations that a place is part of. -/
def Place.around : Place → List Place
  | action i _ => [unit i]
  | effect i j _ => [unit i, action i j]
  | _ => []

/-- The places of an action: its own, and those of its effects. -/
def actionPlaces (i : Nat) (a : ActionDeclaration × Nat) : List Place :=
  .action i a.2 :: a.1.effects.zipIdx.map (.effect i a.2 ·.2)

/-- The places of a unit: its own, and those of its actions. -/
def unitPlaces (u : UnitDeclaration × Nat) : List Place :=
  .unit u.2 :: u.1.actions.zipIdx.flatMap (actionPlaces u.2)

/-- All places of a scenario, in order. -/
def places (s : Scenario) : List Place :=
  [.name] ++ [.model] ++ s.decisionVariables.zipIdx.map (.decisionVariable ·.2)
    ++ s.units.zipIdx.flatMap unitPlaces ++ s.limits.zipIdx.map (.limit ·.2)

/-! ## Violations -/

/-- The names under which decision variables are declared. A blank name declares none. -/
def declaredNames (s : Scenario) : List String :=
  (s.decisionVariables.map (·.name)).filter (!Text.isBlankText ·)

/-- What is wrong with one of several names: that it is blank, or that it was given before. -/
def nameViolation? (blank : Violation) (repeated : String → Violation) (names : List String)
    (i : Nat) : Option Violation :=
  names[i]?.bind fun name =>
    if Text.isBlankText name then some blank
    else if name ∈ names.take i then some (repeated name)
    else none

/-- **What is wrong at a place.** -/
def violation? (s : Scenario) : Place → Option Violation
  | .name => if Text.isBlankText s.name then some .blankName else none
  | .model => if s.modelType = supportedModel then none else some (.unsupportedModel s.modelType)
  | .decisionVariable i =>
    nameViolation? .blankVariable .repeatedVariable (s.decisionVariables.map (·.name)) i
  | .unit i =>
    (s.units.map (·.id))[i]?.bind fun id =>
      if id ∈ (s.units.map (·.id)).take i then some (.repeatedUnit id) else none
  | .action i j =>
    s.units[i]?.bind fun u =>
      nameViolation? (.blankAction u.id) (.repeatedAction u.id) (u.actions.map (·.kind)) j
  | .effect i j k =>
    s.units[i]?.bind fun u => u.actions[j]?.bind fun a => a.effects[k]?.bind fun e =>
      if e.1 ∈ s.declaredNames then none else some (.unknownAffected u.id a.kind e.1)
  | .limit i =>
    s.limits[i]?.bind fun l =>
      if l.name ∈ s.declaredNames then none else some (.unknownLimited l.name)

/-- Nothing is wrong with the declarations that a place is part of. -/
def Reaches (s : Scenario) (place : Place) : Prop :=
  ∀ around ∈ place.around, s.violation? around = none

instance (s : Scenario) (place : Place) : Decidable (s.Reaches place) :=
  inferInstanceAs (Decidable (∀ around ∈ place.around, s.violation? around = none))

/-- What is reported of a place: what is wrong there, if nothing is wrong around it. -/
def reported? (s : Scenario) (place : Place) : Option Violation :=
  if s.Reaches place then s.violation? place else none

variable {s : Scenario} {place : Place} {v : Violation} {i j k : Nat}

theorem reported?_eq_some_iff :
    s.reported? place = some v ↔ s.violation? place = some v ∧ s.Reaches place := by
  rw [reported?, Option.ite_none_right_eq_some, and_comm]

theorem reported?_of_reaches (h : s.Reaches place) : s.reported? place = s.violation? place :=
  if_pos h

theorem reaches_of_around (h : place.around = []) : s.Reaches place := by
  rw [Reaches, h]
  exact List.forall_mem_nil _

theorem reaches_action_iff : s.Reaches (.action i j) ↔ s.violation? (.unit i) = none := by
  simp [Reaches, Place.around]

theorem reaches_effect_iff : s.Reaches (.effect i j k) ↔
    s.violation? (.unit i) = none ∧ s.violation? (.action i j) = none := by
  simp [Reaches, Place.around]

/-! ## Names one after another -/

/-- What is wrong with a name behind others depends on these alone. -/
theorem nameViolation?_append (blank : Violation) (repeated : String → Violation)
    (before rest : List String) (name : String) :
    nameViolation? blank repeated (before ++ name :: rest) before.length
      = if Text.isBlankText name then some blank
        else if name ∈ before then some (repeated name) else none := by
  simp [nameViolation?]

/-- The names that are known are those that are not blank and were given before. -/
def Knows (known before : List String) : Prop :=
  ∀ name, Text.isBlankText name = false → (name ∈ known ↔ name ∈ before)

theorem Knows.nil : Knows [] [] := fun _ _ => Iff.rfl

theorem Knows.cons {known before : List String} (h : Knows known before) (name : String) :
    Knows (name :: known) (before ++ [name]) := by
  intro other hother
  rw [List.mem_cons, List.mem_append, List.mem_singleton, h other hother, or_comm]

/-- A name that is blank or known already leaves the known names as they are. -/
theorem Knows.skip {known before : List String} (h : Knows known before) {name : String}
    (hname : Text.isBlankText name = true ∨ name ∈ known) : Knows known (before ++ [name]) := by
  intro other hother
  rw [List.mem_append, List.mem_singleton, ← h other hother]
  refine ⟨.inl, fun hmem => hmem.elim id ?_⟩
  rintro rfl
  obtain hblank | hknown := hname
  · exact absurd hblank (by rw [hother]; decide)
  · exact hknown

/-! ## Decision variables -/

/-- What is found wrong with decision variables is what is wrong at their places. -/
theorem declareVariables_fst (names : List String) (before declarations : List VariableDeclaration)
    (hdeclarations : s.decisionVariables = before ++ declarations)
    (hnames : Knows names (before.map (·.name))) :
    (declareVariables names declarations).1
      = ((declarations.zipIdx before.length).map (.decisionVariable ·.2)).filterMap
          s.reported? := by
  induction declarations generalizing names before with
  | nil => rfl
  | cons d rest ih =>
    have hrest (given : List String) := ih given (before ++ [d]) (by simp [hdeclarations])
    simp only [List.map_append, List.map_singleton, List.length_append, List.length_singleton]
      at hrest
    have hhere : s.reported? (.decisionVariable before.length)
        = if Text.isBlankText d.name then some .blankVariable
          else if d.name ∈ before.map (·.name) then some (.repeatedVariable d.name) else none := by
      rw [reported?_of_reaches (reaches_of_around rfl), violation?, hdeclarations, List.map_append,
        List.map_cons, ← nameViolation?_append _ _ _ (rest.map (·.name)), List.length_map]
    rw [List.zipIdx_cons, List.map_cons, List.filterMap_cons, hhere, declareVariables]
    by_cases hblank : Text.isBlankText d.name = true
    · rw [if_pos hblank, if_pos hblank]
      exact congrArg (_ :: ·) (hrest names (hnames.skip (.inl hblank)))
    · have hiff := hnames d.name (Bool.eq_false_iff.mpr hblank)
      rw [if_neg hblank, if_neg hblank]
      by_cases hknown : d.name ∈ names
      · rw [if_pos hknown, if_pos (hiff.mp hknown)]
        exact congrArg (_ :: ·) (hrest names (hnames.skip (.inr hknown)))
      · rw [if_neg hknown, if_neg fun h => hknown (hiff.mpr h)]
        exact hrest (d.name :: names) (hnames.cons d.name)

/-- The names that are declared anew are those that are not blank. -/
theorem mem_names_declareVariables {names : List String} {declarations : List VariableDeclaration}
    {name : String} :
    name ∈ (declareVariables names declarations).2.map (·.name) ↔
      name ∈ (declarations.map (·.name)).filter (!Text.isBlankText ·) ∧ name ∉ names := by
  induction declarations generalizing names with
  | nil => simp [declareVariables]
  | cons d rest ih =>
    rw [declareVariables, List.map_cons]
    by_cases hblank : Text.isBlankText d.name = true
    · rw [if_pos hblank, List.filter_cons_of_neg (by simp [hblank])]
      exact ih
    · rw [if_neg hblank, List.filter_cons_of_pos (by simp [hblank]), List.mem_cons]
      by_cases hknown : d.name ∈ names
      · rw [if_pos hknown]
        refine ih.trans (and_congr_left fun hnew => ?_)
        exact ⟨.inr, fun hmem => hmem.resolve_left fun heq => hnew (heq ▸ hknown)⟩
      · rw [if_neg hknown]
        show name ∈ d.name :: (declareVariables (d.name :: names) rest).2.map (·.name) ↔ _
        rw [List.mem_cons, ih, List.mem_cons]
        constructor
        · rintro (rfl | ⟨hmem, hnew⟩)
          · exact ⟨.inl rfl, hknown⟩
          · exact ⟨.inr hmem, fun h => hnew (.inr h)⟩
        · rintro ⟨heq | hmem, hnew⟩
          · exact .inl heq
          · by_cases heq : name = d.name
            · exact .inl heq
            · exact .inr ⟨hmem, not_or.mpr ⟨heq, hnew⟩⟩

/-! ## Units and their actions -/

section

variable {names : List String} {u : UnitDeclaration}

/-- Where only the declarations themselves count, and not their places, the places can be left
out. -/
theorem filterMap_zipIdx {α β : Type} {l : List α} {n : Nat} {f : α × Nat → Option β}
    {g : α → Option β} (h : ∀ i a, l[i]? = some a → f (a, n + i) = g a) :
    (l.zipIdx n).filterMap f = l.filterMap g := by
  induction l generalizing n with
  | nil => rfl
  | cons a l ih =>
    rw [List.zipIdx_cons, List.filterMap_cons, List.filterMap_cons, ← h 0 a rfl, ih]
    · rfl
    · intro i b hb
      rw [Nat.add_assoc, Nat.add_comm 1 i]
      exact h (i + 1) b hb

theorem filterMap_ite_none {α β : Type} (p : α → Prop) [DecidablePred p] (f : α → β) (l : List α) :
    l.filterMap (fun a => if p a then none else some (f a)) = (l.filter (¬ p ·)).map f := by
  induction l with
  | nil => rfl
  | cons a l ih => by_cases h : p a <;> simp [h, ih]

/-- The effects of an action are looked at unless something is wrong with its kind. Those that are
wrong affect a variable that is not declared. -/
theorem filterMap_effectPlaces (hnames : ∀ name, name ∈ names ↔ name ∈ s.declaredNames)
    (hu : s.units[i]? = some u) {a : ActionDeclaration} (ha : u.actions[j]? = some a)
    (hunit : s.violation? (.unit i) = none) :
    (a.effects.zipIdx.map fun e => Place.effect i j e.2).filterMap s.reported?
      = if s.violation? (.action i j) = none
        then ((a.effects.map (·.1)).filter (· ∉ names)).map (.unknownAffected u.id a.kind)
        else [] := by
  rw [List.filterMap_map]
  split
  · rename_i haction
    rw [← filterMap_ite_none (· ∈ names), List.filterMap_map]
    refine filterMap_zipIdx fun k e he => ?_
    show s.reported? (.effect i j (0 + k)) = _
    rw [Nat.zero_add, reported?_of_reaches (reaches_effect_iff.mpr ⟨hunit, haction⟩), violation?,
      hu, Option.bind_some, ha, Option.bind_some, he, Option.bind_some]
    exact if_congr (hnames e.1).symm rfl rfl
  · rename_i haction
    refine List.filterMap_eq_nil_iff.mpr fun e _ => if_neg fun hreaches => ?_
    exact haction (reaches_effect_iff.mp hreaches).2

/-- What is found wrong with the actions of a unit is what is reported of their places, if nothing
is wrong with the unit. -/
theorem declareActions_fst (hnames : ∀ name, name ∈ names ↔ name ∈ s.declaredNames)
    (hu : s.units[i]? = some u) (hunit : s.violation? (.unit i) = none) (kinds : List String)
    (before actions : List ActionDeclaration) (hactions : u.actions = before ++ actions)
    (hkinds : Knows kinds (before.map (·.kind))) :
    (declareActions names u.id kinds actions).1
      = ((actions.zipIdx before.length).flatMap (actionPlaces i)).filterMap s.reported? := by
  induction actions generalizing kinds before with
  | nil => rfl
  | cons a rest ih =>
    have hrest (given : List String) := ih given (before ++ [a]) (by simp [hactions])
    simp only [List.map_append, List.map_singleton, List.length_append, List.length_singleton]
      at hrest
    have hhere : s.violation? (.action i before.length)
        = if Text.isBlankText a.kind then some (.blankAction u.id)
          else if a.kind ∈ before.map (·.kind) then some (.repeatedAction u.id a.kind)
          else none := by
      rw [violation?, hu, Option.bind_some, hactions, List.map_append, List.map_cons,
        ← nameViolation?_append _ _ _ (rest.map (·.kind)), List.length_map]
    have hreported :
        s.reported? (.action i before.length) = s.violation? (.action i before.length) :=
      reported?_of_reaches (reaches_action_iff.mpr hunit)
    have ha : u.actions[before.length]? = some a := by simp [hactions]
    rw [List.zipIdx_cons, List.flatMap_cons, List.filterMap_append, actionPlaces,
      List.filterMap_cons, filterMap_effectPlaces hnames hu ha hunit, hreported, hhere,
      declareActions]
    by_cases hblank : Text.isBlankText a.kind = true
    · rw [if_pos hblank, if_pos hblank, if_neg nofun]
      exact congrArg (_ :: ·) (hrest kinds (hkinds.skip (.inl hblank)))
    · have hiff := hkinds a.kind (Bool.eq_false_iff.mpr hblank)
      rw [if_neg hblank, if_neg hblank]
      by_cases hknown : a.kind ∈ kinds
      · rw [if_pos hknown, if_pos (hiff.mp hknown), if_neg nofun]
        exact congrArg (_ :: ·) (hrest kinds (hkinds.skip (.inr hknown)))
      · rw [if_neg hknown, if_neg fun h => hknown (hiff.mpr h), if_pos rfl]
        exact congrArg (_ ++ ·) (hrest (a.kind :: kinds) (hkinds.cons a.kind))

/-- The actions of a unit that was declared before are not looked at. -/
theorem filterMap_actionPlaces (hunit : s.violation? (.unit i) ≠ none)
    (actions : List ActionDeclaration) :
    (actions.zipIdx.flatMap (actionPlaces i)).filterMap s.reported? = [] := by
  refine List.filterMap_eq_nil_iff.mpr fun place hplace => if_neg fun hreaches => hunit ?_
  obtain ⟨a, -, hplace⟩ := List.mem_flatMap.mp hplace
  obtain rfl | hplace := List.mem_cons.mp hplace
  · exact reaches_action_iff.mp hreaches
  · obtain ⟨e, -, rfl⟩ := List.mem_map.mp hplace
    exact (reaches_effect_iff.mp hreaches).1

/-- What is found wrong with units is what is reported of their places. -/
theorem declareUnits_fst (hnames : ∀ name, name ∈ names ↔ name ∈ s.declaredNames)
    (ids : List Nat) (before units : List UnitDeclaration) (hunits : s.units = before ++ units)
    (hids : ∀ id, id ∈ ids ↔ id ∈ before.map (·.id)) :
    (declareUnits names ids units).1
      = ((units.zipIdx before.length).flatMap unitPlaces).filterMap s.reported? := by
  induction units generalizing ids before with
  | nil => rfl
  | cons u rest ih =>
    have hu : s.units[before.length]? = some u := by simp [hunits]
    have hhere : s.violation? (.unit before.length)
        = if u.id ∈ before.map (·.id) then some (.repeatedUnit u.id) else none := by
      simp [violation?, hunits]
    have hreported : s.reported? (.unit before.length) = s.violation? (.unit before.length) :=
      reported?_of_reaches (reaches_of_around rfl)
    rw [List.zipIdx_cons, List.flatMap_cons, List.filterMap_append, unitPlaces,
      List.filterMap_cons, hreported, declareUnits]
    have hrest (given : List Nat) := ih given (before ++ [u]) (by simp [hunits])
    simp only [List.map_append, List.map_singleton, List.length_append, List.length_singleton,
      List.mem_append, List.mem_singleton, ← hids] at hrest
    by_cases hknown : u.id ∈ ids
    · rw [if_pos ((hids u.id).mp hknown)] at hhere
      rw [if_pos hknown, filterMap_actionPlaces (by rw [hhere]; exact nofun), hhere]
      refine congrArg (_ :: ·) (hrest ids fun id => ⟨.inl, fun h => h.elim (fun h => h) ?_⟩)
      exact fun h => h ▸ hknown
    · rw [if_neg fun h => hknown ((hids u.id).mpr h)] at hhere
      have hactions := declareActions_fst hnames hu hhere [] [] u.actions
        (List.nil_append _).symm .nil
      rw [if_neg hknown, hhere]
      refine congr (congrArg (· ++ ·) hactions) (hrest (u.id :: ids) fun id => ?_)
      rw [List.mem_cons, or_comm]

end

/-! ## Limits -/

/-- What is found wrong with limits is found by looking at each of them alone. -/
theorem declareLimits_fst (names : List String) (limits : List LimitDeclaration) :
    (declareLimits names limits).1 = limits.filterMap fun l =>
      if l.name ∈ names then none else some (.unknownLimited l.name) := by
  induction limits with
  | nil => rfl
  | cons l rest ih =>
    rw [declareLimits, List.filterMap_cons, ← ih]
    dsimp only
    by_cases hname : l.name ∈ names
    · rw [if_pos hname, if_pos hname]
    · rw [if_neg hname, if_neg hname]

/-! ## Scenarios -/

/-- The decision variables that effects and limits may speak of are those that are declared. -/
theorem mem_declared_iff {name : String} :
    name ∈ (declareVariables [] s.decisionVariables).2.map (·.name) ↔ name ∈ s.declaredNames := by
  rw [mem_names_declareVariables, and_iff_left List.not_mem_nil, declaredNames]

/-- **What is found wrong with a scenario is what is reported of its places**, one after the
other. -/
theorem violations_check (s : Scenario) : s.check.1 = s.places.filterMap s.reported? := by
  have hvariables := declareVariables_fst [] [] s.decisionVariables (List.nil_append _).symm .nil
  have hunits := declareUnits_fst (fun name => mem_declared_iff) [] [] s.units
    (List.nil_append _).symm fun _ => Iff.rfl
  have hlimits :
      (declareLimits ((declareVariables [] s.decisionVariables).2.map (·.name)) s.limits).1
      = (s.limits.zipIdx.map fun l => Place.limit l.2).filterMap s.reported? := by
    rw [declareLimits_fst, List.filterMap_map]
    refine (filterMap_zipIdx fun i l hl => ?_).symm
    show s.reported? (.limit (0 + i)) = _
    rw [Nat.zero_add, reported?_of_reaches (reaches_of_around rfl), violation?, hl,
      Option.bind_some]
    exact if_congr mem_declared_iff.symm rfl rfl
  have hname : (if Text.isBlankText s.name then [Violation.blankName] else [])
      = [Place.name].filterMap s.reported? := by
    rw [List.filterMap_cons, reported?_of_reaches (reaches_of_around rfl), violation?]
    split <;> rfl
  have hmodel : (if s.modelType = supportedModel then [] else [.unsupportedModel s.modelType])
      = [Place.model].filterMap s.reported? := by
    rw [List.filterMap_cons, reported?_of_reaches (reaches_of_around rfl), violation?]
    split <;> rfl
  show _ ++ _ ++ (declareVariables [] s.decisionVariables).1
    ++ (declareUnits ((declareVariables [] s.decisionVariables).2.map (·.name)) [] s.units).1
    ++ (declareLimits ((declareVariables [] s.decisionVariables).2.map (·.name)) s.limits).1 = _
  rw [hname, hmodel, hvariables, hunits, hlimits, places, List.filterMap_append,
    List.filterMap_append, List.filterMap_append, List.filterMap_append]
  rfl

/-! ## Every place has its own report -/

/-- The places of declarations are all different. -/
theorem nodup_map_zipIdx {α β : Type} {f : Nat → β} (hf : f.Injective) (l : List α) :
    (l.zipIdx.map (f ·.2)).Nodup := by
  have hmap : l.zipIdx.map (f ·.2) = (l.zipIdx.map Prod.snd).map f := by rw [List.map_map]; rfl
  rw [hmap, List.zipIdx_map_snd]
  exact (List.nodup_range' ..).map hf

/-- The places inside declarations are all different if each of them tells its declaration. -/
theorem nodup_flatMap_zipIdx {α β : Type} {l : List α} {f : α × Nat → List β}
    {index : β → Option Nat} (hf : ∀ a, (f a).Nodup) (hindex : ∀ a, ∀ b ∈ f a, index b = some a.2) :
    (l.zipIdx.flatMap f).Nodup := by
  refine List.nodup_flatMap.mpr ⟨fun a _ => hf a, ?_⟩
  have hnodup : (l.zipIdx.map fun a => a.2).Nodup := nodup_map_zipIdx Function.injective_id l
  refine (List.pairwise_map.mp hnodup).imp fun {a a'} hne b hb hb' => hne ?_
  exact Option.some.inj ((hindex a b hb).symm.trans (hindex a' b hb'))

/-- The number of the unit that a place belongs to. -/
def Place.unit? : Place → Option Nat
  | unit i | action i _ | effect i _ _ => some i
  | _ => none

/-- The number, within its unit, of the action that a place belongs to. -/
def Place.action? : Place → Option Nat
  | action _ j | effect _ j _ => some j
  | _ => none

theorem of_mem_actionPlaces {a : ActionDeclaration × Nat} (h : place ∈ actionPlaces i a) :
    place.unit? = some i ∧ place.action? = some a.2 := by
  obtain rfl | h := List.mem_cons.mp h
  · exact ⟨rfl, rfl⟩
  · obtain ⟨e, -, rfl⟩ := List.mem_map.mp h
    exact ⟨rfl, rfl⟩

theorem unit?_of_mem_unitPlaces {u : UnitDeclaration × Nat} (h : place ∈ unitPlaces u) :
    place.unit? = some u.2 := by
  obtain rfl | h := List.mem_cons.mp h
  · rfl
  · obtain ⟨a, -, h⟩ := List.mem_flatMap.mp h
    exact (of_mem_actionPlaces h).1

theorem nodup_actionPlaces (i : Nat) (a : ActionDeclaration × Nat) : (actionPlaces i a).Nodup := by
  refine List.nodup_cons.mpr ⟨fun h => ?_, nodup_map_zipIdx (fun k k' h => ?_) _⟩
  · obtain ⟨e, -, h⟩ := List.mem_map.mp h
    cases h
  · cases h
    rfl

theorem nodup_unitPlaces (u : UnitDeclaration × Nat) : (unitPlaces u).Nodup := by
  refine List.nodup_cons.mpr ⟨fun h => ?_, ?_⟩
  · obtain ⟨a, -, h⟩ := List.mem_flatMap.mp h
    cases (of_mem_actionPlaces h).2
  · exact nodup_flatMap_zipIdx (nodup_actionPlaces u.2) fun a b hb => (of_mem_actionPlaces hb).2

/-- **No place is looked at twice.** -/
theorem nodup_places (s : Scenario) : s.places.Nodup := by
  have hvariables : (s.decisionVariables.zipIdx.map (Place.decisionVariable ·.2)).Nodup :=
    nodup_map_zipIdx (fun i i' h => by cases h; rfl) _
  have hlimits : (s.limits.zipIdx.map (Place.limit ·.2)).Nodup :=
    nodup_map_zipIdx (fun i i' h => by cases h; rfl) _
  have hunits : (s.units.zipIdx.flatMap unitPlaces).Nodup :=
    nodup_flatMap_zipIdx nodup_unitPlaces fun _ _ => unit?_of_mem_unitPlaces
  have hunit : ∀ p ∈ s.units.zipIdx.flatMap unitPlaces, p.unit?.isSome = true := by
    intro p hp
    obtain ⟨u, -, hp⟩ := List.mem_flatMap.mp hp
    rw [unit?_of_mem_unitPlaces hp, Option.isSome_some]
  have hfirst : ([.name] ++ [.model] : List Place).Nodup := by decide
  refine ((hfirst.append hvariables ?_).append hunits ?_).append hlimits ?_
  · simp [List.disjoint_left]
  · simp only [List.disjoint_left, List.mem_append, List.mem_map, List.mem_singleton]
    rintro p ((rfl | rfl) | ⟨d, -, rfl⟩) hp <;> cases hunit _ hp
  · simp only [List.disjoint_right, List.mem_append, List.mem_map, List.mem_singleton]
    rintro p ⟨l, -, rfl⟩ (((h | h) | ⟨d, -, h⟩) | hp)
    · cases h
    · cases h
    · cases h
    · cases hunit _ hp

/-- Where something is wrong there is a declaration. -/
theorem mem_places_of_violation? (h : s.violation? place = some v) : place ∈ s.places := by
  have hunit {i : Nat} {u : UnitDeclaration} (hu : s.units[i]? = some u)
      (hplace : place ∈ unitPlaces (u, i)) : place ∈ s.places :=
    List.mem_append_left _ (List.mem_append_right _
      (List.mem_flatMap.mpr ⟨(u, i), List.mem_zipIdx_iff_getElem?.mpr hu, hplace⟩))
  have haction {u : UnitDeclaration} {i j : Nat} {a : ActionDeclaration}
      (ha : u.actions[j]? = some a) (hplace : place ∈ actionPlaces i (a, j)) :
      place ∈ unitPlaces (u, i) :=
    List.mem_cons_of_mem _
      (List.mem_flatMap.mpr ⟨(a, j), List.mem_zipIdx_iff_getElem?.mpr ha, hplace⟩)
  cases place with
  | name | model => simp [places]
  | decisionVariable i =>
    obtain ⟨name, hname, -⟩ := Option.bind_eq_some_iff.mp h
    rw [List.getElem?_map] at hname
    obtain ⟨d, hd, -⟩ := Option.map_eq_some_iff.mp hname
    exact List.mem_append_left _ (List.mem_append_left _ (List.mem_append_right _
      (List.mem_map.mpr ⟨(d, i), List.mem_zipIdx_iff_getElem?.mpr hd, rfl⟩)))
  | unit i =>
    obtain ⟨id, hid, -⟩ := Option.bind_eq_some_iff.mp h
    rw [List.getElem?_map] at hid
    obtain ⟨u, hu, -⟩ := Option.map_eq_some_iff.mp hid
    exact hunit hu List.mem_cons_self
  | action i j =>
    obtain ⟨u, hu, h⟩ := Option.bind_eq_some_iff.mp h
    obtain ⟨kind, hkind, -⟩ := Option.bind_eq_some_iff.mp h
    rw [List.getElem?_map] at hkind
    obtain ⟨a, ha, -⟩ := Option.map_eq_some_iff.mp hkind
    exact hunit hu (haction ha List.mem_cons_self)
  | effect i j k =>
    obtain ⟨u, hu, h⟩ := Option.bind_eq_some_iff.mp h
    obtain ⟨a, ha, h⟩ := Option.bind_eq_some_iff.mp h
    obtain ⟨e, he, -⟩ := Option.bind_eq_some_iff.mp h
    exact hunit hu (haction ha (List.mem_cons_of_mem _ (List.mem_map.mpr
      ⟨(e, k), List.mem_zipIdx_iff_getElem?.mpr he, rfl⟩)))
  | limit i =>
    obtain ⟨l, hl, -⟩ := Option.bind_eq_some_iff.mp h
    exact List.mem_append_right _ (List.mem_map.mpr
      ⟨(l, i), List.mem_zipIdx_iff_getElem?.mpr hl, rfl⟩)

/-- Where something is wrong, something is reported: of the place itself, or of a declaration that
it is part of. -/
theorem exists_reported? (h : s.violation? place = some v) :
    ∃ place' v', s.reported? place' = some v' := by
  have hreport {place' : Place} (hreaches : s.Reaches place')
      (hne : s.violation? place' ≠ none) : ∃ place' v', s.reported? place' = some v' := by
    obtain ⟨v', hv'⟩ := Option.ne_none_iff_exists'.mp hne
    exact ⟨place', v', reported?_eq_some_iff.mpr ⟨hv', hreaches⟩⟩
  by_cases hreaches : s.Reaches place
  · exact hreport hreaches (by rw [h]; exact nofun)
  · cases place with
    | name | model | decisionVariable | unit | limit =>
      exact absurd (reaches_of_around rfl) hreaches
    | action i j => exact hreport (reaches_of_around rfl) (mt reaches_action_iff.mpr hreaches)
    | effect i j k =>
      by_cases hunit : s.violation? (.unit i) = none
      · exact hreport (reaches_action_iff.mpr hunit) fun haction =>
          hreaches (reaches_effect_iff.mpr ⟨hunit, haction⟩)
      · exact hreport (reaches_of_around rfl) hunit

/-- If anything is wrong anywhere, something is found. -/
theorem check_ne_nil (h : s.violation? place = some v) : s.check.1 ≠ [] := by
  obtain ⟨place', v', hreported⟩ := exists_reported? h
  have hplace : place' ∈ s.places :=
    mem_places_of_violation? (reported?_eq_some_iff.mp hreported).1
  rw [violations_check]
  exact List.ne_nil_of_mem (List.mem_filterMap.mpr ⟨place', hplace, hreported⟩)

/-- A scenario in which anything is found wrong is turned down with all that is found wrong. -/
theorem interpret_eq_error (h : s.check.1 ≠ []) : s.interpret = .error (.invalid s.check.1) := by
  unfold interpret
  split
  · rename_i hcheck
    exact absurd (congrArg (·.1) hcheck) h
  · rename_i hcheck
    rw [hcheck]

/-- **Every violation is reported that is not enclosed in another one**, in a message of its own,
and nothing else is reported. A scenario in which anything at all is wrong, enclosed or not, is
turned down. -/
theorem every_reached_violation_reported (h : s.violation? place = some v) :
    ∃ reported : List (Place × Violation),
      s.interpret = .error (.invalid (reported.map (·.2)))
        ∧ (violationReport (reported.map (·.2))).messages = reported.map (·.2.message)
        ∧ (reported.map (·.1)).Nodup
        ∧ ∀ place v, (place, v) ∈ reported ↔ s.violation? place = some v ∧ s.Reaches place := by
  have hviolations : (s.places.filterMap fun place => (s.reported? place).map (place, ·)).map (·.2)
      = s.check.1 := by
    rw [List.map_filterMap, violations_check]
    exact List.filterMap_congr fun place _ => by rw [Option.map_map]; exact Option.map_id'
  refine ⟨s.places.filterMap fun place => (s.reported? place).map (place, ·), ?_, List.map_map,
    ?_, fun place v => ?_⟩
  · rw [hviolations, interpret_eq_error (check_ne_nil h)]
  · rw [List.map_filterMap]
    refine s.nodup_places.filterMap fun p p' q hp hp' => ?_
    rw [Option.mem_def, Option.map_map, Option.map_eq_some_iff] at hp hp'
    obtain ⟨_, _, hq⟩ := hp
    obtain ⟨_, _, hq'⟩ := hp'
    exact hq.trans hq'.symm
  · rw [List.mem_filterMap, ← reported?_eq_some_iff]
    constructor
    · rintro ⟨p, -, hp⟩
      obtain ⟨w, hw, heq⟩ := Option.map_eq_some_iff.mp hp
      cases heq
      exact hw
    · intro hv
      have hplace : place ∈ s.places :=
        mem_places_of_violation? (reported?_eq_some_iff.mp hv).1
      exact ⟨place, hplace, Option.map_eq_some_iff.mpr ⟨v, hv, rfl⟩⟩

/-- A blank name does not keep what is wrong with an action and with a limit from being reported,
each of them with a message of its own. -/
theorem every_reached_violation_reported_behind_blank_name :
    ∃ (text : String) (s : Scenario) (reported : List (Place × Violation)), read text = .ok s
      ∧ s.violation? .name = some .blankName
      ∧ s.interpret = .error (.invalid (reported.map (·.2)))
      ∧ (reported.map (·.1)).Nodup
      ∧ (.name, .blankName) ∈ reported ∧ (.action 0 1, .repeatedAction 7 "B") ∈ reported
      ∧ (.limit 0, .unknownLimited "X") ∈ reported := by
  let text := "[Scenario]\nName = \" \"\n[Model]\nType = \"CatchmentModel\"\n"
    ++ "[[Model.PlanningUnits]]\nId = 7\n[[Model.PlanningUnits.Actions]]\nType = \"B\"\n"
    ++ "[[Model.PlanningUnits.Actions]]\nType = \"B\"\n"
    ++ "[[Model.Limits]]\nVariable = \"X\"\nMaximum = 1\n"
  have htext : ((read text).toOption.map fun s =>
        ([.name, .unit 0, .action 0 1, .limit 0] : List Place).map s.violation?)
      = some [some .blankName, none, some (.repeatedAction 7 "B"), some (.unknownLimited "X")] := by
    decide +kernel
  obtain ⟨s, hread, hviolations⟩ := Option.map_eq_some_iff.mp htext
  simp only [List.map_cons, List.map_nil, List.cons.injEq, and_true] at hviolations
  obtain ⟨hname, hunit, haction, hlimit⟩ := hviolations
  obtain ⟨reported, hinterpret, -, hnodup, hmem⟩ := every_reached_violation_reported hname
  exact ⟨text, s, reported, Checks.toOption_eq_some_iff.mp hread, hname, hinterpret, hnodup,
    (hmem _ _).mpr ⟨hname, reaches_of_around rfl⟩,
    (hmem _ _).mpr ⟨haction, reaches_action_iff.mpr hunit⟩,
    (hmem _ _).mpr ⟨hlimit, reaches_of_around rfl⟩⟩

/-- What is enclosed in another violation is not reported: an action without a type in a unit that
was declared before, and an effect of an action that was declared before. -/
theorem enclosed_violations_hidden :
    ∃ (text : String) (s : Scenario) (reported : List Violation), read text = .ok s
      ∧ s.interpret = .error (.invalid reported)
      ∧ (violationReport reported).messages
        = ["planning unit [7] declares action [B] twice", "planning unit [7] declared twice"]
      ∧ s.violation? (.effect 0 1 0) = some (.unknownAffected 7 "B" "X")
      ∧ s.violation? (.action 1 0) = some (.blankAction 7) := by
  let text := "[Scenario]\nName = \"A\"\n[Model]\nType = \"CatchmentModel\"\n"
    ++ "[[Model.PlanningUnits]]\nId = 7\n[[Model.PlanningUnits.Actions]]\nType = \"B\"\n"
    ++ "[[Model.PlanningUnits.Actions]]\nType = \"B\"\n"
    ++ "[Model.PlanningUnits.Actions.Effects]\nX = 1\n"
    ++ "[[Model.PlanningUnits]]\nId = 7\n[[Model.PlanningUnits.Actions]]\nType = \"\"\n"
  have htext : ((read text).toOption.map fun s =>
        (s.check.1, s.violation? (.effect 0 1 0), s.violation? (.action 1 0)))
      = some ([.repeatedAction 7 "B", .repeatedUnit 7], some (.unknownAffected 7 "B" "X"),
          some (.blankAction 7)) := by
    decide +kernel
  obtain ⟨s, hread, hviolations⟩ := Option.map_eq_some_iff.mp htext
  rw [Prod.mk.injEq, Prod.mk.injEq] at hviolations
  obtain ⟨hcheck, heffect, haction⟩ := hviolations
  have hne : s.check.1 ≠ [] := by
    rw [hcheck]
    exact nofun
  refine ⟨text, s, _, Checks.toOption_eq_some_iff.mp hread, interpret_eq_error hne, ?_, heffect,
    haction⟩
  rw [hcheck]
  decide +kernel

end Scenario

end CatchmentPlanning
