import CatchmentPlanning.Exploration
import CatchmentPlanning.Proofs.Checks
import CatchmentPlanning.Proofs.Plan.Edits
import CatchmentPlanning.Proofs.Steps

/-!
# What can become of an exploration

Whatever clients ask for, one request makes one of few things of an exploration:
another plan on the scratchpad, a plan put under a label, another front, a
solution built for a row of the front, or nothing at all. `Move` lists them, and
each piece of work on an exploration is shown to be all or nothing and to make
one of these moves if it succeeds. What holds of every exploration that can be
reached is then a matter of one case for each kind of move.

## Which steps cannot fail

A front is taken over, and a plan is put under a label, before the entry that is
affected is brought up to date, and bringing an entry up to date can fail. It
does not fail here: the scratchpad is always on the roster
(`refresh_scratchpad`), and so is an entry that has just been put there
(`refresh_put`).
-/

namespace CatchmentPlanning

namespace Roster

open Checks

/-- The scratchpad is always there to be brought up to date. -/
theorem refresh_scratchpad (r : Roster) (front : Option Front) :
    r.refresh scratchpadLabel front
      = .ok { r with scratchpad := r.scratchpad.refresh front } := by
  have hne : scratchpadLabel ≠ asIsLabel := by decide
  unfold refresh contains
  rw [find?_scratchpad, Option.isSome_some, if_pos rfl, modify, if_neg hne, if_pos rfl]

/-- The entry for a plan that is put under a label. -/
def newEntry (label : String) (p : Plan) : Entry :=
  .ofPlan label p (if label = scratchpadLabel then .reserved else .client)

/-- The roster with an entry put under its label. -/
def put (r : Roster) (e : Entry) : Roster :=
  if e.label = scratchpadLabel then { r with scratchpad := e }
  else { r with clients := e :: r.clients }

@[simp] theorem label_newEntry (label : String) (p : Plan) :
    (newEntry label p).label = label :=
  rfl

theorem put_of_eq {r : Roster} {e : Entry} (h : e.label = scratchpadLabel) :
    r.put e = { r with scratchpad := e } :=
  if_pos h

theorem put_of_ne {r : Roster} {e : Entry} (h : e.label ≠ scratchpadLabel) :
    r.put e = { r with clients := e :: r.clients } :=
  if_neg h

/-- A label under which a plan can be put: the one of the scratchpad, or one that
is not on the roster. -/
def IsFree (r : Roster) (label : String) : Prop :=
  label = scratchpadLabel ∨ r.contains label = false

theorem IsFree.ne_asIs {r : Roster} {label : String} (h : r.IsFree label) :
    label ≠ asIsLabel := by
  rintro rfl
  obtain h | h := h
  · exact absurd h (by decide)
  · rw [contains, find?_asIs, Option.isSome_some] at h
    cases h

/-- As-Is with other actions and a summary of its own. -/
def variantOf (asIs : Plan) (flags : List Bool) (summary : String) : Plan :=
  ((asIs.withFlags flags).describe Plan.summaryName (.str summary)).refresh none

theorem variant_eq_ok {asIs : Plan} {token : String} {flags : List Bool} (label summary : String)
    (h : Token.decode asIs.catchment.actions.length token = .ok flags) :
    variant asIs label token summary = .ok (variantOf asIs flags summary) := by
  rw [variant, Plan.decode_eq_ok h]
  rfl

theorem variant_eq_error {asIs : Plan} {token : String} {fault : Token.Fault}
    (label summary : String)
    (h : Token.decode asIs.catchment.actions.length token = .error fault) :
    variant asIs label token summary = .error (.invalidToken label token fault) := by
  rw [variant, Plan.decode, h]
  rfl

/-- **A variant of As-Is takes the actions that a token names**, if it names any. -/
theorem variant_eq_ok_iff {asIs p : Plan} {label token summary : String} :
    variant asIs label token summary = .ok p ↔
      ∃ flags, Token.decode asIs.catchment.actions.length token = .ok flags
        ∧ p = variantOf asIs flags summary := by
  cases hdecode : Token.decode asIs.catchment.actions.length token with
  | error fault =>
    rw [variant_eq_error label summary hdecode]
    exact iff_of_false nofun nofun
  | ok flags =>
    rw [variant_eq_ok label summary hdecode, Except.ok.injEq]
    constructor
    · rintro rfl
      exact ⟨flags, rfl, rfl⟩
    · rintro ⟨_, ⟨⟩, rfl⟩
      rfl

/-- As-Is cannot be put anew. -/
theorem instantiate_asIs (r : Roster) (token summary : String) :
    r.instantiate asIsLabel token summary = .error (.protectedLabel asIsLabel) :=
  if_pos rfl

/-- Nothing can be put under a label that a client has used. -/
theorem instantiate_of_contains {r : Roster} {label : String} (token summary : String)
    (has : label ≠ asIsLabel) (hs : label ≠ scratchpadLabel) (h : r.contains label = true) :
    r.instantiate label token summary = .error (.alreadyThere label) := by
  rw [instantiate, if_neg has, if_neg hs, if_pos h]

/-- What is put under a free label is a variant of As-Is. -/
theorem instantiate_of_isFree {r : Roster} {label : String} (token summary : String)
    (h : r.IsFree label) :
    r.instantiate label token summary
      = (variant r.asIs.plan label token summary).map fun p => r.put (newEntry label p) := by
  rw [instantiate, if_neg h.ne_asIs]
  by_cases hs : label = scratchpadLabel
  · rw [if_pos hs]
    cases variant r.asIs.plan label token summary with
    | error e => rfl
    | ok p =>
      show Except.ok _ = Except.ok (r.put (newEntry label p))
      rw [put_of_eq hs, newEntry, if_pos hs]
  · rw [if_neg hs, if_neg (Bool.eq_false_iff.mp (h.resolve_left hs))]
    cases variant r.asIs.plan label token summary with
    | error e => rfl
    | ok p =>
      show Except.ok _ = Except.ok (r.put (newEntry label p))
      rw [put_of_ne hs, newEntry, if_neg hs]

/-- **Putting a plan under a label**: the label has to be free, and the token has
to name actions of As-Is. -/
theorem instantiate_eq_ok_iff {r r' : Roster} {label token summary : String} :
    r.instantiate label token summary = .ok r' ↔
      r.IsFree label ∧
        ∃ p, variant r.asIs.plan label token summary = .ok p
          ∧ r' = r.put (newEntry label p) := by
  by_cases hfree : r.IsFree label
  · rw [instantiate_of_isFree token summary hfree, map_eq_ok_iff, and_iff_right hfree]
    exact exists_congr fun p => and_congr_right fun _ => eq_comm
  · refine iff_of_false (fun h => ?_) fun h => hfree h.1
    by_cases has : label = asIsLabel
    · subst has
      rw [instantiate_asIs] at h
      cases h
    · obtain ⟨hs, hcontains⟩ := not_or.mp hfree
      rw [instantiate_of_contains token summary has hs (eq_true_of_ne_false hcontains)] at h
      cases h

/-- No client has a plan under a free label. -/
theorem IsFree.ne_of_mem_clients {r : Roster} {label : String} (h : r.IsFree label)
    (hs : label ≠ scratchpadLabel) : ∀ e ∈ r.clients, e.label ≠ label := by
  have hc := h.resolve_left hs
  rw [contains, Option.isSome_eq_false_iff, Option.isNone_iff_eq_none, find?,
    if_neg h.ne_asIs, if_neg hs, List.find?_eq_none] at hc
  intro e he heq
  exact hc e he (decide_eq_true heq)

/-- An entry that has been put under a free label is what stands there. -/
theorem find?_put {r : Roster} {e : Entry} (hfree : r.IsFree e.label) :
    (r.put e).find? e.label = some e := by
  unfold find?
  rw [if_neg hfree.ne_asIs]
  by_cases hs : e.label = scratchpadLabel
  · rw [if_pos hs, put_of_eq hs]
  · rw [if_neg hs, put_of_ne hs, List.find?_cons, decide_eq_true rfl]

/-- Another entry for the scratchpad is found under no other label. -/
theorem find?_with_scratchpad {r : Roster} {label : String} {e : Entry}
    (hlabel : label ≠ scratchpadLabel) :
    ({ r with scratchpad := e } : Roster).find? label = r.find? label := by
  rw [find?, find?, if_neg hlabel, if_neg hlabel]

/-- An entry that is put under its label is found under no other one. -/
theorem find?_put_of_ne {r : Roster} {label : String} {e : Entry} (hne : e.label ≠ label) :
    (r.put e).find? label = r.find? label := by
  by_cases hs : e.label = scratchpadLabel
  · rw [put_of_eq hs, find?_with_scratchpad fun h => hne (hs.trans h.symm)]
  · rw [put_of_ne hs, find?, find?, List.find?_cons, decide_eq_false hne]

/-- An entry that has just been put under a free label can be brought up to
date. -/
theorem refresh_put {r : Roster} {e : Entry} (hfree : r.IsFree e.label)
    (front : Option Front) :
    (r.put e).refresh e.label front = .ok (r.put (e.refresh front)) := by
  unfold refresh
  rw [contains, find?_put hfree, Option.isSome_some, if_pos rfl, modify, if_neg hfree.ne_asIs]
  by_cases hs : e.label = scratchpadLabel
  · rw [if_pos hs, put_of_eq hs, put_of_eq (show (e.refresh front).label = _ from hs)]
  · have hothers : r.clients.map (fun e' => if e'.label = e.label then e'.refresh front else e')
        = r.clients := by
      rw [List.map_congr_left fun e' he' => if_neg (hfree.ne_of_mem_clients hs e' he')]
      exact List.map_id' _
    rw [if_neg hs, put_of_ne hs, put_of_ne (show (e.refresh front).label ≠ _ from hs),
      List.map_cons, if_pos rfl, hothers]

end Roster

namespace Exploration

open Steps

/-! ## The moves -/

/-- The exploration with another plan on the scratchpad, whose entry has been
brought up to date. -/
def edited (x : Exploration) (p : Plan) : Exploration :=
  { x with roster := { x.roster with
      scratchpad := (x.roster.scratchpad.edit fun _ => p).refresh x.front } }

/-- The exploration with a plan put under a label, whose entry has been brought
up to date. -/
def enrolled (x : Exploration) (label : String) (p : Plan) : Exploration :=
  { x with roster := x.roster.put ((Roster.newEntry label p).refresh x.front) }

/-- The exploration with another front, for which nothing has been built yet. -/
def withFront (x : Exploration) (front : Front) : Exploration :=
  { x with
    roster := { x.roster with scratchpad := x.roster.scratchpad.refresh (some front) }
    front := some front
    gallery := .empty }

/-- **What one accepted request can make of an exploration.** -/
inductive Move (x : Exploration) : Exploration → Prop
  /-- Another plan for the same catchment comes on the scratchpad. -/
  | edit {p : Plan} (hp : p.catchment = x.scratchpad.catchment) : Move x (x.edited p)
  /-- A variant of As-Is is put under a free label. -/
  | enroll {label token summary : String} {p : Plan} (hfree : x.roster.IsFree label)
      (hp : Roster.variant x.asIs label token summary = .ok p) : Move x (x.enrolled label p)
  /-- A sheet is taken over as the front. -/
  | replaceFront {text : String} {front : Front} (h : Front.ingest text x.asIs = .ok front) :
      Move x (x.withFront front)
  /-- The solution for a row of the front is built. -/
  | build {label : String} {front : Front} {row : Front.Row} {s : Solution} {gallery : Gallery}
      (hfront : x.front = some front) (hrow : front.row? label = some row)
      (h : x.gallery.materialise x.asIs label row.token row.summary front = .ok (s, gallery)) :
      Move x { x with gallery }
  /-- Nothing changes. -/
  | stay : Move x x

/-! ## Work on the scratchpad -/

theorem refresh_withScratchpad (x : Exploration) (p : Plan) :
    (x.withScratchpad p).refresh scratchpadLabel = .ok (x.edited p) := by
  rw [refresh, Roster.refresh_scratchpad]
  rfl

/-- Once the plan on the scratchpad has been changed, its entry is brought up to
date without fail. -/
theorem refreshing_eq (x : Exploration) (p : Plan) :
    refreshing scratchpadLabel (x.withScratchpad p) = .ok () (x.edited p) :=
  change_eq (refresh_withScratchpad x p)

/-- The plan on the scratchpad is changed as a whole or not at all. -/
theorem allOrNothing_changingScratchpad {ε : Type} {f : Plan → Except ε Plan}
    {x : Exploration} {post : Unit → Exploration → Prop}
    (h : ∀ p, f x.scratchpad = .ok p → post () (x.withScratchpad p)) :
    AllOrNothing (changingScratchpad f) x post := by
  refine allOrNothing_change fun x' hx' => ?_
  obtain ⟨p, hp, rfl⟩ := Checks.map_eq_ok_iff.mp hx'
  exact h p hp

theorem changingScratchpad_eq {ε : Type} {f : Plan → Except ε Plan} {x : Exploration}
    {p : Plan} (hf : f x.scratchpad = .ok p) :
    changingScratchpad f x = .ok () (x.withScratchpad p) :=
  change_eq (Checks.map_eq_ok_iff.mpr ⟨p, hf, rfl⟩)

/-! ## Fronts, plans under labels, and solutions of the front -/

/-- **Taking a front over** comes down to the check of the sheet, which is made before
anything changes. The scratchpad is then brought up to date without fail. -/
theorem replacingFront_eq (text : String) (x : Exploration) :
    replacingFront text x =
      match Front.ingest text x.asIs with
      | .ok front => .ok () (x.withFront front)
      | .error e => .error e x := by
  unfold replacingFront
  rw [run_bind_of_ok (rfl : (get : EStateM Front.Fault Exploration Exploration) x = .ok x x)]
  cases hfront : Front.ingest text x.asIs with
  | error e => exact run_bind_of_error rfl
  | ok front =>
    have hrefresh : Exploration.refresh { x with gallery := .empty, front := some front }
        scratchpadLabel = .ok (x.withFront front) := by
      rw [refresh, Roster.refresh_scratchpad]
      rfl
    rw [run_bind_of_ok (rfl : (liftM (Except.ok front) : EStateM _ _ _) x = .ok front x)]
    refine (run_bind_of_ok rfl).trans ((run_bind_of_ok rfl).trans ?_)
    exact adaptExcept_eq (change_eq hrefresh)

/-- Taking a front over is all or nothing. -/
theorem allOrNothing_replacingFront (text : String) (x : Exploration) :
    AllOrNothing (replacingFront text) x fun _ x' =>
      ∃ front, Front.ingest text x.asIs = .ok front ∧ x' = x.withFront front := by
  rw [AllOrNothing, replacingFront_eq]
  cases Front.ingest text x.asIs with
  | ok front => exact ⟨front, rfl, rfl⟩
  | error e => rfl

/-- **A sheet is taken over as the front if it is one.** -/
theorem loadFront_eq_ok_iff {x x' : Exploration} {text : String} :
    x.loadFront text = .ok x' ↔
      ∃ front, Front.ingest text x.asIs = .ok front ∧ x' = x.withFront front := by
  rw [loadFront, outcome, replacingFront_eq]
  cases Front.ingest text x.asIs with
  | error e => exact iff_of_false nofun nofun
  | ok front =>
    constructor
    · rintro ⟨⟩
      exact ⟨front, rfl, rfl⟩
    · rintro ⟨_, ⟨⟩, rfl⟩
      rfl

/-- A plan that has been put under a free label is what stands there, up to date with
the front. -/
theorem find?_enrolled {x : Exploration} {label : String} (hfree : x.roster.IsFree label)
    (p : Plan) :
    (x.enrolled label p).roster.find? label
      = some ((Roster.newEntry label p).refresh x.front) :=
  Roster.find?_put (e := (Roster.newEntry label p).refresh x.front) hfree

/-- **Putting a plan under a label is all or nothing**: the entry that has been
put there is brought up to date, and found, without fail. -/
theorem allOrNothing_instantiating (label token summary : String) (x : Exploration) :
    AllOrNothing (instantiating label token summary) x fun s x' =>
      x.roster.IsFree label ∧ ∃ p, Roster.variant x.asIs label token summary = .ok p
        ∧ x' = x.enrolled label p
        ∧ s = ((Roster.newEntry label p).refresh x.front).solution := by
  have hput : AllOrNothing
      (Steps.change fun x =>
        (x.roster.instantiate label token summary).map fun roster => { x with roster }) x
      fun _ x' => x.roster.IsFree label ∧
        ∃ p, Roster.variant x.asIs label token summary = .ok p
          ∧ x' = { x with roster := x.roster.put (Roster.newEntry label p) } := by
    refine allOrNothing_change fun x' hx' => ?_
    obtain ⟨r, hr, rfl⟩ := Checks.map_eq_ok_iff.mp hx'
    obtain ⟨hfree, p, hp, rfl⟩ := Roster.instantiate_eq_ok_iff.mp hr
    exact ⟨hfree, p, hp, rfl⟩
  refine hput.bind ?_
  rintro _ _ ⟨hfree, p, hp, rfl⟩
  -- the entry is on the roster from here on
  have hrefresh : Exploration.refresh
        { x with roster := x.roster.put (Roster.newEntry label p) } label
      = .ok (x.enrolled label p) := by
    have h := Roster.refresh_put (e := Roster.newEntry label p) hfree x.front
    rw [Roster.label_newEntry] at h
    rw [refresh, h]
    rfl
  refine succeeds_bind_of_eq (change_eq hrefresh) (succeeds_get_bind ?_)
  rw [find?_enrolled hfree]
  exact succeeds_pure ⟨hfree, p, hp, rfl, rfl⟩

/-- Looking a solution of the front up makes a move that touches the gallery alone, and none
if no solution is found. -/
theorem move_of_solution_eq_ok {x x' : Exploration} {label : String} {s : Option Solution}
    (h : x.solution label = .ok (s, x')) :
    x.Move x' ∧ (∃ gallery, x' = { x with gallery }) ∧ (s = none → x' = x) := by
  unfold solution at h
  split at h
  · cases h
    exact ⟨.stay, ⟨_, rfl⟩, fun _ => rfl⟩
  rename_i front hfront
  split at h
  · cases h
    exact ⟨.stay, ⟨_, rfl⟩, fun _ => rfl⟩
  rename_i row hrow
  split at h
  · cases h
    exact ⟨.stay, ⟨_, rfl⟩, nofun⟩
  split at h
  · rename_i built gallery hbuilt
    cases h
    exact ⟨.build hfront hrow hbuilt, ⟨_, rfl⟩, nofun⟩
  · cases h

/-- Looking a solution of the front up is all or nothing. -/
theorem allOrNothing_lookingUp (label : String) (x : Exploration) :
    AllOrNothing (lookingUp label) x fun s x' => x.solution label = .ok (s, x') := by
  unfold AllOrNothing lookingUp
  cases hs : x.solution label with
  | error e => rfl
  | ok answer => rfl

end Exploration

end CatchmentPlanning
