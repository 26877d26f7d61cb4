import CatchmentPlanning.Proofs.Api.Restoring
import CatchmentPlanning.Proofs.Api.UnitRequests

/-!
# Updates of planning units are exact

A client who updates a planning unit names kinds of action and says of each whether it is taken.
Either all of this is taken over and nothing else changes, or nothing changes and the client is
told of each attribute what is wrong with it (`unit_update_exact`).

What is shown of a unit is itself an update of the unit. So the actions of a unit can be restored
from what was shown of it, whatever has happened to the scratchpad in between; the other units
are left as they are by then.
-/

namespace CatchmentPlanning

namespace UnitUpdate

variable {p : Plan} {c : Catchment} {unit : Nat} {a : Attributes} {flags : List Bool}

/-! ## What is shown of a unit -/

/-- **The attributes show the actions of a unit**, each under its kind, in their order. -/
def Shows (c : Catchment) (unit : Nat) (flags : List Bool) (a : Attributes) : Prop :=
  a.entries = ((c.actions.zip flags).filter (·.1.unit == unit)).map fun b =>
    (b.1.kind, .str (if b.2 then "Active" else "Inactive"))

/-- No two actions of a unit are of the same kind. -/
theorem nodup_kinds (h : c.Indexed) (unit : Nat) : ((c.actionsAt unit).map (·.kind)).Nodup := by
  have hnames : ((c.actionsAt unit).map fun b => (b.unit, b.kind)).Nodup :=
    h.nodup.sublist (List.filter_sublist.map _)
  refine List.pairwise_map.mpr ((List.pairwise_map.mp hnames).imp_of_mem ?_)
  intro b b' hb hb' hne hkind
  have hunit : b.unit = b'.unit := (beq_iff_eq.mp (List.mem_filter.mp hb).2).trans
    (beq_iff_eq.mp (List.mem_filter.mp hb').2).symm
  exact hne (Prod.ext hunit hkind)

/-- **What is shown of a unit** are its actions. -/
theorem shows_shown (h : p.catchment.Indexed) (unit : Nat) :
    Shows p.catchment unit p.flags (shown p unit) := by
  have hkinds := nodup_kinds h unit
  rw [← Plan.map_fst_actionsAt, List.map_map] at hkinds
  refine Attributes.entries_setAll (a := .empty) ?_
  rw [List.map_map]
  exact hkinds

theorem Shows.mem_entries_iff (h : Shows c unit flags a) {e : String × Json} :
    e ∈ a.entries ↔ ∃ (i : Nat) (b : Action) (active : Bool), c.actions[i]? = some b
      ∧ b.unit = unit ∧ flags[i]? = some active
      ∧ e = (b.kind, .str (if active then "Active" else "Inactive")) := by
  rw [h, List.mem_map]
  constructor
  · rintro ⟨⟨b, active⟩, hmem, rfl⟩
    obtain ⟨hmem, hunit⟩ := List.mem_filter.mp hmem
    obtain ⟨i, hi⟩ := List.mem_iff_getElem?.mp hmem
    obtain ⟨hb, hflag⟩ := List.getElem?_zip_eq_some.mp hi
    exact ⟨i, b, active, hb, beq_iff_eq.mp hunit, hflag, rfl⟩
  · rintro ⟨i, b, active, hb, hunit, hflag, rfl⟩
    have hzip : (c.actions.zip flags)[i]? = some (b, active) :=
      List.getElem?_zip_eq_some.mpr ⟨hb, hflag⟩
    exact ⟨_, List.mem_filter.mpr ⟨List.mem_of_getElem? hzip, beq_iff_eq.mpr hunit⟩, rfl⟩

/-- What is shown of a unit states it. -/
theorem Shows.states (h : Shows c unit flags a) (hflags : flags.length = c.actions.length) :
    States c flags unit a where
  states i b hb hunit := by
    have hi : i < flags.length := hflags ▸ (List.getElem?_eq_some_iff.mp hb).1
    have hget : a.get? b.kind = some (.str (if flags[i] then "Active" else "Inactive")) :=
      Attributes.get?_eq_some_iff.mpr
        (h.mem_entries_iff.mpr ⟨i, b, _, hb, hunit, List.getElem?_eq_getElem hi, rfl⟩)
    rw [hget, Option.bind_some, List.getElem?_eq_getElem hi]
    cases flags[i] <;> rfl
  names name hname := by
    obtain ⟨e, he, rfl⟩ := List.mem_map.mp hname
    obtain ⟨i, b, active, hb, hunit, -, rfl⟩ := h.mem_entries_iff.mp he
    exact ⟨b, List.mem_of_getElem? hb, hunit, rfl⟩

end UnitUpdate

namespace Api

open UnitUpdate

variable {m : Moment} {r : Request} {app : App} {x : Exploration} {c : Catchment} {unit : Nat}
  {a : Attributes}

/-- What is shown of a unit is read as it is sent. -/
theorem bodyAttributes_of_shows {flags : List Bool} (h : Shows c unit flags a)
    (hbody : r.body = a.toJson.compact.toUTF8) : bodyAttributes r = .ok a := by
  have hstored : a.IsStored := by
    intro e he
    obtain ⟨_, _, _, -, -, -, rfl⟩ := h.mem_entries_iff.mp he
    exact Json.isStored_str _
  have hsame : a.toJson.reread? = some a.toJson := by
    refine Attributes.reread?_toJson_eq_some_iff.mpr ⟨a, ?_, rfl⟩
    refine Json.rereadEntries?_eq_some_iff.mpr (List.forall₂_same.mpr fun e he => ⟨rfl, ?_⟩)
    obtain ⟨_, _, _, -, -, -, rfl⟩ := h.mem_entries_iff.mp he
    rfl
  have hdepth : a.toJson.depth ≤ 2 := Attributes.depth_toJson_le fun e he => by
    obtain ⟨_, _, _, -, -, -, rfl⟩ := h.mem_entries_iff.mp he
    rfl
  have hread := Attributes.read_compact_toJson hstored hsame
  rw [if_pos (hdepth.trans (by decide))] at hread
  exact bodyAttributes_eq_ok_iff.mpr ⟨_, fromUTF8?_of_eq_toUTF8 hbody, hread⟩

/-! ## What comes of an update -/

/-- **The response shows a planning unit** with attributes. -/
structure ShowsUnit (response : Response) (unit : Nat) (a : Attributes) : Prop where
  status : response.status = 200
  body : response.body = .json (.obj [("Id", .int unit), ("Attributes", a.toJson)])

theorem shows_scratchpad (h : x.Coherent c) (unit : Nat) :
    Shows c unit x.scratchpad.flags (shown x.scratchpad unit) := by
  obtain rfl : x.scratchpad.catchment = c := h.catchment_scratchpad
  exact shows_shown (Scenario.indexed_of_interpret h.catchment) unit

/-- A unit is shown with its actions. -/
theorem showsUnit_iff {g : Request} {b : Attributes} (hx : app.session = some x)
    (hcoherent : x.Coherent c) (hunit : unit ∈ c.units) (hg : GetsUnit g unit) :
    ShowsUnit (handle m app g).1 unit b ↔ Shows c unit x.scratchpad.flags b := by
  have hshown := shows_scratchpad hcoherent unit
  rw [hg.handle_eq hx (hcoherent.catchment_scratchpad ▸ hunit)]
  constructor
  · rintro ⟨-, hbody⟩
    have hsame : (shown x.scratchpad unit).toJson = b.toJson := by
      simpa [Response.view] using hbody
    exact Attributes.toJson_injective hsame ▸ hshown
  · intro h
    have hsame : shown x.scratchpad unit = b := Attributes.ext_iff.mpr (hshown.trans h.symm)
    exact ⟨rfl, hsame ▸ rfl⟩

/-- **The update is taken over**: the actions that it names take the states that it gives them, all
other actions keep theirs, and the unit is shown so from then on. -/
structure TakesOver (c : Catchment) (unit : Nat) (a : Attributes) (flags : List Bool) (app : App)
    (x : Exploration) : Prop where
  session : app.session = some x
  flags : Updated c unit a flags x.scratchpad.flags
  shown : ∀ (m : Moment) (g : Request), GetsUnit g unit →
    ∃ b, ShowsUnit (handle m app g).1 unit b ∧ Shows c unit x.scratchpad.flags b
      ∧ ∀ (e : String × Json) (active : Bool), e ∈ a.entries → Says e.2 active →
        b.get? e.1 = some (.str (if active then "Active" else "Inactive"))

/-- **The update is refused** with one violation for each attribute that asks for no change, in
their order, and the client is told of each what is wrong with it. -/
structure Refuses (c : Catchment) (unit : Nat) (a : Attributes) (m : Moment)
    (response : Response) : Prop where
  offends : List.Forall₂ (Offends c unit) (a.entries.filter fun e => ¬ IsChange c unit e)
    (violations c unit a.entries)
  messages : (report unit (violations c unit a.entries)).messages
    = (violations c unit a.entries).map Violation.message
  told : List.Forall₂ (Told c unit) (a.entries.filter fun e => ¬ IsChange c unit e)
    (report unit (violations c unit a.entries)).messages
  refusal : response = (⟨.badRequest, (report unit (violations c unit a.entries)).report⟩
    : Refusal).response m.now
  /-- All messages are in the body. -/
  text : response.body = .json (.obj [
    ("ErrorMessage", .str ("invalid actions for subcatchment [" ++ toString unit ++ "]: ["
      ++ "; ".intercalate (report unit (violations c unit a.entries)).messages ++ "]")),
    ("Time", .str m.now)])

/-- The unit is shown as the flags say that an update has left. -/
theorem takesOver_of_session {flags : List Bool} (hx : app.session = some x)
    (hcoherent : x.Coherent c) (hunit : unit ∈ c.units)
    (hupdated : Updated c unit a flags x.scratchpad.flags)
    (hall : ∀ e ∈ a.entries, IsChange c unit e) : TakesOver c unit a flags app x where
  session := hx
  flags := hupdated
  shown m g hg := by
    have hshows := shows_scratchpad hcoherent unit
    refine ⟨_, (showsUnit_iff hx hcoherent hunit hg).mpr hshows, hshows, ?_⟩
    intro e active he hsays
    obtain ⟨b, hb, hb_unit, hkind⟩ := (hall e he).kind
    obtain ⟨i, hi⟩ := List.mem_iff_getElem?.mp hb
    refine Attributes.get?_eq_some_iff.mpr (hshows.mem_entries_iff.mpr ?_)
    exact ⟨i, b, active, hi, hb_unit, hupdated.named i b e active hi hb_unit he hkind hsays,
      hkind ▸ rfl⟩

/-- **An update that asks for nothing but changes is taken over.** -/
theorem UpdatesUnit.takesOver (h : UpdatesUnit r unit) (hsize : r.body.size ≤ bodyLimit)
    (hx : app.session = some x) (hcoherent : x.Coherent c) (hunit : unit ∈ c.units)
    (ha : bodyAttributes r = .ok a) (hall : ∀ e ∈ a.entries, IsChange c unit e) :
    (handle m app r).1.isSuccess = true
      ∧ ∃ x', TakesOver c unit a x.scratchpad.flags (handle m app r).2 x' := by
  have hc : x.scratchpad.catchment = c := hcoherent.catchment_scratchpad
  have hindexed : c.Indexed := Scenario.indexed_of_interpret hcoherent.catchment
  have hlength : x.scratchpad.flags.length = c.actions.length := hc ▸ x.scratchpad.length_flags
  have hupdated := updated_applied hindexed hlength unit a
  rw [h.handle_eq hsize hx (hc ▸ hunit) ha, hc, violations_eq_nil_iff.mpr hall]
  refine ⟨rfl, _, takesOver_of_session rfl (hcoherent.move (.edit rfl)) hunit ?_ hall⟩
  rwa [Exploration.flags_edited_withFlags (hupdated.length.trans x.scratchpad.length_flags)]

/-- **Any other update is refused.** -/
theorem UpdatesUnit.refuses (h : UpdatesUnit r unit) (hsize : r.body.size ≤ bodyLimit)
    (hx : app.session = some x) (hcoherent : x.Coherent c) (hunit : unit ∈ c.units)
    (ha : bodyAttributes r = .ok a) (hnot : ¬ ∀ e ∈ a.entries, IsChange c unit e) :
    (handle m app r).2 = app ∧ Refuses c unit a m (handle m app r).1 := by
  have hc : x.scratchpad.catchment = c := hcoherent.catchment_scratchpad
  obtain ⟨hsame, hrefusal⟩ : (handle m app r).2 = app ∧ (handle m app r).1
      = (⟨.badRequest, (report unit (violations c unit a.entries)).report⟩
        : Refusal).response m.now := by
    rw [h.handle_eq hsize hx (hc ▸ hunit) ha, hc]
    rw [← violations_eq_nil_iff] at hnot
    generalize violations c unit a.entries = violations at hnot ⊢
    cases violations with
    | nil => exact absurd rfl hnot
    | cons => exact ⟨rfl, rfl⟩
  refine ⟨hsame, forall₂_violations c unit a.entries, rfl, forall₂_messages c unit a.entries,
    hrefusal, ?_⟩
  rw [hrefusal, ← text_report]
  rfl

/-- **An update is taken over or refused**, and an update with a body that is too long does not get
that far. -/
theorem UpdatesUnit.handle_spec (h : UpdatesUnit r unit) (hx : app.session = some x)
    (hcoherent : x.Coherent c) (hunit : unit ∈ c.units) (ha : bodyAttributes r = .ok a)
    (m : Moment) :
    ((handle m app r).1.isSuccess = true ↔
        r.body.size ≤ bodyLimit ∧ ∀ e ∈ a.entries, IsChange c unit e)
      ∧ ((handle m app r).1.isSuccess = true →
        ∃ x', TakesOver c unit a x.scratchpad.flags (handle m app r).2 x')
      ∧ ((handle m app r).1.isSuccess = false → (handle m app r).2 = app
        ∧ (r.body.size ≤ bodyLimit → Refuses c unit a m (handle m app r).1)) := by
  by_cases hsize : r.body.size ≤ bodyLimit
  · by_cases hall : ∀ e ∈ a.entries, IsChange c unit e
    · have htaken := h.takesOver (m := m) hsize hx hcoherent hunit ha hall
      refine ⟨iff_of_true htaken.1 ⟨hsize, hall⟩, fun _ => htaken.2, fun hfails => ?_⟩
      cases hfails.symm.trans htaken.1
    · obtain ⟨hsame, hrefuses⟩ := h.refuses (m := m) hsize hx hcoherent hunit ha hall
      have hfails : (handle m app r).1.isSuccess = false := by
        rw [hrefuses.refusal, Refusal.isSuccess_response]
      refine ⟨iff_of_false (by simp [hfails]) fun h => hall h.2, fun h => ?_,
        fun _ => ⟨hsame, fun _ => hrefuses⟩⟩
      cases hfails.symm.trans h
  · rw [h.handle_of_long (Nat.lt_of_not_le hsize)]
    refine ⟨iff_of_false nofun fun h => hsize h.1, nofun, fun _ => ⟨rfl, fun h => ?_⟩⟩
    exact absurd h hsize

/-- **Sending back what was shown** of a unit restores the actions that the unit had then, whatever
flags there are by now. -/
theorem UpdatesUnit.restores {app' : App} {x' : Exploration} (h : UpdatesUnit r unit)
    (hcoherent : x.Coherent c) (hshows : Shows c unit x.scratchpad.flags a)
    (hx' : app'.session = some x') (hcoherent' : x'.Coherent c) (hunit : unit ∈ c.units)
    (hbody : bodyAttributes r = .ok a ∨ r.body = a.toJson.compact.toUTF8)
    (hsize : r.body.size ≤ bodyLimit) :
    ∃ x'', (handle m app' r).1.isSuccess = true ∧ (handle m app' r).2.session = some x''
      ∧ ∀ (i : Nat) (b : Action), c.actions[i]? = some b →
        x''.scratchpad.flags[i]?
          = if b.unit = unit then x.scratchpad.flags[i]? else x'.scratchpad.flags[i]? := by
  have hlength : x.scratchpad.flags.length = c.actions.length :=
    hcoherent.catchment_scratchpad ▸ x.scratchpad.length_flags
  have hread : bodyAttributes r = .ok a := hbody.elim id (bodyAttributes_of_shows hshows)
  have hposts : PostsUnit c x.scratchpad.flags r unit :=
    ⟨h.method, h.path, h.media, a, hread, hshows.states hlength⟩
  obtain ⟨hstatus, flags, hafter, hflags, hsame⟩ :=
    hposts.handle_spec (m := m) hsize hx' hcoherent' hunit hlength
  refine ⟨_, ?_, hafter, fun i b hb => ?_⟩
  · rw [Response.isSuccess, hstatus]
    rfl
  · rw [Exploration.flags_edited_withFlags (hcoherent'.catchment_scratchpad ▸ hflags)]
    exact hsame i b hb

/-- **Updates of planning units are exact.** Whatever has happened since a scenario was loaded: an
update of one of its planning units succeeds exactly if its body is not too long and each of its
attributes names a kind of action at the unit and says of it whether it is taken. If it succeeds,
the actions of the unit that are named are taken or not as they are said to be, all others are left
as they are, and the unit is shown so. If it does not, nothing changes, and unless the body is too
long the client is told of each attribute that is at fault, in their order, what is wrong with it.

In particular the attributes that are shown of a unit can be sent back later, as they are or in any
text that is read as them, to restore the actions that the unit had when it was shown. -/
theorem unit_update_exact {text : String} {x₀ : Exploration}
    (hload : Exploration.load text = .ok x₀) (hsince : app.Since x₀) :
    ∃ x c, app.session = some x ∧ x.scenario.interpret = .ok c ∧ ∀ unit ∈ c.units,
      (∀ (m : Moment) (r : Request) (a : Attributes), UpdatesUnit r unit →
        bodyAttributes r = .ok a →
        ((handle m app r).1.isSuccess = true ↔
          r.body.size ≤ bodyLimit ∧ ∀ e ∈ a.entries, IsChange c unit e)
        ∧ ((handle m app r).1.isSuccess = true →
          ∃ x', TakesOver c unit a x.scratchpad.flags (handle m app r).2 x')
        ∧ ((handle m app r).1.isSuccess = false → (handle m app r).2 = app
          ∧ (r.body.size ≤ bodyLimit → Refuses c unit a m (handle m app r).1)))
      ∧ ∀ (m m' : Moment) (g r : Request) (a : Attributes) (app' : App), GetsUnit g unit →
        ShowsUnit (handle m app g).1 unit a → app'.Since x → UpdatesUnit r unit →
        (bodyAttributes r = .ok a ∨ r.body = a.toJson.compact.toUTF8) →
        r.body.size ≤ bodyLimit →
        ∃ x' x'', app'.session = some x' ∧ (handle m' app' r).1.isSuccess = true
          ∧ (handle m' app' r).2.session = some x''
          ∧ ∀ (i : Nat) (b : Action), c.actions[i]? = some b →
            x''.scratchpad.flags[i]?
              = if b.unit = unit then x.scratchpad.flags[i]? else x'.scratchpad.flags[i]? := by
  obtain ⟨x, hx, c, hcoherent⟩ := hsince.exists_session (P := fun x => ∃ c, x.Coherent c)
    (Exploration.coherent_load hload).2 fun ⟨c, h⟩ hmove => ⟨c, h.move hmove⟩
  refine ⟨x, c, hx, hcoherent.catchment, fun unit hunit => ⟨fun m r a hr ha =>
    hr.handle_spec hx hcoherent hunit ha m, ?_⟩⟩
  intro m m' g r a app' hg hshown hsince' hr hbody hsize
  obtain ⟨x', hx', hcoherent'⟩ := hsince'.exists_session
    (P := fun x => x.Coherent c) hcoherent fun h hmove => h.move hmove
  have hshows := (showsUnit_iff hx hcoherent hunit hg).mp hshown
  obtain ⟨x'', hrestored⟩ :=
    hr.restores (m := m') hcoherent hshows hx' hcoherent' hunit hbody hsize
  exact ⟨x', x'', hx', hrestored⟩

/-- Updates the planning unit with the id 1. -/
def Request.postUnitOne (attributes : String) : Request :=
  ⟨"POST", "/api/v1/model/subcatchment/1", some "application/json", attributes.toUTF8⟩

theorem updatesUnit_postUnitOne (attributes : String) :
    UpdatesUnit (.postUnitOne attributes) 1 where
  method := rfl
  path := by
    refine ⟨"1", "1", ?_, by decide +kernel, by decide +kernel⟩
    simp only [Request.path, Request.postUnitOne]
    decide +kernel
  media := by
    simp only [Request.isOf, Request.essence, Request.mediaText, Request.postUnitOne]
    decide +kernel

/-- Two units have an action of kind `B`. An update of the first unit names it twice, and the last
time counts. Another update names a kind that there is at the second unit only, and a value that
says nothing, and is refused with a message for each. What the first unit was shown with before is
restored when both units have been updated. -/
theorem unit_update_exact_with_shared_kind :
    ∃ (app app' : App) (m : Moment) (x x' x'' : Exploration) (c : Catchment) (a b : Attributes)
      (good bad : Request), app.session = some x ∧ x.scratchpad.flags = [true, false, true, false]
      ∧ TakesOver c 1 a x.scratchpad.flags (handle m app good).2 x'
      ∧ x'.scratchpad.flags = [false, true, true, false]
      ∧ (handle m app bad).2 = app ∧ Refuses c 1 b m (handle m app bad).1
      ∧ (report 1 (violations c 1 b.entries)).messages
        = ["[D] is not applicable to subcatchment [1]", "[B]: [1] is neither Active nor Inactive"]
      ∧ app'.session.map (·.scratchpad.flags) = some [false, true, true, true]
      ∧ (handle m app' (.postUnitOne (shown x.scratchpad 1).toJson.compact)).2.session = some x''
      ∧ x''.scratchpad.flags = [true, false, true, true] := by
  let scenario := "Scenario.Name=\"A\"\n[Model]\nType=\"CatchmentModel\"\n"
    ++ "PlanningUnits=[[1,[[\"B\"],[\"C\"]]],[2,[[\"B\"],[\"D\"]]]]\n"
  let m : Moment := ⟨"", ⟨0⟩⟩
  let good := Request.postUnitOne "[[\"B\",\"Active\"],[\"C\",true],[\"B\",\"Inactive\"]]"
  let bad := Request.postUnitOne "[[\"C\",\"Active\"],[\"D\",\"Active\"],[\"B\",1]]"
  let other : Request := ⟨"POST", "/api/v1/model/subcatchment/2", some "application/json",
    "[[\"D\",true]]".toUTF8⟩
  let get : Request := ⟨"GET", "/api/v1/model/subcatchment/1", none, ⟨#[]⟩⟩
  let before : List Request := [.patchScratchpad "[[\"Encoding\", \"15\"]]"]
  let app := (App.exploring scenario).sent before
  let app' := app.sent [good, other]
  let restoring (x : Exploration) := Request.postUnitOne (shown x.scratchpad 1).toJson.compact
  obtain ⟨hsome, hfacts, hgood, hbad, hmessages, hflags', hrestored⟩ :
      (App.exploring scenario).session.isSome = true
        ∧ app.session.map (fun x => (x.scratchpad.flags, x.scratchpad.catchment.units,
            x.scenario.interpret.toOption.map (·.units),
            decide ((restoring x).body.size ≤ bodyLimit)))
          = some ([true, false, true, false], [1, 2], some [1, 2], true)
        ∧ ((handle m app good).1.isSuccess, (bodyAttributes good).toOption.isSome,
            (handle m app good).2.session.map (·.scratchpad.flags))
          = (true, true, some [false, true, true, false])
        ∧ ((handle m app bad).1.isSuccess, (bodyAttributes bad).toOption.isSome,
            decide (bad.body.size ≤ bodyLimit)) = (false, true, true)
        ∧ (app.session.bind fun x => x.scenario.interpret.toOption.bind fun c =>
            (bodyAttributes bad).toOption.map fun b =>
              (report 1 (violations c 1 b.entries)).messages)
          = some ["[D] is not applicable to subcatchment [1]",
            "[B]: [1] is neither Active nor Inactive"]
        ∧ app'.session.map (·.scratchpad.flags) = some [false, true, true, true]
        ∧ app.session.bind (fun x => (handle m app' (restoring x)).2.session.map
            (·.scratchpad.flags)) = some [true, false, true, true] := by
    decide +kernel
  obtain ⟨text, x₀, hload, hx₀⟩ := App.session_exploring scenario hsome
  have hsince : app.Since x₀ := (App.Since.start hx₀).sent (by decide +kernel)
  obtain ⟨x, c, hx, hc, hunits⟩ := unit_update_exact hload hsince
  rw [hx, Option.map_some, Option.some.injEq] at hfacts
  simp only [Prod.mk.injEq, decide_eq_true_eq] at hfacts hgood hbad
  obtain ⟨hflags, hunits', hdeclared, hsize⟩ := hfacts
  obtain ⟨hsuccess, ⟨a, ha⟩, hafter⟩ := hgood.imp_right (And.imp_left Option.isSome_iff_exists.mp)
  obtain ⟨hfails, ⟨b, hb⟩, hshort⟩ := hbad.imp_right (And.imp_left Option.isSome_iff_exists.mp)
  rw [hc] at hdeclared
  rw [hx, Option.bind_some, hc, hb] at hmessages
  have hone : 1 ∈ c.units := by
    rw [show c.units = [1, 2] from Option.some.inj hdeclared]
    decide
  obtain ⟨hupdates, hrestores⟩ := hunits 1 hone
  obtain ⟨-, htakes, -⟩ := hupdates m good a (updatesUnit_postUnitOne _)
    (Checks.toOption_eq_some_iff.mp ha)
  obtain ⟨-, -, hrefuses⟩ := hupdates m bad b (updatesUnit_postUnitOne _)
    (Checks.toOption_eq_some_iff.mp hb)
  obtain ⟨x', hx'⟩ := htakes hsuccess
  obtain ⟨hsame, hrefused⟩ := hrefuses hfails
  have hget : GetsUnit get 1 := ⟨rfl, "1", "1", by decide +kernel, by decide +kernel,
    by decide +kernel⟩
  have hshown : ShowsUnit (handle m app get).1 1 (shown x.scratchpad 1) := by
    rw [hget.handle_eq hx (hunits' ▸ List.mem_cons_self)]
    exact ⟨rfl, rfl⟩
  have hsince' : app'.Since x := (App.Since.start hx).sent (by decide +kernel)
  obtain ⟨_, x'', -, -, hx'', -⟩ := hrestores m m get (restoring x) _ app' hget hshown hsince'
    (updatesUnit_postUnitOne _) (.inr rfl) hsize
  rw [hx'.session, Option.map_some, Option.some.injEq] at hafter
  rw [hx, Option.bind_some, hx'', Option.map_some, Option.some.injEq] at hrestored
  exact ⟨app, app', m, x, x', x'', c, a, b, good, bad, hx, hflags, hx', hafter, hsame,
    hrefused hshort, Option.some.inj hmessages, hflags', hx'', hrestored⟩

end Api

end CatchmentPlanning
