import CatchmentPlanning.Proofs.Api.Changes
import CatchmentPlanning.Proofs.Api.Editing
import CatchmentPlanning.Proofs.Attributes.Stored

/-!
# A saved model can be restored

The attributes that are shown of the scratchpad name its actions, so that a list of attributes
that has been saved says what the scratchpad was like.

Attributes that have been posted are stored as they were read, and derived ones are simple
values, so that every attribute of the scratchpad is a value that can be read (`IsStored`, kept
by every `Change`). Its text is therefore read back, except that

* a float becomes what its text is read as. Numbers are read fast, not exactly;
* a list that nests too deeply is refused, although the values in it were not.
-/

namespace CatchmentPlanning

/-- A body is read as attributes if it is a text that is. -/
theorem Api.bodyAttributes_eq_ok_iff {r : Api.Request} {a : Attributes} :
    Api.bodyAttributes r = .ok a ↔
      ∃ text, String.fromUTF8? r.body = some text ∧ Attributes.read text = .ok a := by
  unfold Api.bodyAttributes
  rw [Checks.mapError_eq_ok_iff]
  cases String.fromUTF8? r.body with
  | none => simp
  | some text => simp [Checks.mapError_eq_ok_iff]

/-! ## The attributes of plans are stored -/

namespace Plan

variable {p q : Plan}

theorem isStored_put {a : Attributes} (h : a.IsStored) (name : String) {v : Option Json}
    (hv : ∀ u ∈ v, u.IsStored) : (put a name v).IsStored := by
  cases v with
  | none => exact h.remove name
  | some u => exact h.set (hv u rfl) name

/-- Derived attributes are stored. -/
theorem isStored_refresh (h : p.attributes.IsStored) (onFront : Option Bool) :
    (p.refresh onFront).attributes.IsStored := by
  have hencoding := h.set (Json.isStored_str p.token) encodingName
  have hfront := isStored_put hencoding frontMemberName (v := onFront.map .bool) fun u hu => by
    obtain ⟨b, -, rfl⟩ := Option.map_eq_some_iff.mp hu
    exact Json.isStored_bool b
  refine isStored_put (hfront.set (Json.isStored_bool p.isFeasible) validName) errorsName ?_
  intro u hu
  split at hu
  · cases hu
  · cases hu
    exact Json.isStored_str _

/-- So are attributes that have been posted. -/
theorem Redescribed.isStored {a : Attributes} (h : p.Redescribed a q) (ha : a.IsStored)
    (hp : p.attributes.IsStored) : q.attributes.IsStored := by
  cases h with
  | plain => exact hp.setAll ha
  | token => exact hp.setAll (ha.remove _)

theorem isStored_variant {label token summary : String} (h : p.attributes.IsStored)
    (hq : Roster.variant p label token summary = .ok q) : q.attributes.IsStored := by
  obtain ⟨flags, -, rfl⟩ := Roster.variant_eq_ok_iff.mp hq
  exact isStored_refresh (h.set (Json.isStored_str summary) summaryName) none

end Plan

namespace Exploration

variable {x x' : Exploration}

/-- **The attributes of the scratchpad, and of the plan that variants are made of, are
stored.** -/
structure IsStored (x : Exploration) : Prop where
  asIs : x.asIs.attributes.IsStored
  scratchpad : x.scratchpad.attributes.IsStored

theorem isStored_load {text : String} (h : load text = .ok x) : x.IsStored := by
  obtain ⟨scenario, -, h⟩ := Checks.bind_eq_ok_iff.mp h
  obtain ⟨c, -, h⟩ := Checks.bind_eq_ok_iff.mp h
  cases h
  have hreserved (summary : String) : (((Plan.idle c).withFlags
      (List.replicate (Plan.idle c).flags.length false)).describe Plan.summaryName
        (.str summary)).attributes.IsStored :=
    Attributes.isStored_empty.set (Json.isStored_str summary) Plan.summaryName
  exact ⟨Plan.isStored_refresh (hreserved _) none, Plan.isStored_refresh (hreserved _) none⟩

/-- **Every change keeps them stored.** -/
theorem IsStored.change (h : x.IsStored) (hchange : Api.Change x x') : x'.IsStored := by
  cases hchange with
  | @describe r a q hbody hq =>
    obtain ⟨text, -, ha⟩ := Api.bodyAttributes_eq_ok_iff.mp hbody
    have ha := Attributes.isStored_of_read ha
    exact ⟨h.asIs, Plan.isStored_refresh (hq.isStored ha h.scratchpad) _⟩
  | redirect flags =>
    have hflags : (x.scratchpad.withFlags flags).attributes.IsStored := h.scratchpad
    exact ⟨h.asIs, Plan.isStored_refresh hflags _⟩
  | @enroll label token summary p hfree hp =>
    refine ⟨?_, ?_⟩
    · show (x.roster.put _).asIs.plan.attributes.IsStored
      rw [asIs_put]
      exact h.asIs
    · by_cases hs : label = scratchpadLabel
      · show (x.roster.put _).scratchpad.plan.attributes.IsStored
        rw [Roster.put_of_eq (show ((Roster.newEntry label p).refresh x.front).label = _ from hs)]
        exact Plan.isStored_refresh (Plan.isStored_variant h.asIs hp) _
      · show (x.roster.put _).scratchpad.plan.attributes.IsStored
        rw [Roster.put_of_ne (show ((Roster.newEntry label p).refresh x.front).label ≠ _ from hs)]
        exact h.scratchpad
  | replaceFront => exact ⟨h.asIs, Plan.isStored_refresh h.scratchpad _⟩
  | build => exact ⟨h.asIs, h.scratchpad⟩

/-- **What is restored** of an exploration `x₁` in an exploration `x₂`, with attributes `b`. -/
structure Restored (x₁ x₂ : Exploration) (b : Attributes) (x' : Exploration) : Prop where
  /-- What is shown of the scratchpad is the plan on it. -/
  shown : x'.roster.scratchpad.solution = x'.scratchpad.solution scratchpadLabel
  flags : x'.scratchpad.flags = x₁.scratchpad.flags
  decisionVariables : x'.scratchpad.variableValues = x₁.scratchpad.variableValues
  token : x'.scratchpad.token = x₁.scratchpad.token
  active : x'.scratchpad.side true = x₁.scratchpad.side true
  /-- Attributes that are not derived have the values that they were saved with. -/
  attributes : ∀ name v, name ∉ Plan.derivedNames → b.get? name = some v →
    x'.scratchpad.attributes.get? name = some v
  /-- Derived attributes tell the truth about these flags. -/
  truthful : x'.scratchpad.IsTruthful
  /-- Whether the plan lies on the front is told of the front that is loaded now. -/
  frontMember : x'.scratchpad.attributes.get? Plan.frontMemberName
    = x₂.front.map fun f => .bool (f.onFront x₁.scratchpad.token)

end Exploration

namespace Api

open Exploration

/-- **The request saves the attributes of the scratchpad**: it is answered with a list of
them. -/
structure Saves (m : Moment) (app : App) (r : Request) (a : Attributes) : Prop where
  method : r.method = "GET"
  path : Endpoint.ofPath? r.path = some .scratchpad
  list : ∃ shown, (handle m app r).1.body = .json shown
    ∧ shown.field? "Attributes" = some a.toJson

/-- **A body in which saved attributes are sent**, and what is read of it. -/
inductive Carries (body : ByteArray) (a : Attributes) : Attributes → Prop
  /-- The body is the text of the list that has been shown. Floats are what their texts are
  read as. -/
  | text {b : Attributes} (hbody : body = a.toJson.compact.toUTF8)
      (hdepth : a.toJson.depth ≤ Attributes.nestingLimit)
      (hb : a.toJson.reread? = some b.toJson) : Carries body a b
  /-- The body is any text that is read as the attributes. -/
  | value {text : String} (hbody : body = text.toUTF8) (hread : Attributes.read text = .ok a) :
      Carries body a a

/-- The request describes the scratchpad by JSON. -/
structure Describing (r : Request) : Prop where
  method : r.method = "PATCH"
  path : Endpoint.ofPath? r.path = some .scratchpad
  media : r.isOf .json = true

/-- **The request sends saved attributes to the scratchpad**, in a body that is not too long. -/
structure Restores (r : Request) (a b : Attributes) : Prop extends Describing r where
  size : r.body.size ≤ bodyLimit
  body : Carries r.body a b

variable {r : Request} {a b : Attributes}

theorem fromUTF8?_of_eq_toUTF8 {text : String} (hbody : r.body = text.toUTF8) :
    String.fromUTF8? r.body = some text := by
  rw [hbody]
  exact dif_pos (String.isValidUTF8 _)

/-- Saved attributes that are stored are read as they are sent. -/
theorem Restores.patchesAttributes (h : Restores r a b) (ha : a.IsStored) :
    PatchesAttributes r b := by
  refine ⟨h.method, h.path, h.media, bodyAttributes_eq_ok_iff.mpr ?_⟩
  obtain ⟨hbody, hdepth, hb⟩ | ⟨hbody, hread⟩ := h.body
  · have hread := Attributes.read_compact_toJson ha hb
    exact ⟨_, fromUTF8?_of_eq_toUTF8 hbody, hread.trans (if_pos hdepth)⟩
  · exact ⟨_, fromUTF8?_of_eq_toUTF8 hbody, hread⟩

/-- The text of saved attributes is refused if it is too long, or if containers are nested too
deeply in it. -/
theorem Describing.isSuccess_eq_false {m : Moment} {app : App} (h : Describing r)
    (ha : a.IsStored) (hbody : r.body = a.toJson.compact.toUTF8)
    (hb : a.toJson.reread? = some b.toJson)
    (hlong : bodyLimit < r.body.size ∨ Attributes.nestingLimit < a.toJson.depth) :
    (handle m app r).1.isSuccess = false := by
  have htakes : r.method ∈ Endpoint.scratchpad.methods := by
    rw [h.method]
    decide
  refine Bool.eq_false_iff.mpr fun hsuccess => ?_
  obtain ⟨e, hdecoded, hsize, hhandle⟩ := handle_of_isSuccess h.path htakes
    (by rw [h.method]; decide) hsuccess
  cases hdecoded
  rw [hhandle, h.method] at hsuccess
  obtain ⟨-, _, a', _, -, ha', -⟩ :=
    of_isSuccess_changed (allOrNothing_describeScratchpad _ r _) hsuccess
  obtain ⟨text, htext, hread⟩ := bodyAttributes_eq_ok_iff.mp ha'
  cases (fromUTF8?_of_eq_toUTF8 hbody).symm.trans htext
  rw [Attributes.read_compact_toJson ha hb,
    if_neg (Nat.not_le.mpr (hlong.resolve_left (Nat.not_lt.mpr hsize)))] at hread
  cases hread

/-- Values in which each float is read as itself are among them. -/
theorem Carries.get?_eq {body : ByteArray} (h : Carries body a b) {name : String} {v : Json}
    (hv : a.get? name = some v) (hfloats : ∀ x ∈ v.floats, Json.rereadFloat? x = some (.float x)) :
    b.get? name = some v := by
  cases h with
  | text _ _ hb =>
    obtain ⟨w, hw, hget⟩ := Attributes.get?_of_reread? hb hv
    rw [Json.reread?_eq_self hfloats, Option.some.injEq] at hw
    rw [hget, hw]
  | value => exact hv

/-- What is shown as the attributes of a solution are its attributes. -/
theorem field?_view_attributes {s : Solution} (h : s.attributes.isEmpty = false) :
    s.view.field? "Attributes" = some s.attributes.toJson := by
  simp [Solution.view, shownIf, h, Json.field?, Named.valueOf?_cons]

variable {m : Moment} {app : App} {x x₁ x₂ : Exploration} {c : Catchment}

/-- The scratchpad is shown. -/
theorem body_handle_get (hx : app.session = some x) (hmethod : r.method = "GET")
    (hpath : Endpoint.ofPath? r.path = some .scratchpad) :
    (handle m app r).1.body = .json x.roster.scratchpad.solution.view := by
  have hread : carryOut m app r "GET" .scratchpad
      = answered m.now app (readScratchpad ⟨m.now, app.cacheAge⟩ app.session) := rfl
  rw [handle_get hmethod hpath rfl (by decide), hread, hx]
  rfl

/-- The attributes of a coherent scratchpad are not empty, and they are what is shown. -/
theorem saves_iff (hx : app.session = some x) (hcoherent : x.Coherent c)
    (hmethod : r.method = "GET") (hpath : Endpoint.ofPath? r.path = some .scratchpad) :
    Saves m app r a ↔ a = x.scratchpad.attributes := by
  have hentry := hcoherent.entries x.roster.scratchpad (List.mem_cons_of_mem _ List.mem_cons_self)
  have hsolution : x.roster.scratchpad.solution.attributes = x.scratchpad.attributes := by
    rw [hentry.solution]
    rfl
  have hempty : x.scratchpad.attributes.isEmpty = false := by
    have hencoding := Attributes.get?_eq_some_iff.mp hentry.truthful.encoding
    exact List.isEmpty_eq_false_iff_exists_mem.mpr ⟨_, hencoding⟩
  have hfield := field?_view_attributes (hsolution ▸ hempty)
  have hbody := @body_handle_get r m app x hx hmethod hpath
  rw [hsolution] at hfield
  constructor
  · rintro ⟨-, -, shown, hshown, ha⟩
    cases hbody.symm.trans hshown
    exact Attributes.toJson_injective (Option.some.inj (ha.symm.trans hfield))
  · rintro rfl
    exact ⟨hmethod, hpath, _, hbody, hfield⟩

/-- **What comes of restoring** is the plan that was on the scratchpad. -/
theorem restored_edited (h₁ : x₁.Coherent c) (h₂ : x₂.Coherent c)
    (hencoding : b.get? Plan.encodingName = some (.str x₁.scratchpad.token)) :
    ∃ q, x₂.scratchpad.Redescribed b q ∧ Restored x₁ x₂ b (x₂.edited q) := by
  have hc₁ := h₁.catchment_scratchpad
  have hc₂ := h₂.catchment_scratchpad
  have hlength : x₁.scratchpad.flags.length = x₂.scratchpad.catchment.actions.length := by
    rw [x₁.scratchpad.length_flags, hc₁, hc₂]
  have hdecode : Token.decode x₂.scratchpad.catchment.actions.length x₁.scratchpad.token
      = .ok x₁.scratchpad.flags := hlength ▸ Token.decode_encode _
  have hq := Plan.Redescribed.token hencoding hdecode
  refine ⟨_, hq, ?_⟩
  generalize hdescribed : (x₂.scratchpad.withFlags x₁.scratchpad.flags).describeAll
    (b.remove Plan.encodingName) = q at hq ⊢
  have hcoherent := h₂.move (.edit hq.catchment_eq)
  have hentry := hcoherent.entries _ (List.mem_cons_of_mem _ List.mem_cons_self)
  have hflags : (x₂.edited q).scratchpad.flags = x₁.scratchpad.flags := by
    show q.flags = _
    rw [← hdescribed]
    exact Plan.flags_withFlags hlength
  obtain ⟨attributes, hplan⟩ := Plan.eq_with_attributes
    (hcoherent.catchment_scratchpad.trans hc₁.symm) hflags
  have htoken : (x₂.edited q).scratchpad.token = x₁.scratchpad.token := by rw [hplan]; rfl
  refine ⟨?_, hflags, ?_, htoken, ?_, fun name v hname hv => ?_, hentry.truthful, ?_⟩
  · rw [hentry.solution, hcoherent.label_scratchpad]
    rfl
  · rw [hplan]
    rfl
  · rw [hplan]
    rfl
  · have hne : Plan.encodingName ≠ name := by
      rintro rfl
      exact hname List.mem_cons_self
    have hother : q.attributes.get? name = some v := by
      rw [← hdescribed]
      show (Attributes.setAll _ (b.remove Plan.encodingName).entries).get? name = _
      rw [Attributes.get?_setAll, Attributes.get?_remove, if_neg hne, hv]
      rfl
    exact (Plan.get?_refresh_of_ne q _ hname).trans hother
  · rw [hcoherent.frontMember, htoken]
    rfl

/-- **A saved model can be restored.** Whatever has happened since a scenario was loaded, the
attributes that are shown of the scratchpad may be saved. Whatever happens then, as long as no
other scenario is loaded, the scratchpad can be described by them: it takes the actions that it
took when they were saved, its decision variables have the values that they had then, and so
have the attributes that are not derived. Derived attributes tell what is true now.

The attributes may be sent in any text that is read as them. They may also be sent in the text
that was shown. Then a float becomes what its text is read as, which need not be the same
float: values in which each float is read as itself, in particular values without floats, are
restored.

The text that was shown is refused if it is too long for a body, or if containers are nested too
deeply in it. -/
theorem saved_model_restored {text : String} {x₀ : Exploration}
    (hload : Exploration.load text = .ok x₀) {app₁ app₂ : App} {m₁ m₂ : Moment} {r₁ r₂ : Request}
    {a b : Attributes} (hsince₁ : app₁.Since x₀) (hsaves : Saves m₁ app₁ r₁ a)
    (hsince₂ : ∀ x, app₁.session = some x → app₂.Since x) (hrestores : Restores r₂ a b) :
    ∃ x₁ x₂ x', app₁.session = some x₁ ∧ app₂.session = some x₂
      ∧ (handle m₂ app₂ r₂).1.status = 200 ∧ (handle m₂ app₂ r₂).2.session = some x'
      ∧ Restored x₁ x₂ b x'
      ∧ (∀ name v, name ∉ Plan.derivedNames → a.get? name = some v →
        (∀ x ∈ v.floats, Json.rereadFloat? x = some (.float x)) →
        x'.scratchpad.attributes.get? name = some v)
      ∧ ∀ m r b', Describing r → r.body = a.toJson.compact.toUTF8 →
        a.toJson.reread? = some (Attributes.toJson b') →
        bodyLimit < r.body.size ∨ Attributes.nestingLimit < a.toJson.depth →
        (handle m app₂ r).1.isSuccess = false := by
  obtain ⟨-, c, hcoherent₀⟩ := coherent_load hload
  obtain ⟨x₁, hx₁, hcoherent₁, hstored₁⟩ := hsince₁.exists_changed
    (P := fun x => x.Coherent c ∧ x.IsStored) ⟨hcoherent₀, isStored_load hload⟩
    fun ⟨hcoherent, hstored⟩ hchange => ⟨hcoherent.move hchange.move, hstored.change hchange⟩
  obtain ⟨x₂, hx₂, hcoherent₂⟩ := (hsince₂ x₁ hx₁).exists_session
    (P := fun x => x.Coherent c) hcoherent₁ fun h hmove => h.move hmove
  obtain rfl := (saves_iff hx₁ hcoherent₁ hsaves.method hsaves.path).mp hsaves
  have htruthful := (hcoherent₁.entries _ (List.mem_cons_of_mem _ List.mem_cons_self)).truthful
  have hencoding := hrestores.body.get?_eq htruthful.encoding (List.forall_mem_nil _)
  obtain ⟨q, hq, hrestored⟩ := restored_edited hcoherent₁ hcoherent₂ hencoding
  have hpatches := hrestores.patchesAttributes hstored₁.scratchpad
  obtain ⟨hstatus, hafter⟩ := hpatches.handle_spec (m := m₂) hrestores.size hx₂ hq
  exact ⟨x₁, x₂, _, hx₁, hx₂, hstatus, hafter, hrestored,
    fun name v hname hv hfloats =>
      hrestored.attributes name v hname (hrestores.body.get?_eq hv hfloats),
    fun m r b' hdescribing hbody hb' hlong =>
      hdescribing.isSuccess_eq_false hstored₁.scratchpad hbody hb' hlong⟩

/-- Shows the scratchpad. -/
def Request.getScratchpad : Request := ⟨"GET", "/api/v1/model", none, ⟨#[]⟩⟩

theorem path_patchScratchpad (attributes : String) :
    Endpoint.ofPath? (Request.patchScratchpad attributes).path = some .scratchpad := by
  simp only [Request.path, Request.patchScratchpad]
  decide +kernel

theorem isOf_patchScratchpad (attributes : String) :
    (Request.patchScratchpad attributes).isOf .json = true := by
  simp only [Request.isOf, Request.essence, Request.mediaText, Request.patchScratchpad]
  decide +kernel

/-- In an application to which requests have been sent, the attributes of the scratchpad can be
saved. -/
theorem exists_saves {scenario : String} (requests : List Request)
    (hsome : (App.exploring scenario).session.isSome = true)
    (hnone : ∀ r ∈ requests, Endpoint.ofPath? r.path ≠ some .scenario) :
    ∃ text x₀ x, Exploration.load text = .ok x₀
      ∧ ((App.exploring scenario).sent requests).Since x₀
      ∧ ((App.exploring scenario).sent requests).session = some x
      ∧ Saves ⟨"", ⟨0⟩⟩ ((App.exploring scenario).sent requests) .getScratchpad
        x.scratchpad.attributes := by
  obtain ⟨text, x₀, hload, hx₀⟩ := App.session_exploring scenario hsome
  have hsince := (App.Since.start hx₀).sent hnone
  obtain ⟨-, c, hcoherent₀⟩ := coherent_load hload
  obtain ⟨x, hx, hcoherent⟩ := hsince.exists_session
    (P := fun x => x.Coherent c) hcoherent₀ fun h hmove => h.move hmove
  have hpath : Endpoint.ofPath? Request.getScratchpad.path = some .scratchpad := by
    decide +kernel
  exact ⟨text, x₀, x, hload, hsince, hx, (saves_iff hx hcoherent rfl hpath).mpr rfl⟩

/-- A token and an attribute are saved. The scratchpad is then described otherwise, and a front
is loaded. Restoring tells what the saved list does not know of: whether the plan lies on the
front. -/
theorem saved_model_restored_past_front :
    ∃ (app₁ app₂ : App) (a b : Attributes) (r : Request) (x₁ x₂ x' : Exploration),
      Saves ⟨"", ⟨0⟩⟩ app₁ .getScratchpad a ∧ Restores r a b
        ∧ app₁.session = some x₁ ∧ app₂.session = some x₂
        ∧ (handle ⟨"", ⟨0⟩⟩ app₂ r).2.session = some x'
        ∧ x₁.front.isSome = false ∧ x₁.scratchpad.flags = [true]
        ∧ x₂.front.isSome = true ∧ x₂.scratchpad.flags = [false]
        ∧ Restored x₁ x₂ b x' := by
  let scenario := "Scenario.Name=\"A\"\nModel.Type=\"CatchmentModel\"\n" ++
    "Model.PlanningUnits=[[1,[[\"B\"]]]]\n"
  let before : List Request := [.patchScratchpad "[[\"Encoding\", \"3\"], [\"x\", 1]]"]
  let after : List Request := [.patchScratchpad "[[\"Encoding\", \"2\"], [\"x\", 2]]",
    .postFront "Solution,Actions,Summary\nAs-Is,2,\n"]
  let app₁ := (App.exploring scenario).sent before
  obtain ⟨hsome, hfacts₁, hfacts₂⟩ :
      (App.exploring scenario).session.isSome = true
        ∧ app₁.session.map (fun x => (x.front.isSome, x.scratchpad.flags,
            decide (x.scratchpad.attributes.toJson.depth ≤ Attributes.nestingLimit),
            x.scratchpad.attributes.toJson.reread?.isSome,
            decide ((Request.patchScratchpad x.scratchpad.attributes.toJson.compact).body.size
              ≤ bodyLimit))) = some (false, [true], true, true, true)
        ∧ (app₁.sent after).session.map (fun x => (x.front.isSome, x.scratchpad.flags))
          = some (true, [false]) := by
    decide +kernel
  have hbefore : ∀ r ∈ before, Endpoint.ofPath? r.path ≠ some .scenario := by decide +kernel
  have hafter : ∀ r ∈ after, Endpoint.ofPath? r.path ≠ some .scenario := by decide +kernel
  obtain ⟨text, x₀, x₁, hload, hsince₁, hx₁, hsaves⟩ := exists_saves before hsome hbefore
  rw [hx₁, Option.map_some, Option.some.injEq] at hfacts₁
  simp only [Prod.mk.injEq, decide_eq_true_eq] at hfacts₁
  obtain ⟨hfront₁, hflags₁, hdepth, hreread, hsize⟩ := hfacts₁
  obtain ⟨w, hw⟩ := Option.isSome_iff_exists.mp hreread
  obtain ⟨b, -, rfl⟩ := Attributes.reread?_toJson_eq_some_iff.mp hw
  have hrestores : Restores (.patchScratchpad x₁.scratchpad.attributes.toJson.compact)
      x₁.scratchpad.attributes b :=
    ⟨⟨rfl, path_patchScratchpad _, isOf_patchScratchpad _⟩, hsize, .text rfl hdepth hw⟩
  have hsince₂ : ∀ x, app₁.session = some x → (app₁.sent after).Since x :=
    fun x hx => (App.Since.start hx).sent hafter
  obtain ⟨x₁', x₂, x', hx₁', hx₂, -, hx', hrestored, -⟩ :=
    @saved_model_restored text x₀ hload app₁ (app₁.sent after) ⟨"", ⟨0⟩⟩ ⟨"", ⟨0⟩⟩ _ _ _ _ hsince₁
      hsaves hsince₂ hrestores
  cases hx₁.symm.trans hx₁'
  rw [hx₂, Option.map_some, Option.some.injEq, Prod.mk.injEq] at hfacts₂
  exact ⟨app₁, app₁.sent after, _, b, _, x₁, x₂, x', hsaves, hrestores, hx₁, hx₂, hx', hfront₁,
    hflags₁, hfacts₂.1, hfacts₂.2, hrestored⟩

/-- **A float that is sent as it has been shown need not be restored.** Here
`0.9805059910079699` comes back as another float. -/
theorem saved_model_not_restored :
    ∃ (text : String) (x₀ x' : Exploration) (app : App) (a : Attributes) (v : Json),
      Exploration.load text = .ok x₀ ∧ app.Since x₀ ∧ Saves ⟨"", ⟨0⟩⟩ app .getScratchpad a
        ∧ (handle ⟨"", ⟨0⟩⟩ app (.patchScratchpad a.toJson.compact)).2.session = some x'
        ∧ a.get? "x" = some v ∧ x'.scratchpad.attributes.get? "x" ≠ some v := by
  let scenario := "Scenario.Name=\"A\"\nModel.Type=\"CatchmentModel\"\n"
  let requests : List Request := [.patchScratchpad "[[\"x\", 0.98050599100796998]]"]
  let shownFloat (x : Exploration) := (x.scratchpad.attributes.get? "x").map Json.compact
  obtain ⟨hsome, hfloat⟩ : (App.exploring scenario).session.isSome = true
      ∧ ((App.exploring scenario).sent requests).session.bind (fun x =>
          (handle ⟨"", ⟨0⟩⟩ ((App.exploring scenario).sent requests)
            (.patchScratchpad x.scratchpad.attributes.toJson.compact)).2.session.map fun x' =>
              (shownFloat x, shownFloat x'))
        = some (some "0.9805059910079699", some "0.98050599100797") := by
    decide +kernel
  obtain ⟨text, x₀, x, hload, hsince, hx, hsaves⟩ :=
    exists_saves requests hsome (by decide +kernel)
  rw [hx, Option.bind_some] at hfloat
  obtain ⟨x', hx', hshown⟩ := Option.map_eq_some_iff.mp hfloat
  obtain ⟨hv, hv'⟩ := Prod.mk.inj hshown
  obtain ⟨v, hget, hcompact⟩ := Option.map_eq_some_iff.mp hv
  refine ⟨text, x₀, x', _, _, v, hload, hsince, hsaves, hx', hget, fun hsame => ?_⟩
  have hshown' : shownFloat x' = some v.compact := congrArg (Option.map _) hsame
  rw [hshown', hcompact, Option.some.injEq] at hv'
  exact absurd hv' (by decide)

end Api

end CatchmentPlanning
