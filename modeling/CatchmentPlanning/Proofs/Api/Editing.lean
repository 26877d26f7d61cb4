import CatchmentPlanning.Proofs.Api.SinceLoading
import CatchmentPlanning.Proofs.Api.UnitRequests
import CatchmentPlanning.Proofs.Exploration.Edits
import Mathlib.Data.List.Forall2

/-!
# The ways to edit the scratchpad agree

The actions on the scratchpad can be edited by naming all of them with a token, by a table
of actions, and planning unit by planning unit. Each way brings the derived attributes up
to date before the next edit comes, so that reports of exceeded limits and the membership of
the front come and go while a scratchpad is edited in small steps.

None of this is left to be seen in the end. Whatever edits have been carried out, in
whatever order: if the scratchpad takes the same actions after two sequences of them, it
shows the same (`edits_agree`). In particular one token does what an update of every
planning unit does, in any order of the units.
-/

namespace CatchmentPlanning

namespace Api

open Steps Exploration

variable {m : Moment} {r : Request} {app : App} {x : Exploration} {c : Catchment}
  {v : List Bool} {unit : Nat}

/-! ## Edits that are carried out -/

/-- **The request edits the actions on the scratchpad** in one of the three ways. -/
inductive EditsActions (r : Request) : Prop
  /-- The posted attributes are an `Encoding` and nothing else. -/
  | token {a : Attributes} (hmethod : r.method = "PATCH")
      (hpath : Endpoint.ofPath? r.path = some .scratchpad) (hbody : bodyAttributes r = .ok a)
      (hnames : a.names = [Plan.encodingName])
  /-- A table of actions is put. -/
  | table (hmethod : r.method = "PUT") (hpath : Endpoint.ofPath? r.path = some .activeActions)
  /-- A planning unit is updated. -/
  | unit {id : String} (hmethod : r.method = "POST")
      (hpath : Endpoint.ofPath? r.path = some (.unit id))

/-- A plan that is described by an `Encoding` alone takes other actions, and nothing else
about it changes. -/
theorem eq_withFlags_of_redescribed {p q : Plan} {a : Attributes}
    (hnames : a.names = [Plan.encodingName]) (h : p.Redescribed a q) :
    ∃ token flags, a.get? Plan.encodingName = some (.str token)
      ∧ Token.decode p.catchment.actions.length token = .ok flags ∧ q = p.withFlags flags := by
  cases h with
  | plain hnone =>
    rw [Attributes.get?_eq_none_iff, hnames] at hnone
    exact absurd List.mem_cons_self hnone
  | @token token flags htoken hflags =>
    obtain ⟨e, hentries, hname⟩ := List.map_eq_singleton_iff.mp hnames
    have hrest : (a.remove Plan.encodingName).entries = [] := by
      show a.entries.eraseP _ = []
      rw [hentries, List.eraseP_cons_of_pos (by simp [hname])]
    refine ⟨token, flags, htoken, hflags, ?_⟩
    rw [Plan.describeAll, hrest]
    rfl

/-- **An edit of the actions that succeeds changes nothing but the actions.** -/
theorem EditsActions.redirects (h : EditsActions r)
    (hsuccess : (handle m app r).1.isSuccess = true) :
    Redirects app.session (handle m app r).1 (handle m app r).2.session := by
  cases h with
  | @token a hmethod hpath hbody hnames =>
    obtain ⟨e, hdecoded, -, hhandle⟩ := handle_of_isSuccess hpath
      (by rw [hmethod]; decide) (by rw [hmethod]; decide) hsuccess
    cases hdecoded
    rw [hhandle, hmethod] at hsuccess ⊢
    obtain ⟨hresponse, x, a', q, hx, ha', hq, hsession⟩ :=
      of_isSuccess_changed (allOrNothing_describeScratchpad _ r _) hsuccess
    rw [hbody, Except.ok.injEq] at ha'
    subst ha'
    obtain ⟨_, flags, -, -, rfl⟩ := eq_withFlags_of_redescribed hnames hq
    exact ⟨hresponse, x, flags, hx, hsession⟩
  | table hmethod hpath =>
    obtain ⟨e, hdecoded, -, hhandle⟩ := handle_of_isSuccess hpath
      (by rw [hmethod]; decide) (by rw [hmethod]; decide) hsuccess
    cases hdecoded
    rw [hhandle, hmethod] at hsuccess ⊢
    exact of_isSuccess_changed (allOrNothing_applyActionTable _ r _) hsuccess
  | unit hmethod hpath =>
    obtain ⟨e, hdecoded, -, hhandle⟩ := handle_of_isSuccess hpath
      (hmethod ▸ List.mem_cons_of_mem _ List.mem_cons_self) (by rw [hmethod]; decide) hsuccess
    obtain ⟨p, -, rfl⟩ := decoded_unit_eq_ok_iff.mp hdecoded
    rw [hhandle, hmethod] at hsuccess ⊢
    exact of_isSuccess_changed (allOrNothing_updateUnit _ _ r _) hsuccess

/-- The application once requests have been answered, each at its moment. -/
def App.answering (app : App) (requests : List (Moment × Request)) : App :=
  app.run (requests.map fun request => .request request.1 request.2)

/-- **Edits of the actions that are all carried out**, one after the other. -/
def App.CarriesOut (app : App) : List (Moment × Request) → Prop
  | [] => True
  | (m, r) :: edits =>
    EditsActions r ∧ (handle m app r).1.isSuccess = true ∧ (handle m app r).2.CarriesOut edits

/-- **All that any number of edits does** is to let the scratchpad take other actions. -/
theorem App.CarriesOut.redirected {edits : List (Moment × Request)} {x₁ : Exploration}
    (h : app.CarriesOut edits) (hx₁ : app.session = some x₁) (hredirected : x.Redirected x₁)
    (hcoherent : x₁.Coherent c) :
    ∃ x₂, (app.answering edits).session = some x₂ ∧ x.Redirected x₂ ∧ x₂.Coherent c := by
  induction edits generalizing app x₁ with
  | nil => exact ⟨x₁, hx₁, hredirected, hcoherent⟩
  | cons edit edits ih =>
    obtain ⟨m, r⟩ := edit
    obtain ⟨hedits, hsuccess, hrest⟩ := h
    obtain ⟨-, x₁', flags, hx₁', hafter⟩ := hedits.redirects hsuccess
    rw [hx₁, Option.some.injEq] at hx₁'
    subst hx₁'
    exact ih hrest hafter (hredirected.edit flags) (hcoherent.move (.edit rfl))

/-! ## One token, or an update of each unit -/

/-- **The request names the actions of the scratchpad by their token**, and says nothing
else. -/
structure PatchesToken (r : Request) (v : List Bool) : Prop where
  method : r.method = "PATCH"
  path : Endpoint.ofPath? r.path = some .scratchpad
  media : r.isOf .json = true
  body : ∃ a, bodyAttributes r = .ok a
    ∧ a.entries = [(Plan.encodingName, .str (Token.encode v))]

/-- **The request updates a planning unit** to the states that flags give its actions. -/
structure PostsUnit (c : Catchment) (v : List Bool) (r : Request) (unit : Nat) : Prop where
  method : r.method = "POST"
  path : ∃ id p, Endpoint.ofPath? r.path = some (.unit id) ∧ Text.percentDecode? id = some p
    ∧ Text.unsigned? (2 ^ 32) p = some unit
  media : r.isOf .json = true
  body : ∃ a, bodyAttributes r = .ok a ∧ UnitUpdate.States c v unit a

theorem PatchesToken.editsActions (h : PatchesToken r v) : EditsActions r := by
  obtain ⟨a, ha, hentries⟩ := h.body
  refine .token h.method h.path ha ?_
  rw [Attributes.names, hentries]
  rfl

/-- **The request posts attributes to the scratchpad.** -/
structure PatchesAttributes (r : Request) (a : Attributes) : Prop where
  method : r.method = "PATCH"
  path : Endpoint.ofPath? r.path = some .scratchpad
  media : r.isOf .json = true
  body : bodyAttributes r = .ok a

/-- The plan that the attributes ask for comes on the scratchpad. -/
theorem PatchesAttributes.handle_spec {a : Attributes} {q : Plan} (h : PatchesAttributes r a)
    (hsize : r.body.size ≤ bodyLimit) (hx : app.session = some x)
    (hq : x.scratchpad.Redescribed a q) :
    (handle m app r).1.status = 200 ∧ (handle m app r).2.session = some (x.edited q) := by
  have htakes : r.method ∈ Endpoint.scratchpad.methods := by
    rw [h.method]
    decide
  obtain ⟨response, _, hrun, hstatus, rfl⟩ := succeeds_describeScratchpad
    (c := ⟨m.now, app.cacheAge⟩) (requireMedia_eq_ok_iff.mpr h.media) h.body hq
  have hchanged : carryOut m app r "PATCH" .scratchpad = _ := changed_eq (hx ▸ hrun)
  rw [handle_of_takes h.path rfl htakes, if_neg fun hlong => Nat.not_lt.mpr hsize hlong.2,
    h.method, hchanged]
  exact ⟨hstatus, rfl⟩

/-- A token for as many actions as there are is taken over. -/
theorem PatchesToken.handle_spec (h : PatchesToken r v) (hsize : r.body.size ≤ bodyLimit)
    (hx : app.session = some x) (hv : v.length = x.scratchpad.catchment.actions.length) :
    (handle m app r).1.status = 200
      ∧ (handle m app r).2.session = some (x.edited (x.scratchpad.withFlags v)) := by
  obtain ⟨a, ha, hentries⟩ := h.body
  have htoken : a.get? Plan.encodingName = some (.str (Token.encode v)) := by
    rw [Attributes.get?_eq_some_iff, hentries]
    exact List.mem_cons_self
  have hflags : Token.decode x.scratchpad.catchment.actions.length (Token.encode v) = .ok v :=
    hv ▸ Token.decode_encode v
  have hredescribed : x.scratchpad.Redescribed a (x.scratchpad.withFlags v) := by
    have hq := Plan.Redescribed.token htoken hflags
    obtain ⟨token, flags, htoken', hflags', heq⟩ := eq_withFlags_of_redescribed
      (by rw [Attributes.names, hentries]; rfl) hq
    rw [htoken, Option.some.injEq, Json.str.injEq] at htoken'
    rw [← htoken', hflags, Except.ok.injEq] at hflags'
    rwa [heq, ← hflags'] at hq
  have hpatches : PatchesAttributes r a := ⟨h.method, h.path, h.media, ha⟩
  exact hpatches.handle_spec hsize hx hredescribed

theorem PostsUnit.editsActions (h : PostsUnit c v r unit) : EditsActions r := by
  obtain ⟨id, _, hpath, -, -⟩ := h.path
  exact .unit h.method hpath

/-- The states of a unit are taken over, and the actions of the other units stay as they
are. -/
theorem PostsUnit.handle_spec (h : PostsUnit c v r unit) (hsize : r.body.size ≤ bodyLimit)
    (hx : app.session = some x) (hcoherent : x.Coherent c) (hunit : unit ∈ c.units)
    (hv : v.length = c.actions.length) :
    (handle m app r).1.status = 200
      ∧ ∃ flags, (handle m app r).2.session = some (x.edited (x.scratchpad.withFlags flags))
        ∧ flags.length = c.actions.length
        ∧ ∀ (i : Nat) (b : Action), c.actions[i]? = some b →
          flags[i]? = if b.unit = unit then v[i]? else x.scratchpad.flags[i]? := by
  obtain ⟨a, ha, hstates⟩ := h.body
  have hc : x.scratchpad.catchment = c := hcoherent.catchment_scratchpad
  have hlength : x.scratchpad.flags.length = c.actions.length := hc ▸ x.scratchpad.length_flags
  have hupdates : UpdatesUnit r unit := ⟨h.method, h.path, h.media⟩
  rw [hupdates.handle_eq hsize hx (hc ▸ hunit) ha, hc, hstates.violations_eq_nil hv]
  refine ⟨rfl, _, rfl, (ActionTable.length_applied _ _).trans hlength, fun i b hb => ?_⟩
  exact hstates.getElem?_applied hv (Scenario.indexed_of_interpret hcoherent.catchment) hlength hb

/-- **Updates of several units leave each of these its states**, and the other units what
they had. -/
theorem carriesOut_of_postsUnit {posts : List (Moment × Request)} {units : List Nat}
    (hposts : List.Forall₂ (fun post unit => PostsUnit c v post.2 unit) posts units)
    (hsize : ∀ post ∈ posts, post.2.body.size ≤ bodyLimit) (hx : app.session = some x)
    (hcoherent : x.Coherent c) (hunits : ∀ unit ∈ units, unit ∈ c.units)
    (hv : v.length = c.actions.length) :
    app.CarriesOut posts ∧ ∃ x', (app.answering posts).session = some x'
      ∧ ∀ (i : Nat) (b : Action), c.actions[i]? = some b →
        x'.scratchpad.flags[i]? = if b.unit ∈ units then v[i]? else x.scratchpad.flags[i]? := by
  induction hposts generalizing app x with
  | nil => exact ⟨trivial, x, hx, fun i b _ => (if_neg List.not_mem_nil).symm⟩
  | @cons post unit posts units hpost hposts ih =>
    obtain ⟨hstatus, flags, hafter, hlength, hflags⟩ := hpost.handle_spec (m := post.1)
      (hsize _ List.mem_cons_self) hx hcoherent (hunits _ List.mem_cons_self) hv
    obtain ⟨hcarries, x', hx', hrest⟩ := ih (fun post h => hsize post (List.mem_cons_of_mem _ h))
      hafter (hcoherent.move (.edit rfl)) fun unit h => hunits unit (List.mem_cons_of_mem _ h)
    have hsuccess : (handle post.1 app post.2).1.isSuccess = true := by
      rw [Response.isSuccess, hstatus]
      rfl
    refine ⟨⟨hpost.editsActions, hsuccess, hcarries⟩, x', hx', fun i b hb => ?_⟩
    have hedited : (x.edited (x.scratchpad.withFlags flags)).scratchpad.flags = flags :=
      flags_edited_withFlags (hcoherent.catchment_scratchpad ▸ hlength)
    rw [hrest i b hb, hedited, hflags i b hb]
    by_cases hmem : b.unit ∈ units
    · rw [if_pos hmem, if_pos (List.mem_cons_of_mem _ hmem)]
    · rw [if_neg hmem]
      exact if_congr (List.mem_cons.trans (or_iff_left hmem)).symm rfl rfl

/-- A request that edits the actions and succeeds has a body that is not too long. -/
theorem EditsActions.size_le (h : EditsActions r) (hsuccess : (handle m app r).1.isSuccess = true) :
    r.body.size ≤ bodyLimit := by
  cases h with
  | token hmethod hpath | table hmethod hpath =>
    obtain ⟨-, -, hsize, -⟩ := handle_of_isSuccess hpath
      (by rw [hmethod]; decide) (by rw [hmethod]; decide) hsuccess
    exact hsize
  | unit hmethod hpath =>
    obtain ⟨-, -, hsize, -⟩ := handle_of_isSuccess hpath
      (hmethod ▸ List.mem_cons_of_mem _ List.mem_cons_self) (by rw [hmethod]; decide) hsuccess
    exact hsize

/-- So do all of several edits that are carried out. -/
theorem App.CarriesOut.size_le {edits : List (Moment × Request)} (h : app.CarriesOut edits) :
    ∀ edit ∈ edits, edit.2.body.size ≤ bodyLimit := by
  induction edits generalizing app with
  | nil => exact List.forall_mem_nil _
  | cons edit edits ih =>
    exact List.forall_mem_cons.mpr ⟨h.1.size_le h.2.1, ih h.2.2⟩

/-- Updates of all units leave the scratchpad the flags that they were made from. -/
theorem flags_of_postsUnit {posts : List (Moment × Request)} {units : List Nat}
    (hposts : List.Forall₂ (fun post unit => PostsUnit c v post.2 unit) posts units)
    (hcarries : app.CarriesOut posts) (hx : app.session = some x) (hcoherent : x.Coherent c)
    (hunits : units.Perm c.units) (hv : v.length = c.actions.length) {x' : Exploration}
    (hx' : (app.answering posts).session = some x') (hcoherent' : x'.Coherent c) :
    x'.scratchpad.flags = v := by
  obtain ⟨-, x₁, hx₁, hflags⟩ := carriesOut_of_postsUnit hposts hcarries.size_le hx hcoherent
    (fun unit h => hunits.mem_iff.mp h) hv
  rw [hx', Option.some.injEq] at hx₁
  subst hx₁
  have hlength : x'.scratchpad.flags.length = c.actions.length :=
    hcoherent'.catchment_scratchpad ▸ x'.scratchpad.length_flags
  refine List.ext_getElem? fun i => ?_
  cases hb : c.actions[i]? with
  | some b =>
    have hmem : b.unit ∈ units := hunits.mem_iff.mpr
      ((Scenario.indexed_of_interpret hcoherent.catchment).unit_mem b (List.mem_of_getElem? hb))
    rw [hflags i b hb, if_pos hmem]
  | none =>
    have hi : c.actions.length ≤ i := List.getElem?_eq_none_iff.mp hb
    rw [List.getElem?_eq_none (hlength ▸ hi), List.getElem?_eq_none (hv ▸ hi)]

/-! ## The ways agree -/

/-- **The ways to edit the scratchpad agree.** Whatever has happened since a scenario was
loaded: if two sequences of edits of the actions are carried out, each edit in any of the
three ways, and the scratchpad takes the same actions in the end, then it shows the same –
its decision variables, its token, the kinds of action taken and not taken at each unit, and
the value of every attribute.

In particular this is so for one token, and for an update of each planning unit, in any order
of the units, to the states that the flags of the token give its actions. All of these are
carried out if their bodies are not too long, and they leave these flags. -/
theorem edits_agree {text : String} {x₀ : Exploration} (hload : Exploration.load text = .ok x₀)
    (hsince : app.Since x₀) :
    ∃ x c, app.session = some x ∧ x.scenario.interpret = .ok c
      ∧ (∀ edits₁ edits₂ : List (Moment × Request),
        app.CarriesOut edits₁ → app.CarriesOut edits₂ →
        ∃ x₁ x₂, (app.answering edits₁).session = some x₁
          ∧ (app.answering edits₂).session = some x₂
          ∧ (x₁.scratchpad.flags = x₂.scratchpad.flags →
            x₁.roster.scratchpad.solution.ShowsSame x₂.roster.scratchpad.solution))
      ∧ ∀ (v : List Bool) (patch : Moment × Request) (posts : List (Moment × Request))
          (units : List Nat), v.length = c.actions.length → PatchesToken patch.2 v →
        units.Perm c.units →
        List.Forall₂ (fun post unit => PostsUnit c v post.2 unit) posts units →
        (app.CarriesOut [patch] ↔ patch.2.body.size ≤ bodyLimit)
          ∧ (app.CarriesOut posts ↔ ∀ post ∈ posts, post.2.body.size ≤ bodyLimit)
          ∧ (app.CarriesOut [patch] → app.CarriesOut posts →
            ∃ x₁ x₂, (app.answering [patch]).session = some x₁
              ∧ (app.answering posts).session = some x₂
              ∧ x₁.scratchpad.flags = v ∧ x₂.scratchpad.flags = v
              ∧ x₁.roster.scratchpad.solution.ShowsSame x₂.roster.scratchpad.solution) := by
  obtain ⟨x, hx, c, hcoherent⟩ := hsince.exists_session (P := fun x => ∃ c, x.Coherent c)
    (coherent_load hload).2 fun ⟨c, h⟩ hmove => ⟨c, h.move hmove⟩
  have hlands : ∀ edits, app.CarriesOut edits →
      ∃ x', (app.answering edits).session = some x' ∧ x.Redirected x' ∧ x'.Coherent c :=
    fun edits h => h.redirected hx (.refl x) hcoherent
  refine ⟨x, c, hx, hcoherent.catchment, fun edits₁ edits₂ h₁ h₂ => ?_, ?_⟩
  · obtain ⟨x₁, hx₁, hredirected₁, hc₁⟩ := hlands edits₁ h₁
    obtain ⟨x₂, hx₂, hredirected₂, hc₂⟩ := hlands edits₂ h₂
    exact ⟨x₁, x₂, hx₁, hx₂, hredirected₁.showsSame hredirected₂ hc₁ hc₂⟩
  · intro v patch posts units hv hpatch hunits hposts
    have hv' : v.length = x.scratchpad.catchment.actions.length :=
      hcoherent.catchment_scratchpad.symm ▸ hv
    have hpatched (hsize : patch.2.body.size ≤ bodyLimit) :=
      hpatch.handle_spec (m := patch.1) hsize hx hv'
    refine ⟨⟨fun h => h.size_le _ List.mem_cons_self, fun hsize => ?_⟩,
      ⟨App.CarriesOut.size_le, fun hsize => ?_⟩, fun h₁ h₂ => ?_⟩
    · refine ⟨hpatch.editsActions, ?_, trivial⟩
      rw [Response.isSuccess, (hpatched hsize).1]
      rfl
    · exact (carriesOut_of_postsUnit hposts hsize hx hcoherent
        (fun unit h => hunits.mem_iff.mp h) hv).1
    · obtain ⟨x₁, hx₁, hredirected₁, hc₁⟩ := hlands [patch] h₁
      obtain ⟨x₂, hx₂, hredirected₂, hc₂⟩ := hlands posts h₂
      have hx₁' : (app.answering [patch]).session
          = some (x.edited (x.scratchpad.withFlags v)) :=
        (hpatched (h₁.size_le _ List.mem_cons_self)).2
      have hflags₁ : x₁.scratchpad.flags = v := by
        rw [hx₁, Option.some.injEq] at hx₁'
        rw [hx₁']
        exact flags_edited_withFlags hv'
      have hflags₂ : x₂.scratchpad.flags = v :=
        flags_of_postsUnit hposts h₂ hx hcoherent hunits hv hx₂ hc₂
      exact ⟨x₁, x₂, hx₁, hx₂, hflags₁, hflags₂,
        hredirected₁.showsSame hredirected₂ hc₁ hc₂ (hflags₁.trans hflags₂.symm)⟩

/-- In a catchment of two units a token takes both actions, which exceeds a limit, and an
update of the second unit drops its action again. A table takes the first action alone. Both
leave the same. -/
theorem edits_agree_past_exceeded_limit :
    ∃ (app : App) (first second other : Moment × Request) (x₁ x₂ : Exploration),
      app.CarriesOut [first, second] ∧ app.CarriesOut [other]
        ∧ (app.answering [first]).session.map (·.scratchpad.isFeasible) = some false
        ∧ (app.answering [first, second]).session = some x₁
        ∧ (app.answering [other]).session = some x₂
        ∧ x₁.scratchpad.flags = [true, false]
        ∧ x₁.roster.scratchpad.solution.ShowsSame x₂.roster.scratchpad.solution := by
  let scenario := "Scenario.Name=\"A\"\n[Model]\nType=\"CatchmentModel\"\n" ++
    "DecisionVariables=[[\"C\",\"\",1]]\nLimits=[[\"C\",2]]\n" ++
    "PlanningUnits=[[1,[[\"B\",\x7bC=1\x7d]]],[2,[[\"B\",\x7bC=1\x7d]]]]\n"
  let m : Moment := ⟨"", ⟨1⟩⟩
  let patch := Request.patchScratchpad "[[\"Encoding\", \"7\"]]"
  let post : Request := ⟨"POST", "/api/v1/model/subcatchment/2", some "application/json",
    "[[\"B\", \"Inactive\"]]".toUTF8⟩
  let put := Request.putTable "SubCatchment,B\n1,1\n"
  let app := App.exploring scenario
  obtain ⟨hsome, hsuccess₁, hsuccess₂, hsuccess₃, hexceeded, hflags₁, hflags₂⟩ :
      (App.exploring scenario).session.isSome = true ∧ (handle m app patch).1.isSuccess = true
        ∧ (handle m (handle m app patch).2 post).1.isSuccess = true
        ∧ (handle m app put).1.isSuccess = true
        ∧ (app.answering [(m, patch)]).session.map (·.scratchpad.isFeasible) = some false
        ∧ (app.answering [(m, patch), (m, post)]).session.map (·.scratchpad.flags)
          = some [true, false]
        ∧ (app.answering [(m, put)]).session.map (·.scratchpad.flags) = some [true, false] := by
    decide +kernel
  obtain ⟨text, x₀, hload, hx₀⟩ := App.session_exploring scenario hsome
  have hpatch : EditsActions patch := by
    have hnames : (bodyAttributes patch).toOption.map (·.names) = some [Plan.encodingName] := by
      decide +kernel
    obtain ⟨a, ha, hnames⟩ := Option.map_eq_some_iff.mp hnames
    exact .token rfl (by decide +kernel) (Checks.toOption_eq_some_iff.mp ha) hnames
  have hpost : EditsActions post := @EditsActions.unit _ "2" rfl (by decide +kernel)
  have hcarries₁ : app.CarriesOut [(m, patch), (m, post)] :=
    ⟨hpatch, hsuccess₁, hpost, hsuccess₂, trivial⟩
  have hcarries₂ : app.CarriesOut [(m, put)] :=
    ⟨.table rfl (by decide +kernel), hsuccess₃, trivial⟩
  obtain ⟨_, _, -, -, hagree, -⟩ := edits_agree hload (.start hx₀)
  obtain ⟨x₁, x₂, hx₁, hx₂, hshows⟩ := hagree _ _ hcarries₁ hcarries₂
  rw [hx₁, Option.map_some, Option.some.injEq] at hflags₁
  rw [hx₂, Option.map_some, Option.some.injEq] at hflags₂
  exact ⟨app, _, _, _, x₁, x₂, hcarries₁, hcarries₂, hexceeded, hx₁, hx₂, hflags₁,
    hshows (hflags₁.trans hflags₂.symm)⟩

end Api

end CatchmentPlanning
