import CatchmentPlanning.Api.Exploring
import CatchmentPlanning.Proofs.Exploration.Moves
import CatchmentPlanning.Proofs.Plan.Edits
import CatchmentPlanning.Proofs.UnitUpdate

/-!
# Requests on the session are all or nothing

A request that changes the session is carried out on it step by step, and a
refusal leaves the session as the steps before have left it. Here each of them is
shown to be all or nothing nevertheless: either it is refused and the session is
what it was, or it succeeds and makes one move of the exploration (`Moves`). Requests that
edit the scratchpad say which plan comes on it (`Describes`, `Redirects`). The
one that loads a scenario puts a new exploration in place of the session.

Checks of the body come before every change. What may still fail behind the first
change, and does not, is bringing an entry up to date, and taking the actions of
an update one after the other (`succeeds_setActions`): a change that passes the
checks of the update names an action of the planning unit, and the changes before
it have left the catchment alone.
-/

namespace CatchmentPlanning

namespace Api

open Steps Exploration

variable {α : Type}

/-! ## What requests have in common -/

/-- What comes of a request that is carried out: a success, and a move of the
exploration. -/
def Moves (session : Option Exploration) (response : Response)
    (session' : Option Exploration) : Prop :=
  response.isSuccess = true ∧ ∃ x x', session = some x ∧ session' = some x' ∧ x.Move x'

/-- Work succeeds on the session if it does so on the exploration. -/
theorem succeeds_onLoaded {work : EStateM Refusal Exploration α} {x : Exploration}
    {post : α → Option Exploration → Prop}
    (h : Succeeds work x fun a x' => post a (some x')) :
    Succeeds (onLoaded work) (some x) post := by
  obtain ⟨a, x', hrun, hpost⟩ := h
  exact ⟨a, some x', by simp only [onLoaded, hrun], hpost⟩

/-- Work on the exploration is all or nothing on the session if it is so on the
exploration. -/
theorem allOrNothing_onLoaded {work : EStateM Refusal Exploration α}
    {session : Option Exploration} {post : α → Option Exploration → Prop}
    (h : ∀ x, session = some x → AllOrNothing work x fun a x' => post a (some x')) :
    AllOrNothing (onLoaded work) session post := by
  cases session with
  | none => rfl
  | some x =>
    obtain hsucceeds | ⟨e, hrun⟩ := allOrNothing_iff.mp (h x rfl)
    · exact (succeeds_onLoaded hsucceeds).allOrNothing
    · refine allOrNothing_iff.mpr (.inr ⟨e, ?_⟩)
      simp only [onLoaded, hrun]

/-- The outcome of work on the exploration that does not fail. -/
theorem onLoaded_eq {work : EStateM Refusal Exploration α} {x x' : Exploration} {a : α}
    (h : work x = .ok a x') : onLoaded work (some x) = .ok a (some x') := by
  rw [onLoaded, h]

/-- The outcome of work on the exploration that fails. -/
theorem onLoaded_eq_error {work : EStateM Refusal Exploration α} {x x' : Exploration} {e : Refusal}
    (h : work x = .error e x') : onLoaded work (some x) = .error e (some x') := by
  rw [onLoaded, h]

theorem isSuccess_success (now message : String) :
    (Response.success now message).isSuccess = true :=
  rfl

theorem isSuccess_view (v : Json) (caching : Caching) :
    (Response.view v caching).isSuccess = true :=
  rfl

/-! ## The scenario -/

/-- **Loading a scenario is all or nothing.** -/
theorem allOrNothing_loadScenario (c : Circumstances) (r : Request)
    (session : Option Exploration) :
    AllOrNothing (loadScenario c r) session fun response session' =>
      response.isSuccess = true ∧
        ∃ text x, bodyText r = .ok text ∧ Exploration.load text = .ok x
          ∧ session' = some x := by
  refine allOrNothing_check_bind fun _ _ => ?_
  refine allOrNothing_check_bind fun text htext => ?_
  cases hload : Exploration.load text with
  | error e => rfl
  | ok x => exact ⟨isSuccess_success _ _, text, x, htext, hload, rfl⟩

/-! ## The scratchpad -/

theorem refreshScratchpad_eq (x : Exploration) (p : Plan) :
    refreshScratchpad (x.withScratchpad p) = .ok () (x.edited p) :=
  adaptExcept_eq (refreshing_eq x p)

/-- An encoding is taken as a whole or not at all. What is left to do makes the plan
the one that the attributes ask for. -/
theorem allOrNothing_takeEncoding (a : Attributes) (x : Exploration) :
    AllOrNothing (takeEncoding a) x fun others x' =>
      ∃ p, x' = x.withScratchpad p ∧ x.scratchpad.Redescribed a (p.describeAll others) := by
  unfold takeEncoding
  split
  · rename_i hnone
    exact ⟨x.scratchpad, rfl, .plain hnone⟩
  · rename_i token htoken
    have htake : AllOrNothing
        (changingScratchpad fun p => (p.decode token).mapError fun e =>
          Refusal.badRequest ("invalid " ++ Plan.encodingName ++ " [" ++ token ++ "]") e.message)
        x fun _ x' => ∃ flags, Token.decode x.scratchpad.catchment.actions.length token = .ok flags
          ∧ x' = x.withScratchpad (x.scratchpad.withFlags flags) := by
      refine allOrNothing_changingScratchpad fun p hp => ?_
      obtain ⟨flags, hflags, rfl⟩ := Checks.map_eq_ok_iff.mp (Checks.mapError_eq_ok_iff.mp hp)
      exact ⟨flags, hflags, rfl⟩
    refine htake.bind fun _ _ h => ?_
    obtain ⟨flags, hflags, rfl⟩ := h
    exact succeeds_pure ⟨_, rfl, .token htoken hflags⟩
  · exact allOrNothing_throw _

/-- An encoding that names actions of the scratchpad is taken. -/
theorem succeeds_takeEncoding {a : Attributes} {x : Exploration} {q : Plan}
    (h : x.scratchpad.Redescribed a q) :
    Succeeds (takeEncoding a) x fun others x' =>
      ∃ p, x' = x.withScratchpad p ∧ p.describeAll others = q := by
  unfold takeEncoding
  cases h with
  | plain hnone =>
    rw [hnone]
    exact succeeds_pure ⟨x.scratchpad, rfl, rfl⟩
  | @token token flags htoken hflags =>
    rw [htoken]
    refine succeeds_bind_of_eq (changingScratchpad_eq (p := x.scratchpad.withFlags flags) ?_) ?_
    · rw [Checks.mapError_eq_ok_iff, Plan.decode, hflags]
      rfl
    · exact succeeds_pure ⟨_, rfl, rfl⟩

/-- Once an encoding has been taken, nothing fails any more. -/
theorem describing_eq (others : Attributes) (x : Exploration) (p : Plan) (a : α) :
    (do
      Exploration.changingScratchpad fun p => .ok (p.describeAll others)
      refreshScratchpad
      return a : EStateM Refusal Exploration α) (x.withScratchpad p)
      = .ok a (x.edited (p.describeAll others)) := by
  have hdescribe : (changingScratchpad fun p => .ok (p.describeAll others) :
      EStateM Refusal Exploration Unit) (x.withScratchpad p)
      = .ok () (x.withScratchpad (p.describeAll others)) := changingScratchpad_eq rfl
  exact (run_bind_of_ok hdescribe).trans (run_bind_of_ok (refreshScratchpad_eq x _))

/-- What comes of posted attributes that describe the scratchpad: the plan that they ask
for comes on the scratchpad. -/
def Describes (r : Request) (session : Option Exploration) (response : Response)
    (session' : Option Exploration) : Prop :=
  response.isSuccess = true ∧ ∃ x a q, session = some x ∧ bodyAttributes r = .ok a
    ∧ x.scratchpad.Redescribed a q ∧ session' = some (x.edited q)

/-- It makes a move. -/
theorem Describes.moves {r : Request} {session session' : Option Exploration}
    {response : Response} (h : Describes r session response session') :
    Moves session response session' := by
  obtain ⟨hresponse, x, _, _, hx, -, hq, rfl⟩ := h
  exact ⟨hresponse, x, _, hx, rfl, .edit hq.catchment_eq⟩

/-- **Describing the scratchpad is all or nothing**: what can be wrong with an
encoding is found before any attribute is taken over. -/
theorem allOrNothing_describeScratchpad (c : Circumstances) (r : Request)
    (session : Option Exploration) :
    AllOrNothing (describeScratchpad c r) session (Describes r session) := by
  refine allOrNothing_check_bind fun _ _ => allOrNothing_onLoaded fun x hx => ?_
  refine allOrNothing_check_bind fun a ha => ?_
  refine (allOrNothing_takeEncoding a x).bind ?_
  rintro others _ ⟨p, rfl, hp⟩
  exact ⟨_, _, describing_eq others x p _, isSuccess_success _ _, x, a, _, hx, ha, hp, rfl⟩

/-- **Attributes that name actions of the scratchpad, or none, describe it.** -/
theorem succeeds_describeScratchpad {c : Circumstances} {r : Request} {a : Attributes}
    {x : Exploration} {q : Plan} (hmedia : requireMedia r .json = .ok ())
    (hbody : bodyAttributes r = .ok a) (h : x.scratchpad.Redescribed a q) :
    Succeeds (describeScratchpad c r) (some x) fun response session' =>
      response.status = 200 ∧ session' = some (x.edited q) := by
  refine succeeds_bind_of_eq (check_eq hmedia) (succeeds_onLoaded ?_)
  refine succeeds_bind_of_eq (check_eq hbody) ((succeeds_takeEncoding h).bind ?_)
  rintro others _ ⟨p, rfl, rfl⟩
  exact ⟨_, _, describing_eq others x p _, rfl, rfl⟩

/-- What comes of an edit of the actions that the scratchpad takes: it takes other ones,
and nothing else about its plan changes. -/
def Redirects (session : Option Exploration) (response : Response)
    (session' : Option Exploration) : Prop :=
  response.isSuccess = true ∧ ∃ x flags, session = some x
    ∧ session' = some (x.edited (x.scratchpad.withFlags flags))

/-- It makes a move. -/
theorem Redirects.moves {session session' : Option Exploration} {response : Response}
    (h : Redirects session response session') : Moves session response session' := by
  obtain ⟨hresponse, x, _, hx, rfl⟩ := h
  exact ⟨hresponse, x, _, hx, rfl, .edit rfl⟩

/-- **Applying a table of actions is all or nothing**: the whole table is read
before any flag is taken over. -/
theorem allOrNothing_applyActionTable (c : Circumstances) (r : Request)
    (session : Option Exploration) :
    AllOrNothing (applyActionTable c r) session (Redirects session) := by
  refine allOrNothing_check_bind fun _ _ => allOrNothing_check_bind fun text _ => ?_
  refine allOrNothing_onLoaded fun x hx => ?_
  refine allOrNothing_get_bind (allOrNothing_check_bind fun flags _ => ?_)
  refine Succeeds.allOrNothing (succeeds_bind_of_eq (changingScratchpad_eq rfl) ?_)
  refine succeeds_bind_of_eq (refreshScratchpad_eq x (x.scratchpad.withFlags flags)) ?_
  exact succeeds_pure ⟨isSuccess_success _ _, x, flags, hx, rfl⟩

/-! ## Updates of a planning unit -/

/-- A parameter names a planning unit of the catchment. -/
theorem hasUnit_of_namedUnit {c : Catchment} {id : String} {unit : Nat}
    (h : namedUnit c id = .ok unit) : c.hasUnit unit = true := by
  unfold namedUnit at h
  split at h
  · rename_i unit' hunit
    cases h
    exact (Option.filter_eq_some_iff.mp hunit).2
  · cases h

/-- An action of a unit can be taken. -/
theorem setAction_eq_ok {p : Plan} {unit : Nat} {kind : String}
    (hunit : p.catchment.hasUnit unit = true)
    (hkind : (p.catchment.actionsAt unit).any (·.kind == kind) = true) (active : Bool) :
    ∃ i, p.catchment.position? unit kind = some i
      ∧ p.setAction unit kind active = .ok (p.withFlags (p.flags.set i active)) := by
  obtain ⟨a, ha, hak⟩ := List.any_eq_true.mp hkind
  obtain ⟨ha, hau⟩ := List.mem_filter.mp ha
  have hposition : (p.catchment.position? unit kind).isSome := by
    rw [Catchment.position?, List.findIdx?_isSome, List.any_eq_true]
    exact ⟨a, ha, Bool.and_eq_true_iff.mpr ⟨hau, hak⟩⟩
  obtain ⟨i, hi⟩ := Option.isSome_iff_exists.mp hposition
  refine ⟨i, hi, ?_⟩
  unfold Plan.setAction
  rw [hunit, Bool.not_true, if_neg Bool.false_ne_true, hi, Plan.withFlags_set]

/-- **The actions of an update are taken without fail**, one after the other. -/
theorem setActions_eq {unit : Nat} (changes : List (String × Bool)) {x : Exploration}
    (hunit : x.scratchpad.catchment.hasUnit unit = true)
    (hkinds : ∀ change ∈ changes,
      (x.scratchpad.catchment.actionsAt unit).any (·.kind == change.1) = true) :
    setActions unit changes x
      = .ok () (x.withScratchpad (x.scratchpad.withFlags
          (ActionTable.applied x.scratchpad.flags
            (UnitUpdate.verdicts x.scratchpad.catchment unit changes)))) := by
  -- induction on the changes; no change makes another catchment of the plan
  induction changes generalizing x with
  | nil =>
    have hsame : x.scratchpad.withFlags (ActionTable.applied x.scratchpad.flags []) = x.scratchpad :=
      Plan.withFlags_flags _
    rw [UnitUpdate.verdicts, List.filterMap_nil, hsame]
    rfl
  | cons change changes ih =>
    obtain ⟨kind, active⟩ := change
    obtain ⟨i, hposition, hi⟩ := setAction_eq_ok hunit (hkinds _ List.mem_cons_self) active
    have hrest := ih (x := x.withScratchpad (x.scratchpad.withFlags (x.scratchpad.flags.set i active)))
      hunit fun change hchange => hkinds change (List.mem_cons_of_mem _ hchange)
    have hverdicts : UnitUpdate.verdicts x.scratchpad.catchment unit ((kind, active) :: changes)
        = (i, active) :: UnitUpdate.verdicts x.scratchpad.catchment unit changes :=
      List.filterMap_cons_some (Option.map_eq_some_iff.mpr ⟨i, hposition, rfl⟩)
    have hfirst : changingScratchpad (fun p => (p.setAction unit kind active).mapError fun e =>
          Refusal.badRequest "unable to set action" e.message) x
        = .ok () (x.withScratchpad (x.scratchpad.withFlags (x.scratchpad.flags.set i active))) :=
      changingScratchpad_eq (Checks.mapError_eq_ok_iff.mpr hi)
    refine (run_bind_of_ok hfirst).trans (hrest.trans ?_)
    have hflags : (x.scratchpad.withFlags (x.scratchpad.flags.set i active)).flags
        = x.scratchpad.flags.set i active :=
      Plan.flags_withFlags ((List.length_set ..).trans x.scratchpad.length_flags)
    rw [hverdicts, scratchpad_withScratchpad, hflags, Plan.withFlags_withFlags]
    · rfl
    · rw [ActionTable.length_applied, List.length_set, x.scratchpad.length_flags]

/-- **Updating a planning unit is all or nothing.** -/
theorem allOrNothing_updateUnit (c : Circumstances) (id : String) (r : Request)
    (session : Option Exploration) :
    AllOrNothing (updateUnit c id r) session (Redirects session) := by
  refine allOrNothing_check_bind fun _ _ => allOrNothing_onLoaded fun x hx => ?_
  refine allOrNothing_get_bind (allOrNothing_check_bind fun unit hunit => ?_)
  refine allOrNothing_check_bind fun a _ => ?_
  split
  · have hset := setActions_eq (UnitUpdate.changes x.scratchpad.catchment unit a.entries)
      (hasUnit_of_namedUnit hunit) fun _ h => UnitUpdate.applicable_of_mem_changes h
    refine Succeeds.allOrNothing (succeeds_bind_of_eq hset ?_)
    refine succeeds_bind_of_eq (refreshScratchpad_eq x _) ?_
    exact succeeds_pure ⟨isSuccess_success _ _, x, _, hx, rfl⟩
  · exact allOrNothing_throw _

/-- A planning unit of the catchment is found by its number. -/
theorem namedUnit_eq_ok {c : Catchment} {id : String} {unit : Nat}
    (hid : Text.unsigned? (2 ^ 32) id = some unit) (hunit : unit ∈ c.units) :
    namedUnit c id = .ok unit := by
  rw [namedUnit, hid, Option.filter_some,
    if_pos (show c.hasUnit unit = true from List.contains_iff_mem.mpr hunit)]

/-- **What an update of a planning unit does**, once its parameter and its body have been read. It
is refused with all its violations, or else all changes are taken over. -/
theorem updateUnit_eq {c : Circumstances} {id : String} {r : Request} {a : Attributes}
    {x : Exploration} {unit : Nat} (hmedia : requireMedia r .json = .ok ())
    (hunit : namedUnit x.scratchpad.catchment id = .ok unit) (hbody : bodyAttributes r = .ok a) :
    updateUnit c id r (some x)
      = match UnitUpdate.violations x.scratchpad.catchment unit a.entries with
        | [] => .ok (.success c.now ("subcatchment [" ++ toString unit ++ "] updated ("
            ++ toString (UnitUpdate.changes x.scratchpad.catchment unit a.entries).length
            ++ " action(s))"))
          (some (x.edited (x.scratchpad.withFlags (ActionTable.applied x.scratchpad.flags
            (UnitUpdate.verdicts x.scratchpad.catchment unit
              (UnitUpdate.changes x.scratchpad.catchment unit a.entries))))))
        | violations => .error ⟨.badRequest, (UnitUpdate.report unit violations).report⟩
          (some x) := by
  have hset := setActions_eq (UnitUpdate.changes x.scratchpad.catchment unit a.entries)
    (hasUnit_of_namedUnit hunit) fun _ h => UnitUpdate.applicable_of_mem_changes h
  refine (run_bind_of_ok (check_eq hmedia)).trans ?_
  cases hviolations : UnitUpdate.violations x.scratchpad.catchment unit a.entries with
  | nil =>
    refine onLoaded_eq ((run_bind_of_ok (check_eq hunit)).trans ?_)
    refine (run_bind_of_ok (check_eq hbody)).trans ?_
    rw [hviolations]
    exact (run_bind_of_ok hset).trans ((run_bind_of_ok (refreshScratchpad_eq x _)).trans rfl)
  | cons violation violations =>
    refine onLoaded_eq_error ((run_bind_of_ok (check_eq hunit)).trans ?_)
    refine (run_bind_of_ok (check_eq hbody)).trans ?_
    rw [hviolations]
    rfl

/-! ## Labelled plans and the front -/

/-- What comes of a plan that is put under a label: the label was free, the posted
attributes name a token and a summary, and a variant of As-Is stands there. -/
def Enrolls (label : String) (r : Request) (session : Option Exploration)
    (response : Response) (session' : Option Exploration) : Prop :=
  response.isSuccess = true ∧ ∃ x a token summary p, session = some x
    ∧ bodyAttributes r = .ok a ∧ tokenAndSummary a = .ok (token, summary)
    ∧ x.roster.IsFree label ∧ Roster.variant x.asIs label token summary = .ok p
    ∧ session' = some (x.enrolled label p)

/-- **Putting a plan under a label is all or nothing.** -/
theorem allOrNothing_addPlan (c : Circumstances) (label : String) (r : Request)
    (session : Option Exploration) :
    AllOrNothing (addPlan c label r) session (Enrolls label r session) := by
  refine allOrNothing_onLoaded fun x hx => allOrNothing_get_bind ?_
  refine allOrNothing_check_bind fun _ _ => allOrNothing_check_bind fun _ _ => ?_
  refine allOrNothing_check_bind fun a ha => allOrNothing_check_bind fun described hdescribed => ?_
  refine ((allOrNothing_instantiating label described.1 described.2 x).adapt _).bind ?_
  rintro s _ ⟨hfree, p, hp, rfl, -⟩
  exact succeeds_pure ⟨isSuccess_success _ _, x, a, _, _, p, hx, ha, hdescribed, hfree, hp, rfl⟩

/-- It makes a move. -/
theorem Enrolls.moves {label : String} {r : Request} {session session' : Option Exploration}
    {response : Response} (h : Enrolls label r session response session') :
    Moves session response session' := by
  obtain ⟨hresponse, x, _, _, _, _, hx, -, -, hfree, hp, rfl⟩ := h
  exact ⟨hresponse, x, _, hx, rfl, .enroll hfree hp⟩

/-- What comes of a sheet that is loaded as a front: the sheet is accepted, and takes the place
of the front before. -/
def ReplacesFront (session : Option Exploration) (response : Response)
    (session' : Option Exploration) : Prop :=
  response.isSuccess = true ∧ ∃ x text front, session = some x
    ∧ Front.ingest text x.asIs = .ok front ∧ session' = some (x.withFront front)

/-- It makes a move. -/
theorem ReplacesFront.moves {session session' : Option Exploration} {response : Response}
    (h : ReplacesFront session response session') : Moves session response session' := by
  obtain ⟨hresponse, x, _, _, hx, hfront, rfl⟩ := h
  exact ⟨hresponse, x, _, hx, rfl, .replaceFront hfront⟩

/-- **Loading a front is all or nothing.** -/
theorem allOrNothing_loadFront (c : Circumstances) (r : Request)
    (session : Option Exploration) :
    AllOrNothing (loadFront c r) session (ReplacesFront session) := by
  refine allOrNothing_check_bind fun _ _ => allOrNothing_check_bind fun text _ => ?_
  refine allOrNothing_onLoaded fun x hx => ?_
  refine ((allOrNothing_replacingFront text x).adapt _).bind ?_
  rintro _ _ ⟨front, hfront, rfl⟩
  refine succeeds_get_bind (succeeds_pure ?_)
  exact ⟨isSuccess_success _ _, x, text, front, hx, hfront, rfl⟩

/-- What comes of a solution of the front that is shown: it may have been built and kept. -/
def BuildsSolution (session : Option Exploration) (response : Response)
    (session' : Option Exploration) : Prop :=
  response.isSuccess = true ∧ ∃ x gallery, session = some x ∧ session' = some { x with gallery }
    ∧ x.Move { x with gallery }

/-- It makes a move. -/
theorem BuildsSolution.moves {session session' : Option Exploration} {response : Response}
    (h : BuildsSolution session response session') : Moves session response session' := by
  obtain ⟨hresponse, x, _, hx, rfl, hmove⟩ := h
  exact ⟨hresponse, x, _, hx, rfl, hmove⟩

/-- **Showing a solution of the front is all or nothing**, although the solution
is kept if it had to be built: where there is none to show, none is built. -/
theorem allOrNothing_readSolution (c : Circumstances) (label : String)
    (session : Option Exploration) :
    AllOrNothing (readSolution c label) session (BuildsSolution session) := by
  refine allOrNothing_onLoaded fun x hx => ?_
  refine .seq (((allOrNothing_lookingUp label x).adapt _).mono ?_)
  intro s x' hs
  obtain ⟨hmove, ⟨gallery, rfl⟩, hnone⟩ := move_of_solution_eq_ok hs
  cases s with
  | none => exact .inl ⟨hnone rfl, allOrNothing_throw _⟩
  | some s => exact .inr (succeeds_pure ⟨isSuccess_view _ _, x, gallery, hx, rfl, hmove⟩)

end Api

end CatchmentPlanning
