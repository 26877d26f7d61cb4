import CatchmentPlanning.Proofs.Api.Effects
import CatchmentPlanning.Proofs.Exploration.Solutions
import CatchmentPlanning.Proofs.Steps.Lockstep

/-!
# What has been built so far is not seen

Asking for a solution of the front changes the session: the solution is kept in the gallery.
Two sessions that differ in their galleries alone are nevertheless not told apart by any
request. All requests but one do not look at the gallery at all (`Respects`). The one that
does answers from it what it would answer without it, as long as what the gallery holds is
up to date (`agree_readSolution`).
-/

namespace CatchmentPlanning

namespace Exploration

open Steps

variable {ε : Type}

/-- **Explorations that differ in what has been built so far.** -/
def SameButGallery (x x' : Exploration) : Prop := ∃ gallery, x' = { x with gallery }

theorem SameButGallery.refl (x : Exploration) : x.SameButGallery x := ⟨x.gallery, rfl⟩

theorem SameButGallery.symm {x x' : Exploration} (h : x.SameButGallery x') :
    x'.SameButGallery x := by
  obtain ⟨g, rfl⟩ := h
  exact ⟨x.gallery, rfl⟩

theorem SameButGallery.trans {x₁ x₂ x₃ : Exploration} (h : x₁.SameButGallery x₂)
    (h' : x₂.SameButGallery x₃) : x₁.SameButGallery x₃ := by
  obtain ⟨g, rfl⟩ := h
  obtain ⟨g', rfl⟩ := h'
  exact ⟨g', rfl⟩

/-- A change that is made to the roster, whatever the gallery holds. -/
theorem respects_changing {f : Exploration → Except ε Exploration}
    (hf : ∀ x gallery, f { x with gallery } = (f x).map fun x' => { x' with gallery }) :
    Respects SameButGallery (Steps.change f) := by
  refine respects_change ?_
  rintro x _ ⟨gallery, rfl⟩
  have hsame := hf x gallery
  cases hx : f x with
  | ok x' => exact .inl ⟨x', _, rfl, by rw [hsame, hx]; rfl, gallery, rfl⟩
  | error e => exact .inr ⟨e, rfl, by rw [hsame, hx]; rfl⟩

theorem respects_refreshing (label : String) : Respects SameButGallery (refreshing label) := by
  refine respects_changing fun x gallery => ?_
  unfold refresh
  cases x.roster.refresh label x.front <;> rfl

theorem respects_changingScratchpad (f : Plan → Except ε Plan) :
    Respects SameButGallery (changingScratchpad f) := by
  refine respects_changing fun x gallery => ?_
  show (f x.scratchpad).map _ = _
  cases f x.scratchpad <;> rfl

theorem respects_replacingFront (text : String) :
    Respects SameButGallery (replacingFront text) := by
  refine .get_bind (fun x x' h => ?_) fun x => ?_
  · obtain ⟨_, rfl⟩ := h
    rfl
  refine (respects_check _).bind fun front => ?_
  refine (respects_modify ?_).bind fun _ => (respects_modify ?_).bind fun _ =>
    (respects_refreshing _).adapt _
  · rintro x _ ⟨_, rfl⟩
    exact ⟨Gallery.empty, rfl⟩
  · rintro x _ ⟨gallery, rfl⟩
    exact ⟨gallery, rfl⟩

theorem respects_instantiating (label token summary : String) :
    Respects SameButGallery (instantiating label token summary) := by
  have hput : Respects SameButGallery (Steps.change fun x : Exploration =>
      (x.roster.instantiate label token summary).map fun roster => { x with roster }) := by
    refine respects_changing fun x gallery => ?_
    show (x.roster.instantiate label token summary).map _ = _
    cases x.roster.instantiate label token summary <;> rfl
  refine hput.bind fun _ => (respects_refreshing label).bind fun _ => ?_
  refine .get_bind (fun x x' h => ?_) fun x => ?_
  · obtain ⟨_, rfl⟩ := h
    rfl
  · split
    · exact respects_pure _
    · exact respects_throw _

end Exploration

namespace Api

open Steps Exploration

/-- **Sessions that differ in what has been built so far.** -/
abbrev SameButGallery : Option Exploration → Option Exploration → Prop :=
  Option.Rel Exploration.SameButGallery

theorem SameButGallery.refl (session : Option Exploration) : SameButGallery session session := by
  cases session with
  | none => exact .none
  | some x => exact .some (.refl x)

theorem SameButGallery.symm {s s' : Option Exploration} (h : SameButGallery s s') :
    SameButGallery s' s := by
  cases h with
  | none => exact .none
  | some h => exact .some (Exploration.SameButGallery.symm h)

theorem SameButGallery.trans {s₁ s₂ s₃ : Option Exploration} (h : SameButGallery s₁ s₂)
    (h' : SameButGallery s₂ s₃) : SameButGallery s₁ s₃ := by
  cases h with
  | none => exact h'
  | some h =>
    cases h' with
    | some h' => exact .some (Exploration.SameButGallery.trans h h')

variable {α : Type}

theorem respects_onLoaded {work : EStateM Refusal Exploration α}
    (h : Respects Exploration.SameButGallery work) : Respects SameButGallery (onLoaded work) := by
  intro session session' hsame
  cases hsame with
  | none => exact .error .none
  | @some x x' hx =>
    have hagree := h x x' hx
    simp only [onLoaded]
    generalize work x = first at hagree ⊢
    generalize work x' = second at hagree ⊢
    cases hagree with
    | ok hR => exact .ok (.some hR)
    | error hR => exact .error (.some hR)

/-! ## Requests that do not look at the gallery -/

theorem respects_loadScenario (c : Circumstances) (r : Request) :
    Respects SameButGallery (loadScenario c r) := by
  refine (respects_check _).bind fun _ => (respects_check _).bind fun text => ?_
  split
  · rename_i x _
    have hset : Respects SameButGallery (set (some x) : Handling PUnit) :=
      fun _ _ _ => .ok (.refl _)
    exact hset.bind fun _ => respects_pure _
  · exact respects_throw _

theorem respects_refreshScratchpad : Respects Exploration.SameButGallery refreshScratchpad :=
  (respects_refreshing _).adapt _

theorem respects_takeEncoding (a : Attributes) :
    Respects Exploration.SameButGallery (takeEncoding a) := by
  unfold takeEncoding
  split
  · exact respects_pure _
  · exact (respects_changingScratchpad _).bind fun _ => respects_pure _
  · exact respects_throw _

theorem respects_describeScratchpad (c : Circumstances) (r : Request) :
    Respects SameButGallery (describeScratchpad c r) := by
  refine (respects_check _).bind fun _ => respects_onLoaded ?_
  refine (respects_check _).bind fun a => (respects_takeEncoding a).bind fun others => ?_
  refine (respects_changingScratchpad _).bind fun _ => ?_
  exact respects_refreshScratchpad.bind fun _ => respects_pure _

theorem respects_applyActionTable (c : Circumstances) (r : Request) :
    Respects SameButGallery (applyActionTable c r) := by
  refine (respects_check _).bind fun _ => (respects_check _).bind fun text => ?_
  refine respects_onLoaded (.get_bind (fun x x' h => ?_) fun x => ?_)
  · obtain ⟨_, rfl⟩ := h
    rfl
  refine (respects_check _).bind fun flags => (respects_changingScratchpad _).bind fun _ => ?_
  exact respects_refreshScratchpad.bind fun _ => respects_pure _

theorem respects_updateUnit (c : Circumstances) (id : String) (r : Request) :
    Respects SameButGallery (updateUnit c id r) := by
  refine (respects_check _).bind fun _ => respects_onLoaded (.get_bind (fun x x' h => ?_) fun x => ?_)
  · obtain ⟨_, rfl⟩ := h
    rfl
  refine (respects_check _).bind fun unit => (respects_check _).bind fun a => ?_
  split
  · refine (Respects.forM fun change _ => respects_changingScratchpad _).bind fun _ => ?_
    exact respects_refreshScratchpad.bind fun _ => respects_pure _
  · exact respects_throw _

theorem respects_addPlan (c : Circumstances) (label : String) (r : Request) :
    Respects SameButGallery (addPlan c label r) := by
  refine respects_onLoaded (.get_bind (fun x x' h => ?_) fun x => ?_)
  · obtain ⟨_, rfl⟩ := h
    rfl
  refine (respects_check _).bind fun _ => (respects_check _).bind fun _ => ?_
  refine (respects_check _).bind fun a => (respects_check _).bind fun described => ?_
  exact ((respects_instantiating _ _ _).adapt _).bind fun _ => respects_pure _

theorem respects_loadFront (c : Circumstances) (r : Request) :
    Respects SameButGallery (loadFront c r) := by
  refine (respects_check _).bind fun _ => (respects_check _).bind fun text => ?_
  refine respects_onLoaded (((respects_replacingFront text).adapt _).bind fun _ => ?_)
  refine .get_bind (fun x x' h => ?_) fun x => respects_pure _
  obtain ⟨_, rfl⟩ := h
  rfl

/-! ## The request that does -/

/-- **Showing a solution of the front** gives the same whatever has been built before, and
makes no difference but to what has been built. -/
theorem readSolution_eq {x : Exploration} {c : Catchment} (h : x.Current c) (cs : Circumstances)
    (label : String) :
    ∃ s gallery, x.freshSolution label = .ok s ∧
      readSolution cs label (some x) = match s with
        | some s => .ok (.view s.view cs.caching) (some { x with gallery })
        | none => .error ⟨.notFound, "no solution labelled [" ++ label ++ "]"⟩
            (some { x with gallery }) := by
  obtain ⟨s, gallery, hfresh, hsolution⟩ := h.solution_eq label
  refine ⟨s, gallery, hfresh, ?_⟩
  have hlook : (lookingUp label).adaptExcept Refusal.ofRoster x = .ok s { x with gallery } :=
    adaptExcept_eq (by rw [lookingUp, hsolution])
  cases s with
  | some s => exact onLoaded_eq ((run_bind_of_ok hlook).trans rfl)
  | none =>
    show onLoaded _ _ = _
    rw [onLoaded, run_bind_of_ok hlook]
    rfl

/-- The gallery of an exploration that is up to date is not seen by the one who asks for a
solution. -/
theorem agree_readSolution {x x' : Exploration} {c c' : Catchment} (h : x.Current c)
    (h' : x'.Current c') (hsame : x.SameButGallery x') (cs : Circumstances) (label : String) :
    Agree SameButGallery (readSolution cs label (some x)) (readSolution cs label (some x')) := by
  obtain ⟨s, gallery, hfresh, heq⟩ := readSolution_eq h cs label
  obtain ⟨s', gallery', hfresh', heq'⟩ := readSolution_eq h' cs label
  obtain ⟨g, rfl⟩ := hsame
  have hs : x.freshSolution label = .ok s' := (freshSolution_congr rfl rfl).symm.trans hfresh'
  rw [hfresh, Except.ok.injEq] at hs
  subst hs
  rw [heq, heq']
  cases s with
  | some s => exact .ok (.some ⟨gallery', rfl⟩)
  | none => exact .error (.some ⟨gallery', rfl⟩)

end Api

end CatchmentPlanning
