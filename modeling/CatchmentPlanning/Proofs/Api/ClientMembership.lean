import CatchmentPlanning.Proofs.Api.Instantiation
import CatchmentPlanning.Proofs.Front.Membership

/-!
# Whether a client's plan lies on the front

Each plan on the roster is shown with an attribute that says whether it lies on the
loaded front. When a front is loaded, the scratchpad is brought up to date with it. The
plans that clients have put under labels are not: no move but the one that puts it there
touches such an entry (`Move.find?_eq_some`).

So the attribute of a client's plan is about the front that was loaded when the plan was
put under its label, whatever has been loaded since (`membership_of_enrollment`). A plan
that was there before the first front goes on saying nothing, even if the front has a
row that takes its actions (`membership_not_followed`).
-/

namespace CatchmentPlanning

/-- **The entry says whether its plan lies on a front**: nothing if there is none, and
otherwise whether some row takes the actions of the plan. -/
def Roster.Entry.TellsOf (e : Roster.Entry) (front : Option Front) : Prop :=
  match front with
  | none => e.solution.attributes.get? Plan.frontMemberName = none
  | some f => ∃ onFront, e.solution.attributes.get? Plan.frontMemberName = some (.bool onFront)
      ∧ (onFront = true ↔ ∃ row ∈ f.rows, row.Takes e.plan)

/-- An entry that has been brought up to date with a front tells of it. -/
theorem Roster.Entry.tellsOf_refresh (e : Entry) (front : Option Front) :
    (e.refresh front).TellsOf front := by
  have hshown : (e.refresh front).solution.attributes.get? Plan.frontMemberName
      = front.map fun f => .bool (f.onFront (e.refresh front).plan.token) :=
    e.get?_frontMember_refresh front
  cases front with
  | none => exact hshown
  | some f => exact ⟨_, hshown, Front.onFront_token_iff⟩

namespace Exploration

variable {x x' : Exploration} {label : String} {e : Roster.Entry}

/-- **No move changes an entry other than that of the scratchpad.** -/
theorem Move.find?_eq_some (hmove : x.Move x') (hlabel : label ≠ scratchpadLabel)
    (h : x.roster.find? label = some e) : x'.roster.find? label = some e := by
  cases hmove with
  | edit | replaceFront => exact (Roster.find?_with_scratchpad hlabel).trans h
  | build | stay => exact h
  | @enroll newLabel _ _ p hfree _ =>
    -- the new label is that of the scratchpad, or was free and is not this one
    have hne : newLabel ≠ label := by
      rintro rfl
      have hnone := hfree.resolve_left hlabel
      rw [Roster.contains, h] at hnone
      cases hnone
    exact (Roster.find?_put_of_ne hne).trans h

end Exploration

namespace Api

variable {m : Moment} {r : Request} {app : App} {label token summary : String}

/-- **A client's plan tells of the front that was loaded when it was put under its
label.** As long as no other scenario is loaded, the entry stays what it was then, and
with it what is shown of it, whichever fronts are loaded. -/
theorem membership_of_enrollment {x : Exploration} (hsession : app.session = some x)
    (hpost : PostsPlan r label token summary) (hlabel : label ≠ scratchpadLabel)
    (hsuccess : (handle m app r).1.isSuccess = true) :
    ∃ y e, (handle m app r).2.session = some y ∧ e.TellsOf x.front
      ∧ ∀ later : App, later.Since y →
        ∃ z, later.session = some z ∧ z.roster.find? label = some e := by
  obtain ⟨-, x', -, -, -, p, hx', -, -, hfree, -, hy⟩ := hpost.enrolls hsuccess
  rw [hsession] at hx'
  cases hx'
  refine ⟨_, (Roster.newEntry label p).refresh x.front, hy, Roster.Entry.tellsOf_refresh _ _, ?_⟩
  intro later hsince
  exact hsince.exists_session (Exploration.find?_enrolled hfree p) fun h hmove =>
    hmove.find?_eq_some hlabel h

/-- A plan that has been put under a label before there is a front says nothing about
the front that is loaded then. -/
theorem membership_of_enrollment_before_front :
    ∃ (app : App) (x : Exploration) (e : Roster.Entry), app.session = some x
      ∧ x.front.isSome = true ∧ x.roster.find? "Mine" = some e ∧ e.TellsOf none := by
  let scenario := "[Scenario]\nName = \"A\"\n[Model]\nType = \"CatchmentModel\"\n"
  let app := App.exploring scenario
  let plan := Request.postPlan "Mine" "[[\"Encoding\", \"1\"]]"
  let later := (handle ⟨"", ⟨1⟩⟩ app plan).2.sent
    [.postFront "Solution,Actions,Summary\nAs-Is,1,x\n"]
  obtain ⟨-, x, -, hx⟩ := App.session_exploring scenario (by decide +kernel)
  have hplan : PostsPlan plan "Mine" "1" "" :=
    postsPlan_postPlan (by decide +kernel) (by decide +kernel) (by decide +kernel)
  obtain ⟨hnone, henrolled, hsome⟩ :
      (app.session.bind (·.front)).isSome = false
        ∧ (handle ⟨"", ⟨1⟩⟩ app plan).1.isSuccess = true
        ∧ (later.session.bind (·.front)).isSome = true := by
    decide +kernel
  obtain ⟨y, e, hy, htells, hstays⟩ :=
    membership_of_enrollment hx hplan (by decide) henrolled
  have hsince : later.Since y := .sent (.start hy) (by decide +kernel)
  obtain ⟨z, hz, hfind⟩ := hstays later hsince
  rw [hx, Option.bind_some, Option.isSome_eq_false_iff, Option.isNone_iff_eq_none] at hnone
  rw [hz, Option.bind_some] at hsome
  exact ⟨later, z, e, hz, hsome, hfind, hnone ▸ htells⟩

/-- **A client's plan does not follow the front.** It is not so that as long as no other
scenario is loaded every client's plan tells of the loaded front: what is put under a
label before the first front is loaded says nothing then, although a row takes its
actions. -/
theorem membership_not_followed :
    ¬ ∀ (text : String) (x₀ x : Exploration) (app : App), Exploration.load text = .ok x₀ →
      app.Since x₀ → app.session = some x → ∀ e ∈ x.roster.clients, e.TellsOf x.front := by
  intro hfollowed
  let scenario := "[Scenario]\nName = \"A\"\n[Model]\nType = \"CatchmentModel\"\n"
  let later := (App.exploring scenario).sent
    [.postPlan "Mine" "[[\"Encoding\", \"1\"]]",
      .postFront "Solution,Actions,Summary\nAs-Is,1,x\n"]
  obtain ⟨text, x₀, hload, hx₀⟩ :=
    App.session_exploring scenario (by decide +kernel)
  have hsince : later.Since x₀ := .sent (.start hx₀) (by decide +kernel)
  have hshown : later.session.map (fun x => (x.front.isSome, x.roster.clients.map fun e =>
      (e.solution.attributes.get? Plan.frontMemberName).isSome)) = some (true, [false]) := by
    decide +kernel
  obtain ⟨x, hx, hshown⟩ := Option.map_eq_some_iff.mp hshown
  obtain ⟨hfront, hclients⟩ := Prod.mk.injEq _ _ _ _ ▸ hshown
  obtain ⟨f, hf⟩ := Option.isSome_iff_exists.mp hfront
  obtain ⟨e, he, hnone⟩ := List.mem_map.mp (hclients ▸ List.mem_singleton_self false)
  obtain ⟨onFront, htold, -⟩ :=
    show e.TellsOf (some f) from hf ▸ hfollowed text x₀ x later hload hsince hx e he
  rw [htold] at hnone
  cases hnone

end Api

end CatchmentPlanning
