import CatchmentPlanning.Proofs.Exploration.Coherence
import CatchmentPlanning.Proofs.Front
import CatchmentPlanning.Proofs.Plan.Edits

/-!
# Solutions of the front are what they would be if built now

The solution for a row of the loaded front is built when it is first asked for, and
from then on it is taken from the gallery, which knows it by the label of the row
and by nothing else. By the time it is asked for again another front may have been
loaded, in which the label stands for other actions or for none.

What a solution is built from are As-Is and the front. As-Is is never changed
(`Move.asIs_eq`), and with the front goes the gallery. So what the gallery holds is
always what would be built now (`Exploration.Current`). Nor can building fail: a
front is taken over only if every row names actions of the catchment. Looking a
solution up therefore gives what building it afresh gives, and never a fault
(`Current.solution_eq`).
-/

namespace CatchmentPlanning

/-! ## What a solution says about its row -/

namespace Plan

variable {p q : Plan} {token : String}

/-- The plan that takes the actions of a token has the token, in upper case. -/
theorem token_withFlags {flags : List Bool}
    (h : Token.decode p.catchment.actions.length token = .ok flags) :
    (p.withFlags flags).token = token.toUpper := by
  obtain ⟨hlength, htoken⟩ := Token.decode_eq_ok_iff.mp h
  rw [Plan.token, flags_withFlags hlength, htoken]

end Plan

/-- A variant of As-Is has the summary that it was given. -/
theorem Roster.get?_summary_variantOf (asIs : Plan) (flags : List Bool) (summary : String) :
    (variantOf asIs flags summary).attributes.get? Plan.summaryName = some (.str summary) := by
  rw [variantOf, Plan.get?_refresh_of_ne _ _ (by decide)]
  exact (Attributes.get?_set ..).trans (if_pos rfl)

/-- **What a solution of the front says about its row.** -/
structure Solution.Presents (s : Solution) (row : Front.Row) : Prop where
  id : s.id = row.label
  /-- The token of the row, in upper case. -/
  token : s.token = row.token.toUpper
  summary : s.attributes.get? Plan.summaryName = some (.str row.summary)
  frontMember : s.attributes.get? Plan.frontMemberName = some (.bool true)

namespace Gallery

/-- **The solution for a row of an accepted front can be built**, and it presents
the row. -/
theorem exists_built {text : String} {asIs : Plan} {front : Front} {row : Front.Row}
    (hfront : Front.ingest text asIs = .ok front) (hrow : row ∈ front.rows) :
    ∃ s, built asIs row.label row.token row.summary front = .ok s ∧ s.Presents row := by
  obtain ⟨flags, hflags⟩ := Front.decode_of_mem_rows hfront hrow
  let p := Roster.variantOf asIs flags row.summary
  have htoken : p.token = row.token.toUpper := Plan.token_withFlags hflags
  have honFront : front.onFront p.token = true := by
    rw [htoken, (Token.decode_eq_ok_iff.mp hflags).2]
    exact Front.onFront_encode hrow hflags
  refine ⟨(p.refresh (some (front.onFront p.token))).solution row.label, ?_, rfl, htoken, ?_, ?_⟩
  · rw [built, Roster.variant_eq_ok row.label row.summary hflags]
  · show (p.refresh _).attributes.get? _ = _
    rw [Plan.get?_refresh_of_ne _ _ (by decide)]
    exact Roster.get?_summary_variantOf ..
  · show (p.refresh _).attributes.get? _ = _
    rw [Plan.get?_frontMember_refresh, honFront]
    rfl

end Gallery

namespace Exploration

variable {x x' : Exploration} {c : Catchment} {label : String}

/-! ## Building afresh -/

/-- The solution for the row of the loaded front with a label, if there is such a
row, **built afresh**: the gallery does not count. -/
def freshSolution (x : Exploration) (label : String) : Except Roster.Fault (Option Solution) :=
  match x.front with
  | none => .ok none
  | some front =>
    match front.row? label with
    | none => .ok none
    | some row => (Gallery.built x.asIs label row.token row.summary front).map some

/-- Building afresh depends on As-Is and the front alone. -/
theorem freshSolution_congr (hasIs : x'.asIs = x.asIs) (hfront : x'.front = x.front) :
    x'.freshSolution label = x.freshSolution label := by
  unfold freshSolution
  rw [hasIs, hfront]

theorem freshSolution_of_row {front : Front} {row : Front.Row} (hfront : x.front = some front)
    (hrow : front.row? label = some row) :
    x.freshSolution label
      = (Gallery.built x.asIs label row.token row.summary front).map some := by
  simp only [freshSolution, hfront, hrow]

/-- There is a solution exactly for the labels of rows. -/
theorem isSome_freshSolution {s : Option Solution} (h : x.freshSolution label = .ok s) :
    s.isSome ↔ ∃ front, x.front = some front ∧ front.contains label := by
  unfold freshSolution at h
  split at h
  · rename_i hfront
    cases h
    rw [hfront]
    exact iff_of_false nofun nofun
  · rename_i front hfront
    have hrow : s.isSome ↔ (front.row? label).isSome := by
      split at h
      · rename_i hnone
        cases h
        rw [hnone]
        exact iff_of_false nofun nofun
      · rename_i row hsome
        obtain ⟨_, -, rfl⟩ := Checks.map_eq_ok_iff.mp h
        rw [hsome, Option.isSome_some, Option.isSome_some]
    rw [hrow, hfront, ← Front.contains_eq_isSome_row?]
    exact ⟨fun hcontains => ⟨front, rfl, hcontains⟩, by rintro ⟨_, ⟨⟩, hcontains⟩; exact hcontains⟩

/-! ## What moves leave alone -/

theorem asIs_put (r : Roster) (e : Roster.Entry) : (r.put e).asIs = r.asIs := by
  unfold Roster.put
  split <;> rfl

/-- **No move changes As-Is.** -/
theorem Move.asIs_eq (hmove : x.Move x') : x'.roster.asIs = x.roster.asIs := by
  cases hmove with
  | enroll => exact asIs_put _ _
  | edit | replaceFront | build | stay => rfl

theorem Move.scenario_eq (hmove : x.Move x') : x'.scenario = x.scenario := by
  cases hmove <;> rfl

/-! ## The gallery is up to date -/

/-- **An exploration whose solutions are up to date** for a catchment. -/
structure Current (x : Exploration) (c : Catchment) : Prop where
  /-- The catchment is the one that the scenario describes. -/
  catchment : x.scenario.interpret = .ok c
  /-- As-Is is what it was when the scenario was loaded. -/
  asIs : x.roster.asIs = (Roster.initial (Plan.idle c)).asIs
  /-- The loaded front has been accepted for As-Is. -/
  front : ∀ front, x.front = some front → ∃ text, Front.ingest text x.asIs = .ok front
  /-- What has been built is what would be built now. -/
  gallery : ∀ label s, x.gallery.solution? label = some s → x.freshSolution label = .ok (some s)

/-- Nothing has been built when a scenario has just been loaded. -/
theorem current_load {text : String} (h : load text = .ok x) : ∃ c, x.Current c := by
  obtain ⟨scenario, -, h⟩ := Checks.bind_eq_ok_iff.mp h
  obtain ⟨c, hinterpret, h⟩ := Checks.bind_eq_ok_iff.mp h
  cases h
  exact ⟨c, hinterpret, rfl, nofun, nofun⟩

/-- As-Is takes no action in an exploration that has just been loaded. -/
theorem flags_asIs_of_load {text : String} (h : load text = .ok x) :
    ∀ flag ∈ x.asIs.flags, flag = false := by
  obtain ⟨scenario, -, h⟩ := Checks.bind_eq_ok_iff.mp h
  obtain ⟨c, -, h⟩ := Checks.bind_eq_ok_iff.mp h
  cases h
  have hlength : (List.replicate (Plan.idle c).flags.length false).length
      = (Plan.idle c).catchment.actions.length := by
    rw [List.length_replicate, (Plan.idle c).length_flags]
  have hflags : ((Plan.idle c).withFlags (List.replicate (Plan.idle c).flags.length false)).flags
      = List.replicate (Plan.idle c).flags.length false := Plan.flags_withFlags hlength
  intro flag hflag
  exact List.eq_of_mem_replicate (hflags ▸ hflag)

/-- **Every move leaves the solutions up to date.** -/
theorem Current.move (h : x.Current c) (hmove : x.Move x') : x'.Current c := by
  have hcatchment : x'.scenario.interpret = .ok c := hmove.scenario_eq ▸ h.catchment
  have hasIs : x'.asIs = x.asIs := congrArg (·.plan) hmove.asIs_eq
  refine ⟨hcatchment, hmove.asIs_eq.trans h.asIs, ?_, ?_⟩
  · rw [hasIs]
    cases hmove with
    | @replaceFront text front hingest =>
      rintro _ ⟨⟩
      exact ⟨text, hingest⟩
    | edit | enroll | build | stay => exact h.front
  · intro label s hs
    cases hmove with
    | replaceFront => cases hs
    | @build built front row _ gallery hfront hrow hgallery =>
      rw [Gallery.solution?_of_materialise hgallery] at hs
      split at hs
      · rename_i hlabel
        cases hs
        subst hlabel
        refine (freshSolution_congr hasIs rfl).trans ?_
        rw [freshSolution_of_row hfront hrow, (Gallery.materialise_eq_ok_iff.mp hgallery).1]
        rfl
      · exact (freshSolution_congr hasIs rfl).trans (h.gallery label s hs)
    | edit | enroll | stay =>
      exact (freshSolution_congr hasIs rfl).trans (h.gallery label s hs)

/-! ## Looking solutions up -/

/-- The solution for a row of the loaded front can be built, and presents the
row. -/
theorem Current.freshSolution_eq (h : x.Current c) {front : Front} {row : Front.Row}
    (hfront : x.front = some front) (hrow : front.row? label = some row) :
    ∃ s, x.freshSolution label = .ok (some s) ∧ s.Presents row := by
  obtain ⟨text, hingest⟩ := h.front front hfront
  obtain ⟨hmem, rfl⟩ := Front.of_row?_eq_some hrow
  obtain ⟨s, hbuilt, hpresents⟩ := Gallery.exists_built hingest hmem
  exact ⟨s, by rw [freshSolution_of_row hfront hrow, hbuilt]; rfl, hpresents⟩

/-- **Looking a solution up gives what building it afresh gives**, whether or not it
has been built before, and leaves everything but the gallery as it is. -/
theorem Current.solution_eq (h : x.Current c) (label : String) :
    ∃ s gallery, x.freshSolution label = .ok s
      ∧ x.solution label = .ok (s, { x with gallery }) := by
  cases hfront : x.front with
  | none =>
    have hfresh : x.freshSolution label = .ok none := by simp only [freshSolution, hfront]
    have hsolution : x.solution label = .ok (none, x) := by simp only [solution, hfront]
    exact ⟨none, x.gallery, hfresh, hfront ▸ hsolution⟩
  | some front =>
    cases hrow : front.row? label with
    | none =>
      have hfresh : x.freshSolution label = .ok none := by simp only [freshSolution, hfront, hrow]
      have hsolution : x.solution label = .ok (none, x) := by simp only [solution, hfront, hrow]
      exact ⟨none, x.gallery, hfresh, hfront ▸ hsolution⟩
    | some row =>
      obtain ⟨s, hfresh, -⟩ := h.freshSolution_eq hfront hrow
      cases hkept : x.gallery.solution? label with
      | some kept =>
        have hsolution : x.solution label = .ok (some kept, x) := by
          simp only [solution, hfront, hrow, hkept]
        exact ⟨some kept, x.gallery, h.gallery label kept hkept, hfront ▸ hsolution⟩
      | none =>
        obtain ⟨_, hbuilt, heq⟩ :=
          Checks.map_eq_ok_iff.mp ((freshSolution_of_row hfront hrow).symm.trans hfresh)
        cases heq
        obtain ⟨gallery, hgallery⟩ :
            ∃ gallery, x.gallery.materialise x.asIs label row.token row.summary front
              = .ok (s, gallery) :=
          ⟨_, Gallery.materialise_eq_ok_iff.mpr ⟨hbuilt, rfl⟩⟩
        have hsolution : x.solution label = .ok (some s, { x with gallery }) := by
          simp only [solution, hfront, hrow, hkept, hgallery]
        exact ⟨some s, gallery, hfresh, hfront ▸ hsolution⟩

end Exploration

end CatchmentPlanning
