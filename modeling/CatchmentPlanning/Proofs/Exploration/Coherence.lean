import CatchmentPlanning.Proofs.Exploration.Moves
import CatchmentPlanning.Proofs.Keyed
import CatchmentPlanning.Proofs.Plan.Refreshing

/-!
# Explorations are coherent

Much of what an exploration holds says something about other things it holds: a
solution shows a plan, attributes of a plan name its token and report on its
limits, and the scratchpad says whether it lies on the loaded front. None of this
follows by itself when a plan or the front is changed, and clients may describe
plans under the very names of the derived attributes.

An exploration is **coherent** for a catchment (`Exploration.Coherent`) if all of
this tells the truth. A scenario is loaded as a coherent exploration
(`coherent_load`), and every move leaves a coherent one (`Coherent.move`).
-/

namespace CatchmentPlanning

/-! ## Entries -/

namespace Roster

/-- **An entry is coherent for a catchment**: its plan is one for the catchment and
tells the truth about itself, and its solution shows the plan as it is. -/
structure Entry.IsCoherent (c : Catchment) (e : Entry) : Prop where
  catchment : e.plan.catchment = c
  truthful : e.plan.IsTruthful
  solution : e.solution = e.plan.solution e.label

/-- Bringing an entry up to date makes it coherent, whatever it was before. -/
theorem Entry.isCoherent_refresh {c : Catchment} {e : Entry} (h : e.plan.catchment = c)
    (front : Option Front) : (e.refresh front).IsCoherent c where
  catchment := h
  truthful := Plan.isTruthful_refresh _ _
  solution := rfl

/-- An entry that has been brought up to date says whether its plan lies on the
front. -/
theorem Entry.get?_frontMember_refresh (e : Entry) (front : Option Front) :
    (e.refresh front).plan.attributes.get? Plan.frontMemberName
      = front.map fun f => .bool (f.onFront (e.refresh front).plan.token) := by
  have h : (e.refresh front).plan.attributes.get? Plan.frontMemberName
      = (front.map fun f => f.onFront e.plan.token).map .bool :=
    Plan.get?_frontMember_refresh _ _
  rw [h, Option.map_map]
  rfl

/-- A variant is a plan for the same catchment. -/
theorem catchment_of_variant {asIs p : Plan} {label token summary : String}
    (h : variant asIs label token summary = .ok p) : p.catchment = asIs.catchment := by
  obtain ⟨flags, -, rfl⟩ := variant_eq_ok_iff.mp h
  rfl

end Roster

/-! ## Explorations -/

namespace Exploration

/-- **An exploration is coherent for a catchment.** -/
structure Coherent (x : Exploration) (c : Catchment) : Prop where
  /-- The scenario is what the text says. -/
  scenario : Scenario.read x.text = .ok x.scenario
  /-- The catchment is the one that the scenario describes. -/
  catchment : x.scenario.interpret = .ok c
  /-- As-Is is on the roster under its label. -/
  label_asIs : x.roster.asIs.label = asIsLabel
  /-- So is the scratchpad. -/
  label_scratchpad : x.roster.scratchpad.label = scratchpadLabel
  /-- No label stands for two entries. -/
  nodup_labels : (x.roster.entries.map (·.label)).Nodup
  /-- Every entry is coherent. -/
  entries : ∀ e ∈ x.roster.entries, e.IsCoherent c
  /-- The scratchpad says whether it lies on the front, if there is one. -/
  frontMember : x.scratchpad.attributes.get? Plan.frontMemberName
    = x.front.map fun f => .bool (f.onFront x.scratchpad.token)

variable {x x' : Exploration} {c : Catchment}

/-- With the reserved plans under their labels a roster is searched as the list of
its entries. -/
theorem find?_roster (hasIs : x.roster.asIs.label = asIsLabel)
    (hscratchpad : x.roster.scratchpad.label = scratchpadLabel) (label : String) :
    x.roster.find? label = x.roster.entries.find? fun e => e.label = label := by
  unfold Roster.find? Roster.entries
  rw [List.find?_cons, List.find?_cons, hasIs, hscratchpad]
  by_cases ha : label = asIsLabel
  · rw [if_pos ha, decide_eq_true ha.symm]
  · rw [if_neg ha, decide_eq_false (Ne.symm ha)]
    by_cases hs : label = scratchpadLabel
    · rw [if_pos hs, decide_eq_true hs.symm]
    · rw [if_neg hs, decide_eq_false (Ne.symm hs)]

/-- The roster of a coherent exploration is a map: what is found under a label is
the one entry with that label. -/
theorem Coherent.find?_eq_some_iff (h : x.Coherent c) {label : String} {e : Roster.Entry} :
    x.roster.find? label = some e ↔ e ∈ x.roster.entries ∧ e.label = label := by
  rw [find?_roster h.label_asIs h.label_scratchpad, Keyed.find?_eq_some_iff h.nodup_labels]

/-- **A scenario is loaded as a coherent exploration.** -/
theorem coherent_load {text : String} (h : load text = .ok x) :
    x.text = text ∧ ∃ c, x.Coherent c := by
  obtain ⟨scenario, hread, h⟩ := Checks.bind_eq_ok_iff.mp h
  obtain ⟨c, hinterpret, h⟩ := Checks.bind_eq_ok_iff.mp h
  cases h
  have hlabels : [asIsLabel, scratchpadLabel].Nodup := by decide
  refine ⟨rfl, c, hread, hinterpret, rfl, rfl, hlabels, ?_, ?_⟩
  · intro e he
    rw [Roster.entries, List.mem_cons, List.mem_cons] at he
    obtain rfl | rfl | he := he
    · exact ⟨rfl, Plan.isTruthful_refresh _ _, rfl⟩
    · exact ⟨rfl, Plan.isTruthful_refresh _ _, rfl⟩
    · cases he
  · exact Plan.get?_frontMember_refresh _ _

/-- An exploration stays coherent with another entry for the scratchpad that is
brought up to date with its front. -/
theorem Coherent.of_scratchpad (h : x.Coherent c) {e : Roster.Entry}
    (hlabel : e.label = scratchpadLabel) (he : e.plan.catchment = c)
    (htext : x'.text = x.text) (hscenario : x'.scenario = x.scenario)
    (hroster : x'.roster = { x.roster with scratchpad := e.refresh x'.front }) :
    x'.Coherent c where
  scenario := by rw [htext, hscenario, h.scenario]
  catchment := by rw [hscenario, h.catchment]
  label_asIs := by rw [hroster, h.label_asIs]
  label_scratchpad := by
    rw [hroster]
    exact hlabel
  nodup_labels := by
    have hlabels : x'.roster.entries.map (·.label) = x.roster.entries.map (·.label) := by
      rw [hroster, Roster.entries, Roster.entries, List.map_cons, List.map_cons, List.map_cons,
        List.map_cons, h.label_scratchpad]
      show _ :: e.label :: _ = _
      rw [hlabel]
    rw [hlabels]
    exact h.nodup_labels
  entries := by
    intro e' he'
    rw [hroster, Roster.entries, List.mem_cons, List.mem_cons] at he'
    obtain rfl | rfl | he' := he'
    · exact h.entries _ List.mem_cons_self
    · exact Roster.Entry.isCoherent_refresh he _
    · exact h.entries _ (List.mem_cons_of_mem _ (List.mem_cons_of_mem _ he'))
  frontMember := by
    rw [scratchpad, hroster]
    exact e.get?_frontMember_refresh x'.front

/-- A free label other than that of the scratchpad is the label of no entry. -/
theorem Coherent.notMem_labels (h : x.Coherent c) {label : String}
    (hfree : x.roster.IsFree label) (hs : label ≠ scratchpadLabel) :
    label ∉ x.roster.entries.map (·.label) := by
  intro hmem
  obtain ⟨e, he, heq⟩ := List.mem_map.mp hmem
  rw [Roster.entries, List.mem_cons, List.mem_cons] at he
  obtain rfl | rfl | he := he
  · exact hfree.ne_asIs (heq.symm.trans h.label_asIs)
  · exact hs (heq.symm.trans h.label_scratchpad)
  · exact hfree.ne_of_mem_clients hs e he heq

/-- An exploration stays coherent with a client's plan put under a label that was
not on the roster. -/
theorem Coherent.enroll_client (h : x.Coherent c) {label : String} {p : Plan}
    (hfree : x.roster.IsFree label) (hs : label ≠ scratchpadLabel) (hp : p.catchment = c) :
    (x.enrolled label p).Coherent c := by
  have hroster : (x.enrolled label p).roster
      = { x.roster with
          clients := (Roster.newEntry label p).refresh x.front :: x.roster.clients } :=
    Roster.put_of_ne hs
  refine ⟨h.scenario, h.catchment, ?_, ?_, ?_, ?_, ?_⟩
  · rw [hroster, h.label_asIs]
  · rw [hroster, h.label_scratchpad]
  · have hperm : ((x.enrolled label p).roster.entries.map (·.label)).Perm
        (label :: x.roster.entries.map (·.label)) := by
      rw [hroster]
      exact (List.Perm.swap _ _ _).cons _ |>.trans (.swap _ _ _)
    rw [hperm.nodup_iff, List.nodup_cons]
    exact ⟨h.notMem_labels hfree hs, h.nodup_labels⟩
  · intro e he
    rw [hroster, Roster.entries, List.mem_cons, List.mem_cons, List.mem_cons] at he
    obtain rfl | rfl | rfl | he := he
    · exact h.entries _ List.mem_cons_self
    · exact h.entries _ (List.mem_cons_of_mem _ List.mem_cons_self)
    · exact Roster.Entry.isCoherent_refresh hp _
    · exact h.entries _ (List.mem_cons_of_mem _ (List.mem_cons_of_mem _ he))
  · rw [scratchpad, hroster]
    exact h.frontMember

theorem Coherent.catchment_scratchpad (h : x.Coherent c) : x.scratchpad.catchment = c :=
  (h.entries _ (List.mem_cons_of_mem _ List.mem_cons_self)).catchment

theorem Coherent.catchment_asIs (h : x.Coherent c) : x.asIs.catchment = c :=
  (h.entries _ List.mem_cons_self).catchment

/-- **Every move leaves a coherent exploration coherent**, for the same catchment. -/
theorem Coherent.move (h : x.Coherent c) (hmove : x.Move x') : x'.Coherent c := by
  cases hmove with
  | @edit p hp =>
    exact h.of_scratchpad (e := x.roster.scratchpad.edit fun _ => p) h.label_scratchpad
      (hp.trans h.catchment_scratchpad) rfl rfl rfl
  | @enroll label _ _ p hfree hp =>
    have hc : p.catchment = c := (Roster.catchment_of_variant hp).trans h.catchment_asIs
    by_cases hs : label = scratchpadLabel
    · exact h.of_scratchpad hs hc rfl rfl (Roster.put_of_eq hs)
    · exact h.enroll_client hfree hs hc
  | replaceFront _ => exact h.of_scratchpad h.label_scratchpad h.catchment_scratchpad rfl rfl rfl
  | build _ _ _ =>
    exact ⟨h.scenario, h.catchment, h.label_asIs, h.label_scratchpad, h.nodup_labels, h.entries,
      h.frontMember⟩
  | stay => exact h

theorem Move.text_eq (hmove : x.Move x') : x'.text = x.text := by
  cases hmove <;> rfl

end Exploration

end CatchmentPlanning
