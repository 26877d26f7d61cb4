import CatchmentPlanning.Proofs.Attributes
import CatchmentPlanning.Proofs.Exploration.Solutions

/-!
# Plans that are put under labels

A plan that is put under a label is As-Is with the actions that a token names and a summary of its
own. What becomes of the attempt depends on the label first, and on the token only if the label is
free; an attempt that fails leaves the roster as it is (`instantiation_exact`).

The new entry is made of As-Is, the token and the summary alone, so nothing is left of a scratchpad
that stood there before (`Instantiated.fresh`), and no other entry is touched.
-/

namespace CatchmentPlanning

namespace Plan

/-- The attributes that a variant of As-Is has of its own. -/
def variantNames : List String := summaryName :: derivedNames

end Plan

namespace Roster

variable {r r' : Roster} {label token summary : String} {flags : List Bool}

/-! ## Variants of As-Is -/

/-- **A plan is As-Is with other actions and a summary of its own.** -/
structure IsVariant (asIs : Plan) (flags : List Bool) (token summary : String) (p : Plan) :
    Prop where
  catchment : p.catchment = asIs.catchment
  takes : p.flags = flags
  /-- The token of the actions, in upper case. -/
  encoded : p.token = token.toUpper
  /-- The token, and what is said of the limits, are about the actions taken. -/
  truthful : p.IsTruthful
  frontMember : p.attributes.get? Plan.frontMemberName = none
  summary : p.attributes.get? Plan.summaryName = some (.str summary)
  /-- The other attributes are those of As-Is. -/
  inherited : p.attributes.besides Plan.variantNames = asIs.attributes.besides Plan.variantNames

theorem isVariant_variantOf {asIs : Plan} (summary : String)
    (h : Token.decode asIs.catchment.actions.length token = .ok flags) :
    IsVariant asIs flags token summary (variantOf asIs flags summary) where
  catchment := rfl
  takes := Plan.flags_withFlags (Token.decode_eq_ok_iff.mp h).1
  encoded := Plan.token_withFlags h
  truthful := Plan.isTruthful_refresh _ _
  frontMember := Plan.get?_frontMember_refresh _ _
  summary := get?_summary_variantOf ..
  inherited := by
    have hderived : Plan.derivedNames ⊆ Plan.variantNames := List.subset_cons_self _ _
    rw [variantOf, Plan.besides_refresh _ _ hderived]
    exact Attributes.besides_set _ List.mem_cons_self _

/-- A variant says of itself what As-Is does, but for the attributes of its own. -/
theorem IsVariant.get?_eq {asIs p : Plan} {name : String} (h : IsVariant asIs flags token summary p)
    (hname : name ∉ Plan.variantNames) : p.attributes.get? name = asIs.attributes.get? name := by
  rw [← Attributes.valueOf?_besides _ hname, h.inherited, Attributes.valueOf?_besides _ hname]

/-! ## Entries under labels -/

/-- **A plan has been put under a label**, and nothing else has become of the roster. -/
structure Instantiated (r : Roster) (label token summary : String) (flags : List Bool)
    (r' : Roster) (e : Entry) : Prop where
  found : r'.find? label = some e
  label_eq : e.label = label
  origin : e.origin = .reserved ↔ label = scratchpadLabel
  plan : IsVariant r.asIs.plan flags token summary e.plan
  shown : e.solution = e.plan.solution label
  encoded : e.solution.token = token.toUpper
  /-- What is put there does not depend on what stood there. -/
  fresh : ∀ r₁ r₁' : Roster, r₁.asIs = r.asIs → r₁.instantiate label token summary = .ok r₁' →
    r₁'.find? label = some e
  others : ∀ other, other ≠ label → r'.find? other = r.find? other
  /-- The entry is new, or replaces the one that stood there. -/
  entries : ∃ kept, r.entries.Perm ((r.find? label).toList ++ kept) ∧ r'.entries.Perm (e :: kept)

theorem isFree_iff : r.IsFree label ↔ label = scratchpadLabel ∨ r.find? label = none := by
  rw [IsFree, contains, Option.isSome_eq_false_iff, Option.isNone_iff_eq_none]

theorem entries_put {e : Entry} (hfree : r.IsFree e.label) :
    ∃ kept, r.entries.Perm ((r.find? e.label).toList ++ kept)
      ∧ (r.put e).entries.Perm (e :: kept) := by
  by_cases hs : e.label = scratchpadLabel
  · rw [put_of_eq hs, hs, find?_scratchpad]
    exact ⟨r.asIs :: r.clients, .swap .., .swap ..⟩
  · rw [put_of_ne hs, (isFree_iff.mp hfree).resolve_left hs]
    have hnew : ([r.asIs, r.scratchpad] ++ e :: r.clients).Perm (e :: r.entries) :=
      List.perm_middle
    exact ⟨r.entries, .refl _, hnew⟩

theorem instantiate_of_decode_eq_ok (summary : String) (hfree : r.IsFree label)
    (h : Token.decode r.asIs.plan.catchment.actions.length token = .ok flags) :
    r.instantiate label token summary
      = .ok (r.put (newEntry label (variantOf r.asIs.plan flags summary))) := by
  rw [instantiate_of_isFree token summary hfree, variant_eq_ok label summary h]
  rfl

theorem instantiated_put (summary : String) (hfree : r.IsFree label)
    (h : Token.decode r.asIs.plan.catchment.actions.length token = .ok flags) :
    Instantiated r label token summary flags
      (r.put (newEntry label (variantOf r.asIs.plan flags summary)))
      (newEntry label (variantOf r.asIs.plan flags summary)) where
  found := find?_put (e := newEntry label _) hfree
  label_eq := rfl
  origin := by
    show (if label = scratchpadLabel then Origin.reserved else .client) = .reserved ↔ _
    split
    · exact iff_of_true rfl ‹_›
    · exact iff_of_false nofun ‹_›
  plan := isVariant_variantOf summary h
  shown := rfl
  encoded := Plan.token_withFlags h
  fresh := by
    intro r₁ r₁' hasIs hr₁
    obtain ⟨hfree₁, p, hp, rfl⟩ := instantiate_eq_ok_iff.mp hr₁
    rw [hasIs, variant_eq_ok label summary h, Except.ok.injEq] at hp
    subst hp
    exact find?_put (e := newEntry label _) hfree₁
  others := fun other hother => find?_put_of_ne hother.symm
  entries := entries_put (e := newEntry label _) hfree

/-- **Putting a plan under a label is exact.** As-Is cannot be put anew, and no other label but
that of the scratchpad can be used twice; whether the token names actions is only asked for a label
that can be used. If all is well, the plan is put there, and nothing else changes. -/
theorem instantiation_exact (r : Roster) (label token summary : String) :
    (label = asIsLabel →
      Steps.change (instantiate · label token summary) r = .error (.protectedLabel label) r)
    ∧ (label ≠ asIsLabel → label ≠ scratchpadLabel → (r.find? label).isSome →
        Steps.change (instantiate · label token summary) r = .error (.alreadyThere label) r)
    ∧ (label ≠ asIsLabel → (label = scratchpadLabel ∨ r.find? label = none) →
        (∀ fault, Token.decode r.asIs.plan.catchment.actions.length token = .error fault →
          Steps.change (instantiate · label token summary) r
            = .error (.invalidToken label token fault) r)
        ∧ ∀ flags, Token.decode r.asIs.plan.catchment.actions.length token = .ok flags →
          ∃ r' e, Steps.change (instantiate · label token summary) r = .ok () r'
            ∧ Instantiated r label token summary flags r' e) := by
  refine ⟨?_, fun has hs hthere => ?_, fun has hunused => ⟨fun fault hdecode => ?_, ?_⟩⟩
  · rintro rfl
    rw [Steps.change, instantiate_asIs]
  · rw [Steps.change, instantiate_of_contains token summary has hs hthere]
  · rw [Steps.change, instantiate_of_isFree token summary (isFree_iff.mpr hunused),
      variant_eq_error label summary hdecode]
    rfl
  · intro flags hdecode
    have hfree : r.IsFree label := isFree_iff.mpr hunused
    exact ⟨_, _, Steps.change_eq (instantiate_of_decode_eq_ok summary hfree hdecode),
      instantiated_put summary hfree hdecode⟩

/-- A token in lower case, put on a scratchpad that a client has described: what As-Is says of
itself is there, and what the client said is not. -/
theorem instantiation_exact_on_described_scratchpad :
    ∃ (r r' : Roster) (e : Entry),
      r.scratchpad.plan.attributes.get? "Note" = some (.str "mine")
        ∧ Steps.change (instantiate · scratchpadLabel "a" "again") r = .ok () r'
        ∧ r'.find? scratchpadLabel = some e ∧ e.plan.flags = [false, true, false]
        ∧ e.solution.token = "A" ∧ e.plan.attributes.get? "Note" = none
        ∧ e.plan.attributes.get? "Source" = some (.str "survey")
        ∧ r'.find? asIsLabel = r.find? asIsLabel := by
  let c : Catchment := ⟨"N", [7], [⟨7, "A", []⟩, ⟨7, "B", []⟩, ⟨7, "C", []⟩], [], []⟩
  let r : Roster := (Roster.initial ((Plan.idle c).describe "Source" (.str "survey"))).modify
    scratchpadLabel (·.edit (·.describe "Note" (.str "mine")))
  have hdecode : Token.decode r.asIs.plan.catchment.actions.length "a"
      = .ok [false, true, false] := Token.decode_eq_ok_iff.mpr ⟨rfl, by decide +kernel⟩
  obtain ⟨-, -, hunused⟩ := instantiation_exact r scratchpadLabel "a" "again"
  obtain ⟨r', e, hr', h⟩ := (hunused (by decide) (.inl rfl)).2 _ hdecode
  refine ⟨r, r', e, rfl, hr', h.found, h.plan.takes, ?_, ?_, ?_, h.others _ (by decide)⟩
  · rw [h.encoded]
    decide +kernel
  · rw [h.plan.get?_eq (by decide)]
    rfl
  · rw [h.plan.get?_eq (by decide)]
    rfl

end Roster

end CatchmentPlanning
