import CatchmentPlanning.Proofs.ActionTable.Full
import CatchmentPlanning.Proofs.Api.SinceLoading
import CatchmentPlanning.Proofs.Exploration.Solutions

/-!
# Setting the scratchpad by a full table

Whatever state a scratchpad should be in, there is a table that says so for every action
(`ActionTable.full`). In whatever way it is written as a sheet, and whatever has happened
since the scenario was loaded, the sheet is accepted, and the scratchpad is in that state
afterwards, provided that there are no blanks around the kinds of action
(`full_table_sets_flags`).

An action of a kind with blanks around it cannot be set in this way
(`full_table_misses_padded_kind`): the header of the table is trimmed, so the column
speaks of a kind that the scenario does not have, and counts for nothing. Neither can be
what takes more than the two mebibytes that the body of a request may have.
-/

namespace CatchmentPlanning

namespace Api

open Steps Exploration

/-! ## Tables that are applied -/

/-- **A sheet that is an action table is applied to the scratchpad.** -/
theorem applyActionTable_eq {c : Circumstances} {r : Request} {text : String} {x : Exploration}
    {flags : List Bool} (hmedia : r.isOf .csv = true) (hbody : bodyText r = .ok text)
    (hflags : ActionTable.flags text x.scratchpad = .ok flags) :
    applyActionTable c r (some x)
      = .ok (.success c.now
          ("active management actions updated (" ++ toString (flags.countP id) ++ " active)"))
        (some (x.edited (x.scratchpad.withFlags flags))) := by
  have htabled : tabledFlags text x.scratchpad = .ok flags :=
    Checks.mapError_eq_ok_iff.mpr hflags
  rw [applyActionTable, run_bind_of_ok (check_eq (requireMedia_eq_ok_iff.mpr hmedia)),
    run_bind_of_ok (check_eq hbody)]
  refine onLoaded_eq ?_
  have hchange : (changingScratchpad fun p => .ok (p.withFlags flags) : EStateM Refusal _ Unit) x
      = .ok () (x.withScratchpad (x.scratchpad.withFlags flags)) := changingScratchpad_eq rfl
  refine (run_bind_of_ok (check_eq htabled)).trans ?_
  refine (run_bind_of_ok hchange).trans ?_
  exact run_bind_of_ok (refreshScratchpad_eq x _)

/-- **The request puts a table to the scratchpad**: its body is the table, written as a
sheet in any way, and is not too long. -/
structure PutsTable (r : Request) (table : List (List String)) : Prop where
  method : r.method = "PUT"
  path : Endpoint.ofPath? r.path = some .activeActions
  media : r.isOf .csv = true
  size : r.body.size ≤ bodyLimit
  body : ∃ text, bodyText r = .ok text ∧ Sheet.Written table text.toList

/-- A client who writes a table as a sheet puts the table. -/
theorem putsTable_putTable {table : List (List String)} {sheet : String}
    (hsize : sheet.toUTF8.size ≤ bodyLimit) (hbody : String.fromUTF8? sheet.toUTF8 = some sheet)
    (hwritten : Sheet.Written table sheet.toList) : PutsTable (.putTable sheet) table where
  method := rfl
  path := by
    simp only [Request.path, Request.putTable]
    decide +kernel
  media := by
    simp only [Request.isOf, Request.essence, Request.mediaText, Request.putTable]
    decide +kernel
  size := hsize
  body := ⟨sheet, by rw [bodyText, Request.putTable, hbody], hwritten⟩

variable {m : Moment} {r : Request} {app : App}

/-- A request to set the active actions is carried out unless its body is too long. -/
theorem handle_of_puts_activeActions (hmethod : r.method = "PUT")
    (hpath : Endpoint.ofPath? r.path = some .activeActions) :
    handle m app r
      = if bodyLimit < r.body.size then
          (.plain 413 "Failed to buffer the request body: length limit exceeded", app)
        else changed m.now app (applyActionTable ⟨m.now, app.cacheAge⟩ r) := by
  have htakes : r.method ∈ Endpoint.activeActions.methods := by
    rw [hmethod]
    decide
  rw [handle_of_takes hpath rfl htakes, hmethod]
  simp only [show readsBody "PUT" = true from rfl, true_and]
  rfl

/-- A table is applied to the scratchpad if it is an action table, however it is
written. -/
theorem PutsTable.handle_eq {table : List (List String)} {x : Exploration}
    {post : List Bool → Prop} (h : PutsTable r table) (hx : app.session = some x)
    (htable : ∀ text : String, Sheet.Written table text.toList →
      ∃ flags, ActionTable.flags text x.scratchpad = .ok flags ∧ post flags) :
    (handle m app r).1.status = 200
      ∧ ∃ flags, post flags
        ∧ (handle m app r).2.session = some (x.edited (x.scratchpad.withFlags flags)) := by
  obtain ⟨text, hbody, hwritten⟩ := h.body
  obtain ⟨flags, hflags, hpost⟩ := htable text hwritten
  rw [handle_of_puts_activeActions h.method h.path, if_neg (Nat.not_lt.mpr h.size), changed, hx,
    applyActionTable_eq h.media hbody hflags]
  exact ⟨rfl, flags, hpost, rfl⟩

/-- **Any state of the scratchpad can be set by a full table.** Once a scenario has been
loaded, whatever happens then, a full table with its columns and rows in any order is
carried out, if its body is not too long. Each action of a kind that no column but its
own speaks of has the flag that the table was made from, and an action of a kind with
blanks around it keeps its flag. So if there are no blanks around any kind, all flags are
those that the table was made from. -/
theorem full_table_sets_flags {text : String} {x₀ : Exploration}
    (hload : Exploration.load text = .ok x₀) (hsession : app.session = some x₀)
    (events : List Event) :
    ∃ x c, (app.run events).session = some x ∧ x.scenario.interpret = .ok c
      ∧ ∀ (m : Moment) (r : Request) (v : List Bool) (kinds : List String) (units : List Nat),
        v.length = c.actions.length → kinds.Perm c.actionKinds → units.Perm c.units →
        PutsTable r (ActionTable.full c v kinds units) →
        (handle m (app.run events) r).1.status = 200
          ∧ ∃ x', (handle m (app.run events) r).2.session = some x'
            ∧ (∀ (i : Nat) (a : Action), c.actions[i]? = some a →
              ((∀ kind ∈ c.actionKinds, Text.trim kind = a.kind ↔ kind = a.kind) →
                x'.scratchpad.flags[i]? = v[i]?)
              ∧ (Text.trim a.kind ≠ a.kind →
                x'.scratchpad.flags[i]? = x.scratchpad.flags[i]?))
            ∧ ((∀ kind ∈ c.actionKinds, Text.trim kind = kind) → x'.scratchpad.flags = v) := by
  obtain ⟨x, hx, c, hcoherent⟩ :=
    isInvariant_coherent.run hsession (isInvariant_coherent.load hload) events
  refine ⟨x, c, hx, hcoherent.catchment, ?_⟩
  intro m r v kinds units hv hkinds hunits hputs
  have hc : x.scratchpad.catchment = c := hcoherent.catchment_scratchpad
  obtain ⟨hstatus, flags, ⟨hlength, hset⟩, hafter⟩ := hputs.handle_eq hx fun table hwritten =>
    ActionTable.flags_full (p := x.scratchpad)
      (hc ▸ Scenario.indexed_of_interpret hcoherent.catchment)
      (hc ▸ Scenario.lt_of_mem_units hcoherent.scenario hcoherent.catchment)
      (hc ▸ hv) (hc ▸ hkinds) (hc ▸ hunits) (hc ▸ hwritten)
  rw [hc] at hset
  have hflags : (x.edited (x.scratchpad.withFlags flags)).scratchpad.flags = flags :=
    Plan.flags_withFlags (hlength.trans x.scratchpad.length_flags)
  refine ⟨hstatus, _, hafter, ?_⟩
  rw [hflags]
  refine ⟨hset, fun htrimmed => ?_⟩
  refine List.ext_getElem? fun i => ?_
  cases ha : c.actions[i]? with
  | some a => exact (hset i a ha).1 fun kind hkind => by rw [htrimmed kind hkind]
  | none =>
    have hi : c.actions.length ≤ i := List.getElem?_eq_none_iff.mp ha
    have hcount : flags.length = c.actions.length := by
      rw [hlength, x.scratchpad.length_flags, hc]
    rw [List.getElem?_eq_none (hcount ▸ hi), List.getElem?_eq_none (by omega)]

/-- A table whose second kind has to be quoted sets the second of two actions, after a
client has taken both. -/
theorem full_table_sets_flags_of_quoted_kind :
    ∃ (app : App) (r : Request) (x' : Exploration),
      app.session.map (·.scratchpad.flags) = some [true, true]
        ∧ PutsTable r [["SubCatchment", "B, \"x\"", "A"], ["1", "1", "0"]]
        ∧ (handle ⟨"", ⟨1⟩⟩ app r).1.status = 200
        ∧ (handle ⟨"", ⟨1⟩⟩ app r).2.session = some x'
        ∧ x'.scratchpad.flags = [false, true] := by
  let scenario := "[Scenario]\nName = \"A\"\n[Model]\nType = \"CatchmentModel\"\n" ++
    "[[Model.PlanningUnits]]\nId = 1\n[[Model.PlanningUnits.Actions]]\nType = \"A\"\n" ++
    "[[Model.PlanningUnits.Actions]]\nType = 'B, \"x\"'\n"
  let edit := Event.request ⟨"", ⟨0⟩⟩ (.patchScratchpad "[[\"Encoding\", \"7\"]]")
  let r := Request.putTable "SubCatchment,\"B, \"\"x\"\"\",A\r\n1,1,0\n"
  obtain ⟨text, x₀, hload, hx₀⟩ :=
    App.session_exploring scenario (by decide +kernel)
  obtain ⟨x, c, hx, hc, hset⟩ := full_table_sets_flags hload hx₀ [edit]
  obtain ⟨hbefore, hfacts⟩ :
      ((App.exploring scenario).run [edit]).session.map (·.scratchpad.flags) = some [true, true]
        ∧ (((App.exploring scenario).run [edit]).session.bind
            (·.scenario.interpret.toOption)).map (fun c => (c.actions.map (·.kind), c.units,
              ActionTable.full c [false, true] ["B, \"x\"", "A"] [1]))
          = some (["A", "B, \"x\""], [1],
            [["SubCatchment", "B, \"x\"", "A"], ["1", "1", "0"]]) := by
    decide +kernel
  rw [hx, Option.bind_some, hc] at hfacts
  obtain ⟨hactions, hunits, htable⟩ :
      c.actions.map (·.kind) = ["A", "B, \"x\""] ∧ c.units = [1]
        ∧ ActionTable.full c [false, true] ["B, \"x\"", "A"] [1]
          = [["SubCatchment", "B, \"x\"", "A"], ["1", "1", "0"]] := by
    have h := Option.some.inj hfacts
    exact ⟨congrArg (·.1) h, congrArg (·.2.1) h, congrArg (·.2.2) h⟩
  have hkinds : c.actionKinds = ["A", "B, \"x\""] := by
    rw [Catchment.actionKinds, hactions, List.mergeSort_of_pairwise (by decide +kernel)]
    decide +kernel
  have hlength : c.actions.length = 2 := by
    rw [← List.length_map (·.kind), hactions]
    rfl
  have htrimmed : ∀ kind ∈ c.actionKinds, Text.trim kind = kind := by
    rw [hkinds]
    decide +kernel
  have hputs : PutsTable r [["SubCatchment", "B, \"x\"", "A"], ["1", "1", "0"]] := by
    have hheader : Sheet.RecordText ["SubCatchment", "B, \"x\"", "A"] _ :=
      .cons (.bare (by decide +kernel)) (.cons (.quoted _) (.last (.bare (by decide +kernel))))
    have hrow : Sheet.RecordText ["1", "1", "0"] _ :=
      .cons (.bare (by decide +kernel)) (.cons (.bare (by decide +kernel))
        (.last (.bare (by decide +kernel))))
    have hwritten := Sheet.Written.cons hheader (by decide +kernel) .crlf
      (.cons hrow (by decide +kernel) .lf .nil)
    refine putsTable_putTable (by decide +kernel) (by decide +kernel) ?_
    exact cast (congrArg (Sheet.Written _) (by decide +kernel)) hwritten
  obtain ⟨hstatus, x', hx', -, hflags⟩ :=
    hset ⟨"", ⟨1⟩⟩ r [false, true] ["B, \"x\"", "A"] [1] (by rw [hlength]; rfl)
      (by rw [hkinds]; exact .swap _ _ _) (by rw [hunits]) (by rw [htable]; exact hputs)
  exact ⟨_, r, x', hbefore, hputs, hstatus, hx', hflags htrimmed⟩

/-- **A full table does not set an action of a kind with blanks around it.** It is not so
that every full table of at most two mebibytes sets the flags that it was made from: where
the only kind starts with a blank, the table that takes its action is accepted, and the
action is not taken. A table that is longer is refused. -/
theorem full_table_misses_padded_kind :
    (¬ ∀ (text : String) (x₀ x : Exploration) (c : Catchment) (app : App) (m : Moment)
        (r : Request) (v : List Bool),
        Exploration.load text = .ok x₀ → app.Since x₀ → app.session = some x →
        x.scenario.interpret = .ok c → v.length = c.actions.length →
        PutsTable r (ActionTable.full c v c.actionKinds c.units) →
        (handle m app r).1.status = 200
          ∧ ∃ x', (handle m app r).2.session = some x' ∧ x'.scratchpad.flags = v)
      ∧ ∀ (m : Moment) (app : App) (r : Request), r.method = "PUT" →
        Endpoint.ofPath? r.path = some .activeActions → bodyLimit < r.body.size →
        (handle m app r).1.status = 413 ∧ (handle m app r).2 = app := by
  constructor
  · intro hsets
    let scenario := "[Scenario]\nName = \"A\"\n[Model]\nType = \"CatchmentModel\"\n" ++
      "[[Model.PlanningUnits]]\nId = 1\n[[Model.PlanningUnits.Actions]]\nType = \" B\"\n"
    let r := Request.putTable "SubCatchment,\" B\"\n1,1\n"
    obtain ⟨text, x₀, hload, hx₀⟩ :=
      App.session_exploring scenario (by decide +kernel)
    obtain ⟨c, hcoherent⟩ := (Exploration.coherent_load hload).2
    have hc : x₀.scenario.interpret = .ok c := hcoherent.catchment
    obtain ⟨hafter, hfacts⟩ :
        (handle ⟨"", ⟨1⟩⟩ (App.exploring scenario) r).2.session.map (·.scratchpad.flags)
            = some [false]
          ∧ ((App.exploring scenario).session.bind (·.scenario.interpret.toOption)).map (fun c =>
              (c.actions.map (·.kind), c.units, ActionTable.full c [true] [" B"] [1]))
            = some ([" B"], [1], [["SubCatchment", " B"], ["1", "1"]]) := by
      decide +kernel
    rw [hx₀, Option.bind_some, hc] at hfacts
    obtain ⟨hactions, hunits, htable⟩ :
        c.actions.map (·.kind) = [" B"] ∧ c.units = [1]
          ∧ ActionTable.full c [true] [" B"] [1] = [["SubCatchment", " B"], ["1", "1"]] := by
      have h := Option.some.inj hfacts
      exact ⟨congrArg (·.1) h, congrArg (·.2.1) h, congrArg (·.2.2) h⟩
    have hkinds : c.actionKinds = [" B"] := by
      rw [Catchment.actionKinds, hactions, List.mergeSort_of_pairwise (by decide +kernel)]
      decide +kernel
    have hlength : c.actions.length = 1 := by
      rw [← List.length_map (·.kind), hactions]
      rfl
    have hputs : PutsTable r [["SubCatchment", " B"], ["1", "1"]] := by
      have hheader : Sheet.RecordText ["SubCatchment", " B"] _ :=
        .cons (.bare (by decide +kernel)) (.last (.quoted _))
      have hrow : Sheet.RecordText ["1", "1"] _ :=
        .cons (.bare (by decide +kernel)) (.last (.bare (by decide +kernel)))
      have hwritten := Sheet.Written.cons hheader (by decide +kernel) .lf
        (.cons hrow (by decide +kernel) .lf .nil)
      refine putsTable_putTable (by decide +kernel) (by decide +kernel) ?_
      exact cast (congrArg (Sheet.Written _) (by decide +kernel)) hwritten
    obtain ⟨-, x', hx', hflags⟩ := hsets text x₀ x₀ c (App.exploring scenario) ⟨"", ⟨1⟩⟩ r [true]
      hload (.start hx₀) hx₀ hc (by rw [hlength]; rfl) (by rw [hkinds, hunits, htable]; exact hputs)
    rw [hx', Option.map_some, hflags] at hafter
    cases hafter
  · intro m app r hmethod hpath hlong
    rw [handle_of_puts_activeActions hmethod hpath, if_pos hlong]
    exact ⟨rfl, rfl⟩

end Api

end CatchmentPlanning
