import CatchmentPlanning.Proofs.Api.Effects

/-!
# Requests about a planning unit

A planning unit of the scratchpad is shown with its actions, and it is updated by attributes that
name them. An update is first checked as a whole. Then its changes are taken over one after the
other, by a lookup of its own that may fail for each of them, and what has been changed before
would be kept. That it does not fail has been seen where requests are carried out
(`updateUnit_eq`); here is what clients see of it.
-/

namespace CatchmentPlanning

namespace Api

variable {m : Moment} {r : Request} {app : App} {x : Exploration} {unit : Nat} {a : Attributes}

/-- **The path leads to a planning unit**, in any of the ways to write its number. -/
def LeadsToUnit (path : String) (unit : Nat) : Prop :=
  ∃ id p, Endpoint.ofPath? path = some (.unit id) ∧ Text.percentDecode? id = some p
    ∧ Text.unsigned? (2 ^ 32) p = some unit

/-- **The request updates a planning unit** by JSON. -/
structure UpdatesUnit (r : Request) (unit : Nat) : Prop where
  method : r.method = "POST"
  path : LeadsToUnit r.path unit
  media : r.isOf .json = true

/-- **The request asks for a planning unit.** -/
structure GetsUnit (r : Request) (unit : Nat) : Prop where
  method : r.method = "GET"
  path : LeadsToUnit r.path unit

/-- An endpoint for a planning unit is decoded to one. -/
theorem decoded_unit_eq_ok_iff {id : String} {e : Endpoint} :
    (Endpoint.unit id).decoded = .ok e ↔
      ∃ p, Text.percentDecode? id = some p ∧ e = .unit p := by
  unfold Endpoint.decoded
  cases hid : Text.percentDecode? id with
  | none => simp [Endpoint.parameter?, hid]
  | some p => simp [Endpoint.parameter?, hid, Endpoint.withParameter, eq_comm]

/-- **What comes of an update of a planning unit**: it is refused with all its violations, and
then nothing has changed, or else all its changes are taken over. -/
theorem UpdatesUnit.handle_eq (h : UpdatesUnit r unit) (hsize : r.body.size ≤ bodyLimit)
    (hx : app.session = some x) (hunit : unit ∈ x.scratchpad.catchment.units)
    (ha : bodyAttributes r = .ok a) :
    handle m app r
      = match UnitUpdate.violations x.scratchpad.catchment unit a.entries with
        | [] => (.success m.now ("subcatchment [" ++ toString unit ++ "] updated ("
            ++ toString (UnitUpdate.changes x.scratchpad.catchment unit a.entries).length
            ++ " action(s))"),
          { app with session := some (x.edited (x.scratchpad.withFlags (ActionTable.applied
            x.scratchpad.flags (UnitUpdate.verdicts x.scratchpad.catchment unit
              (UnitUpdate.changes x.scratchpad.catchment unit a.entries))))) })
        | violations =>
          ((⟨.badRequest, (UnitUpdate.report unit violations).report⟩ : Refusal).response m.now,
            app) := by
  obtain ⟨id, p, hpath, hp, hid⟩ := h.path
  have htakes : r.method ∈ (Endpoint.unit id).methods :=
    h.method ▸ List.mem_cons_of_mem _ List.mem_cons_self
  have hrun := updateUnit_eq (c := ⟨m.now, app.cacheAge⟩) (requireMedia_eq_ok_iff.mpr h.media)
    (namedUnit_eq_ok hid hunit) ha
  rw [handle_of_takes hpath (decoded_unit_eq_ok_iff.mpr ⟨p, hp, rfl⟩) htakes,
    if_neg fun hlong => Nat.not_lt.mpr hsize hlong.2, h.method]
  show changed m.now app (updateUnit ⟨m.now, app.cacheAge⟩ p r) = _
  revert hrun
  cases UnitUpdate.violations x.scratchpad.catchment unit a.entries with
  | nil => exact fun hrun => changed_eq (hx ▸ hrun)
  | cons violation violations => exact fun hrun => changed_eq_error (hx ▸ hrun)

/-- A body that is too long is not looked at. -/
theorem UpdatesUnit.handle_of_long (h : UpdatesUnit r unit) (hlong : bodyLimit < r.body.size) :
    handle m app r
      = (.plain 413 "Failed to buffer the request body: length limit exceeded", app) := by
  obtain ⟨id, p, hpath, hp, -⟩ := h.path
  have htakes : r.method ∈ (Endpoint.unit id).methods :=
    h.method ▸ List.mem_cons_of_mem _ List.mem_cons_self
  rw [handle_of_takes hpath (decoded_unit_eq_ok_iff.mpr ⟨p, hp, rfl⟩) htakes]
  exact if_pos ⟨h.method ▸ rfl, hlong⟩

/-- **What is shown of a planning unit.** -/
theorem GetsUnit.handle_eq (h : GetsUnit r unit) (hx : app.session = some x)
    (hunit : unit ∈ x.scratchpad.catchment.units) :
    handle m app r = (.view (.obj [("Id", .int unit),
      ("Attributes", (UnitUpdate.shown x.scratchpad unit).toJson)]) (.maxAge app.cacheAge),
      app) := by
  obtain ⟨id, p, hpath, hp, hid⟩ := h.path
  have hread : carryOut m app r "GET" (.unit p)
      = answered m.now app (readUnit ⟨m.now, app.cacheAge⟩ p app.session) := rfl
  rw [handle_get h.method hpath (decoded_unit_eq_ok_iff.mpr ⟨p, hp, rfl⟩) List.mem_cons_self,
    hread, hx, readUnit, loaded, Checks.ok_bind, namedUnit_eq_ok hid hunit]
  rfl

end Api

end CatchmentPlanning
