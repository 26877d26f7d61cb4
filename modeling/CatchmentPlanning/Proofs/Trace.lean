/-!
# Runs with a log

Something goes on in moments, each of which leads from one state to another and leaves an event in
the log. A `Trace` is any number of such moments, one after the other. Traces can be put together
(`Trace.append`), fall apart at each of their events (`Trace.exists_split_of_mem`), and are carried
over from one system to another moment by moment (`Trace.map`).
-/

namespace CatchmentPlanning

variable {σ τ ε : Type} {Step : σ → ε → σ → Prop} {s s' s'' : σ} {log more : List ε} {event : ε}

/-- **One moment after the other**, with what has happened in order. -/
inductive Trace (Step : σ → ε → σ → Prop) (s : σ) : List ε → σ → Prop
  | nil : Trace Step s [] s
  | snoc {log : List ε} {s' s'' : σ} {event : ε} (hrun : Trace Step s log s')
      (hstep : Step s' event s'') : Trace Step s (log ++ [event]) s''

namespace Trace

theorem single (h : Step s event s') : Trace Step s [event] s' := .snoc .nil h

/-- A run that goes on. -/
theorem append (h : Trace Step s log s') (hmore : Trace Step s' more s'') :
    Trace Step s (log ++ more) s'' := by
  induction hmore with
  | nil =>
    rw [List.append_nil]
    exact h
  | snoc _ hstep ih =>
    rw [← List.append_assoc]
    exact ih.snoc hstep

/-- **A run falls apart at everything that has happened in it.** -/
theorem exists_split_of_mem (h : Trace Step s log s') (hevent : event ∈ log) :
    ∃ before after s₁ s₂, log = before ++ event :: after ∧ Trace Step s before s₁
      ∧ Step s₁ event s₂ ∧ Trace Step s₂ after s' := by
  induction h with
  | nil => cases hevent
  | @snoc log s' s'' event' hrun hstep ih =>
    obtain hevent | hevent := List.mem_append.mp hevent
    · obtain ⟨before, after, s₁, s₂, rfl, hbefore, hmoment, hafter⟩ := ih hevent
      exact ⟨before, after ++ [event'], s₁, s₂, by simp, hbefore, hmoment, hafter.snoc hstep⟩
    · obtain rfl := List.mem_singleton.mp hevent
      exact ⟨log, [], s', s'', rfl, hrun, hstep, .nil⟩

/-- What has happened at some moment of a run. -/
theorem exists_step_of_mem (h : Trace Step s log s') (hevent : event ∈ log) :
    ∃ log' s₁ s₂, Trace Step s log' s₁ ∧ Step s₁ event s₂ := by
  obtain ⟨before, _, s₁, s₂, -, hbefore, hmoment, -⟩ := h.exists_split_of_mem hevent
  exact ⟨before, s₁, s₂, hbefore, hmoment⟩

/-- A run of one system is one of another, if each of its moments is. -/
theorem map {Step' : τ → ε → τ → Prop} (f : σ → τ) (h : Trace Step s log s')
    (hstep : ∀ log s₁ event s₂, Trace Step s log s₁ → Step s₁ event s₂ →
      Step' (f s₁) event (f s₂)) : Trace Step' (f s) log (f s') := by
  induction h with
  | nil => exact .nil
  | snoc hrun hmoment ih => exact ih.snoc (hstep _ _ _ _ hrun hmoment)

end Trace

end CatchmentPlanning
