import CatchmentPlanning.Steps

/-!
# Work that is all or nothing

Nothing takes back what the steps of some work have changed when a later step
fails. That the work as a whole is nevertheless all or nothing can have two
causes, and each is a rule here: the steps so far have changed nothing
(`AllOrNothing.read_bind`), or the steps still to come cannot fail any more
(`AllOrNothing.bind`). Work that goes on after its first change is all or nothing
only if everything behind that change **succeeds** (`Succeeds`).

Both judgements are about work on one state, so that what the steps before have
established can be used to show that the next one does not fail.
-/

namespace CatchmentPlanning

namespace Steps

variable {σ ε ε' α β : Type}

/-- **Work that succeeds** on a state, with an answer and a state left behind
for which a condition holds. -/
def Succeeds (work : EStateM ε σ α) (s : σ) (post : α → σ → Prop) : Prop :=
  ∃ a s', work s = .ok a s' ∧ post a s'

/-- **Work that is all or nothing** on a state: if it succeeds a condition holds
for the answer and the state left behind, and if it fails the state is left as it
was. -/
def AllOrNothing (work : EStateM ε σ α) (s : σ) (post : α → σ → Prop) : Prop :=
  match work s with
  | .ok a s' => post a s'
  | .error _ s' => s' = s

/-- Work that is all or nothing succeeds, or leaves the state as it was. -/
theorem allOrNothing_iff {work : EStateM ε σ α} {s : σ} {post : α → σ → Prop} :
    AllOrNothing work s post ↔ Succeeds work s post ∨ ∃ e, work s = .error e s := by
  unfold AllOrNothing Succeeds
  cases hrun : work s with
  | ok a s' =>
    constructor
    · exact fun hpost => .inl ⟨a, s', rfl, hpost⟩
    · rintro (⟨_, _, heq, hpost⟩ | ⟨_, heq⟩) <;> cases heq
      exact hpost
  | error e s' =>
    constructor
    · rintro rfl
      exact .inr ⟨e, rfl⟩
    · rintro (⟨_, _, heq, _⟩ | ⟨_, heq⟩) <;> cases heq
      rfl

/-! ## Single steps -/

section

variable {s : σ}

theorem succeeds_pure {post : α → σ → Prop} {a : α} (h : post a s) :
    Succeeds (pure a : EStateM ε σ α) s post :=
  ⟨a, s, rfl, h⟩

/-- The outcome of a change that is made. -/
theorem change_eq {f : σ → Except ε σ} {s' : σ} (h : f s = .ok s') :
    change f s = .ok () s' := by
  rw [change, h]

/-- The outcome of a check that succeeds. -/
theorem check_eq {c : Except ε α} {a : α} (h : c = .ok a) :
    (liftM c : EStateM ε σ α) s = .ok a s := by
  rw [h]
  rfl

/-- Work that does not fail comes out the same where its failure would be told in
other words. -/
theorem adaptExcept_eq {x : EStateM ε σ α} {g : ε → ε'} {a : α} {s' : σ}
    (h : x s = .ok a s') : x.adaptExcept g s = .ok a s' := by
  rw [EStateM.adaptExcept, h]

theorem allOrNothing_throw {post : α → σ → Prop} (e : ε) :
    AllOrNothing (throw e : EStateM ε σ α) s post :=
  rfl

/-- A change that is made as a whole or not at all. -/
theorem allOrNothing_change {post : Unit → σ → Prop} {f : σ → Except ε σ}
    (h : ∀ s', f s = .ok s' → post () s') : AllOrNothing (change f) s post := by
  unfold AllOrNothing change
  cases hf : f s with
  | ok s' => exact h s' hf
  | error e => rfl

end

/-! ## Steps one after another -/

section

variable {s : σ} {x : EStateM ε σ α} {f : α → EStateM ε σ β}
  {mid : α → σ → Prop} {post : β → σ → Prop}

theorem Succeeds.mono {mid' : α → σ → Prop} (hx : Succeeds x s mid)
    (h : ∀ a s', mid a s' → mid' a s') : Succeeds x s mid' := by
  obtain ⟨a, s', hrun, hmid⟩ := hx
  exact ⟨a, s', hrun, h a s' hmid⟩

theorem AllOrNothing.mono {mid' : α → σ → Prop} (hx : AllOrNothing x s mid)
    (h : ∀ a s', mid a s' → mid' a s') : AllOrNothing x s mid' := by
  rw [allOrNothing_iff] at hx ⊢
  exact hx.imp_left fun hx => hx.mono h

/-- Work that succeeds is all or nothing. -/
theorem Succeeds.allOrNothing (hx : Succeeds x s mid) : AllOrNothing x s mid :=
  allOrNothing_iff.mpr (.inl hx)

theorem run_bind_of_ok {a : α} {s' : σ} (h : x s = .ok a s') : (x >>= f) s = f a s' := by
  show EStateM.bind x f s = f a s'
  rw [EStateM.bind, h]

theorem run_bind_of_error {e : ε} {s' : σ} (h : x s = .error e s') :
    (x >>= f) s = .error e s' := by
  show EStateM.bind x f s = .error e s'
  rw [EStateM.bind, h]

/-- A step whose outcome is known comes before the rest. -/
theorem succeeds_bind_of_eq {a : α} {s' : σ} (hx : x s = .ok a s')
    (h : Succeeds (f a) s' post) : Succeeds (x >>= f) s post := by
  obtain ⟨b, s'', hrun, hpost⟩ := h
  exact ⟨b, s'', by rw [run_bind_of_ok hx, hrun], hpost⟩

theorem Succeeds.bind (hx : Succeeds x s mid) (hf : ∀ a s', mid a s' → Succeeds (f a) s' post) :
    Succeeds (x >>= f) s post := by
  obtain ⟨a, s', hrun, hmid⟩ := hx
  exact succeeds_bind_of_eq hrun (hf a s' hmid)

/-- How a sequence is all or nothing: after the first step either nothing has
been changed yet, or nothing can fail any more. -/
theorem AllOrNothing.seq
    (hx : AllOrNothing x s fun a s' =>
      (s' = s ∧ AllOrNothing (f a) s post) ∨ Succeeds (f a) s' post) :
    AllOrNothing (x >>= f) s post := by
  obtain ⟨a, s', hrun, ⟨rfl, hf⟩ | hf⟩ | ⟨e, hrun⟩ := allOrNothing_iff.mp hx
  · rw [AllOrNothing, run_bind_of_ok hrun]
    exact hf
  · exact (succeeds_bind_of_eq hrun hf).allOrNothing
  · exact allOrNothing_iff.mpr (.inr ⟨e, run_bind_of_error hrun⟩)

/-- **Nothing has been changed yet**: behind steps that only read, work may still
fail. -/
theorem AllOrNothing.read_bind
    (hx : AllOrNothing x s fun a s' => s' = s ∧ AllOrNothing (f a) s post) :
    AllOrNothing (x >>= f) s post :=
  .seq (hx.mono fun _ _ h => .inl h)

/-- **Nothing can fail any more**: behind a change, every step has to succeed. -/
theorem AllOrNothing.bind (hx : AllOrNothing x s mid)
    (hf : ∀ a s', mid a s' → Succeeds (f a) s' post) : AllOrNothing (x >>= f) s post :=
  .seq (hx.mono fun a s' h => .inr (hf a s' h))

/-- A check comes before the rest. -/
theorem allOrNothing_check_bind {c : Except ε α}
    (h : ∀ a, c = .ok a → AllOrNothing (f a) s post) :
    AllOrNothing ((liftM c : EStateM ε σ α) >>= f) s post := by
  refine .read_bind ?_
  cases c with
  | ok a => exact ⟨rfl, h a rfl⟩
  | error e => rfl

theorem allOrNothing_get_bind {f : σ → EStateM ε σ β} (h : AllOrNothing (f s) s post) :
    AllOrNothing ((get : EStateM ε σ σ) >>= f) s post :=
  h

theorem succeeds_get_bind {f : σ → EStateM ε σ β} (h : Succeeds (f s) s post) :
    Succeeds ((get : EStateM ε σ σ) >>= f) s post :=
  h

/-! ## Faults in other words -/

/-- Saying in other words why work fails changes nothing else about it. -/
theorem AllOrNothing.adapt (hx : AllOrNothing x s mid) (g : ε → ε') :
    AllOrNothing (x.adaptExcept g) s mid := by
  obtain ⟨a, s', hrun, hmid⟩ | ⟨e, hrun⟩ := allOrNothing_iff.mp hx
  · exact Succeeds.allOrNothing ⟨a, s', adaptExcept_eq hrun, hmid⟩
  · refine allOrNothing_iff.mpr (.inr ⟨g e, ?_⟩)
    rw [EStateM.adaptExcept, hrun]

end

end Steps

end CatchmentPlanning
