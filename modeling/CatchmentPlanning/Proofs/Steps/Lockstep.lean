import CatchmentPlanning.Proofs.Steps

/-!
# Work that does not see a difference

Two states may differ in something that the one who asks for work does not see. Work
**respects** such a difference (`Respects`) if it gives the same answer, or fails in the same
way, on both states, and leaves states that again differ in nothing else. Work in steps
respects a difference if each of its steps does, and a step that looks at the state does so if
it looks at nothing in which the states differ (`Respects.get_bind`).
-/

namespace CatchmentPlanning

namespace Steps

variable {σ ε ε' α β : Type} {R : σ → σ → Prop}

/-- Two outcomes that are the same but for the states left behind, which are related. -/
inductive Agree (R : σ → σ → Prop) : EStateM.Result ε σ α → EStateM.Result ε σ α → Prop
  | ok {a : α} {s s' : σ} (h : R s s') : Agree R (.ok a s) (.ok a s')
  | error {e : ε} {s s' : σ} (h : R s s') : Agree R (.error e s) (.error e s')

/-- **Work that does not see in what related states differ.** -/
def Respects (R : σ → σ → Prop) (work : EStateM ε σ α) : Prop :=
  ∀ s s', R s s' → Agree R (work s) (work s')

theorem respects_pure (a : α) : Respects R (pure a : EStateM ε σ α) :=
  fun _ _ h => .ok h

theorem respects_throw (e : ε) : Respects R (throw e : EStateM ε σ α) :=
  fun _ _ h => .error h

theorem respects_check (c : Except ε α) : Respects R (liftM c : EStateM ε σ α) := by
  intro s s' h
  cases c with
  | ok a => exact .ok h
  | error e => exact .error h

/-- A change respects the difference if related states are changed to related ones, or
neither of them is. -/
theorem respects_change {f : σ → Except ε σ}
    (hf : ∀ s s', R s s' → (∃ t t', f s = .ok t ∧ f s' = .ok t' ∧ R t t')
      ∨ ∃ e, f s = .error e ∧ f s' = .error e) : Respects R (change f) := by
  intro s s' h
  unfold change
  obtain ⟨t, t', ht, ht', hR⟩ | ⟨e, he, he'⟩ := hf s s' h
  · rw [ht, ht']
    exact .ok hR
  · rw [he, he']
    exact .error h

/-- So does a change that never fails. -/
theorem respects_modify {f : σ → σ} (hf : ∀ s s', R s s' → R (f s) (f s')) :
    Respects R (modify f : EStateM ε σ PUnit) :=
  fun s s' h => .ok (hf s s' h)

theorem Respects.bind {x : EStateM ε σ α} {f : α → EStateM ε σ β} (hx : Respects R x)
    (hf : ∀ a, Respects R (f a)) : Respects R (x >>= f) := by
  intro s s' h
  have hagree := hx s s' h
  show Agree R (EStateM.bind x f s) (EStateM.bind x f s')
  unfold EStateM.bind
  generalize x s = first at hagree ⊢
  generalize x s' = second at hagree ⊢
  cases hagree with
  | ok hR => exact hf _ _ _ hR
  | error hR => exact .error hR

/-- What is looked at is the same in related states. -/
theorem Respects.get_bind {f : σ → EStateM ε σ β} (hsame : ∀ s s', R s s' → f s = f s')
    (hf : ∀ s, Respects R (f s)) : Respects R (get >>= f) := by
  intro s s' h
  show Agree R (f s s) (f s' s')
  rw [← hsame s s' h]
  exact hf s s s' h

theorem Respects.adapt {x : EStateM ε σ α} (hx : Respects R x) (g : ε → ε') :
    Respects R (x.adaptExcept g) := by
  intro s s' h
  have hagree := hx s s' h
  unfold EStateM.adaptExcept
  generalize x s = first at hagree ⊢
  generalize x s' = second at hagree ⊢
  cases hagree with
  | ok hR => exact .ok hR
  | error hR => exact .error hR

/-- Work that is done for one value after the other. -/
theorem Respects.forM {l : List α} {f : α → EStateM ε σ PUnit} (hf : ∀ a ∈ l, Respects R (f a)) :
    Respects R (l.forM f) := by
  induction l with
  | nil => exact respects_pure _
  | cons a l ih =>
    exact (hf a List.mem_cons_self).bind fun _ => ih fun b h => hf b (List.mem_cons_of_mem _ h)

end Steps

end CatchmentPlanning
