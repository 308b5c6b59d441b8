import FunctionObjects.Store.Effect

/-!
# What a computation does to its state

A computation ends with a result or with a failure, and in either case in some state. Most of what
is proved about one is of the form: however it ends, the state at the end is related to the state
at the beginning, and if it ends with a result, something is known about that. `Moves R act s Q`
says so. For a relation `R` that is reflexive and transitive it is proved along the `do` notation,
by one lemma for `bind` and one for each single step; what is known of the result of one step is
what the next one may rely on.

Where the course of a computation is known exactly, it is followed by equations instead, with
`bind_of_ok` and `bind_of_error`.
-/

namespace FunctionObjects

/-- What is computed by a rule that leaves no case out is what the rule says and nothing else. -/
theorem eq_iff_of_rule {α : Type} {x : α} {Rule : α → Prop} (total : ∃ r, Rule r)
    (computed : ∀ r, Rule r → x = r) (r : α) : x = r ↔ Rule r := by
  refine ⟨?_, computed r⟩
  rintro rfl
  obtain ⟨r, h⟩ := total
  rwa [computed r h]

variable {ε σ α β : Type}

/-- The state in which a computation ends, be it with a result or with a failure. -/
def finalState (act : EStateM ε σ α) (s : σ) : σ :=
  match act s with
  | .ok _ s' => s'
  | .error _ s' => s'

/-- Started in `s`, the computation ends in a state that `R` relates to `s`, and if it has a result,
`Q` holds of the result and that state. -/
def Moves (R : σ → σ → Prop) (act : EStateM ε σ α) (s : σ) (Q : α → σ → Prop) : Prop :=
  match act s with
  | .ok a s' => R s s' ∧ Q a s'
  | .error _ s' => R s s'

/-! ### Following a computation exactly -/

/-- A computation goes on from where its first part ended. -/
theorem bind_of_ok {act : EStateM ε σ α} {f : α → EStateM ε σ β} {s s' : σ} {a : α}
    (h : act s = .ok a s') : (act >>= f) s = f a s' := by
  simp [bind, EStateM.bind, h]

/-- A failure of the first part is a failure of the whole. -/
theorem bind_of_error {act : EStateM ε σ α} {f : α → EStateM ε σ β} {s s' : σ} {e : ε}
    (h : act s = .error e s') : (act >>= f) s = .error e s' := by
  simp [bind, EStateM.bind, h]

/-- A check that consists of two parts and succeeds has succeeded in both. -/
theorem exists_of_bind_eq_ok {x : Except ε α} {f : α → Except ε β} {b : β}
    (h : x >>= f = .ok b) : ∃ a, x = .ok a ∧ f a = .ok b := by
  cases x with
  | error e => cases h
  | ok a => exact ⟨a, rfl, h⟩

theorem finalState_of_ok {act : EStateM ε σ α} {s s' : σ} {a : α} (h : act s = .ok a s') :
    finalState act s = s' := by
  simp [finalState, h]

theorem finalState_of_error {act : EStateM ε σ α} {s s' : σ} {e : ε}
    (h : act s = .error e s') : finalState act s = s' := by
  simp [finalState, h]

/-! ### Following a relation along a computation -/

namespace Moves

variable {R : σ → σ → Prop} {act : EStateM ε σ α} {s s' : σ} {a : α} {Q Q' : α → σ → Prop}

theorem finalState (h : Moves R act s Q) : R s (finalState act s) := by
  unfold Moves at h
  unfold FunctionObjects.finalState
  split at h
  · exact h.1
  · exact h

/-- What is known of the result of a computation that has one. -/
theorem of_ok (h : Moves R act s Q) (ha : act s = .ok a s') : R s s' ∧ Q a s' := by
  simpa [Moves, ha] using h

theorem pure (hR : R s s) (hQ : Q a s) : Moves R (pure a : EStateM ε σ α) s Q := ⟨hR, hQ⟩

/-- The result is that of the run. -/
theorem run (h : Moves R act s Q) : Moves R act s fun a s' => act s = .ok a s' ∧ Q a s' := by
  unfold Moves at h ⊢
  split at h
  · next ha => exact ⟨h.1, ha, h.2⟩
  · exact h

/-- What is made of the result changes nothing any more. -/
theorem map {f : α → β} {Q' : β → σ → Prop} (h : Moves R act s Q)
    (hQ : ∀ a s', Q a s' → Q' (f a) s') : Moves R (act >>= fun a => Pure.pure (f a)) s Q' := by
  unfold Moves at h
  split at h
  · next a s' ha =>
    rw [Moves, bind_of_ok ha]
    exact ⟨h.1, hQ a s' h.2⟩
  · next e s' ha =>
    rw [Moves, bind_of_error ha]
    exact h

/-- A coarser relation relates the same states. -/
theorem imp {R' : σ → σ → Prop} (h : Moves R act s Q) (hR : ∀ s s', R s s' → R' s s') :
    Moves R' act s Q := by
  unfold Moves at h ⊢
  split at h
  · exact ⟨hR _ _ h.1, h.2⟩
  · exact hR _ _ h

/-- What is known of the result may be forgotten. -/
theorem forget (h : Moves R act s Q) : Moves R act s fun _ _ => True := by
  unfold Moves at h ⊢
  split at h
  · exact ⟨h.1, trivial⟩
  · exact h

/-- The second part starts where the first one ended, and may rely on what is known of its
result. -/
theorem bind (hR : ∀ s₁ s₂ s₃, R s₁ s₂ → R s₂ s₃ → R s₁ s₃) {f : α → EStateM ε σ β}
    {Q' : β → σ → Prop} (h : Moves R act s Q)
    (hf : ∀ a s', R s s' → Q a s' → Moves R (f a) s' Q') : Moves R (act >>= f) s Q' := by
  unfold Moves at h
  split at h
  · next a s' ha =>
    have hf := hf a s' h.1 h.2
    rw [Moves, bind_of_ok ha]
    unfold Moves at hf
    split at hf
    · exact ⟨hR _ _ _ h.1 hf.1, hf.2⟩
    · exact hR _ _ _ h.1 hf
  · next e s' ha =>
    rw [Moves, bind_of_error ha]
    exact h

end Moves

end FunctionObjects
