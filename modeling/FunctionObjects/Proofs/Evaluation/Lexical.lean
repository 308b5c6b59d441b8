import FunctionObjects.Proofs.Evaluation.Stack

/-!
# The body of a function does not see its caller

A name in the body of a function means what it means where the function was made. It does not
matter from where the body is run: of the contexts that there are then nothing reaches the names,
the blocks and the functions in it. This is a statement about two runs, of agents that have the same
store and the same heap and whose contexts have nothing in common.

Code reads the contexts in one way only, it looks at the running one. So the induction over
statements is for agents in which the same context is running. That it is still the same one after
each statement holds because statements leave the contexts as they were (`balanced_statement`). A
body enters a context that comes from the function alone, and so the running contexts are the same
from then on, whatever they were before.
-/

namespace FunctionObjects

namespace Agent

/-- Two agents have the same store and the same heap. Their contexts may be different. -/
structure SameWorld (a a' : Agent) : Prop where
  store : a.store = a'.store
  heap : a.heap = a'.heap

/-- In two agents with the same store and the same heap the same context is running. -/
structure Alike (a a' : Agent) : Prop extends SameWorld a a' where
  running : a.running? = a'.running?

theorem SameWorld.push {a a' : Agent} (h : SameWorld a a') (c : Context) :
    Alike (a.push c) (a'.push c) :=
  ⟨⟨h.store, h.heap⟩, rfl⟩

end Agent

namespace Evaluation

open Agent

variable {α β : Type} {a a' : Agent}

/-- Two computations have the same result or fail for the same reason, and in either case agents
with the same store and the same heap are left. -/
inductive EndAlike : EStateM.Result Error Agent α → EStateM.Result Error Agent α → Prop
  | ok {x : α} {b b' : Agent} : SameWorld b b' → EndAlike (.ok x b) (.ok x b')
  | error {e : Error} {b b' : Agent} : SameWorld b b' → EndAlike (.error e b) (.error e b')

namespace EndAlike

variable {act : Evaluation α} {f : α → Evaluation β}

/-- What comes second starts in the agents that the first part has left. -/
theorem bind_of_results (h : EndAlike (act a) (act a'))
    (hf : ∀ x b b', act a = .ok x b → act a' = .ok x b' → SameWorld b b' →
      EndAlike (f x b) (f x b')) :
    EndAlike ((act >>= f) a) ((act >>= f) a') := by
  generalize hr : act a = r at h
  generalize hr' : act a' = r' at h
  cases h with
  | ok hw =>
    rw [bind_of_ok hr, bind_of_ok hr']
    exact hf _ _ _ hr hr' hw
  | error hw =>
    rw [bind_of_error hr, bind_of_error hr']
    exact .error hw

theorem bind (h : EndAlike (act a) (act a'))
    (hf : ∀ x b b', SameWorld b b' → EndAlike (f x b) (f x b')) :
    EndAlike ((act >>= f) a) ((act >>= f) a') :=
  h.bind_of_results fun x b b' _ _ hw => hf x b b' hw

/-- After a computation that leaves the contexts as they were, the same context is running. -/
theorem bind_of_balanced (ha : Alike a a') (hact : ∀ b, Balanced act b)
    (h : EndAlike (act a) (act a'))
    (hf : ∀ x b b', Alike b b' → EndAlike (f x b) (f x b')) :
    EndAlike ((act >>= f) a) ((act >>= f) a') := by
  refine h.bind_of_results fun x b b' hb hb' hw => hf x b b' ⟨hw, ?_⟩
  rw [(hact a).running?_eq hb, (hact a').running?_eq hb', ha.running]

theorem leaving (h : EndAlike (act a) (act a')) :
    EndAlike (leaving act a) (leaving act a') := by
  unfold Evaluation.leaving
  generalize act a = r at h
  generalize act a' = r' at h
  cases h with
  | ok hw => exact .ok ⟨hw.store, hw.heap⟩
  | error hw => exact .error ⟨hw.store, hw.heap⟩

end EndAlike

/-! ### The single steps -/

theorem endAlike_onStore (act : Effect α) (h : SameWorld a a') :
    EndAlike (onStore act a) (onStore act a') := by
  obtain ⟨store, heap, realm, contexts⟩ := a
  obtain ⟨store', heap', realm', contexts'⟩ := a'
  obtain ⟨rfl, rfl⟩ : store = store' ∧ heap = heap' := ⟨h.store, h.heap⟩
  cases hact : act store with
  | ok x s =>
    simp only [onStore, hact]
    exact .ok ⟨rfl, rfl⟩
  | error e s =>
    simp only [onStore, hact]
    exact .error ⟨rfl, rfl⟩

theorem endAlike_running (h : Alike a a') : EndAlike (running a) (running a') := by
  have hrunning := h.running
  cases hc : a.running? with
  | none =>
    rw [hc] at hrunning
    rw [running_of_none hc, running_of_none hrunning.symm]
    exact .error h.toSameWorld
  | some c =>
    rw [hc] at hrunning
    rw [running_of_some hc, running_of_some hrunning.symm]
    exact .ok h.toSameWorld

theorem endAlike_instantiate (d : FunctionDefinition) (h : Alike a a') :
    EndAlike (instantiate d a) (instantiate d a') := by
  refine (endAlike_running h).bind fun c b b' hw => ?_
  -- of the agent it is only asked which heap it owns
  show EndAlike (onStore (Closure.instantiate b.heap c d) b)
    (onStore (Closure.instantiate b'.heap c d) b')
  rw [hw.heap]
  exact endAlike_onStore _ hw

theorem endAlike_expression (e : Expression) (h : Alike a a') :
    EndAlike (expression e a) (expression e a') := by
  cases e with
  | literal l => exact .ok h.toSameWorld
  | identifier name =>
    exact (endAlike_running h).bind fun c b b' hw => endAlike_onStore _ hw
  | function d =>
    exact (endAlike_instantiate d h).bind fun c b b' hw => .ok hw

/-! ### Statements -/

mutual

theorem endAlike_statement (s : Statement) {a a' : Agent} (h : Alike a a') :
    EndAlike (statement s a) (statement s a') := by
  match s with
  | .empty => exact .ok h.toSameWorld
  | .expression e =>
    exact (endAlike_expression e h).bind fun v b b' hw => .ok hw
  | .return none => exact .ok h.toSameWorld
  | .return (some e) =>
    exact (endAlike_expression e h).bind fun v b b' hw => .ok hw
  | .block body =>
    have hrunning := h.running
    cases hc : a.running? with
    | none =>
      rw [hc] at hrunning
      rw [statement, bind_of_error (enterBlock_of_none hc),
        bind_of_error (enterBlock_of_none hrunning.symm)]
      exact .error h.toSameWorld
    | some c =>
      rw [hc] at hrunning
      rw [statement, bind_of_ok (enterBlock_of_some hc),
        bind_of_ok (enterBlock_of_some hrunning.symm), h.store]
      have hw : SameWorld (a.withScope c.scope) (a'.withScope c.scope) :=
        ⟨by rw [withScope, withScope, h.store], h.heap⟩
      exact (endAlike_statementsAfter .undefined body (hw.push _)).leaving

theorem endAlike_statementsAfter (last : Value) (body : List Statement) {a a' : Agent}
    (h : Alike a a') : EndAlike (statementsAfter last body a) (statementsAfter last body a') := by
  match body with
  | [] => exact .ok h.toSameWorld
  | s :: rest =>
    refine .bind_of_balanced h (balanced_statement s) (endAlike_statement s h) ?_
    intro r b b' hb
    cases r with
    | normal v => exact endAlike_statementsAfter v rest hb
    | returned v => exact .ok hb.toSameWorld

end

/-! ### Bodies -/

theorem endAlike_slots (c : Closure) (h : SameWorld a a') : EndAlike (slots c a) (slots c a') := by
  cases hf : a.store.function? c.slots with
  | none =>
    rw [slots_of_none hf, slots_of_none (h.store ▸ hf)]
    exact .error h
  | some f =>
    rw [slots_of_some hf, slots_of_some (h.store ▸ hf)]
    exact .ok h

/-- **Scoping is lexical.** The body of a function gives the same value or the same failure, and
leaves the same store, whatever the contexts are among which it is run, and if there is none. -/
theorem body_independent_of_contexts (c : Closure) (store : Store) (heap : HeapId)
    (realm realm' : Realm) (contexts contexts' : List Context) :
    EndAlike (body c ⟨store, heap, realm, contexts⟩) (body c ⟨store, heap, realm', contexts'⟩) := by
  have hslots : EndAlike (slots c ⟨store, heap, realm, contexts⟩)
      (slots c ⟨store, heap, realm', contexts'⟩) := endAlike_slots c ⟨rfl, rfl⟩
  refine hslots.bind fun f a₁ a₁' h₁ => ?_
  refine (endAlike_onStore _ h₁).bind fun scope a₂ a₂' h₂ => ?_
  refine (endAlike_onStore _ h₂).bind fun _ a₃ a₃' h₃ => ?_
  -- from here on the context of the function is running in both agents
  let inner := (bodyContext f).inScope scope
  have henter : ∀ b : Agent, enter inner b = .ok () (b.push inner) := fun _ => rfl
  show EndAlike ((enter inner >>= _) a₃) ((enter inner >>= _) a₃')
  rw [bind_of_ok (henter a₃), bind_of_ok (henter a₃')]
  have hbody : EndAlike (leaving (statements f.definition.body) (a₃.push inner))
      (leaving (statements f.definition.body) (a₃'.push inner)) :=
    (endAlike_statementsAfter .undefined f.definition.body (h₃.push inner)).leaving
  refine hbody.bind fun r b b' hw => ?_
  cases r <;> exact .ok hw

end Evaluation

end FunctionObjects
