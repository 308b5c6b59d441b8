import FunctionObjects.Proofs.Evaluation.Changes

/-!
# The contexts after an evaluation

A block and the body of a function run in a context of their own, which is entered before and left
afterwards. Leaving takes away whatever context is innermost. That it takes away the right one has
to be known of all that is done in between, however that ends: by its last statement, by a
`return` or by a failure. So it is an induction on the syntax, for statements and lists of
statements at once (`balanced_statement`).

Nothing is presupposed here. There may be any contexts or none, and what they refer to need not
exist.
-/

namespace FunctionObjects.Evaluation

variable {α β : Type} {a : Agent}

/-- However the computation ends, the contexts are the same in the same order. -/
def Balanced (act : Evaluation α) (a : Agent) : Prop := (finalState act a).contexts = a.contexts

/-! ### One after the other -/

theorem finalState_bind_of_ok {act : Evaluation α} {f : α → Evaluation β} {x : α} {a' : Agent}
    (h : act a = .ok x a') : finalState (act >>= f) a = finalState (f x) a' := by
  rw [finalState, bind_of_ok h, finalState]

/-- What is done with the result of a computation does not matter if it is balanced itself. -/
theorem contexts_bind {act : Evaluation α} {f : α → Evaluation β}
    (hf : ∀ x a', Balanced (f x) a') :
    (finalState (act >>= f) a).contexts = (finalState act a).contexts := by
  cases h : act a with
  | ok x a' => rw [finalState_bind_of_ok h, hf x a', finalState_of_ok h]
  | error e a' => rw [finalState_of_error (bind_of_error h), finalState_of_error h]

theorem Balanced.bind {act : Evaluation α} {f : α → Evaluation β} (h : Balanced act a)
    (hf : ∀ x a', Balanced (f x) a') : Balanced (act >>= f) a :=
  (contexts_bind hf).trans h

theorem Balanced.pure (x : α) (a : Agent) : Balanced (pure x : Evaluation α) a := rfl

/-- Afterwards the same context is running. -/
theorem Balanced.running?_eq {act : Evaluation α} {x : α} {a' : Agent} (h : Balanced act a)
    (hx : act a = .ok x a') : a'.running? = a.running? := by
  have hcontexts : (finalState act a).contexts = a.contexts := h
  rw [finalState_of_ok hx] at hcontexts
  rw [Agent.running?, Agent.running?, hcontexts]

/-- Leaving takes away the context that was entered. -/
theorem contexts_leaving {act : Evaluation α} {c : Context} (h : Balanced act (a.push c)) :
    (finalState (leaving act) (a.push c)).contexts = a.contexts := by
  have hpop : finalState (leaving act) (a.push c) = (finalState act (a.push c)).pop := by
    unfold finalState leaving
    cases act (a.push c) <;> rfl
  rw [hpop]
  exact congrArg List.tail h

/-! ### The single steps -/

theorem balanced_onStore (act : Effect α) (a : Agent) : Balanced (onStore act) a := by
  obtain ⟨store, heap, realm, contexts⟩ := a
  cases h : act store with
  | ok x store' => simp [Balanced, finalState, onStore, h]
  | error e store' => simp [Balanced, finalState, onStore, h]

theorem balanced_running (a : Agent) : Balanced running a := by
  cases hc : a.running? with
  | none => rw [Balanced, finalState_of_error (running_of_none hc)]
  | some c => rw [Balanced, finalState_of_ok (running_of_some hc)]

theorem balanced_slots (c : Closure) (a : Agent) : Balanced (slots c) a := by
  cases hf : a.store.function? c.slots with
  | none => rw [Balanced, finalState_of_error (slots_of_none hf)]
  | some f => rw [Balanced, finalState_of_ok (slots_of_some hf)]

/-! ### Expressions and statements -/

theorem balanced_instantiate (d : FunctionDefinition) (a : Agent) :
    Balanced (instantiate d) a := by
  apply (balanced_running a).bind
  intro c a'
  have hget : Balanced (get : Evaluation Agent) a' := rfl
  apply hget.bind
  intro b a''
  exact balanced_onStore _ a''

theorem balanced_expression (e : Expression) (a : Agent) : Balanced (expression e) a := by
  cases e with
  | literal l => exact .pure _ a
  | identifier name => exact (balanced_running a).bind fun c a' => balanced_onStore _ a'
  | function d => exact (balanced_instantiate d a).bind fun c a' => .pure _ a'

mutual

theorem balanced_statement (s : Statement) (a : Agent) : Balanced (statement s) a := by
  match s with
  | .empty => exact .pure _ a
  | .expression e => exact (balanced_expression e a).bind fun v a' => .pure _ a'
  | .return none => exact .pure _ a
  | .return (some e) => exact (balanced_expression e a).bind fun v a' => .pure _ a'
  | .block body =>
    rw [Balanced, statement]
    cases hc : a.running? with
    | none =>
      -- a block that cannot be entered is not left
      rw [finalState_of_error (bind_of_error (enterBlock_of_none hc))]
    | some c =>
      rw [finalState_bind_of_ok (enterBlock_of_some hc)]
      exact contexts_leaving (balanced_statementsAfter .undefined body _)

theorem balanced_statementsAfter (last : Value) (body : List Statement) (a : Agent) :
    Balanced (statementsAfter last body) a := by
  match body with
  | [] => exact .pure _ a
  | s :: rest =>
    apply (balanced_statement s a).bind
    intro r a'
    cases r with
    | normal v => exact balanced_statementsAfter v rest a'
    | returned v => exact .pure _ a'

end

theorem balanced_body (c : Closure) (a : Agent) : Balanced (body c) a := by
  apply (balanced_slots c a).bind
  intro f a₁
  apply (balanced_onStore _ a₁).bind
  intro scope a₂
  apply (balanced_onStore _ a₂).bind
  intro _ a₃
  let inner := (bodyContext f).inScope scope
  have henter : enter inner a₃ = .ok () (a₃.push inner) := rfl
  have hleave : (finalState (leaving (statements f.definition.body)) (a₃.push inner)).contexts =
      a₃.contexts :=
    contexts_leaving (balanced_statementsAfter .undefined f.definition.body _)
  show Balanced (enter inner >>= _) a₃
  rw [Balanced, finalState_bind_of_ok henter]
  -- what is made of the completion of the body happens outside its context
  refine (contexts_bind ?_).trans hleave
  intro r a'
  cases r <;> exact .pure _ a'

/-- **The contexts are balanced.** Whatever an agent evaluates, and however it ends, the contexts
afterwards are those before. -/
theorem contexts_balanced (a : Agent) :
    (∀ e, (finalState (expression e) a).contexts = a.contexts) ∧
      (∀ l, (finalState (statements l) a).contexts = a.contexts) ∧
      ∀ c, (finalState (body c) a).contexts = a.contexts :=
  ⟨fun e => balanced_expression e a, fun l => balanced_statementsAfter .undefined l a,
    fun c => balanced_body c a⟩

end FunctionObjects.Evaluation
