import FunctionObjects.Proofs.Evaluation.Building
import FunctionObjects.Proofs.Evaluation.Strictness

/-!
# What evaluation leaves behind

That evaluation only adds is known of every agent that is genuine. Here it is first seen that there
are no others: an agent is genuine at its beginning, and every command keeps it so, since it builds
on the store and leaves the contexts in the realms in which they are.

Then what was built is read off. The scopes, private scopes and objects that there were are as they
were, and the heap goes on with one complete function after the other. A failure is no exception: it
ends the list of functions, but leaves no part of one.
-/

namespace FunctionObjects.Agent

open Store Evaluation

variable {made : List Creation} {a a' : Agent} {settings : Settings}

/-! ### Agents are genuine -/

/-- There is no function at the beginning, and one context. -/
theorem genuine_of_start (h : start settings = .ok a) : a.Genuine := by
  have hnone := function?_of_start h
  rw [start_eq] at h
  cases h
  have hchanges : Changes (fun _ => True) False {} startStore := changes_startStore
  have hreachable : (pushHeap {}).Reachable := .perform .refl .newHeap trivial
  refine ⟨linked_empty.changes hchanges, fun c hc => ?_, fun id f hf => ?_⟩
  · rw [List.mem_singleton.1 hc]
    exact ⟨0, startStore, .next hreachable (by decide)⟩
  · rw [hnone id] at hf
    cases hf

theorem Genuine.builds (ha : a.Genuine) (h : Builds made a a')
    (hcontexts : ∀ c ∈ a'.contexts, ∃ c₀ ∈ a.contexts, c.realm = c₀.realm) : a'.Genuine := by
  refine ⟨h.store.linked ha.linked, fun c hc => ?_, fun id f hf => ?_⟩
  · obtain ⟨c₀, hc₀, hrealm⟩ := hcontexts c hc
    rw [hrealm]
    exact ha.contexts c₀ hc₀
  · exact (h.store.function? hf).elim (ha.functions id f) fun hr => hr

namespace Command

/-- The functions that a command makes. -/
def creations (a : Agent) : Command → List Creation
  | expression e => madeByExpression e a
  | statements l => madeByStatements l a
  | instantiate d => madeByDefinition d a
  | body c => madeByBody c a
  | enterBlock | leaveBlock => []

theorem builds (ha : a.Genuine) (cmd : Command) : Builds (cmd.creations a) a (cmd.perform a) := by
  cases cmd with
  | expression e => exact (builds_expression ha.ready e).finalState
  | statements l =>
    exact (builds_statementsAfter .undefined l ha.ready (holds_undefined a)).finalState
  | instantiate d => exact (builds_instantiate ha.ready d).finalState
  | body c => exact (builds_body ha c).finalState
  | enterBlock =>
    rw [perform]
    cases hc : a.running? with
    | none =>
      rw [finalState_of_error (enterBlock_of_none hc)]
      exact .refl a
    | some c =>
      rw [finalState_of_ok (enterBlock_of_some hc)]
      exact Builds.push (.scope (Scope.blank_empty _)) _
  | leaveBlock => exact ⟨rfl, .refl⟩

/-- Each context after a command is in the realm of one before it. -/
theorem exists_realm_of_mem {cmd : Command} {c : Context}
    (hc : c ∈ (cmd.perform a).contexts) : ∃ c₀ ∈ a.contexts, c.realm = c₀.realm := by
  have hbalanced : (cmd.perform a).contexts = a.contexts →
      ∃ c₀ ∈ a.contexts, c.realm = c₀.realm := fun h => ⟨c, h ▸ hc, rfl⟩
  cases cmd with
  | expression e => exact hbalanced (balanced_expression e a)
  | statements l => exact hbalanced (balanced_statementsAfter .undefined l a)
  | instantiate d => exact hbalanced (balanced_instantiate d a)
  | body fn => exact hbalanced (balanced_body fn a)
  | enterBlock =>
    rw [perform] at hc
    cases hrunning : a.running? with
    | none =>
      rw [finalState_of_error (enterBlock_of_none hrunning)] at hc
      exact ⟨c, hc, rfl⟩
    | some c₁ =>
      rw [finalState_of_ok (enterBlock_of_some hrunning)] at hc
      rcases List.mem_cons.1 hc with rfl | hc
      · exact ⟨c₁, List.mem_of_mem_head? hrunning, rfl⟩
      · exact ⟨c, hc, rfl⟩
  | leaveBlock => exact ⟨c, List.mem_of_mem_tail hc, rfl⟩

theorem genuine_perform (ha : a.Genuine) (cmd : Command) : (cmd.perform a).Genuine :=
  ha.builds (cmd.builds ha) fun _ => exists_realm_of_mem

theorem genuine_performAll (ha : a.Genuine) (cmds : List Command) :
    (performAll a cmds).Genuine := by
  induction cmds generalizing a with
  | nil => exact ha
  | cons cmd cmds ih => exact ih (genuine_perform ha cmd)

end Command

/-! ### What is left behind -/

/-- The second agent has all that the first one has, as it is there. Its heap has the functions of a
list besides. -/
structure Adds (made : List Creation) (a a' : Agent) : Prop where
  heap : a'.heap = a.heap
  store : Store.Adds a.heap a.store made a'.store

theorem Builds.adds (h : Builds made a a') : Adds made a a' := ⟨h.heap, h.store.adds⟩

/-- **Evaluation only adds.** Whatever an agent evaluates, and however that ends, all that there was
is as it was, and the heap goes on with the functions whose expressions were evaluated with success,
each of them complete. -/
theorem evaluation_only_adds (ha : a.Genuine) :
    (∀ d, Adds (madeByDefinition d a) a (finalState (instantiate d) a)) ∧
      (∀ e, Adds (madeByExpression e a) a (finalState (expression e) a)) ∧
      (∀ l, Adds (madeByStatements l a) a (finalState (statements l) a)) ∧
      ∀ c, Adds (madeByBody c a) a (finalState (body c) a) :=
  ⟨fun d => (Command.builds ha (.instantiate d)).adds,
    fun e => (Command.builds ha (.expression e)).adds,
    fun l => (Command.builds ha (.statements l)).adds,
    fun c => (Command.builds ha (.body c)).adds⟩

/-- Two functions are made, the first of them in a block. Then a name means nothing, and a third is
not made any more. -/
def failing : List Statement :=
  [.block [.expression (.function (.ofParts 0 (some "g") [] [] .generator))],
    .expression (.function (.ofParts 1 none [] [] .async)),
    .expression (.identifier "x"),
    .expression (.function (.ofParts 2 none [] [] .ordinary))]

/-- Where two functions were made before, two more are left behind by statements that fail. -/
theorem evaluation_only_adds_failing :
    let a := Command.performAll strictStart makeGenerator
    a.Genuine ∧ (∃ b, statements failing a = .error (.unresolvableReference "x") b) ∧
      (madeByStatements failing a).map (fun m => m.definition.site) = [0, 1] ∧
      Adds (madeByStatements failing a) a (finalState (statements failing) a) ∧
      a.store.heapSize 0 = 11 ∧ (finalState (statements failing) a).store.heapSize 0 = 14 := by
  intro a
  have ha : a.Genuine := Command.genuine_performAll (genuine_of_start start_strict) makeGenerator
  have hfails : (match statements failing a with
      | .ok _ _ => none
      | .error e _ => some e) = some (.unresolvableReference "x") := by
    decide +kernel
  obtain ⟨-, -, hstatements, -⟩ := evaluation_only_adds ha
  refine ⟨ha, ?_, by decide +kernel, hstatements failing, by decide +kernel, by decide +kernel⟩
  split at hfails
  · cases hfails
  · next e b heq =>
    cases hfails
    exact ⟨b, heq⟩

end FunctionObjects.Agent
