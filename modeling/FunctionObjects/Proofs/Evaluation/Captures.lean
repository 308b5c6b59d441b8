import FunctionObjects.Proofs.Evaluation.Handles
import FunctionObjects.Proofs.Evaluation.Nesting

/-!
# The scopes that functions capture

A function expression can stand in blocks of any depth. The function then is what it would be
outside, except that it is made in the scope of the innermost block. A named function has a scope of
its own for its name, and it is this scope that lies inside the one of the block.

All functions that come into being while statements are executed are made by one of the steps, so
what is known of steps is known of them. In particular, functions made in the same block share its
scope, and functions made in different blocks do not.
-/

namespace FunctionObjects

/-- The definition, if what the statement does is to evaluate a function expression. -/
def Statement.function? : Statement → Option FunctionDefinition
  | .expression (.function d) | .return (some (.function d)) => some d
  | _ => none

/-- The function that is made by a step, if one is. -/
def AtomicStep.made? (t : AtomicStep) : Option Closure :=
  t.statement.function?.bind fun d => Evaluation.result? (Evaluation.instantiate d) t.agent

namespace Store

open Closure

variable {s : Store} {h : HeapId} {context : Context} {d : FunctionDefinition}

/-- The scope in which a function was made. The name of a named function has a scope of its own
inside it. -/
def enclosing? (s : Store) (f : FunctionSlots) : Option ScopeId :=
  if f.definition.bindingName = "" then some f.scope else s.outer? f.scope

/-- What a function has when it has been made. -/
theorem slots?_afterFunction (hh : s.HasHeap h) (context : Context) (d : FunctionDefinition) :
    (s.afterFunction h context d).slotsId? (s.nextClosure h).ref = some (s.nextClosure h).slots ∧
      ∃ f, (s.afterFunction h context d).slots? (s.nextClosure h).ref = some f ∧
        f.definition = d ∧ f.MadeIn context ∧ f.scope = s.scopeFor context d.bindingName := by
  have hobject : (s.afterFunction h context d).object? (s.nextClosure h).ref = _ :=
    (object?_withFunction hh context d (selfBinding (s.heapSize h)) 0).trans (group_zero _ _)
  exact ⟨slotsId?_of_object? hobject, _, slots?_withFunction hh context d _, rfl, ⟨rfl, rfl, rfl⟩,
    rfl⟩

theorem enclosing?_afterFunction {f : FunctionSlots} (hd : f.definition = d)
    (hscope : f.scope = s.scopeFor context d.bindingName) :
    (s.afterFunction h context d).enclosing? f = some context.scope := by
  rw [enclosing?, hd, hscope]
  split
  · next hn => simp [Store.scopeFor, hn]
  · next hn =>
    obtain ⟨-, -, hown⟩ := scope_withFunction s h context (selfBinding (s.heapSize h)) hn
    exact congrArg Scope.outer hown

/-- Of the objects that belong to a new function only the first is a function. -/
theorem eq_zero_of_slots_group {n : ObjectId} {slots id : FunctionId} {k : Nat} {o : Object}
    (hk : (group h context d n slots)[k]? = some o) (ho : o.slots = some id) : k = 0 := by
  by_cases hd : d.species = .async
  · rw [group_of_async hd] at hk
    exact Nat.lt_one_iff.1 (List.getElem?_eq_some_iff.1 hk).1
  · obtain ⟨parent, -, hgroup⟩ := group_of_ne_async h context hd n slots
    rw [hgroup] at hk
    match k, hk with
    | 0, _ => rfl
    | 1, hk =>
      cases hk
      cases ho

/-- The functions after a function expression are those before and the new one. -/
theorem slots?_afterFunction_cases (hs : s.Scoped) (hh : s.HasHeap h) {r : ObjectRef}
    {f : FunctionSlots} (hf : (s.afterFunction h context d).slots? r = some f) :
    s.slots? r = some f ∨ r = .allocated h (s.heapSize h) := by
  obtain ⟨id, hid, hf⟩ := Option.bind_eq_some_iff.1 hf
  obtain ⟨o, ho, hslots⟩ := Option.bind_eq_some_iff.1 hid
  rw [(appends_afterFunction s h context d).object?_eq] at ho
  rcases object?_extend_cases hh ho with hold | ⟨k, rfl, hk⟩
  · have hold : s.slotsId? r = some id := (slotsId?_of_object? hold).trans hslots
    rw [function?_afterFunction_of_hasFunction h context d (hs.slots r id hold)] at hf
    exact .inl ((slots?_of_slotsId? hold).trans hf)
  · cases eq_zero_of_slots_group hk hslots
    exact .inr rfl

theorem slots?_withScopeFor (s : Store) (context : Context) (name : String) (b : Binding)
    (r : ObjectRef) : (s.withScopeFor context name b).slots? r = s.slots? r := by
  obtain ⟨-, -, -, -, -, hfunctions⟩ := withScopeFor_frame s context name b
  have hread : (s.withScopeFor context name b).function? = s.function? := by
    funext id
    rw [function?, hfunctions, function?]
  rw [slots?, slotsId?, object?_withScopeFor, hread, slots?, slotsId?]

end Store

namespace Evaluation

open Agent Store

variable {a b : Agent} {c : Context} {s : Statement} {d : FunctionDefinition} {fn : Closure}

/-! ### One step -/

theorem finalState_map {α β : Type} (act : Evaluation α) (f : α → β) (a : Agent) :
    finalState (act >>= fun x => pure (f x)) a = finalState act a := by
  cases h : act a with
  | ok x b =>
    rw [finalState_bind_of_ok h, finalState_of_ok h]
    rfl
  | error e b => rw [finalState_of_error (bind_of_error h), finalState_of_error h]

/-- A function expression as a statement does what it does by itself. -/
theorem finalState_of_function? (hs : s.function? = some d) (a : Agent) :
    finalState (statement s) a = finalState (instantiate d) a := by
  have hboth (f : Value → Completion) :
      finalState (expression (.function d) >>= fun v => pure (f v)) a =
        finalState (instantiate d) a := by
    rw [finalState_map, expression, finalState_map]
  cases s with
  | empty | block => cases hs
  | expression value =>
    cases value <;> cases hs
    exact hboth .normal
  | «return» value? =>
    rcases value? with _ | _ | _ | _ <;> cases hs
    exact hboth .returned

/-- No other step makes any function. -/
theorem finalState_of_function?_eq_none (hatomic : s.IsAtomic) (hs : s.function? = none)
    (hc : a.running? = some c) : finalState (statement s) a = a := by
  have hidentifier (name : String) : finalState (expression (.identifier name)) a = a := by
    rw [finalState, expression_identifier hc]
    cases a.store.lookupName c.scope name <;> rfl
  cases s with
  | empty | block => cases hatomic
  | expression value =>
    cases value with
    | literal => rfl
    | identifier => rw [statement, finalState_map, hidentifier]
    | function => cases hs
  | «return» value? =>
    cases value? with
    | none => rfl
    | some value =>
      cases value with
      | literal => rfl
      | identifier => rw [statement, finalState_map, hidentifier]
      | function => cases hs

/-- The function that a step has made is new, it is what it would be in any other scope of its
context, and it was made in the scope in which the step is taken. -/
theorem slots?_of_made? {t : AtomicStep} (ht : t.made? = some fn) (ha : t.agent.Orderly)
    (hc : t.agent.running? = some c) :
    t.agent.store.slots? fn.ref = none ∧ t.after.store.slotsId? fn.ref = some fn.slots ∧
      ∃ f, t.statement.function? = some f.definition ∧ t.after.store.slots? fn.ref = some f ∧
        f.MadeIn c ∧ t.after.store.enclosing? f = some c.scope := by
  obtain ⟨d, hd, hmade⟩ := Option.bind_eq_some_iff.1 ht
  have hafter : t.after = finalState (instantiate d) t.agent := finalState_of_function? hd t.agent
  rcases Nat.lt_or_ge (c.realm.intrinsics.functionPrototypeFor d.species)
    (t.agent.store.heapSize t.agent.heap) with hp | hp
  · have hinstantiate := ha.instantiate_of_lt hc hp
    rw [finalState_of_ok hinstantiate] at hafter
    rw [result?, hinstantiate] at hmade
    cases hmade
    obtain ⟨hslots, f, hf, hdef, hmadeIn, hscope⟩ := slots?_afterFunction ha.sound.heap c d
    rw [hafter]
    refine ⟨?_, hslots, f, hdef ▸ hd, hf, hmadeIn, enclosing?_afterFunction hdef hscope⟩
    · apply Option.eq_none_iff_forall_ne_some.2
      intro g hg
      exact absurd (.of_slots? hg) (not_live_nextObject t.agent.store t.agent.heap)
  · rw [result?, ha.instantiate_of_le hc hp] at hmade
    cases hmade

/-- A function that is there after a step was there before, or it is the one that the step has made.
-/
theorem slots?_after_cases {t : AtomicStep} (hatomic : t.statement.IsAtomic) (ha : t.agent.Orderly)
    (hc : t.agent.running? = some c) {r : ObjectRef} {f : FunctionSlots}
    (hf : t.after.store.slots? r = some f) :
    t.agent.store.slots? r = some f ∨ ∃ fn, t.made? = some fn ∧ fn.ref = r := by
  rw [AtomicStep.after] at hf
  cases hd : t.statement.function? with
  | none =>
    rw [finalState_of_function?_eq_none hatomic hd hc] at hf
    exact .inl hf
  | some d =>
    rw [finalState_of_function? hd] at hf
    rcases Nat.lt_or_ge (c.realm.intrinsics.functionPrototypeFor d.species)
      (t.agent.store.heapSize t.agent.heap) with hp | hp
    · have hinstantiate := ha.instantiate_of_lt hc hp
      rw [finalState_of_ok hinstantiate] at hf
      rcases slots?_afterFunction_cases ha.sound.functions ha.sound.heap hf with hold | rfl
      · exact .inl hold
      · right
        rw [AtomicStep.made?, hd, Option.bind_some, result?, hinstantiate]
        exact ⟨_, rfl, rfl⟩
    · rw [finalState_of_error (ha.instantiate_of_le hc hp), slots?_withScopeFor] at hf
      exact .inl hf

/-! ### All steps -/

/-- Every function that has come into being was made by a step. -/
theorem holdsAlong_slots?_cases :
    HoldsAlong
      (fun block place s a _ => ∀ r f, (finalState (statement s) a).store.slots? r = some f →
        a.store.slots? r = some f ∨
          ∃ t ∈ stepsOfStatement block place s a, ∃ fn, t.made? = some fn ∧ fn.ref = r)
      (fun block place l a _ => ∀ r f, (finalState (statements l) a).store.slots? r = some f →
        a.store.slots? r = some f ∨
          ∃ t ∈ stepsOfStatements block place l a, ∃ fn, t.made? = some fn ∧ fn.ref = r) where
  empty _ _ r f hf := .inl hf
  atomic {block place s a c} ha hc hs r f hf := by
    rw [stepsOfStatement_of_isAtomic hs]
    refine (slots?_after_cases (t := ⟨block, s, a⟩) hs ha hc hf).imp_right fun h => ?_
    exact ⟨_, List.mem_singleton_self _, h⟩
  inside {block place body a c} _ hc h r f hf := by
    rw [finalState_block hc] at hf
    rw [stepsOfStatement_block hc]
    exact h r f hf
  nil _ _ r f hf := .inl hf
  normal {block place s rest a b c v} _ _ hb hs _ hrest r f hf := by
    rw [finalState_of_ok hb] at hs
    rw [finalState_cons_of_normal hb] at hf
    simp only [stepsOfStatements_cons_of_normal hb, List.mem_append, or_and_right, exists_or]
    rcases hrest r f hf with hf | hmade
    · exact (hs r f hf).imp_right .inl
    · exact .inr (.inr hmade)
  stop {block place s rest a c} _ _ hnot hs r f hf := by
    rw [finalState_of_eq (statements_cons_of_not_completes hnot)] at hf
    rw [stepsOfStatements_cons_of_not_completes hnot]
    exact hs r f hf

theorem enclosing?_later (hlater : a.Later b) {f : FunctionSlots}
    (hf : a.store.HasScope f.scope) : b.store.enclosing? f = a.store.enclosing? f := by
  rw [enclosing?, enclosing?, outer?, outer?, (hlater.scopes _ hf).2]

/-- What a function is that was made by a step of an execution. -/
theorem slots?_of_mem_steps (ha : a.Orderly) (hc : a.running? = some c) {l : List Statement}
    {t : AtomicStep} (ht : t ∈ steps l a) (hfn : t.made? = some fn) :
    a.store.slots? fn.ref = none ∧
      (finalState (statements l) a).store.slotsId? fn.ref = some fn.slots ∧ ∃ f,
      (finalState (statements l) a).store.slots? fn.ref = some f ∧
      t.statement.function? = some f.definition ∧ f.MadeIn c ∧
      (finalState (statements l) a).store.enclosing? f = t.scope? ∧
      ∃ e, t.scope? = some e ∧ BlockScope a.store (finalState (statements l) a).store c.scope
        t.block.length e := by
  have hwithin := within_of_mem_steps ha hc ht
  obtain ⟨e, hrunning, hblock⟩ := hwithin.running
  obtain ⟨hnew, hslots, f, hdef, hf, hmadeIn, henclosing⟩ :=
    slots?_of_made? hfn hwithin.before.orderly hrunning
  have hscope : t.scope? = some e := congrArg (Option.map Context.scope) hrunning
  -- from the step on to the end of the execution
  have hlater : t.agent.Later (finalState (statements l) a) :=
    (hwithin.before.orderly.later_statement t.statement).trans hwithin.after
  refine ⟨?_, hwithin.after.slotsId _ _ hslots, f, hwithin.after.slots? hf, hdef,
    hmadeIn.of_inScope, ?_, e, hscope, hblock.mono (fun _ => id) hlater.scopes⟩
  · apply Option.eq_none_iff_forall_ne_some.2
    intro g hg
    rw [hwithin.before.slots? hg] at hnew
    cases hnew
  · have hafter : t.after.Orderly := (hwithin.before.orderly.later_statement t.statement).orderly
    rw [enclosing?_later hwithin.after (hafter.sound.functions.hasScope hf), henclosing, hscope]
    rfl

/-- **Functions capture the scopes of their blocks.** Every function that comes into being while a
list of statements is executed is made by one of the steps. Its slots are those that the step has
returned. It has the realm, the private scope and
the treatment of `this` that it would have outside of all blocks. It was made in the innermost of
the scopes for the blocks around it; these are new, bind nothing and lie one in the other, as many
as there are blocks, the outermost in the scope of the running context. And two functions were made
in the same scope if they were made in the same block, and only then. -/
theorem functions_capture_block_scopes (ha : a.Orderly) (hc : a.running? = some c)
    (l : List Statement) :
    let b := finalState (statements l) a
    (∀ r f, b.store.slots? r = some f → a.store.slots? r = none →
        ∃ t ∈ steps l a, ∃ fn, t.made? = some fn ∧ fn.ref = r) ∧
      (∀ t ∈ steps l a, ∀ fn, t.made? = some fn → a.store.slots? fn.ref = none ∧
        b.store.slotsId? fn.ref = some fn.slots ∧
        ∃ f, b.store.slots? fn.ref = some f ∧ t.statement.function? = some f.definition ∧
          f.MadeIn c ∧ ∃ e, b.store.enclosing? f = some e ∧
            BlockScope a.store b.store c.scope t.block.length e) ∧
      ∀ t ∈ steps l a, ∀ u ∈ steps l a, ∀ fn gn f g, t.made? = some fn → u.made? = some gn →
        b.store.slots? fn.ref = some f → b.store.slots? gn.ref = some g →
        (b.store.enclosing? f = b.store.enclosing? g ↔ t.block = u.block) := by
  intro b
  refine ⟨fun r f hf hnew => ?_, fun t ht fn hfn => ?_, ?_⟩
  · rcases holdsAlong_slots?_cases.statements [] 0 l ha hc r f hf with
      hold | hmade
    · rw [hnew] at hold
      cases hold
    · exact hmade
  · obtain ⟨hnew, hslots, f, hf, hdef, hmadeIn, henclosing, e, hscope, hblock⟩ :=
      slots?_of_mem_steps ha hc ht hfn
    exact ⟨hnew, hslots, f, hf, hdef, hmadeIn, e, henclosing.trans hscope, hblock⟩
  · intro t ht u hu fn gn f g hfn hgn hf hg
    obtain ⟨-, -, f', hf', -, -, henclosing, -⟩ := slots?_of_mem_steps ha hc ht hfn
    obtain ⟨-, -, g', hg', -, -, henclosing', -⟩ := slots?_of_mem_steps ha hc hu hgn
    cases hf.symm.trans hf'
    cases hg.symm.trans hg'
    rw [henclosing, henclosing', scope?_eq_iff ha hc ht hu]

/-- Two functions in a block, one of them with a name, a third in a block between them, and a fourth
in another block. -/
def siblingBlocks : List Statement :=
  [.block [.expression (.function (.ofParts 0 (some "f") [] [] .generator)),
      .block [.expression (.function (.ofParts 1 none [] [] .async))],
      .expression (.function (.ofParts 2 none [] [] .ordinary))],
    .block [.expression (.function (.ofParts 3 (some "f") [] [] .generator))]]

/-- The first two functions of a block were made in one scope, the one in the block between them
two scopes further in, and the one in the second block was made in a scope of its own. -/
theorem functions_capture_block_scopes_siblings :
    let a := strictStart
    let b := finalState (statements siblingBlocks) a
    a.Orderly ∧ a.running? = some (.forScript a.realm true) ∧
      ∃ f g h k, b.store.slots? (.allocated 0 7) = some f ∧
        b.store.slots? (.allocated 0 9) = some g ∧ b.store.slots? (.allocated 0 10) = some h ∧
        b.store.slots? (.allocated 0 12) = some k ∧
        b.store.enclosing? f = b.store.enclosing? h ∧
        b.store.enclosing? f ≠ b.store.enclosing? k ∧
        ∃ e, b.store.enclosing? g = some e ∧
          BlockScope a.store b.store a.realm.globalScope 2 e := by
  intro a b
  have ha : a.Orderly := orderly_of_start start_strict
  have hc : a.running? = some (.forScript a.realm true) := rfl
  let fn : Nat → Nat → Closure := fun id slots => ⟨id, .allocated 0 id, ⟨slots⟩⟩
  have hsteps : (steps siblingBlocks a).map (fun t => (t.block, t.made?)) =
      [([0], some (fn 7 0)), ([1, 0], some (fn 9 1)), ([0], some (fn 10 2)),
        ([1], some (fn 12 3))] := by
    decide +kernel
  have hmem : ∀ block fn, (block, some fn) ∈ (steps siblingBlocks a).map
      (fun t => (t.block, t.made?)) → ∃ t ∈ steps siblingBlocks a, t.block = block ∧
        t.made? = some fn := by
    intro block fn h
    obtain ⟨t, ht, heq⟩ := List.mem_map.1 h
    exact ⟨t, ht, congrArg Prod.fst heq, congrArg Prod.snd heq⟩
  obtain ⟨t, ht, htb, htm⟩ := hmem [0] (fn 7 0) (by simp [hsteps])
  obtain ⟨u, hu, hub, hum⟩ := hmem [1, 0] (fn 9 1) (by simp [hsteps])
  obtain ⟨v, hv, hvb, hvm⟩ := hmem [0] (fn 10 2) (by simp [hsteps])
  obtain ⟨w, hw, hwb, hwm⟩ := hmem [1] (fn 12 3) (by simp [hsteps])
  obtain ⟨-, hmade, hshared⟩ := functions_capture_block_scopes ha hc siblingBlocks
  obtain ⟨-, -, f, hf, -⟩ := hmade t ht _ htm
  obtain ⟨-, -, g, hg, -, -, e, hge, hblock⟩ := hmade u hu _ hum
  obtain ⟨-, -, h, hh, -⟩ := hmade v hv _ hvm
  obtain ⟨-, -, k, hk, -⟩ := hmade w hw _ hwm
  rw [hub] at hblock
  refine ⟨ha, hc, f, g, h, k, hf, hg, hh, hk, ?_, ?_, e, hge, hblock⟩
  · exact (hshared t ht v hv _ _ f h htm hvm hf hh).2 (htb.trans hvb.symm)
  · intro heq
    have hblocks := (hshared t ht w hw _ _ f k htm hwm hf hk).1 heq
    rw [htb, hwb] at hblocks
    cases hblocks

end Evaluation

end FunctionObjects
