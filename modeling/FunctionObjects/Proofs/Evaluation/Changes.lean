import FunctionObjects.Evaluation.Basic
import FunctionObjects.Proofs.Store.Effects
import FunctionObjects.Proofs.Store.Functions

/-!
# Evaluation makes changes

Whatever an agent evaluates, it ends with the contexts with which it began, and with a store that
comes from the one at the beginning by elementary changes (`Agent.Keeps`). What is more, all
functions that are made on the way are made in the running context or, within a block, in a context
that differs from it in the scope only. So what is known of all functions made in the running
context is known of all that are made by the evaluation.

Of the body of a function the same can be said, but its context is not the one that is running. It
is built from the slots of the function.
-/

namespace FunctionObjects

open Store

namespace Agent

variable {made : FunctionSlots → Prop} {a a' a'' : Agent}

/-- All that is referred to exists: the heap, the scopes of the contexts, and those of functions. -/
structure Sound (a : Agent) : Prop where
  heap : a.store.HasHeap a.heap
  contexts : ∀ c ∈ a.contexts, a.store.HasScope c.scope
  functions : a.store.Scoped

/-- The second agent is the first after changes of its store. -/
structure Keeps (made : FunctionSlots → Prop) (a a' : Agent) : Prop where
  heap : a'.heap = a.heap
  realm : a'.realm = a.realm
  contexts : a'.contexts = a.contexts
  store : Changes made False a.store a'.store

/-- Every function that is made in the running context satisfies `made`. -/
def Permits (a : Agent) (made : FunctionSlots → Prop) : Prop :=
  ∀ c, a.running? = some c → ∀ f : FunctionSlots, f.MadeIn c → made f

theorem Keeps.refl (a : Agent) : Keeps made a a := ⟨rfl, rfl, rfl, .refl⟩

theorem Keeps.trans (h : Keeps made a a') (h' : Keeps made a' a'') : Keeps made a a'' :=
  ⟨h'.heap.trans h.heap, h'.realm.trans h.realm, h'.contexts.trans h.contexts,
    h.store.trans h'.store⟩

theorem Sound.keeps (ha : a.Sound) (h : Keeps made a a') : a'.Sound := by
  have hgrows : Grows a.store a'.store := Changes.grows h.store
  refine ⟨?_, fun c hc => ?_, ha.functions.changes h.store⟩
  · rw [h.heap]
    exact hgrows.hasHeap ha.heap
  · rw [h.contexts] at hc
    exact hgrows.hasScope (ha.contexts c hc)

theorem Permits.keeps (hm : a.Permits made) (h : Keeps made a a') : a'.Permits made := by
  intro c hc
  rw [running?, h.contexts] at hc
  exact hm c hc

theorem Sound.push (ha : a.Sound) {c : Context} (hc : a.store.HasScope c.scope) :
    (a.push c).Sound := by
  refine ⟨ha.heap, fun c' hc' => ?_, ha.functions⟩
  rcases List.mem_cons.1 hc' with rfl | hc'
  · exact hc
  · exact ha.contexts c' hc'

theorem Sound.pop (ha : a.Sound) : a.pop.Sound :=
  ⟨ha.heap, fun c hc => ha.contexts c (List.mem_of_mem_tail hc), ha.functions⟩

/-- The agent with a new scope inside another one. -/
def withScope (a : Agent) (outer : ScopeId) : Agent :=
  { a with store := a.store.pushScope { outer } }

theorem keeps_withScope {outer : ScopeId} (ho : a.store.HasScope outer) :
    Keeps made a (a.withScope outer) := by
  refine ⟨rfl, rfl, rfl, .single (.newScope fun e he => ?_)⟩
  cases he
  exact ho

theorem hasScope_withScope (outer : ScopeId) :
    (a.withScope outer).store.HasScope a.store.nextScope := by
  simp [withScope, HasScope, pushScope, nextScope]

/-- When a context ends, those that were there before it are left. -/
theorem Keeps.pop {c : Context} (h : Keeps made (a.push c) a') : Keeps made a a'.pop := by
  refine ⟨h.heap, h.realm, ?_, h.store⟩
  show a'.contexts.tail = a.contexts
  rw [h.contexts]
  rfl

end Agent

namespace Evaluation

open Agent

variable {made : FunctionSlots → Prop} {a b : Agent} {α β : Type}

/-! ### The single steps -/

theorem onStore_of_ok {act : Effect α} {x : α} {s : Store} (h : act a.store = .ok x s) :
    onStore act a = .ok x { a with store := s } := by
  simp only [onStore, h]

theorem onStore_of_error {act : Effect α} {e : Error} {s : Store}
    (h : act a.store = .error e s) : onStore act a = .error e { a with store := s } := by
  simp only [onStore, h]

theorem keeps_onStore {act : Effect α} {Q : α → Store → Prop}
    (h : Moves (Changes made False) act a.store Q) :
    Moves (Keeps made) (onStore act) a fun x a' => Q x a'.store := by
  obtain ⟨store, heap, realm, contexts⟩ := a
  cases hact : act store with
  | ok x store' =>
    obtain ⟨hchanges, hQ⟩ := h.of_ok hact
    simp only [Moves, onStore, hact]
    exact ⟨⟨rfl, rfl, rfl, hchanges⟩, hQ⟩
  | error e store' =>
    have hchanges : Changes made False store store' := by simpa [Moves, hact] using h
    simp only [Moves, onStore, hact]
    exact ⟨rfl, rfl, rfl, hchanges⟩

theorem running_of_some {c : Context} (hc : a.running? = some c) : running a = .ok c a := by
  simp [running, hc]

theorem running_of_none (hc : a.running? = none) :
    running a = .error .noRunningContext a := by
  simp [running, hc]

theorem instantiate_of_some {c : Context} (hc : a.running? = some c) (d : FunctionDefinition) :
    instantiate d a = onStore (Closure.instantiate a.heap c d) a := by
  rw [instantiate, bind_of_ok (running_of_some hc)]
  rfl

theorem instantiate_of_none (hc : a.running? = none) (d : FunctionDefinition) :
    instantiate d a = .error .noRunningContext a := by
  rw [instantiate, bind_of_error (running_of_none hc)]

theorem enterBlock_of_some {c : Context} (hc : a.running? = some c) :
    enterBlock a = .ok a.store.nextScope
      ((a.withScope c.scope).push (c.inScope a.store.nextScope)) := by
  rw [enterBlock, bind_of_ok (running_of_some hc)]
  rfl

theorem enterBlock_of_none (hc : a.running? = none) :
    enterBlock a = .error .noRunningContext a := by
  rw [enterBlock, bind_of_error (running_of_none hc)]

/-- A context that lasts as long as a computation leaves no other trace than the computation. -/
theorem keeps_leaving {act : Evaluation α} {c : Context} {Q : α → Agent → Prop}
    (hb : Keeps made a b) (h : Moves (Keeps made) act (b.push c) Q) :
    Moves (fun _ a' => Keeps made a a') (leaving act) (b.push c) fun _ _ => True := by
  cases hact : act (b.push c) with
  | ok x a' =>
    have hkeeps := (h.of_ok hact).1
    simp only [Moves, leaving, hact]
    exact ⟨hb.trans hkeeps.pop, trivial⟩
  | error e a' =>
    have hkeeps : Keeps made (b.push c) a' := by simpa [Moves, hact] using h
    simp only [Moves, leaving, hact]
    exact hb.trans hkeeps.pop

/-- What is done in the running context need only be looked at if there is one. -/
theorem keeps_running {f : Context → Evaluation α} {Q : α → Agent → Prop}
    (h : ∀ c, a.running? = some c → Moves (Keeps made) (f c) a Q) :
    Moves (Keeps made) (running >>= f) a Q := by
  unfold Moves
  cases hc : a.running? with
  | none =>
    rw [bind_of_error (running_of_none hc)]
    exact .refl a
  | some c =>
    rw [bind_of_ok (running_of_some hc)]
    exact h c hc

/-! ### Expressions and statements -/

theorem keeps_instantiate (ha : a.Sound) (hm : a.Permits made) (d : FunctionDefinition) :
    Moves (Keeps made) (instantiate d) a fun _ _ => True := by
  refine keeps_running fun c hc => ?_
  have hscope : a.store.HasScope c.scope := ha.contexts c (List.mem_of_mem_head? hc)
  have hmade : Moves (Changes made False) (Closure.instantiate a.heap c d) a.store
      fun _ _ => True :=
    (Closure.changes_instantiate d ha.heap hscope).forget.imp fun _ _ h => h.weaken (hm c hc) id
  have hget : (get : Evaluation Agent) a = .ok a a := rfl
  rw [Moves, bind_of_ok hget]
  exact keeps_onStore hmade

theorem keeps_expression (ha : a.Sound) (hm : a.Permits made) (e : Expression) :
    Moves (Keeps made) (expression e) a fun _ _ => True := by
  cases e with
  | literal l => exact .pure (.refl a) trivial
  | identifier name =>
    exact keeps_running fun c _ => keeps_onStore (Effect.changes_inspect _)
  | function d =>
    refine Moves.bind (fun _ _ _ => .trans) (keeps_instantiate ha hm d) fun c a' _ _ => ?_
    exact .pure (.refl a') trivial

mutual

theorem keeps_statement (s : Statement) {a : Agent} (ha : a.Sound) (hm : a.Permits made) :
    Moves (Keeps made) (statement s) a fun _ _ => True := by
  match s with
  | .empty => exact .pure (.refl a) trivial
  | .expression e =>
    refine Moves.bind (fun _ _ _ => .trans) (keeps_expression ha hm e) fun v a' _ _ => ?_
    exact .pure (.refl a') trivial
  | .return none => exact .pure (.refl a) trivial
  | .return (some e) =>
    refine Moves.bind (fun _ _ _ => .trans) (keeps_expression ha hm e) fun v a' _ _ => ?_
    exact .pure (.refl a') trivial
  | .block body =>
    unfold Moves
    cases hc : a.running? with
    | none =>
      rw [statement, bind_of_error (enterBlock_of_none hc)]
      exact .refl a
    | some c =>
      rw [statement, bind_of_ok (enterBlock_of_some hc)]
      have hb : Keeps made a (a.withScope c.scope) :=
        keeps_withScope (ha.contexts c (List.mem_of_mem_head? hc))
      have ha' : ((a.withScope c.scope).push (c.inScope a.store.nextScope)).Sound :=
        (ha.keeps hb).push (hasScope_withScope c.scope)
      -- the context of the block makes the same functions but for their scope
      have hm' : ((a.withScope c.scope).push (c.inScope a.store.nextScope)).Permits made := by
        intro c' hc' f hf
        cases hc'
        exact hm c hc f hf.of_inScope
      exact keeps_leaving hb (keeps_statementsAfter .undefined body ha' hm')

theorem keeps_statementsAfter (last : Value) (body : List Statement) {a : Agent} (ha : a.Sound)
    (hm : a.Permits made) :
    Moves (Keeps made) (statementsAfter last body) a fun _ _ => True := by
  match body with
  | [] => exact .pure (.refl a) trivial
  | s :: rest =>
    refine Moves.bind (fun _ _ _ => .trans) (keeps_statement s ha hm) fun r a' h _ => ?_
    -- after a `return` the rest is left out
    cases r with
    | normal v => exact keeps_statementsAfter v rest (ha.keeps h) (hm.keeps h)
    | returned v => exact .pure (.refl a') trivial

end

/-! ### Bodies -/

/-- The context in which the body of a function runs, but for its scope. -/
def bodyContext (f : FunctionSlots) : Context :=
  { realm := f.realm, scope := f.scope, privateScope := f.privateScope, strict := f.strict }

/-- The declaration of parameters is a series of operations on one scope. -/
theorem changes_setScope_declareParameters {s : Store} {e : ScopeId} (he : s.HasScope e)
    {names : List String} {scope : Scope}
    (h : (s.scope e).declareParameters names = .ok scope) :
    Changes made False s (s.setScope e scope) := by
  induction names generalizing s with
  | nil =>
    cases h
    rw [setScope_scope s e he]
  | cons name names ih =>
    rw [Scope.declareParameters] at h
    split at h
    · exact ih he h
    · obtain ⟨scope₁, h₁, h⟩ := exists_of_bind_eq_ok h
      obtain ⟨scope₂, h₂, h⟩ := exists_of_bind_eq_ok h
      let s₁ := s.setScope e scope₁
      let s₂ := s₁.setScope e scope₂
      have hdeclare : Change made False s s₁ :=
        Change.inScope he (show (Scope.Operation.declareMutable name false).apply _ = _ from h₁)
      have he₁ : s₁.HasScope e := hdeclare.grows.hasScope he
      have hscope₁ : s₁.scope e = scope₁ := by simp [s₁, scope_setScope s e e _ he]
      have hinit : Change made False s₁ s₂ := by
        rw [← hscope₁] at h₂
        exact .inScope he₁
          (show (Scope.Operation.initializeBinding name .undefined).apply _ = _ from h₂)
      have hscope₂ : s₂.scope e = scope₂ := by simp [s₂, scope_setScope s₁ e e _ he₁]
      have hrest : Changes made False s₂ (s₂.setScope e scope) :=
        ih (hinit.grows.hasScope he₁) (hscope₂ ▸ h)
      have hlast : s₂.setScope e scope = s.setScope e scope := by
        simp only [s₂, s₁, setScope_setScope]
      rw [← hlast]
      exact .head hdeclare (.head hinit hrest)

theorem slots_of_some {c : Closure} {f : FunctionSlots} (hf : a.store.function? c.slots = some f) :
    slots c a = .ok f a := by
  have hget : (get : Evaluation Agent) a = .ok a a := rfl
  rw [slots, bind_of_ok hget, hf]
  rfl

theorem slots_of_none {c : Closure} (hf : a.store.function? c.slots = none) :
    slots c a = .error (.refused (.danglingObject c.id)) a := by
  have hget : (get : Evaluation Agent) a = .ok a a := rfl
  rw [slots, bind_of_ok hget, hf]
  rfl

theorem keeps_body (ha : a.Sound) {c : Closure}
    (hm : ∀ f, a.store.function? c.slots = some f → ∀ g : FunctionSlots,
      g.MadeIn (bodyContext f) → made g) :
    Moves (Keeps made) (body c) a fun _ _ => True := by
  unfold Moves
  cases hf : a.store.function? c.slots with
  | none =>
    rw [body, bind_of_error (slots_of_none hf)]
    exact .refl a
  | some f =>
    rw [body, bind_of_ok (slots_of_some hf)]
    -- the scope that the function has captured exists, so a scope can be made inside it
    have houter : ∀ e, some f.scope = some e → a.store.HasScope e := by
      intro e he
      cases he
      exact ha.functions.scope c.slots f hf
    refine Moves.bind (fun _ _ _ => .trans) (keeps_onStore (Effect.changes_newScope houter))
      fun scope a₁ h₁ hscope => ?_
    have hparameters : Moves (Changes made False)
        (Effect.updateScope scope fun s => s.declareParameters f.definition.parameterNames)
        a₁.store fun _ _ => True := by
      simp only [Moves, Effect.updateScope]
      cases hdeclare : (a₁.store.scope scope).declareParameters f.definition.parameterNames with
      | ok scope' => exact ⟨changes_setScope_declareParameters hscope hdeclare, trivial⟩
      | error e => exact .refl
    refine Moves.bind (fun _ _ _ => .trans) (keeps_onStore hparameters) fun _ a₂ h₂ _ => ?_
    let inner := (bodyContext f).inScope scope
    have henter : enter inner a₂ = .ok () (a₂.push inner) := rfl
    have hscope₂ : a₂.store.HasScope scope := (Changes.grows h₂.store).hasScope hscope
    have ha₂ : (a₂.push inner).Sound := ((ha.keeps h₁).keeps h₂).push hscope₂
    have hm₂ : (a₂.push inner).Permits made := by
      intro c' hc' g hg
      cases hc'
      exact hm f hf g hg.of_inScope
    have hbody := keeps_leaving (.refl a₂)
      (keeps_statementsAfter .undefined f.definition.body ha₂ hm₂)
    -- what is done with the completion of the body changes nothing any more
    have hresult : ∀ g : Completion → Evaluation Value, (∀ r a', ∃ v, g r a' = .ok v a') →
        Moves (fun _ a' => Keeps made a₂ a') (leaving (statements f.definition.body) >>= g)
          (a₂.push inner) fun _ _ => True := by
      intro g hg
      refine Moves.bind (fun _ _ _ _ h => h) hbody fun r a' h _ => ?_
      obtain ⟨v, hv⟩ := hg r a'
      rw [Moves, hv]
      exact ⟨h, trivial⟩
    show Moves _ (enter inner >>= _) a₂ _
    rw [Moves, bind_of_ok henter]
    exact hresult _ fun r a' => by cases r <;> exact ⟨_, rfl⟩

end Evaluation

end FunctionObjects
