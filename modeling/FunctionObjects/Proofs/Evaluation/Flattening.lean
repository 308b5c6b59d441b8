import FunctionObjects.Proofs.Evaluation.Order

/-!
# Blocks make no difference

A block only groups statements. If all blocks are dissolved and the empty statements left out, the
execution ends in the same way and leaves the same objects. The one thing that is different is which
scopes there are, and so which scope a function has captured.

Two executions are compared, that of the tree and that of its leaves, by agents which need not have
more in common than what code in them can tell (`Mirrors`): the objects but for the captured scopes,
the running context but for its scope, and the meaning of names. Entering a block keeps this, since
the new scope binds nothing. A function expression makes the same objects on both sides, because
what is made depends on the definition, the context and the size of the heap only. The rest is an
induction along the execution of the tree.
-/

namespace FunctionObjects

/-! ### Stores but for the scopes -/

/-- The slots of a function but for the scope that it has captured. -/
def FunctionSlots.withoutScope (f : FunctionSlots) : FunctionSlots := { f with scope := default }

/-- What there is in a store, except for the scopes and for what refers to them. -/
def Store.withoutScopes (s : Store) : Store :=
  { s with
    functions := s.functions.map FunctionSlots.withoutScope
    scopes := #[] }

def Ending.withoutScopes (e : Ending) : Ending := { e with store := e.store.withoutScopes }

/-- What is told of a step: the statement, and how its execution has ended. -/
def AtomicStep.report (t : AtomicStep) : Statement × Ending :=
  (t.statement, t.ending.withoutScopes)

namespace Store

open Closure

variable {s s' : Store} {h : HeapId}

theorem heapSize_withoutScopes (s : Store) (h : HeapId) :
    s.withoutScopes.heapSize h = s.heapSize h := rfl

theorem nextFunction_withoutScopes (s : Store) : s.withoutScopes.nextFunction = s.nextFunction :=
  congrArg FunctionId.mk Array.size_map

theorem withoutScopes_withScopeFor (s : Store) (context : Context) (name : String) (b : Binding) :
    (s.withScopeFor context name b).withoutScopes = s.withoutScopes := by
  unfold withScopeFor
  split <;> rfl

theorem withoutScopes_extend (s : Store) (h : HeapId) (l : List Object) :
    (s.extend h l).withoutScopes = s.withoutScopes.extend h l := rfl

theorem withoutScopes_pushFunction (s : Store) (f : FunctionSlots) :
    (s.pushFunction f).withoutScopes = s.withoutScopes.pushFunction f.withoutScope := by
  simp only [withoutScopes, pushFunction, Array.map_push]

/-- The slots of a new function are the same but for the scope that it captures. -/
theorem withoutScope_functionSlots (context : Context) (d : FunctionDefinition)
    (e e' e'' : ScopeId) :
    (functionSlots context d e).withoutScope =
      (functionSlots (context.inScope e'') d e').withoutScope := rfl

/-- A function expression adds the same objects in all scopes. -/
theorem withoutScopes_afterFunction (hs : s.withoutScopes = s'.withoutScopes) (h : HeapId)
    (context : Context) (e : ScopeId) (d : FunctionDefinition) :
    (s.afterFunction h context d).withoutScopes =
      (s'.afterFunction h (context.inScope e) d).withoutScopes := by
  have hsize : s.heapSize h = s'.heapSize h := by
    rw [← heapSize_withoutScopes, hs, heapSize_withoutScopes]
  have hnext : s.nextFunction = s'.nextFunction := by
    rw [← nextFunction_withoutScopes, hs, nextFunction_withoutScopes]
  rw [afterFunction, afterFunction, withFunction, withFunction, withoutScopes_extend,
    withoutScopes_extend, withoutScopes_pushFunction, withoutScopes_pushFunction,
    withoutScopes_withScopeFor, withoutScopes_withScopeFor, hs, hsize, hnext,
    withoutScope_functionSlots context d _ (s'.scopeFor (context.inScope e) d.bindingName) e]
  rfl

end Store

namespace Agent

open Store Evaluation

variable {a a' b b' : Agent} {c d : Context}

/-- What code in the context `c` of the first agent finds is what it finds in the context `d` of the
second: the same objects but for the captured scopes, and the same meaning of names. -/
structure Mirrors (a b : Agent) (c d : Context) : Prop where
  heap : b.heap = a.heap
  store : a.store.withoutScopes = b.store.withoutScopes
  context : c.inScope d.scope = d
  names : ∀ name, a.store.lookupName c.scope name = b.store.lookupName d.scope name

namespace Mirrors

theorem refl (a : Agent) (c : Context) : Mirrors a a c c := ⟨rfl, rfl, rfl, fun _ => rfl⟩

/-- Both agents may go on as long as the objects are the same afterwards. -/
theorem later (h : Mirrors a b c d) (ha : a.Orderly) (hb : b.Orderly) (hc : a.running? = some c)
    (hd : b.running? = some d) (ha' : a.Later a') (hb' : b.Later b')
    (hs : a'.store.withoutScopes = b'.store.withoutScopes) : Mirrors a' b' c d := by
  refine ⟨hb'.heap.trans (h.heap.trans ha'.heap.symm), hs, h.context, fun name => ?_⟩
  rw [ha'.lookupName ha (ha.hasScope hc), hb'.lookupName hb (hb.hasScope hd), h.names]

theorem inBlock (h : Mirrors a b c d) (ha : a.Orderly) (hc : a.running? = some c) :
    Mirrors (a.inBlock c) b (c.inScope a.store.nextScope) d :=
  ⟨h.heap, h.store, h.context, fun name => (ha.lookupName_inBlock hc name).trans (h.names name)⟩

/-- An expression has the same result in both agents, and adds the same objects. -/
theorem expression (h : Mirrors a b c d) (ha : a.Orderly) (hb : b.Orderly)
    (hc : a.running? = some c) (hd : b.running? = some d) (e : Expression) :
    (∃ v s s', expression e a = .ok v { a with store := s } ∧
        expression e b = .ok v { b with store := s' } ∧ s.withoutScopes = s'.withoutScopes) ∨
      ∃ cause s s', expression e a = .error cause { a with store := s } ∧
        expression e b = .error cause { b with store := s' } ∧
        s.withoutScopes = s'.withoutScopes := by
  cases e with
  | literal l => exact .inl ⟨l.toValue, a.store, b.store, rfl, rfl, h.store⟩
  | identifier name =>
    rw [expression_identifier hc, expression_identifier hd, ← h.names name]
    cases a.store.lookupName c.scope name with
    | ok v => exact .inl ⟨v, a.store, b.store, rfl, rfl, h.store⟩
    | error cause => exact .inr ⟨cause, a.store, b.store, rfl, rfl, h.store⟩
  | function f =>
    have hsize : b.store.heapSize b.heap = a.store.heapSize a.heap := by
      rw [← heapSize_withoutScopes, ← h.store, heapSize_withoutScopes, h.heap]
    have hrealm : d.realm = c.realm := (congrArg Context.realm h.context).symm
    rw [Evaluation.expression]
    rcases Nat.lt_or_ge (c.realm.intrinsics.functionPrototypeFor f.species)
      (a.store.heapSize a.heap) with hp | hp
    · -- there is the prototype for the function, and it is made
      have hp' : d.realm.intrinsics.functionPrototypeFor f.species <
          b.store.heapSize b.heap := by rwa [hrealm, hsize]
      refine .inl ⟨.object (a.store.heapSize a.heap), a.store.afterFunction a.heap c f,
        b.store.afterFunction b.heap d f, bind_of_ok (ha.instantiate_of_lt hc hp), ?_, ?_⟩
      · rw [bind_of_ok (hb.instantiate_of_lt hd hp'), ← hsize]
        rfl
      · rw [h.heap, ← h.context]
        exact withoutScopes_afterFunction h.store a.heap c d.scope f
    · have hp' : b.store.heapSize b.heap ≤
          d.realm.intrinsics.functionPrototypeFor f.species := by rwa [hrealm, hsize]
      refine .inr ⟨_, a.store.withScopeFor c f.bindingName { isMutable := false },
        b.store.withScopeFor d f.bindingName { isMutable := false },
        bind_of_error (ha.instantiate_of_le hc hp), ?_, ?_⟩
      · rw [bind_of_error (hb.instantiate_of_le hd hp'), hrealm]
      · rw [withoutScopes_withScopeFor, withoutScopes_withScopeFor]
        exact h.store

theorem ending_of_isAtomic (h : Mirrors a b c d) (ha : a.Orderly) (hb : b.Orderly)
    (hc : a.running? = some c) (hd : b.running? = some d) {s : Statement} (hs : s.IsAtomic) :
    (ending (statement s) a).withoutScopes = (ending (statement s) b).withoutScopes := by
  have hexpression (e : Expression) (f : Value → Completion) :
      (ending (Evaluation.expression e >>= fun v => pure (f v)) a).withoutScopes =
        (ending (Evaluation.expression e >>= fun v => pure (f v)) b).withoutScopes := by
    rcases h.expression ha hb hc hd e with ⟨v, s, s', hv, hv', hstores⟩ |
      ⟨cause, s, s', he, he', hstores⟩
    · rw [ending, ending, bind_of_ok hv, bind_of_ok hv']
      exact congrArg (Ending.mk _) hstores
    · rw [ending, ending, bind_of_error he, bind_of_error he']
      exact congrArg (Ending.mk _) hstores
  cases s with
  | expression e => exact hexpression e .normal
  | «return» e =>
    cases e with
    | none => exact congrArg (Ending.mk _) h.store
    | some e => exact hexpression e .returned
  | empty | block => exact hs.elim

end Mirrors

end Agent

namespace Evaluation

open Agent Statement

variable {a b : Agent} {c : Context} {act act' : Evaluation Completion}

/-- Where the endings are the same but for the scopes, both executions come to the end or neither.
-/
theorem completes_congr
    (h : (ending act a).withoutScopes = (ending act' b).withoutScopes) :
    Completes act a ↔ Completes act' b := by
  have houtcome : (ending act a).withoutScopes.outcome = (ending act' b).withoutScopes.outcome :=
    congrArg Ending.outcome h
  exact ⟨houtcome.symm.trans, houtcome.trans⟩

theorem stores_congr {v w : Value} {a' b' : Agent}
    (h : (ending act a).withoutScopes = (ending act' b).withoutScopes)
    (ha' : act a = .ok (.normal v) a') (hb' : act' b = .ok (.normal w) b') :
    a'.store.withoutScopes = b'.store.withoutScopes := by
  rw [ending, ending, ha', hb'] at h
  exact congrArg Ending.store h

/-- The execution of a tree is mirrored by that of its leaves, wherever these stand. -/
theorem holdsAlong_mirrored :
    HoldsAlong
      (fun block place s a c => ∀ b d block' place', b.Orderly → b.running? = some d →
        Mirrors a b c d →
        (ending (statement s) a).withoutScopes =
            (ending (statements s.flatten) b).withoutScopes ∧
          (stepsOfStatement block place s a).map AtomicStep.report =
            (stepsOfStatements block' place' s.flatten b).map AtomicStep.report)
      (fun block place l a c => ∀ b d block' place', b.Orderly → b.running? = some d →
        Mirrors a b c d →
        (ending (statements l) a).withoutScopes =
            (ending (statements (flattenAll l)) b).withoutScopes ∧
          (stepsOfStatements block place l a).map AtomicStep.report =
            (stepsOfStatements block' place' (flattenAll l) b).map AtomicStep.report) where
  empty _ _ b d block' place' _ _ h := ⟨congrArg (Ending.mk _) h.store, rfl⟩
  atomic {block place s a c} ha hc hs b d block' place' hb hd h := by
    have hending := h.ending_of_isAtomic ha hb hc hd hs
    rw [hs.flatten, ending_singleton, stepsOfStatements_singleton,
      stepsOfStatement_of_isAtomic hs, stepsOfStatement_of_isAtomic hs]
    exact ⟨hending, congrArg (fun e => [(s, e)]) hending⟩
  inside {block place body a c} ha hc hbody b d block' place' hb hd h := by
    rw [ending_block hc, stepsOfStatement_block hc, flatten]
    exact hbody b d block' place' hb hd (h.inBlock ha hc)
  nil _ _ b d block' place' _ _ h := ⟨congrArg (Ending.mk _) h.store, rfl⟩
  normal {block place s rest a a' c v} ha hc ha' hs _ hrest b d block' place' hb hd h := by
    obtain ⟨hending, hsteps⟩ := hs b d block' place' hb hd h
    obtain ⟨w, b', hb'⟩ :=
      completes_iff.1 ((completes_congr hending).1 (completes_iff.2 ⟨v, a', ha'⟩))
    have hlater := ha.later_statement s
    have hlater' := hb.later_statements s.flatten
    rw [finalState_of_ok ha'] at hlater
    rw [finalState_of_ok hb'] at hlater'
    have hd' : b'.running? = some d :=
      ((balanced_statementsAfter .undefined s.flatten b).running?_eq hb').trans hd
    obtain ⟨hending', hsteps'⟩ := hrest b' d block' (place' + s.flatten.length) hlater'.orderly hd'
      (h.later ha hb hc hd hlater hlater' (stores_congr hending ha' hb'))
    rw [flattenAll, ending_cons_of_normal ha', ending_append_of_normal hb',
      stepsOfStatements_cons_of_normal ha', stepsOfStatements_append_of_normal hb',
      List.map_append, List.map_append, hsteps, hsteps']
    exact ⟨hending', rfl⟩
  stop {block place s rest a c} _ _ hnot hs b d block' place' hb hd h := by
    obtain ⟨hending, hsteps⟩ := hs b d block' place' hb hd h
    have hnot' : ¬ Completes (statements s.flatten) b :=
      fun hcompletes => hnot ((completes_congr hending).2 hcompletes)
    rw [flattenAll, ending_of_eq (statements_cons_of_not_completes hnot),
      stepsOfStatements_cons_of_not_completes hnot,
      ending_append_of_not_completes hnot',
      stepsOfStatements_append_of_not_completes hnot']
    exact ⟨hending, hsteps⟩

/-- **Blocks make no difference.** Executing a list of statements ends as it would end if its blocks
were dissolved and its empty statements left out, with the same failure, the same returned value or
after the last statement. The same objects are left behind, but for the scopes that functions have
captured, and the same steps are taken, with the same results. Either way the statements are
executed in order. -/
theorem blocks_make_no_difference (ha : a.Orderly) (hc : a.running? = some c)
    (l : List Statement) :
    (ending (statements l) a).withoutScopes =
        (ending (statements (flattenAll l)) a).withoutScopes ∧
      (steps l a).map AtomicStep.report = (steps (flattenAll l) a).map AtomicStep.report ∧
      StrictlyInOrder l a ∧ StrictlyInOrder (flattenAll l) a := by
  obtain ⟨hending, hsteps⟩ :=
    holdsAlong_mirrored.statements [] 0 l ha hc a c [] 0 ha hc (.refl a c)
  exact ⟨hending, hsteps, strictlyInOrder ha hc l, strictlyInOrder ha hc (flattenAll l)⟩

/-- A block in a block ends with a `return`, and there is more behind it in both lists around. -/
def nestedReturn : List Statement :=
  [.empty,
    .block [.expression (.function (.ofParts 0 (some "f") [] [] .generator)),
      .block [.empty, .return (some (.function (.ofParts 1 none [] [] .async)))],
      .expression (.identifier "x")],
    .expression (.function (.ofParts 2 none [] [] .ordinary))]

/-- Of the four statements that are left without blocks two are executed, also in the blocks. -/
theorem blocks_make_no_difference_nested_return :
    strictStart.Orderly ∧ strictStart.running? = some (.forScript strictStart.realm true) ∧
      (ending (statements nestedReturn) strictStart).withoutScopes =
        (ending (statements (flattenAll nestedReturn)) strictStart).withoutScopes ∧
      (steps nestedReturn strictStart).map AtomicStep.report =
        (steps (flattenAll nestedReturn) strictStart).map AtomicStep.report ∧
      StrictlyInOrder nestedReturn strictStart ∧
      (flattenAll nestedReturn).length = 4 ∧
      (steps nestedReturn strictStart).map AtomicStep.block = [[1], [1, 1]] ∧
      (ending (statements nestedReturn) strictStart).outcome = .ok (some (.object 9)) := by
  have ha : strictStart.Orderly := orderly_of_start start_strict
  have hc : strictStart.running? = some (.forScript strictStart.realm true) := rfl
  obtain ⟨hending, hsteps, horder, -⟩ := blocks_make_no_difference ha hc nestedReturn
  exact ⟨ha, hc, hending, hsteps, horder, by decide, by decide +kernel, by decide +kernel⟩

end Evaluation

end FunctionObjects
