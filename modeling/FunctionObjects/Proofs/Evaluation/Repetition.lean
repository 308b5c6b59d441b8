import FunctionObjects.Proofs.Evaluation.Names

/-!
# Evaluating a body again

The evaluation of a body leaves nothing behind that a second evaluation could notice, except that
the heap is larger. So the second evaluation takes the same course: it fails if the first one did,
and for the same reason; and otherwise it gives the same value, or a new function in the place of a
new function.

Both evaluations are followed in lockstep (`Agent.InStep`). Whatever has been made in one of them
has been made in the other, at the same distance from where its heap began, and names mean the same.
What they mean is older than both evaluations: the scopes that an evaluation adds bind names to
`undefined`, and the scope in which a new function sees itself is not that of any code that is
executed. Hence only a function expression that is returned can give a new object, and nothing is
executed after it.
-/

namespace FunctionObjects

/-! ### Functions that are alike -/

/-- Two objects, with these slots, are functions that were made of the same definition in the same
way. They may see different scopes. -/
structure Object.FunctionsAlike (o o' : Object) (f f' : FunctionSlots) : Prop where
  definition : f'.definition = f.definition
  species : f'.species = f.species
  thisMode : f'.thisMode = f.thisMode
  strict : f'.strict = f.strict
  realm : f'.realm = f.realm
  privateScope : f'.privateScope = f.privateScope
  ownKeys : o'.ownKeys = o.ownKeys
  functionName : o'.functionName = o.functionName
  functionLength : o'.functionLength = o.functionLength

/-- What is made of a function expression in two scopes, with the heap grown in between, is alike.
-/
theorem Closure.exists_functionsAlike_group (h : HeapId) (context : Context)
    (d : FunctionDefinition) (n n' : ObjectId) (slots slots' : FunctionId)
    (e scope scope' : ScopeId) :
    ∃ o o', (group h context d n slots)[0]? = some o ∧
      (group h (context.inScope e) d n' slots')[0]? = some o' ∧
      o.FunctionsAlike o' (functionSlots context d scope)
        (functionSlots (context.inScope e) d scope') := by
  refine ⟨_, _, group_zero n slots, group_zero n' slots', rfl, rfl, rfl, rfl, rfl, rfl, ?_, ?_, ?_⟩
  · rw [ownKeys_functionObject, ownKeys_functionObject]
    split <;> rfl
  · rw [functionName_functionObject, functionName_functionObject]
  · rw [functionLength_functionObject, functionLength_functionObject]

/-! ### What is older than an evaluation -/

/-- The realm was created in a heap, and may have gone through anything since. -/
def Realm.LivesIn (realm : Realm) (h : HeapId) (s : Store) : Prop :=
  ∃ s₀, realm.CreatedIn h s₀ ∧ Store.Changes (fun _ => True) True s₀ s

/-- What the functions of a realm inherit from is in its heap. -/
theorem Realm.LivesIn.functionPrototypeFor_lt {realm : Realm} {h : HeapId} {s : Store}
    (hr : realm.LivesIn h s) (species : Species) :
    realm.intrinsics.functionPrototypeFor species < s.heapSize h := by
  obtain ⟨s₀, hcreated, hchanges⟩ := hr
  exact (hcreated.functionPrototypeFor_lt species).trans_le (hchanges.grows.heapSize h)

/-- All objects to which names are bound, in a scope and further out, are in a heap. -/
def Store.BindsWithin (s : Store) (h : HeapId) (e : ScopeId) : Prop :=
  ∀ l, Chain s.outer? e l → ∀ e' ∈ l, ∀ name b q, (s.scope e').binding? name = some b →
    b.value = .object q → q < s.heapSize h

theorem Store.BindsWithin.lt_of_lookupName {s : Store} {h : HeapId} {e : ScopeId} {name : String}
    {q : ObjectId} (hw : s.BindsWithin h e) (hs : s.Nested) (he : s.HasScope e)
    (hq : s.lookupName e name = .ok (.object q)) : q < s.heapSize h := by
  obtain ⟨l, hl, -⟩ := hs.exists_chain e
  obtain ⟨e', he', b, hb, hvalue⟩ := hs.exists_binding_of_lookupName he hl hq
  exact hw l hl e' he' name b q hb hvalue

/-! ### What is repeated -/

namespace Store

variable {s s' : Store} {h : HeapId} {n m : Nat}

/-- The heap had `n` objects in the one store and `m` in the other, and as many have been added. -/
def GrownAlike (h : HeapId) (n m : Nat) (s s' : Store) : Prop :=
  ∃ k, s.heapSize h = n + k ∧ s'.heapSize h = m + k

/-- The second value repeats the first: it is the same, and no new object; or both are functions
that have been added at the same distance, and are alike. -/
inductive Repeats (h : HeapId) (n m : Nat) (s s' : Store) : Value → Value → Prop
  | same {v : Value} : (∀ q, v = .object q → q < n) → Repeats h n m s s' v v
  | anew {k : Nat} {o o' : Object} {f f' : FunctionSlots} :
      s.object? (.allocated h (n + k)) = some o → s'.object? (.allocated h (m + k)) = some o' →
      s.slots? (.allocated h (n + k)) = some f → s'.slots? (.allocated h (m + k)) = some f' →
      o.FunctionsAlike o' f f' → Repeats h n m s s' (.object (n + k)) (.object (m + k))

section

variable {c : Context} {d : FunctionDefinition} (e : ScopeId)

/-- The same function expression adds as many objects, wherever it stands. -/
theorem GrownAlike.afterFunction (hgrown : s.GrownAlike h n m s') (hh : s.HasHeap h)
    (hh' : s'.HasHeap h) :
    (s.afterFunction h c d).GrownAlike h n m (s'.afterFunction h (c.inScope e) d) := by
  obtain ⟨k, hk, hk'⟩ := hgrown
  refine ⟨k + d.species.groupSize, ?_, ?_⟩
  · rw [heapSize_afterFunction hh, hk, Nat.add_assoc]
  · rw [heapSize_afterFunction hh', hk', Nat.add_assoc]

/-- The functions that it makes are alike. -/
theorem GrownAlike.repeats_function (hgrown : s.GrownAlike h n m s') (hh : s.HasHeap h)
    (hh' : s'.HasHeap h) :
    (s.afterFunction h c d).Repeats h n m (s'.afterFunction h (c.inScope e) d)
      (.object (s.heapSize h)) (.object (s'.heapSize h)) := by
  obtain ⟨k, hk, hk'⟩ := hgrown
  obtain ⟨o, o', ho, ho', halike⟩ :=
    Closure.exists_functionsAlike_group h c d (s.heapSize h) (s'.heapSize h) s.nextFunction
      s'.nextFunction e (s.scopeFor c d.bindingName) (s'.scopeFor (c.inScope e) d.bindingName)
  have hnew : (s.afterFunction h c d).object? (.allocated h (s.heapSize h)) = some o :=
    (Closure.object?_withFunction hh c d _ 0).trans ho
  have hnew' :
      (s'.afterFunction h (c.inScope e) d).object? (.allocated h (s'.heapSize h)) = some o' :=
    (Closure.object?_withFunction hh' (c.inScope e) d _ 0).trans ho'
  have hslots : (s.afterFunction h c d).slots? (.allocated h (s.heapSize h)) = some _ :=
    Closure.slots?_withFunction hh c d _
  have hslots' :
      (s'.afterFunction h (c.inScope e) d).slots? (.allocated h (s'.heapSize h)) = some _ :=
    Closure.slots?_withFunction hh' (c.inScope e) d _
  rw [hk] at hnew hslots ⊢
  rw [hk'] at hnew' hslots' ⊢
  exact .anew hnew hnew' hslots hslots' halike

end

end Store

/-- The second execution has ended as the first has, and what it returns repeats what the first
returned. -/
inductive Ending.Repeats (h : HeapId) (n m : Nat) : Ending → Ending → Prop
  | failed {s s' : Store} (cause : Error) : s.GrownAlike h n m s' →
      Repeats h n m ⟨.error cause, s⟩ ⟨.error cause, s'⟩
  | completed {s s' : Store} : s.GrownAlike h n m s' → Repeats h n m ⟨.ok none, s⟩ ⟨.ok none, s'⟩
  | returned {s s' : Store} {v w : Value} : s.GrownAlike h n m s' → s.Repeats h n m s' v w →
      Repeats h n m ⟨.ok (some v), s⟩ ⟨.ok (some w), s'⟩

namespace Agent

open Store Evaluation

variable {n m : Nat} {a a' b b' : Agent} {c d : Context}

/-- Code in the context `d` of the second agent is about to do what code in the context `c` of the
first does: the heaps have grown alike since they had `n` and `m` objects, the contexts differ in
their scopes only, the realm is older, and names mean the same, which is no new object. -/
structure InStep (n m : Nat) (a b : Agent) (c d : Context) : Prop where
  heap : b.heap = a.heap
  grown : a.store.GrownAlike a.heap n m b.store
  context : c.inScope d.scope = d
  prototypes : ∀ species, c.realm.intrinsics.functionPrototypeFor species < n ∧
    c.realm.intrinsics.functionPrototypeFor species < m
  names : ∀ name, b.store.lookupName d.scope name = a.store.lookupName c.scope name
  old : ∀ name q, a.store.lookupName c.scope name = .ok (.object q) → q < n

namespace InStep

/-- Both agents may go on as long as their heaps grow alike. -/
theorem later (h : InStep n m a b c d) (ha : a.Orderly) (hb : b.Orderly) (hc : a.running? = some c)
    (hd : b.running? = some d) (ha' : a.Later a') (hb' : b.Later b')
    (hgrown : a'.store.GrownAlike a.heap n m b'.store) : InStep n m a' b' c d := by
  have hnames : ∀ name, a'.store.lookupName c.scope name = a.store.lookupName c.scope name :=
    ha'.lookupName ha (ha.hasScope hc)
  constructor
  case heap => rw [hb'.heap, ha'.heap, h.heap]
  case grown => rwa [ha'.heap]
  case context => exact h.context
  case prototypes => exact h.prototypes
  case names =>
    intro name
    rw [hb'.lookupName hb (hb.hasScope hd), h.names, hnames]
  case old =>
    intro name q hq
    rw [hnames] at hq
    exact h.old name q hq

/-- A block begins with a scope that binds nothing. -/
theorem inBlock (h : InStep n m a b c d) (ha : a.Orderly) (hb : b.Orderly)
    (hc : a.running? = some c) (hd : b.running? = some d) :
    InStep n m (a.inBlock c) (b.inBlock d) (c.inScope a.store.nextScope)
      (d.inScope b.store.nextScope) := by
  have hnames : ∀ name, (a.inBlock c).store.lookupName a.store.nextScope name =
      a.store.lookupName c.scope name := ha.lookupName_inBlock hc
  constructor
  case heap => exact h.heap
  case grown => exact h.grown
  case context =>
    rw [← h.context]
    rfl
  case prototypes => exact h.prototypes
  case names =>
    intro name
    exact (hb.lookupName_inBlock hd name).trans ((h.names name).trans (hnames name).symm)
  case old =>
    intro name q hq
    exact h.old name q ((hnames name).symm.trans hq)

/-- An expression fails in both agents or in neither, and its value is repeated. -/
theorem expression (h : InStep n m a b c d) (ha : a.Orderly) (hb : b.Orderly)
    (hc : a.running? = some c) (hd : b.running? = some d) (e : Expression) :
    (∃ v w s s', expression e a = .ok v { a with store := s } ∧
        expression e b = .ok w { b with store := s' } ∧ s.GrownAlike a.heap n m s' ∧
        s.Repeats a.heap n m s' v w) ∨
      ∃ cause, expression e a = .error cause a ∧ expression e b = .error cause b := by
  cases e with
  | literal l =>
    refine .inl ⟨l.toValue, l.toValue, a.store, b.store, rfl, rfl, h.grown, .same fun q hq => ?_⟩
    cases l <;> cases hq
  | identifier name =>
    rw [expression_identifier hc, expression_identifier hd, h.names name]
    cases hv : a.store.lookupName c.scope name with
    | ok v =>
      refine .inl ⟨v, v, a.store, b.store, rfl, rfl, h.grown, .same fun q hq => ?_⟩
      exact h.old name q (hq ▸ hv)
    | error cause => exact .inr ⟨cause, rfl, rfl⟩
  | function f =>
    obtain ⟨k, hk, hk'⟩ := h.grown
    obtain ⟨hn, hm⟩ := h.prototypes f.species
    have hrealm : d.realm = c.realm := (congrArg Context.realm h.context).symm
    have hp : c.realm.intrinsics.functionPrototypeFor f.species < a.store.heapSize a.heap :=
      hn.trans_le (hk ▸ Nat.le_add_right n k)
    have hp' : d.realm.intrinsics.functionPrototypeFor f.species < b.store.heapSize a.heap := by
      rw [hrealm]
      exact hm.trans_le (hk' ▸ Nat.le_add_right m k)
    have hh : a.store.HasHeap a.heap := hasHeap_of_lt_heapSize hp
    have hh' : b.store.HasHeap a.heap := hasHeap_of_lt_heapSize hp'
    have hgrown := h.grown.afterFunction (c := c) (d := f) d.scope hh hh'
    have hvalue := h.grown.repeats_function (c := c) (d := f) d.scope hh hh'
    rw [h.context] at hgrown hvalue
    rw [← h.heap] at hp'
    refine .inl ⟨_, _, _, _, bind_of_ok (ha.instantiate_of_lt hc hp),
      bind_of_ok (hb.instantiate_of_lt hd hp'), ?_⟩
    rw [h.heap]
    exact ⟨hgrown, hvalue⟩

theorem ending_of_isAtomic (h : InStep n m a b c d) (ha : a.Orderly) (hb : b.Orderly)
    (hc : a.running? = some c) (hd : b.running? = some d) {s : Statement} (hs : s.IsAtomic) :
    (ending (statement s) a).Repeats a.heap n m (ending (statement s) b) := by
  cases s with
  | expression e =>
    rw [statement]
    rcases h.expression ha hb hc hd e with ⟨v, w, s, s', hv, hw, hgrown, -⟩ | ⟨cause, he, he'⟩
    · rw [ending, ending, bind_of_ok hv, bind_of_ok hw]
      exact .completed hgrown
    · rw [ending, ending, bind_of_error he, bind_of_error he']
      exact .failed cause h.grown
  | «return» e =>
    cases e with
    | none => exact .returned h.grown (.same fun q hq => by cases hq)
    | some e =>
      rw [statement]
      rcases h.expression ha hb hc hd e with ⟨v, w, s, s', hv, hw, hgrown, hvalue⟩ |
        ⟨cause, he, he'⟩
      · rw [ending, ending, bind_of_ok hv, bind_of_ok hw]
        exact .returned hgrown hvalue
      · rw [ending, ending, bind_of_error he, bind_of_error he']
        exact .failed cause h.grown
  | empty | block => exact hs.elim

end InStep

end Agent

namespace Ending.Repeats

variable {h : HeapId} {n m : Nat} {e e' : Ending}

theorem grown (hr : e.Repeats h n m e') : e.store.GrownAlike h n m e'.store := by
  cases hr with
  | failed _ hgrown | completed hgrown | returned hgrown => exact hgrown

theorem outcome_eq_none_iff (hr : e.Repeats h n m e') :
    e'.outcome = .ok none ↔ e.outcome = .ok none := by
  cases hr with
  | failed | completed => exact Iff.rfl
  | returned => simp

/-- So is what a body gives that has ended so. -/
theorem result (hr : e.Repeats h n m e') :
    (∃ cause, e.outcome.map (·.getD .undefined) = .error cause ∧
        e'.outcome.map (·.getD .undefined) = .error cause) ∨
      ∃ v w, e.outcome.map (·.getD .undefined) = .ok v ∧
        e'.outcome.map (·.getD .undefined) = .ok w ∧ e.store.Repeats h n m e'.store v w := by
  cases hr with
  | failed cause => exact .inl ⟨cause, rfl, rfl⟩
  | completed => exact .inr ⟨.undefined, .undefined, rfl, rfl, .same fun q hq => by cases hq⟩
  | @returned s s' v w _ hvalue => exact .inr ⟨v, w, rfl, rfl, hvalue⟩

end Ending.Repeats

namespace Evaluation

open Agent Store

variable {a : Agent} {f : FunctionSlots} {fn : Closure}

/-- Executions that begin in step end alike. -/
theorem holdsAlong_repeated :
    HoldsAlong
      (fun _ _ s a c => ∀ n m b d, b.Orderly → b.running? = some d → InStep n m a b c d →
        (ending (statement s) a).Repeats a.heap n m (ending (statement s) b))
      (fun _ _ l a c => ∀ n m b d, b.Orderly → b.running? = some d → InStep n m a b c d →
        (ending (statements l) a).Repeats a.heap n m (ending (statements l) b)) where
  empty _ _ n m b d _ _ h := .completed h.grown
  atomic ha hc hs n m b d hb hd h := h.ending_of_isAtomic ha hb hc hd hs
  inside {_ _ body a c} ha hc hbody n m b d hb hd h := by
    rw [ending_block hc, ending_block hd]
    exact hbody n m _ _ (hb.later_inBlock hd).orderly (b.running?_inBlock d)
      (h.inBlock ha hb hc hd)
  nil _ _ n m b d _ _ h := .completed h.grown
  normal {_ _ s rest a a' c v} ha hc ha' hs _ hrest n m b d hb hd h := by
    have hend := hs n m b d hb hd h
    obtain ⟨w, b', hb'⟩ :=
      completes_iff.1 (hend.outcome_eq_none_iff.2 (completes_iff.2 ⟨v, a', ha'⟩))
    have hgrown := hend.grown
    rw [ending_of_normal ha', ending_of_normal hb'] at hgrown
    have hlater := ha.later_statement s
    have hlater' := hb.later_statement s
    rw [finalState_of_ok ha'] at hlater
    rw [finalState_of_ok hb'] at hlater'
    have hd' : b'.running? = some d := ((balanced_statement s b).running?_eq hb').trans hd
    rw [ending_cons_of_normal ha', ending_cons_of_normal hb', ← hlater.heap]
    exact hrest n m b' d hlater'.orderly hd' (h.later ha hb hc hd hlater hlater' hgrown)
  stop {_ _ s rest a c} _ _ hnot hs n m b d hb hd h := by
    have hend := hs n m b d hb hd h
    have hnot' : ¬ Completes (statement s) b :=
      fun hcompletes => hnot (hend.outcome_eq_none_iff.1 hcompletes)
    rw [ending_of_eq (statements_cons_of_not_completes hnot),
      ending_of_eq (statements_cons_of_not_completes hnot')]
    exact hend

end Evaluation

/-! ### Bodies -/

namespace Agent

open Evaluation Store

variable {a b : Agent} {f : FunctionSlots} {fn : Closure}

theorem Orderly.builds_body (ha : a.Orderly) (fn : Closure) :
    Builds (madeByBody fn a) a (finalState (body fn) a) :=
  (Evaluation.builds_body ha.genuine fn).finalState

theorem Orderly.later_body (ha : a.Orderly) (fn : Closure) : Later a (finalState (body fn) a) :=
  ha.later (keeps_body ha.sound fun _ _ _ _ => trivial).finalState (ha.builds_body fn)

/-- An agent and a later one are in step when both begin with the body of a function, if the realm
of the function and all that its code can name are in the heap already. -/
theorem Later.inStep_inBody (hb : a.Later b) (ha : a.Orderly)
    (hf : a.store.function? fn.slots = some f) (hr : f.realm.LivesIn a.heap a.store)
    (hw : a.store.BindsWithin a.heap f.scope)
    (hle : a.store.heapSize a.heap ≤ b.store.heapSize a.heap) :
    InStep (a.store.heapSize a.heap) (b.store.heapSize a.heap) (a.inBody f) (b.inBody f)
      ((bodyContext f).inScope a.store.nextScope) ((bodyContext f).inScope b.store.nextScope) := by
  have hscope : a.store.HasScope f.scope := ha.sound.functions.scope fn.slots f hf
  have hnames := ha.lookupName_inBody hf
  have hnames' := hb.orderly.lookupName_inBody (hb.functions fn.slots f hf)
  constructor
  case heap => exact hb.heap
  case grown => exact ⟨0, rfl, rfl⟩
  case context => rfl
  case prototypes =>
    intro species
    have hlt := hr.functionPrototypeFor_lt species
    exact ⟨hlt, hlt.trans_le hle⟩
  case names =>
    intro name
    refine (hnames' name).trans (Eq.trans ?_ (hnames name).symm)
    rw [hb.lookupName ha hscope]
  case old =>
    intro name q hq
    replace hq := (hnames name).symm.trans hq
    split at hq
    · cases hq
    · exact hw.lt_of_lookupName ha.nested hscope hq

end Agent

namespace Evaluation

open Agent Store

variable {a : Agent} {f : FunctionSlots} {fn : Closure}

/-- A body that is evaluated twice in a row ends alike, and the heap grows alike. -/
theorem body_ends_alike (ha : a.Orderly) (hf : a.store.function? fn.slots = some f)
    (hr : f.realm.LivesIn a.heap a.store) (hw : a.store.BindsWithin a.heap f.scope) :
    let b := finalState (body fn) a
    let e := finalState (body fn) b
    let n := a.store.heapSize a.heap
    let m := b.store.heapSize a.heap
    b.store.GrownAlike a.heap n m e.store ∧
      ((∃ cause, outcome (body fn) a = .error cause ∧ outcome (body fn) b = .error cause) ∨
        ∃ v w, outcome (body fn) a = .ok v ∧ outcome (body fn) b = .ok w ∧
          b.store.Repeats a.heap n m e.store v w) := by
  intro b e n m
  have hb : a.Later b := ha.later_body fn
  have hfb : b.store.function? fn.slots = some f := hb.functions fn.slots f hf
  have hle : n ≤ m :=
    (Nat.le_add_right _ _).trans_eq (ha.builds_body fn).adds.store.heapSize.symm
  have hend := holdsAlong_repeated.statements [] 0 f.definition.body
    (ha.later_inBody hf).orderly (a.running?_inBody f) n m (b.inBody f) _
    (hb.orderly.later_inBody hfb).orderly (b.running?_inBody f)
    (hb.inStep_inBody ha hf hr hw hle)
  have hstore : b.store = (ending (statements f.definition.body) (a.inBody f)).store :=
    store_finalState_body hf
  have hstore' : e.store = (ending (statements f.definition.body) (b.inBody f)).store :=
    store_finalState_body hfb
  rw [outcome_body hf, outcome_body hfb, hstore, hstore']
  exact ⟨hend.grown, hend.result⟩

/-- **A body that is evaluated again repeats itself with new objects.** Take a function whose realm
lives in the heap of the agent, and all objects that the captured scopes bind as well. If its body
is evaluated twice in a row, both evaluations add the same number of objects to the heap. Both fail
and give the same reason, or both have a result. If the first result is none of the objects that the
first evaluation has added, the second is the same. If it is, the second result is another object,
which the second evaluation has added at the same distance, and both are functions and alike. -/
theorem evaluating_again_repeats (ha : a.Orderly) (hf : a.store.function? fn.slots = some f)
    (hr : f.realm.LivesIn a.heap a.store) (hw : a.store.BindsWithin a.heap f.scope) :
    let b := finalState (body fn) a
    let e := finalState (body fn) b
    let n := a.store.heapSize a.heap
    let m := b.store.heapSize a.heap
    (∃ k, m = n + k ∧ e.store.heapSize a.heap = m + k) ∧
      ((∃ cause, outcome (body fn) a = .error cause ∧ outcome (body fn) b = .error cause) ∨
        ∃ v w, outcome (body fn) a = .ok v ∧ outcome (body fn) b = .ok w ∧
          ((∀ q, v = .object q → ¬ (n ≤ q ∧ q < m)) → w = v) ∧
          ∀ k, v = .object (n + k) → n + k < m →
            w = .object (m + k) ∧ m + k < e.store.heapSize a.heap ∧ w ≠ v ∧
            ∃ o o' g g', e.store.object? (.allocated a.heap (n + k)) = some o ∧
              e.store.object? (.allocated a.heap (m + k)) = some o' ∧
              e.store.slots? (.allocated a.heap (n + k)) = some g ∧
              e.store.slots? (.allocated a.heap (m + k)) = some g' ∧
              o.FunctionsAlike o' g g') := by
  intro b e n m
  have hb : a.Later b := ha.later_body fn
  obtain ⟨hgrown, hresult⟩ := body_ends_alike ha hf hr hw
  refine ⟨hgrown, hresult.imp id ?_⟩
  rintro ⟨v, w, hv, hw, hrepeats⟩
  refine ⟨v, w, hv, hw, fun hold => ?_, fun k hk hlt => ?_⟩
  · cases hrepeats with
    | same => rfl
    | @anew k o o' g g' ho =>
      -- such an object has been added by the first evaluation
      have hlt : n + k < m := live_allocated_iff.1 (.of_object? ho)
      exact absurd ⟨Nat.le_add_right n k, hlt⟩ (hold (n + k) rfl)
  · cases hrepeats with
    | same hold => exact absurd (hold (n + k) hk) (Nat.not_lt.2 (Nat.le_add_right n k))
    | @anew k' o o' g g' ho ho' hg hg' halike =>
      obtain rfl : k' = k := Nat.add_left_cancel (Value.object.inj hk)
      have hkept := (hb.orderly.builds_body fn).adds.store.object?_of_live
        (r := .allocated a.heap (n + k')) (.of_object? ho)
      refine ⟨rfl, live_allocated_iff.1 (.of_object? ho'), fun heq => ?_, o, o', g, g',
        hkept.trans ho, ho', (hb.orderly.later_body fn).slots? hg, hg', halike⟩
      have hsame : m + k' = n + k' := Value.object.inj heq
      omega

/-- A named function that makes a function and then returns another one from two blocks. -/
def givesGenerator : FunctionDefinition :=
  .ofParts 0 (some "f") []
    [.expression (.function (.ofParts 1 none [] [] .async)),
      .block [.block [.return (some (.function (.ofParts 2 (some "g") [] [] .generator)))]]]
    .ordinary

/-- Each evaluation adds three objects to the heap and gives the second of them. -/
theorem evaluating_again_repeats_generator :
    let a := (Command.instantiate givesGenerator).perform strictStart
    let fn : Closure := ⟨7, .allocated 0 7, ⟨0⟩⟩
    let b := finalState (body fn) a
    let e := finalState (body fn) b
    a.Orderly ∧ ∃ f, a.store.function? fn.slots = some f ∧ f.realm.LivesIn a.heap a.store ∧
      a.store.BindsWithin a.heap f.scope ∧ a.store.heapSize 0 = 9 ∧ b.store.heapSize 0 = 12 ∧
      e.store.heapSize 0 = 15 ∧ outcome (body fn) a = .ok (.object 10) ∧
      outcome (body fn) b = .ok (.object 13) ∧
      ∃ o o' g g', e.store.object? (.allocated 0 10) = some o ∧
        e.store.object? (.allocated 0 13) = some o' ∧
        e.store.slots? (.allocated 0 10) = some g ∧ e.store.slots? (.allocated 0 13) = some g' ∧
        o.FunctionsAlike o' g g' := by
  intro a fn b e
  have hstart : strictStart.Orderly := orderly_of_start start_strict
  have ha : a.Orderly := hstart.perform _
  have hread : (a.store.function? fn.slots).map (fun f => (f.realm, f.scope)) =
      some (strictStart.realm, ⟨1⟩) := by
    decide +kernel
  obtain ⟨f, hf, hfields⟩ := Option.map_eq_some_iff.1 hread
  have hrealm : f.realm = strictStart.realm := congrArg Prod.fst hfields
  have hscope : f.scope = ⟨1⟩ := congrArg Prod.snd hfields
  have hr : f.realm.LivesIn a.heap a.store := by
    have hreachable : (pushHeap {}).Reachable := .perform .refl .newHeap trivial
    obtain ⟨hadvances, -⟩ := (Command.instantiate givesGenerator).advances hstart.sound
    rw [hrealm]
    exact ⟨startStore, .next hreachable (by decide),
      hadvances.store.weaken (fun _ _ => trivial) False.elim⟩
  have hw : a.store.BindsWithin a.heap f.scope := by
    have hchain : Chain a.store.outer? f.scope [⟨1⟩, ⟨0⟩] := by
      rw [hscope]
      exact .link (by decide +kernel) (.last (by decide +kernel))
    have hentries : ∀ e ∈ [(⟨1⟩ : ScopeId), ⟨0⟩], ∀ p ∈ (a.store.scope e).bindings.entries,
        ∀ q ∈ p.2.value.object?, q < a.store.heapSize a.heap := by
      decide +kernel
    intro l hl e he name b q hb hq
    cases hl.unique hchain
    obtain ⟨before, after, hsplit, -⟩ := OrderedMap.exists_split hb
    exact hentries e he (name, b) (by simp [hsplit]) q (by simp [hq, Value.object?])
  have hsize : a.store.heapSize a.heap = 9 := by decide +kernel
  have hsize' : b.store.heapSize a.heap = 12 := by decide +kernel
  have hfirst : outcome (body fn) a = .ok (.object 10) := by decide +kernel
  obtain ⟨⟨k, hk, hk'⟩, hresult⟩ := evaluating_again_repeats ha hf hr hw
  replace hk : b.store.heapSize a.heap = a.store.heapSize a.heap + k := hk
  replace hk' : e.store.heapSize a.heap = b.store.heapSize a.heap + k := hk'
  have hlast : e.store.heapSize a.heap = 15 := by omega
  refine ⟨ha, f, hf, hr, hw, hsize, hsize', hlast, hfirst, ?_⟩
  rcases hresult with ⟨cause, hcause, -⟩ | ⟨v, w, hv, hw', -, hnew⟩
  · rw [hfirst] at hcause
    cases hcause
  · cases hfirst.symm.trans hv
    have hadded : a.store.heapSize a.heap + 1 < b.store.heapSize a.heap := by omega
    obtain ⟨rfl, -, -, o, o', g, g', ho, ho', hg, hg', halike⟩ := hnew 1 (by rw [hsize]) hadded
    rw [hsize] at ho hg
    rw [hsize'] at hw' ho' hg'
    exact ⟨hw', o, o', g, g', ho, ho', hg, hg', halike⟩

end Evaluation

end FunctionObjects
