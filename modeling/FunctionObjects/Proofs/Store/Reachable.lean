import FunctionObjects.Proofs.Store.Effects
import FunctionObjects.Proofs.Store.Functions

/-!
# Reachable stores

`Store.Operation` lists what the users of the library can do to a store, one constructor for each
entry point, with all its arguments. An operation fits a store if the heaps, scopes and objects that
it is given exist there; that is all it may expect of its arguments. A store is reachable if a
series of operations that fit leads to it from the store without heaps, whether they succeed or
fail.

Since every operation is a series of elementary changes, whatever survives a single change holds of
all reachable stores: `Reachable.induction`.
-/

namespace FunctionObjects

namespace Store

/-- An operation on a store, with its arguments. -/
inductive Operation : Type where
  | newHeap
  /-- A new object that is given no place in any heap. -/
  | newLoose (o : Object)
  | allocate (h : HeapId) (o : Object)
  | createObject (h : HeapId) (prototype : Option ObjectId)
  | setPrototype (r : ObjectRef) (p : Option ObjectRef)
  | reparent (h : HeapId) (id : ObjectId) (parent : Option ObjectId)
  | defineProperty (r : ObjectRef) (key : String) (d : Descriptor)
  | setExtensible (r : ObjectRef) (extensible : Bool)
  | createRealm (h : HeapId)
  | createFunction (h : HeapId) (prototype : ObjectId) (d : FunctionDefinition)
      (thisMode : ThisMode) (scope : ScopeId) (privateScope : Option PrivateScopeId)
      (realm : Realm)
  | instantiate (h : HeapId) (context : Context) (d : FunctionDefinition)
  | setLength (c : Closure) (length : Nat)
  | setName (c : Closure) (name : FunctionName) (lead : Option String)
  | makeConstructor (c : Closure) (h : HeapId) (objectPrototype : ObjectId)
  | makeMethod (c : Closure) (home : ObjectId)
  | newScope (outer : Option ScopeId)
  | inScope (e : ScopeId) (op : Scope.Operation)
  | newPrivateScope (outer : Option PrivateScopeId)
  | declarePrivate (p : PrivateScopeId) (description : String)

namespace Operation

/-- The store after an operation, whether it succeeded or failed. -/
def perform (s : Store) : Operation → Store
  | newHeap => s.pushHeap
  | newLoose o => s.pushLoose o
  | allocate h o => finalState (Effect.allocate h o) s
  | createObject h prototype => finalState (Effect.createObject h prototype) s
  | setPrototype r p => finalState (Effect.setPrototype r p) s
  | reparent h id parent => finalState (Effect.reparent h id parent) s
  | defineProperty r key d => finalState (Effect.defineProperty r key d) s
  | setExtensible r extensible =>
    finalState (Effect.updateObject r fun o => .ok { o with extensible }) s
  | createRealm h => finalState (Realm.create h) s
  | createFunction h prototype d thisMode scope privateScope realm =>
    finalState (Closure.create h prototype d thisMode scope privateScope realm) s
  | instantiate h context d => finalState (Closure.instantiate h context d) s
  | setLength c length => finalState (c.setLength length) s
  | setName c name lead => finalState (c.setName name lead) s
  | makeConstructor c h objectPrototype => finalState (c.makeConstructor h objectPrototype) s
  | makeMethod c home => finalState (c.makeMethod home) s
  | newScope outer => finalState (Effect.newScope { outer }) s
  | inScope e op => finalState (Effect.updateScope e fun scope => op.apply scope) s
  | newPrivateScope outer => s.pushPrivateScope { outer }
  | declarePrivate p description => (s.declarePrivate p description).2

/-- What an operation expects of its arguments: objects come into the store as they come into being,
what is referred to exists, and what is said of a function is so. -/
def Fits (s : Store) : Operation → Prop
  | newHeap => True
  | newLoose o => o.IsFresh ∧ o.id = none ∧ o.slots = none
  | allocate h o => s.HasHeap h ∧ o.IsFresh ∧ o.slots = none
  | createObject h _ => s.HasHeap h
  | setPrototype r p => s.Live r ∧ ∀ q ∈ p, s.Live q
  | reparent h _ _ => s.HasHeap h
  | defineProperty r _ _ => s.Live r
  | setExtensible r _ => s.Live r
  | createRealm h => s.HasHeap h
  | createFunction h _ _ _ scope privateScope _ =>
    s.HasHeap h ∧ s.HasScope scope ∧ ∀ p ∈ privateScope, s.HasPrivateScope p
  | instantiate h context _ =>
    s.HasHeap h ∧ s.HasScope context.scope ∧ ∀ p ∈ context.privateScope, s.HasPrivateScope p
  | setLength c _ => s.HasClosure c
  | setName c _ _ => s.HasClosure c
  | makeConstructor c h _ => s.HasClosure c ∧ s.HasHeap h
  | makeMethod c _ => s.HasClosure c
  | newScope outer => ∀ e ∈ outer, s.HasScope e
  | inScope e _ => s.HasScope e
  | newPrivateScope outer => ∀ p ∈ outer, s.HasPrivateScope p
  | declarePrivate p _ => s.HasPrivateScope p

instance (o : Object) : Decidable o.IsFresh :=
  decidable_of_iff (o.prototype = none ∧ o.properties.keys.Nodup)
    ⟨fun h => ⟨h.1, h.2⟩, fun h => ⟨h.prototype, h.distinct⟩⟩

instance (s : Store) : (op : Operation) → Decidable (op.Fits s)
  | newHeap => inferInstanceAs (Decidable True)
  | newLoose o => inferInstanceAs (Decidable (o.IsFresh ∧ o.id = none ∧ o.slots = none))
  | allocate h o => inferInstanceAs (Decidable (s.HasHeap h ∧ o.IsFresh ∧ o.slots = none))
  | createObject h _ => inferInstanceAs (Decidable (s.HasHeap h))
  | setPrototype r p => inferInstanceAs (Decidable (s.Live r ∧ ∀ q ∈ p, s.Live q))
  | reparent h _ _ => inferInstanceAs (Decidable (s.HasHeap h))
  | defineProperty r _ _ => inferInstanceAs (Decidable (s.Live r))
  | setExtensible r _ => inferInstanceAs (Decidable (s.Live r))
  | createRealm h => inferInstanceAs (Decidable (s.HasHeap h))
  | createFunction h _ _ _ scope privateScope _ =>
    inferInstanceAs
      (Decidable (s.HasHeap h ∧ s.HasScope scope ∧ ∀ p ∈ privateScope, s.HasPrivateScope p))
  | instantiate h context _ =>
    inferInstanceAs (Decidable (s.HasHeap h ∧ s.HasScope context.scope ∧
      ∀ p ∈ context.privateScope, s.HasPrivateScope p))
  | setLength c _ => inferInstanceAs (Decidable (s.HasClosure c))
  | setName c _ _ => inferInstanceAs (Decidable (s.HasClosure c))
  | makeConstructor c h _ => inferInstanceAs (Decidable (s.HasClosure c ∧ s.HasHeap h))
  | makeMethod c _ => inferInstanceAs (Decidable (s.HasClosure c))
  | newScope outer => inferInstanceAs (Decidable (∀ e ∈ outer, s.HasScope e))
  | inScope e _ => inferInstanceAs (Decidable (s.HasScope e))
  | newPrivateScope outer => inferInstanceAs (Decidable (∀ p ∈ outer, s.HasPrivateScope p))
  | declarePrivate p _ => inferInstanceAs (Decidable (s.HasPrivateScope p))

/-- The store after a series of operations. -/
def performAll (s : Store) (ops : List Operation) : Store := ops.foldl perform s

/-- Something is so before a series of operations, after each of them and so at the end. -/
def Throughout (s : Store) (ops : List Operation) (P : Store → Prop) : Prop :=
  ∀ before, before <+: ops → P (performAll s before)

theorem Throughout.first {s : Store} {ops : List Operation} {P : Store → Prop}
    (h : Throughout s ops P) : P s :=
  h [] List.nil_prefix

theorem Throughout.last {s : Store} {ops : List Operation} {P : Store → Prop}
    (h : Throughout s ops P) : P (performAll s ops) :=
  h ops List.prefix_rfl

theorem throughout_nil {s : Store} {P : Store → Prop} : Throughout s [] P ↔ P s := by
  refine ⟨Throughout.first, fun h before hbefore => ?_⟩
  rw [List.prefix_nil.1 hbefore]
  exact h

theorem throughout_cons {s : Store} {op : Operation} {ops : List Operation} {P : Store → Prop} :
    Throughout s (op :: ops) P ↔ P s ∧ Throughout (op.perform s) ops P := by
  constructor
  · intro h
    refine ⟨h.first, fun before hbefore => h (op :: before) ?_⟩
    exact List.cons_prefix_cons.2 ⟨rfl, hbefore⟩
  · rintro ⟨hnow, hlater⟩ before hbefore
    rcases List.prefix_cons_iff.1 hbefore with rfl | ⟨before, rfl, hrest⟩
    · exact hnow
    · exact hlater before hrest

instance decidableThroughout (P : Store → Prop) [DecidablePred P] (s : Store) :
    (ops : List Operation) → Decidable (Throughout s ops P)
  | [] => decidable_of_iff (P s) throughout_nil.symm
  | op :: ops =>
    have := decidableThroughout P (op.perform s) ops
    decidable_of_iff (P s ∧ Throughout (op.perform s) ops P) throughout_cons.symm

/-- Each of a series of operations fits the store that those before it have led to. -/
def FitAll (s : Store) : List Operation → Prop
  | [] => True
  | op :: ops => op.Fits s ∧ FitAll (op.perform s) ops

instance decidableFitAll (s : Store) : (ops : List Operation) → Decidable (FitAll s ops)
  | [] => inferInstanceAs (Decidable True)
  | op :: ops =>
    have := decidableFitAll (op.perform s) ops
    inferInstanceAs (Decidable (op.Fits s ∧ FitAll (op.perform s) ops))

end Operation

/-- The second store comes from the first by one operation. -/
def Step (s s' : Store) : Prop := ∃ op : Operation, op.Fits s ∧ s' = op.perform s

/-- The second store comes from the first by operations, any number of them in any order. -/
abbrev Steps : Store → Store → Prop := Relation.ReflTransGen Step

/-- The store comes from the one without heaps by operations. -/
def Reachable (s : Store) : Prop := Steps {} s

/-! ### Operations as changes -/

/-- There is one operation that writes the flag `extensible` of an object. -/
def Operation.WritesFlag : Operation → Prop
  | setExtensible _ _ => True
  | _ => False

/-- The slots of the function that an operation makes, if it is one of those that make functions. -/
def Operation.makes? (s : Store) : Operation → Option FunctionSlots
  | createFunction _ _ d thisMode scope privateScope realm =>
    some { definition := d, scope, privateScope, thisMode, realm }
  | instantiate _ context d => some (.ofContext context d (s.scopeFor context d.bindingName))
  | _ => none

/-- Every operation is a series of changes, and makes no function but that of `makes?`. -/
theorem Operation.changes_of_makes? {s : Store} {op : Operation} (h : op.Fits s) :
    Changes (fun f => op.makes? s = some f) op.WritesFlag s (op.perform s) := by
  cases op with
  | newHeap => exact .single .newHeap
  | newLoose o => exact .single (.newLoose h.1 h.2.1 h.2.2)
  | allocate i o =>
    obtain ⟨hi, ho, hs⟩ := h
    exact (Effect.changes_allocate hi ho hs).finalState
  | createObject i p => exact (Effect.changes_createObject p h).finalState
  | setPrototype r p => exact (Effect.changes_setPrototype fun q hq => .inl (h.2 q hq)).finalState
  | reparent i id parent => exact (Effect.changes_reparent i id parent).finalState
  | defineProperty r key d => exact (Effect.changes_defineProperty r key d).finalState
  | setExtensible r extensible =>
    refine (Effect.changes_updateObject fun o o' ho => ?_).finalState
    cases ho
    exact .setExtensible extensible trivial
  | createRealm i => exact (Realm.changes_create h).finalState
  | createFunction i p d thisMode scope privateScope realm =>
    refine (Closure.changes_create h.1 h.2.1 ?_).finalState
    rfl
  | instantiate i context d =>
    refine (Closure.changes_instantiate_of_made h.1 h.2.1 ?_).finalState
    rfl
  | setLength c length => exact (Closure.changes_setLength c length).finalState
  | setName c name lead => exact (Closure.changes_setName c name lead).finalState
  | makeConstructor c i p => exact (Closure.changes_makeConstructor c p h.2).finalState
  | makeMethod c home => exact (Closure.changes_makeMethod c home).finalState
  | newScope outer => exact (Effect.changes_newScope h).finalState
  | inScope e op => exact (Effect.changes_updateScope op h).finalState
  | newPrivateScope outer => exact .single (.newPrivateScope h)
  | declarePrivate p description => exact .single (.declarePrivate h)

theorem Operation.changes {s : Store} {op : Operation} (h : op.Fits s) :
    Changes (fun _ => True) op.WritesFlag s (op.perform s) :=
  (changes_of_makes? h).weaken (fun _ _ => trivial) id

theorem Steps.changes {s s' : Store} (h : Steps s s') : Changes (fun _ => True) True s s' := by
  induction h with
  | refl => exact .refl
  | tail _ hstep ih =>
    obtain ⟨op, hfits, rfl⟩ := hstep
    exact ih.trans ((Operation.changes hfits).weaken (fun _ hf => hf) fun _ => trivial)

/-- Whatever is so in the store without heaps and survives every change is so in all reachable
stores. -/
theorem Reachable.induction {P : Store → Prop} (empty : P {})
    (change : ∀ s s', P s → Change (fun _ => True) True s s' → P s') {s : Store}
    (hs : s.Reachable) : P s := by
  have hc : Changes (fun _ => True) True {} s := Steps.changes hs
  clear hs
  induction hc with
  | refl => exact empty
  | tail _ hc ih => exact change _ _ ih hc

theorem Reachable.scoped {s : Store} (hs : s.Reachable) : s.Scoped :=
  hs.induction scoped_empty fun _ _ hs hc => hs.change hc

theorem Steps.performAll {s : Store} {ops : List Operation} (h : Operation.FitAll s ops) :
    Steps s (Operation.performAll s ops) := by
  induction ops generalizing s with
  | nil => exact .refl
  | cons op ops ih => exact .head ⟨op, h.1, rfl⟩ (ih h.2)

/-- What a series of operations leads to is reachable, and that they fit can be computed. -/
theorem Reachable.performAll {ops : List Operation} (h : Operation.FitAll {} ops) :
    (Operation.performAll {} ops).Reachable :=
  Steps.performAll h

theorem Reachable.perform {s : Store} (hs : s.Reachable) (op : Operation) (h : op.Fits s) :
    (op.perform s).Reachable :=
  Relation.ReflTransGen.tail hs ⟨op, h, rfl⟩

end Store

end FunctionObjects
