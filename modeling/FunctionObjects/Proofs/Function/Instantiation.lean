import FunctionObjects.Proofs.Realm.Creation

/-!
# What the evaluation of a function expression does

There is one thing that can go wrong when a function expression is evaluated: that the heap does
not have the prototype of the function's species. It goes wrong before anything is put into the
heap. Otherwise the course is known to the end, and the heap has the function and, if there are to
be instances, the object that they inherit from.

The course is given by two equations for each part, one for either case, and ends in
`instantiate_of_hasPrototypes` and `instantiate_of_le`. For the realms that `Realm.create` makes,
the one prototype decides: what the instances inherit from comes before it.
-/

namespace FunctionObjects

/-! ### The scope for the code of a function -/

namespace Store

variable {s : Store}

/-- The store with the scope for the name of a function, if it has a name. -/
def withScopeFor (s : Store) (context : Context) (name : String) (b : Binding) : Store :=
  if name.isEmpty then s else s.pushScope (.single name b (some context.scope))

/-- The scope for a name is all that is new. -/
theorem withScopeFor_frame (s : Store) (context : Context) (name : String) (b : Binding) :
    (s.withScopeFor context name b).heaps = s.heaps ∧
      (s.withScopeFor context name b).loose = s.loose ∧
      (s.withScopeFor context name b).privateScopes = s.privateScopes ∧
      (s.withScopeFor context name b).privateNamesIssued = s.privateNamesIssued ∧
      (s.withScopeFor context name b).realmsIssued = s.realmsIssued ∧
      (s.withScopeFor context name b).functions = s.functions := by
  unfold withScopeFor
  split <;> exact ⟨rfl, rfl, rfl, rfl, rfl, rfl⟩

variable {context : Context} {name : String} {b : Binding}

theorem heapSize_withScopeFor (h : HeapId) :
    (s.withScopeFor context name b).heapSize h = s.heapSize h := by
  rw [heapSize, heap, (withScopeFor_frame s context name b).1]
  rfl

theorem hasHeap_withScopeFor {h : HeapId} :
    (s.withScopeFor context name b).HasHeap h ↔ s.HasHeap h := by
  rw [HasHeap, (withScopeFor_frame s context name b).1]
  rfl

theorem object?_withScopeFor (r : ObjectRef) :
    (s.withScopeFor context name b).object? r = s.object? r := by
  obtain ⟨hheaps, hloose, -⟩ := withScopeFor_frame s context name b
  cases r with
  | allocated h id => simp only [object?, heap, hheaps]
  | loose n => simp only [object?, hloose]

theorem Linked.withScopeFor (hs : s.Linked) : (s.withScopeFor context name b).Linked := by
  obtain ⟨hheaps, hloose, -⟩ := withScopeFor_frame s context name b
  refine hs.of_prototype? (hs.toConsistent.of_heaps hheaps hloose) (fun r => ?_) fun r hr => ?_
  · rw [prototype?, object?_withScopeFor]
    rfl
  · rw [Live, object?_withScopeFor]
    exact hr

/-- The scopes that there were are as they were. -/
theorem scope_withScopeFor {e : ScopeId} (he : s.HasScope e) :
    (s.withScopeFor context name b).HasScope e ∧
      (s.withScopeFor context name b).scope e = s.scope e := by
  unfold Store.withScopeFor
  split
  · exact ⟨he, rfl⟩
  · exact scope_pushScope_of_hasScope he _

/-- The next function that is made in a heap. -/
def nextClosure (s : Store) (h : HeapId) : Closure where
  id := s.heapSize h
  ref := .allocated h (s.heapSize h)
  slots := s.nextFunction

theorem nextClosure_withScopeFor (h : HeapId) :
    (s.withScopeFor context name b).nextClosure h = s.nextClosure h := by
  obtain ⟨-, -, -, -, -, hfunctions⟩ := withScopeFor_frame s context name b
  rw [nextClosure, heapSize_withScopeFor, nextFunction, hfunctions]
  rfl

end Store

namespace Closure

open Effect Store

variable {s : Store} {h : HeapId} {context : Context} {d : FunctionDefinition}

theorem scopeFor_eq (s : Store) (context : Context) (name : String) :
    scopeFor context name s = .ok (s.scopeFor context name)
      (s.withScopeFor context name { isMutable := false }) := by
  unfold scopeFor Store.scopeFor Store.withScopeFor
  split
  · rfl
  · have hnew : newScope { outer := some context.scope } s =
        .ok s.nextScope (s.pushScope { outer := some context.scope }) := rfl
    have hdeclare := updateScope_pushScope (s := s)
      (f := fun scope => scope.declareImmutable name false)
      (Scope.declareImmutable_empty (some context.scope) false)
    exact (bind_of_ok hnew).trans (bind_of_ok hdeclare)

/-! ### The function and its instances' prototype -/

/-- The heap has what a new function inherits from, and what its instances will. -/
structure HasPrototypes (s : Store) (h : HeapId) (context : Context) (d : FunctionDefinition) :
    Prop where
  function : context.realm.intrinsics.functionPrototypeFor d.species < s.heapSize h
  instances : ∀ q, context.realm.intrinsics.instanceParent? d.species = some q →
    q < s.heapSize h

/-- In a realm that was created in some heap, the prototype of the function is the younger of the
two. -/
theorem HasPrototypes.of_createdIn {i : HeapId} (hr : context.realm.CreatedIn i s)
    (hp : context.realm.intrinsics.functionPrototypeFor d.species < s.heapSize h) :
    HasPrototypes s h context d :=
  ⟨hp, fun _ hq => (hr.instanceParent_lt hq).trans hp⟩

theorem HasPrototypes.withScopeFor (hp : HasPrototypes s h context d) {name : String}
    {b : Binding} : HasPrototypes (s.withScopeFor context name b) h context d := by
  obtain ⟨hfunction, hinstances⟩ := hp
  constructor
  · rwa [heapSize_withScopeFor]
  · rwa [heapSize_withScopeFor]

section

variable (h : HeapId) (context : Context) (d : FunctionDefinition)

/-- The property that gives a function its length. -/
def lengthProperty : String × Property :=
  ("length", ⟨.number (Double.ofNat d.expectedArgumentCount), false, false, true⟩)

/-- The property that gives a function its name. -/
def nameProperty : String × Property :=
  ("name", ⟨.string (.ofString d.bindingName), false, false, true⟩)

/-- The slots of a function that is made in a context and ready for use. -/
def functionSlots (scope : ScopeId) : FunctionSlots :=
  { FunctionSlots.ofContext context d scope with isConstructor := d.species = .ordinary }

/-- The object of a function with the number `n` that is made in a context, with further own
properties after its length and name. -/
def functionObject (n : ObjectId) (slots : FunctionId)
    (properties : List (String × Property)) : Object where
  id := some n
  properties := ⟨lengthProperty d :: nameProperty d :: properties⟩
  prototype := some (.allocated h (context.realm.intrinsics.functionPrototypeFor d.species))
  slots := some slots
  className := d.species.className

/-- The property that leads from a function to what its instances inherit from. -/
def instanceLink (id : ObjectId) : String × Property :=
  ("prototype", ⟨.object id, true, false, false⟩)

/-- The property that leads back from there. -/
def constructorLink (id : ObjectId) : String × Property :=
  ("constructor", ⟨.object id, true, false, true⟩)

/-- All objects that belong to a new function whose number is `n`: the function, and what its
instances will inherit from. -/
def group (n : ObjectId) (slots : FunctionId) : List Object :=
  let i := context.realm.intrinsics
  match d.species with
  | .ordinary =>
    [functionObject h context d n slots [instanceLink (n + 1)],
      { Object.plain h (n + 1) i.objectPrototype with properties := ⟨[constructorLink n]⟩ }]
  | .async => [functionObject h context d n slots []]
  | .generator =>
    [functionObject h context d n slots [instanceLink (n + 1)],
      .plain h (n + 1) i.generatorPrototype]
  | .asyncGenerator =>
    [functionObject h context d n slots [instanceLink (n + 1)],
      .plain h (n + 1) i.asyncGeneratorPrototype]

end

/-- The function is the first of its group, whatever the species. -/
theorem group_zero (n : ObjectId) (slots : FunctionId) :
    (group h context d n slots)[0]? = some (functionObject h context d n slots
      (if d.species = .async then [] else [instanceLink (n + 1)])) := by
  unfold group
  cases d.species <;> rfl

/-- What the instances inherit from inherits itself from what the realm provides for the species.
-/
theorem group_one (n : ObjectId) (slots : FunctionId) :
    (group h context d n slots)[1]?.bind Object.prototype =
      (context.realm.intrinsics.instanceParent? d.species).map (.allocated h) := by
  unfold group
  cases d.species <;> rfl

theorem create_of_lt (hs : s.Linked) (hh : s.HasHeap h) {p : ObjectId} (hp : p < s.heapSize h)
    (thisMode : ThisMode) (scope : ScopeId) (privateScope : Option PrivateScopeId)
    (realm : Realm) :
    create h p d thisMode scope privateScope realm s = .ok (s.nextClosure h)
      ((s.pushFunction { definition := d, scope, privateScope, thisMode, realm }).extend h [
        { id := some (s.heapSize h)
          properties := ⟨[lengthProperty d]⟩
          prototype := some (.allocated h p)
          slots := some s.nextFunction
          className := d.species.className }]) := by
  let o : Object :=
    { id := some (s.heapSize h)
      slots := some s.nextFunction
      className := d.species.className }
  let s₁ := s.pushFunction { definition := d, scope, privateScope, thisMode, realm }
  have hs₁ : s₁.Linked := hs.pushFunction _
  have hh₁ : s₁.HasHeap h := hh
  have hallocate : allocate h { definition := d, scope, privateScope, thisMode, realm } s =
      .ok (s.nextClosure h) (s₁.extend h [o]) := by
    have hnew : newFunction { definition := d, scope, privateScope, thisMode, realm } s =
        .ok s.nextFunction s₁ := rfl
    rw [allocate, bind_of_ok hnew, bind_of_ok (allocate_eq hs₁ h _)]
    rfl
  have hlink := setPrototype_extend hs₁ hh₁ (o := o) rfl rfl rfl (live_allocated_iff.2 hp)
  have hlength := defineProperty_extend hh₁ (k := 0) rfl
    (l := [{ o with prototype := some (.allocated h p) }]) rfl rfl "length" List.not_mem_nil
    (.data (.number (Double.ofNat d.expectedArgumentCount)) false false true)
  rw [create, bind_of_ok (resolve_of_lt hs.toConsistent hp)]
  refine (bind_of_ok hallocate).trans ?_
  exact (bind_of_ok hlink).trans (bind_of_ok hlength)

/-- A prototype that does not exist is noticed before anything is done. -/
theorem create_of_le (hs : s.Linked) {p : ObjectId} (hp : s.heapSize h ≤ p) (thisMode : ThisMode)
    (scope : ScopeId) (privateScope : Option PrivateScopeId) (realm : Realm) :
    create h p d thisMode scope privateScope realm s =
      .error (.refused (.danglingObject p)) s := by
  rw [create, bind_of_error (resolve_of_le hs.toConsistent hp)]

theorem setName_eq (hh : s.HasHeap h) {c : Closure} (hc : c.ref = .allocated h (s.heapSize h))
    {o : Object} (hx : o.extensible = true) (ho : o.properties.entries = [lengthProperty d]) :
    setName c (.string (.ofString d.bindingName)) none (s.extend h [o]) =
      .ok () (s.extend h [{ o with properties := ⟨[lengthProperty d, nameProperty d]⟩ }]) := by
  have hkey : "name" ∉ o.ownKeys := by
    simp [Object.ownKeys, OrderedMap.keys, ho, lengthProperty]
  have hname := defineProperty_extend hh (k := 0) rfl (l := [o]) rfl hx "name" hkey
    (.data (.string (.ofString d.bindingName)) false false true)
  rw [ho] at hname
  rw [setName, hc]
  exact hname

theorem ownKeys_functionObject {n : ObjectId} {slots : FunctionId}
    {properties : List (String × Property)} :
    (functionObject h context d n slots properties).ownKeys =
      "length" :: "name" :: properties.map Prod.fst := rfl

section

variable {n : ObjectId} {slots : FunctionId} {properties : List (String × Property)}

/-- A new function is called as its definition says. -/
theorem functionName_functionObject :
    (functionObject h context d n slots properties).functionName =
      .ofString d.bindingName := by
  simp [Object.functionName, Object.ownValue?, Object.own?, functionObject, lengthProperty,
    nameProperty, OrderedMap.get?_cons, WellKnownKey.text, Value.string?]

theorem functionLength_functionObject :
    (functionObject h context d n slots properties).functionLength =
      Double.ofNat d.expectedArgumentCount := by
  simp [Object.functionLength, Object.ownValue?, Object.own?, functionObject, lengthProperty,
    OrderedMap.get?_cons, WellKnownKey.text, Value.number?]

/-- What the instances of a new function inherit from is what its further properties say. -/
theorem instancePrototype?_functionObject :
    (functionObject h context d n slots properties).instancePrototype? =
      ((OrderedMap.get? ⟨properties⟩ "prototype").map Property.value).bind Value.object? := by
  simp [Object.instancePrototype?, Object.ownValue?, Object.own?, functionObject, lengthProperty,
    nameProperty, OrderedMap.get?_cons, WellKnownKey.text]

end

theorem setInstancePrototype_eq (hh : s.HasHeap h) {c : Closure}
    (hc : c.ref = .allocated h (s.heapSize h)) {n : ObjectId} {slots : FunctionId}
    {l : List Object} (id : ObjectId) :
    setInstancePrototype c id (s.extend h (functionObject h context d n slots [] :: l)) =
      .ok () (s.extend h (functionObject h context d n slots [instanceLink id] :: l)) := by
  have hkey : "prototype" ∉ (functionObject h context d n slots []).ownKeys := by
    simp [ownKeys_functionObject]
  rw [setInstancePrototype, hc]
  exact defineProperty_extend hh (k := 0) rfl rfl rfl "prototype" hkey
    (.data (.object id) true false false)

section

variable (hs : s.Linked) (hh : s.HasHeap h) (hp : HasPrototypes s h context d)

include hs hh hp

/-- An object for the instances comes right after the function. -/
theorem createInstances_eq (f : FunctionSlots) {q : ObjectId}
    (hq : context.realm.intrinsics.instanceParent? d.species = some q) :
    createObject h (some q) ((s.pushFunction f).extend h
        [functionObject h context d (s.heapSize h) s.nextFunction []]) =
      .ok (s.heapSize h + 1, .allocated h (s.heapSize h + 1)) ((s.pushFunction f).extend h
        [functionObject h context d (s.heapSize h) s.nextFunction [],
          .plain h (s.heapSize h + 1) q]) := by
  have hl : ((s.pushFunction f).extend h
      [functionObject h context d (s.heapSize h) s.nextFunction []]).Linked :=
    (hs.pushFunction f).extend hh rfl fun q hq => by
      cases hq
      exact live_allocated_iff.2 hp.function
  -- the second prototype is looked for when the function is in the heap already
  exact createObject_extend hl hh (Nat.lt_add_right 1 (hp.instances q hq))

theorem createInstances_then_link (f : FunctionSlots) {q : ObjectId}
    (hq : context.realm.intrinsics.instanceParent? d.species = some q) :
    (createObject h (some q) >>= fun p => setInstancePrototype (s.nextClosure h) p.1)
        ((s.pushFunction f).extend h
          [functionObject h context d (s.heapSize h) s.nextFunction []]) =
      .ok () ((s.pushFunction f).extend h
        [functionObject h context d (s.heapSize h) s.nextFunction
            [instanceLink (s.heapSize h + 1)],
          .plain h (s.heapSize h + 1) q]) := by
  have hh₁ : (s.pushFunction f).HasHeap h := hh
  exact (bind_of_ok (createInstances_eq hs hh hp f hq)).trans (setInstancePrototype_eq hh₁ rfl _)

theorem makeConstructor_eq (hd : d.species = .ordinary) (scope : ScopeId) :
    makeConstructor (s.nextClosure h) h context.realm.intrinsics.objectPrototype
        ((s.pushFunction (.ofContext context d scope)).extend h
          [functionObject h context d (s.heapSize h) s.nextFunction []]) =
      .ok () ((s.pushFunction (functionSlots context d scope)).extend h
        (group h context d (s.heapSize h) s.nextFunction)) := by
  let n := s.heapSize h
  let p := context.realm.intrinsics.objectPrototype
  let s₁ := s.pushFunction (functionSlots context d scope)
  have hh₁ : s₁.HasHeap h := hh
  have hmark : updateFunction (s.nextClosure h).slots
      (fun f => { f with isConstructor := true })
      ((s.pushFunction (.ofContext context d scope)).extend h
        [functionObject h context d n s.nextFunction []]) =
      .ok () (s₁.extend h [functionObject h context d n s.nextFunction []]) := by
    simp only [updateFunction, nextClosure, modifyFunction_extend, modifyFunction_pushFunction]
    simp [s₁, functionSlots, hd]
  have hnew := createInstances_eq hs hh hp (functionSlots context d scope) (q := p)
    (by rw [hd]; rfl)
  have hback := defineProperty_extend hh₁ (k := 1) rfl
    (l := [functionObject h context d n s.nextFunction [], .plain h (n + 1) p])
    rfl rfl "constructor" List.not_mem_nil (.data (.object n) true false true)
  rw [makeConstructor, group, hd]
  refine (bind_of_ok hmark).trans ((bind_of_ok hnew).trans ((bind_of_ok hback).trans ?_))
  exact setInstancePrototype_eq hh₁ rfl _

/-- Nothing that makes a function ready for use can fail if what its instances inherit from
exists. -/
theorem finish_eq (scope : ScopeId) :
    finish (s.nextClosure h) h d.species context.realm.intrinsics
        ((s.pushFunction (.ofContext context d scope)).extend h
          [functionObject h context d (s.heapSize h) s.nextFunction []]) =
      .ok () ((s.pushFunction (functionSlots context d scope)).extend h
        (group h context d (s.heapSize h) s.nextFunction)) := by
  by_cases hordinary : d.species = .ordinary
  · have hmade := makeConstructor_eq hs hh hp hordinary scope
    rw [hordinary]
    exact hmade
  · -- the slots of all others are left as they are
    have hslots : functionSlots context d scope = .ofContext context d scope := by
      simp [functionSlots, FunctionSlots.ofContext, hordinary]
    rw [hslots]
    unfold finish group
    cases hd : d.species with
    | ordinary => exact absurd hd hordinary
    | async => rfl
    | generator | asyncGenerator =>
      exact createInstances_then_link hs hh hp _ (by rw [hd]; rfl)

end

/-! ### The whole -/

/-- The store with a new function of a definition and its scope. If the function has a name, `b` is
the binding of the name there. -/
def withFunction (s : Store) (h : HeapId) (context : Context) (d : FunctionDefinition)
    (b : Binding) : Store :=
  ((s.withScopeFor context d.bindingName b).pushFunction
    (functionSlots context d (s.scopeFor context d.bindingName))).extend h
      (group h context d (s.heapSize h) s.nextFunction)

/-- The scope of a named function is new, and nothing is bound in it but the name. -/
theorem scope_withFunction (s : Store) (h : HeapId) (context : Context) {d : FunctionDefinition}
    (b : Binding) (hn : d.bindingName ≠ "") :
    ¬ s.HasScope (s.scopeFor context d.bindingName) ∧
      (withFunction s h context d b).HasScope (s.scopeFor context d.bindingName) ∧
      (withFunction s h context d b).scope (s.scopeFor context d.bindingName) =
        .single d.bindingName b (some context.scope) := by
  have hn : ¬ d.bindingName.isEmpty = true := by simpa using hn
  have hstore : withFunction s h context d b =
      ((s.pushFunction (functionSlots context d s.nextScope)).extend h
        (group h context d (s.heapSize h) s.nextFunction)).pushScope
          (.single d.bindingName b (some context.scope)) := by
    rw [withFunction, withScopeFor, Store.scopeFor, if_neg hn, if_neg hn]
    rfl
  rw [hstore, Store.scopeFor, if_neg hn]
  refine ⟨Nat.lt_irrefl _, ?_, (scope_pushScope _ _ _).trans (if_pos rfl)⟩
  rw [HasScope, pushScope, Array.size_push]
  exact Nat.lt_succ_self _

/-- The scopes that there were are as they were. -/
theorem scope_withFunction_of_hasScope (d : FunctionDefinition) (b : Binding) {e : ScopeId}
    (he : s.HasScope e) :
    (withFunction s h context d b).HasScope e ∧
      (withFunction s h context d b).scope e = s.scope e :=
  scope_withScopeFor he

/-- The new objects are the function and what belongs to it. -/
theorem object?_withFunction (hh : s.HasHeap h) (context : Context) (d : FunctionDefinition)
    (b : Binding) (k : Nat) :
    (withFunction s h context d b).object? (.allocated h (s.heapSize h + k)) =
      (group h context d (s.heapSize h) s.nextFunction)[k]? := by
  let s₁ := (s.withScopeFor context d.bindingName b).pushFunction
    (functionSlots context d (s.scopeFor context d.bindingName))
  have hsize : s₁.heapSize h = s.heapSize h := heapSize_withScopeFor h
  have hnew := object?_extend_new (s := s₁) (hasHeap_withScopeFor.2 hh)
    (group h context d (s.heapSize h) s.nextFunction) k
  rwa [hsize] at hnew

/-- There are the slots of the function beside those that there were. -/
theorem functions_withFunction (s : Store) (h : HeapId) (context : Context) (d : FunctionDefinition)
    (b : Binding) :
    (withFunction s h context d b).functions =
      s.functions.push (functionSlots context d (s.scopeFor context d.bindingName)) := by
  obtain ⟨-, -, -, -, -, hfunctions⟩ := s.withScopeFor_frame context d.bindingName b
  show Array.push _ _ = _
  rw [hfunctions]

theorem function?_withFunction (s : Store) (h : HeapId) (context : Context) (d : FunctionDefinition)
    (b : Binding) (id : FunctionId) :
    (withFunction s h context d b).function? id =
      if id = s.nextFunction then
        some (functionSlots context d (s.scopeFor context d.bindingName))
      else s.function? id := by
  rw [← function?_pushFunction, function?, functions_withFunction]
  rfl

/-- The slots of the new function are those that it was made with. -/
theorem slots?_withFunction (hh : s.HasHeap h) (context : Context) (d : FunctionDefinition)
    (b : Binding) :
    (withFunction s h context d b).slots? (.allocated h (s.heapSize h)) =
      some (functionSlots context d (s.scopeFor context d.bindingName)) := by
  have hobject : (withFunction s h context d b).object? (.allocated h (s.heapSize h)) = _ :=
    (object?_withFunction hh context d b 0).trans (group_zero _ _)
  rw [slots?_of_object? hobject rfl, function?_withFunction, if_pos rfl]

/-- The new function is named by its handle. -/
theorem get?_withFunction (hs : s.Linked) (hh : s.HasHeap h) (context : Context)
    (d : FunctionDefinition) (b : Binding) :
    (withFunction s h context d b).get? h (s.heapSize h) = some (s.nextClosure h).ref := by
  let s₁ := (s.withScopeFor context d.bindingName b).pushFunction
    (functionSlots context d (s.scopeFor context d.bindingName))
  have hs₁ : s₁.Linked := hs.withScopeFor.pushFunction _
  have hsize : s₁.heapSize h = s.heapSize h := heapSize_withScopeFor h
  have hlength : 0 < (group h context d (s.heapSize h) s.nextFunction).length :=
    (List.getElem?_eq_some_iff.1 (group_zero _ _)).1
  have hnew := get?_extend_new hs₁.toConsistent (hasHeap_withScopeFor.2 hh) hlength
  rwa [hsize] at hnew

theorem assemble_of_hasPrototypes (hs : s.Linked) (hh : s.HasHeap h)
    (hp : HasPrototypes s h context d) :
    assemble h context d s = .ok (s.scopeFor context d.bindingName, s.nextClosure h)
      (withFunction s h context d { isMutable := false }) := by
  let s₁ := s.withScopeFor context d.bindingName { isMutable := false }
  have hsize : s₁.heapSize h = s.heapSize h := heapSize_withScopeFor h
  have hs₁ : s₁.Linked := hs.withScopeFor
  have hh₁ : s₁.HasHeap h := hasHeap_withScopeFor.2 hh
  have hp₁ : HasPrototypes s₁ h context d := hp.withScopeFor
  -- all that follows happens in the store with the new scope, whose heaps are the same
  have hcreate := create_of_lt (d := d) hs₁ hh₁ hp₁.function (thisModeFor d context)
    (s.scopeFor context d.bindingName) context.privateScope context.realm
  have hfinish := finish_eq hs₁ hh₁ hp₁ (s.scopeFor context d.bindingName)
  have hnext : s₁.nextFunction = s.nextFunction :=
    congrArg Closure.slots (nextClosure_withScopeFor h)
  rw [assemble, withFunction, ← hsize, ← nextClosure_withScopeFor h, ← hnext]
  refine (bind_of_ok (scopeFor_eq s context d.bindingName)).trans ?_
  refine (bind_of_ok hcreate).trans ?_
  refine (bind_of_ok (setName_eq (s := s₁.pushFunction _) hh₁ rfl rfl rfl)).trans ?_
  exact bind_of_ok hfinish

theorem assemble_of_le (hs : s.Linked)
    (hp : s.heapSize h ≤ context.realm.intrinsics.functionPrototypeFor d.species) :
    assemble h context d s =
      .error
        (.refused (.danglingObject (context.realm.intrinsics.functionPrototypeFor d.species)))
        (s.withScopeFor context d.bindingName { isMutable := false }) := by
  rw [assemble]
  refine (bind_of_ok (scopeFor_eq s context d.bindingName)).trans ?_
  exact bind_of_error (create_of_le hs.withScopeFor (by rwa [heapSize_withScopeFor]) _ _ _ _)

/-- The evaluation of a function expression where the prototypes exist: the function is there, and
its name means it. -/
theorem instantiate_of_hasPrototypes (hs : s.Linked) (hh : s.HasHeap h)
    (hp : HasPrototypes s h context d) :
    instantiate h context d s = .ok (s.nextClosure h) (withFunction s h context d
      { value := .object (s.heapSize h), isMutable := false, initialized := true }) := by
  rw [instantiate]
  refine (bind_of_ok (assemble_of_hasPrototypes hs hh hp)).trans ?_
  unfold withFunction Store.withScopeFor Store.scopeFor
  by_cases hn : d.bindingName.isEmpty
  · simp only [hn, if_true]
    rfl
  · simp only [hn]
    -- objects and scopes are kept apart, so the scope is the last one still
    have hinit := updateScope_pushScope
      (s := (s.pushFunction (functionSlots context d s.nextScope)).extend h
        (group h context d (s.heapSize h) s.nextFunction))
      (f := fun scope => scope.initializeBinding d.bindingName (.object (s.heapSize h)))
      (Scope.initializeBinding_single (some context.scope) (b := { isMutable := false }) rfl)
    exact bind_of_ok hinit

/-- The evaluation of a function expression where the prototype of the function does not exist:
nothing has happened but that a scope was made. -/
theorem instantiate_of_le (hs : s.Linked)
    (hp : s.heapSize h ≤ context.realm.intrinsics.functionPrototypeFor d.species) :
    instantiate h context d s =
      .error
        (.refused (.danglingObject (context.realm.intrinsics.functionPrototypeFor d.species)))
        (s.withScopeFor context d.bindingName { isMutable := false }) :=
  bind_of_error (assemble_of_le hs hp)

end Closure

/-! ### Failure -/

/-- The second store has the objects of the first and no others, and it has its scopes, but it may
have more of these. -/
structure Store.NewScopesOnly (s s' : Store) : Prop where
  heaps : s'.heaps = s.heaps
  loose : s'.loose = s.loose
  scopes : ∀ e, s.HasScope e → s'.HasScope e ∧ s'.scope e = s.scope e
  privateScopes : s'.privateScopes = s.privateScopes
  privateNames : s'.privateNamesIssued = s.privateNamesIssued
  realms : s'.realmsIssued = s.realmsIssued
  functions : s'.functions = s.functions

theorem Store.newScopesOnly_withScopeFor (s : Store) (context : Context) (name : String)
    (b : Binding) : s.NewScopesOnly (s.withScopeFor context name b) := by
  obtain ⟨hheaps, hloose, hprivate, hnames, hrealms, hfunctions⟩ :=
    s.withScopeFor_frame context name b
  exact ⟨hheaps, hloose, fun e he => s.scope_withScopeFor he, hprivate, hnames, hrealms,
    hfunctions⟩

namespace Closure

open Store

variable {s : Store} {h i : HeapId} {context : Context}

/-- **A function expression whose evaluation fails leaves no trace.** It fails if and only if the
heap does not have the prototype for functions of the species, wherever the realm was created; and
then all objects and scopes are as they were. Otherwise there is no step that could fail. In
particular the name of the function waits for its value when this is given to it. -/
theorem instantiate_leaves_no_trace (hs : s.Reachable) (hh : s.HasHeap h)
    (hr : context.realm.CreatedIn i s) (d : FunctionDefinition) :
    let p := context.realm.intrinsics.functionPrototypeFor d.species
    ((∃ e s', instantiate h context d s = .error e s') ↔ ¬ p < s.heapSize h) ∧
      (∀ e s', instantiate h context d s = .error e s' →
        e = .refused (.danglingObject p) ∧ s.NewScopesOnly s') ∧
      (p < s.heapSize h → ∃ scope c s₁ s₂,
        assemble h context d s = .ok (scope, c) s₁ ∧
        (d.bindingName ≠ "" → (s₁.scope scope).binds d.bindingName = true ∧
          (s₁.scope scope).isInitialized d.bindingName = false) ∧
        instantiate h context d s = .ok c s₂) := by
  intro p
  by_cases hp : p < s.heapSize h
  · have hboth : HasPrototypes s h context d := .of_createdIn hr hp
    have hassemble := assemble_of_hasPrototypes hs.linked hh hboth
    have hinstantiate := instantiate_of_hasPrototypes hs.linked hh hboth
    refine ⟨?_, ?_, fun _ => ⟨_, _, _, _, hassemble, fun hn => ?_, hinstantiate⟩⟩
    · simp [hinstantiate, hp]
    · intro e s' herror
      rw [hinstantiate] at herror
      cases herror
    · obtain ⟨-, -, hscope⟩ := scope_withFunction s h context { isMutable := false } hn
      rw [hscope]
      simp [Scope.binds_eq_isSome, Scope.isInitialized, Scope.binding?_single]
  · have hinstantiate : instantiate h context d s = _ :=
      instantiate_of_le hs.linked (Nat.le_of_not_lt hp)
    refine ⟨?_, ?_, fun hp' => absurd hp' hp⟩
    · simp [hinstantiate, hp]
    · intro e s' herror
      rw [hinstantiate] at herror
      cases herror
      exact ⟨rfl, s.newScopesOnly_withScopeFor _ _ _⟩

/-- A realm in the first of two heaps: its functions can be made there but not in the second. -/
theorem instantiate_in_two_heaps :
    let d := FunctionDefinition.ofParts 0 (some "f") [] [] .generator
    let s₀ := Store.pushHeap {}
    let context := Context.forScript (Realm.next s₀ 0) false
    let s := (Realm.afterNext s₀ 0).pushHeap
    (∃ c s', instantiate 0 context d s = .ok c s') ∧
      ∃ e s', instantiate 1 context d s = .error e s' := by
  intro d s₀ context s
  have hs₀ : s₀.Reachable := Reachable.perform .refl .newHeap trivial
  have hs₁ : (Realm.afterNext s₀ 0).Reachable := Realm.reachable_afterNext hs₀ (by decide)
  have hs : s.Reachable := hs₁.perform .newHeap trivial
  have hr : context.realm.CreatedIn 0 s :=
    (Realm.CreatedIn.next hs₀ (by decide)).steps (.single ⟨.newHeap, trivial, rfl⟩)
  obtain ⟨-, -, hok⟩ := instantiate_leaves_no_trace hs (h := 0) (by decide) hr d
  obtain ⟨herror, -⟩ := instantiate_leaves_no_trace hs (h := 1) (by decide) hr d
  have hempty : s.heapSize 1 = 0 := rfl
  refine ⟨?_, herror.2 (by simp [hempty])⟩
  obtain ⟨-, c, -, s', -, -, hc⟩ := hok (hr.functionPrototypeFor_lt d.species)
  exact ⟨c, s', hc⟩

end Closure

end FunctionObjects
