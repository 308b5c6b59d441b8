import FunctionObjects.Proofs.Prototype.Chains

/-!
# New objects at the end of a heap, and new scopes

`s.extend h l` is the store `s` with the objects `l` added to a heap. What makes several objects and
then equips them stays within this form: a new object goes to the end of the list, and a change to
one of the new objects is a change to the list. So the course of such an effect is followed by
equations between lists, and it is plain that the objects of `s` are not touched.

In the same way a new scope that is given its first binding stays `s.pushScope` of some scope. The
only new scopes that come with a binding have just one, `Scope.single`.
-/

namespace FunctionObjects

/-- A scope with one binding. -/
def Scope.single (name : String) (b : Binding) (outer : Option ScopeId) : Scope :=
  { bindings := ⟨[(name, b)]⟩, outer }

namespace Scope

variable {name : String} {b : Binding} (outer : Option ScopeId) {v : Value}

theorem binding?_single : (single name b outer).binding? name = some b := by
  simp [binding?, single, OrderedMap.get?_cons]

theorem binding?_single_of_ne {name' : String} (hne : name' ≠ name) :
    (single name b outer).binding? name' = none := by
  simp [binding?, single, OrderedMap.get?_cons, Ne.symm hne]

theorem declareImmutable_empty (strict : Bool) :
    declareImmutable { outer } name strict =
      .ok (single name { isMutable := false, strict } outer) := rfl

theorem initializeBinding_single (hb : b.initialized = false) :
    (single name b outer).initializeBinding name v =
      .ok (single name { b with value := v, initialized := true } outer) := by
  simp only [initializeBinding, binding?_single, hb]
  simp [bind, single, OrderedMap.insert, OrderedMap.insertEntry]

end Scope

/-- A plain object as it is made. It has been told its handle, and it inherits from an object of the
same heap. -/
def Object.plain (h : HeapId) (id parent : ObjectId) : Object where
  id := some id
  prototype := some (.allocated h parent)

namespace Store

/-- The store with further objects at the end of a heap, and with a handle for each. -/
def extend (s : Store) (h : HeapId) (objects : List Object) : Store :=
  { s with
    heaps := s.heaps.modify h fun heap =>
      { objects := heap.objects ++ objects.toArray
        handles := heap.handles ++
          ((List.range' heap.objects.size objects.length).map (.allocated h)).toArray } }

variable {s : Store} {h : HeapId}

theorem pushObject_eq_extend (s : Store) (h : HeapId) (o : Object) :
    s.pushObject h o = s.extend h [o] := by
  simp only [pushObject, extend, Store.mk.injEq, and_true]
  congr 1

theorem extend_extend (s : Store) (h : HeapId) (l l' : List Object) :
    (s.extend h l).extend h l' = s.extend h (l ++ l') := by
  simp only [extend, Store.mk.injEq, and_true]
  apply Array.ext
  · simp
  · intro i hi hi'
    simp only [Array.getElem_modify]
    split
    · -- the second handles are numbered on from the first
      simp [*, ← List.map_append, List.range'_append_1]
    · simp [*]

theorem hasHeap_extend {i : HeapId} {l : List Object} :
    (s.extend h l).HasHeap i ↔ s.HasHeap i := by
  simp [HasHeap, extend]

theorem heap_extend (hh : s.HasHeap h) (l : List Object) (i : HeapId) :
    (s.extend h l).heap i = if i = h then s.heap h ++ l.toArray else s.heap i := by
  have hh : h < s.heaps.size := hh
  simp only [heap, extend, Array.getElem?_modify]
  by_cases hi : i = h
  · simp [hi, hh]
  · simp [hi, Ne.symm hi]

theorem handles_extend (hh : s.HasHeap h) (l : List Object) (i : HeapId) :
    (s.extend h l).handles i =
      if i = h then
        s.handles h ++ ((List.range' (s.heapSize h) l.length).map (.allocated h)).toArray
      else s.handles i := by
  have hh : h < s.heaps.size := hh
  simp only [handles, heapSize, heap, extend, Array.getElem?_modify]
  by_cases hi : i = h
  · simp [hi, hh]
  · simp [hi, Ne.symm hi]

theorem heapSize_extend (hh : s.HasHeap h) (l : List Object) :
    (s.extend h l).heapSize h = s.heapSize h + l.length := by
  simp [heapSize, heap_extend hh]

/-- The new objects are numbered on from the old ones. -/
theorem object?_extend_new (hh : s.HasHeap h) (l : List Object) (k : Nat) :
    (s.extend h l).object? (.allocated h (s.heapSize h + k)) = l[k]? := by
  simp only [object?, heap_extend hh, if_true, heapSize]
  rw [Array.getElem?_append_right (Nat.le_add_right _ k), Nat.add_sub_cancel_left,
    List.getElem?_toArray]

/-- Each of the new objects is named by the handle with its number. -/
theorem get?_extend_new (hs : s.Consistent) (hh : s.HasHeap h) {l : List Object} {k : Nat}
    (hk : k < l.length) :
    (s.extend h l).get? h (s.heapSize h + k) = some (.allocated h (s.heapSize h + k)) := by
  have hcount : (s.handles h).size = s.heapSize h := hs.handleCount_eq h
  rw [get?, handles_extend hh, if_pos rfl, Array.getElem?_append_right (by simp [hcount])]
  simp [hcount, hk]

/-- The old objects are as they were. -/
theorem object?_extend_old (hh : s.HasHeap h) (l : List Object) {r : ObjectRef} (hr : s.Live r) :
    (s.extend h l).object? r = s.object? r := by
  cases r with
  | loose n => rfl
  | allocated i id =>
    rw [live_allocated_iff, heapSize] at hr
    simp only [object?, heap_extend hh]
    split
    · next hi =>
      subst hi
      rw [Array.getElem?_append_left hr]
    · rfl

/-- An object is one of the old ones, or it is one of the new ones at its place in the list. -/
theorem object?_extend_cases (hh : s.HasHeap h) {l : List Object} {r : ObjectRef} {o : Object}
    (ho : (s.extend h l).object? r = some o) :
    s.object? r = some o ∨ ∃ k, r = .allocated h (s.heapSize h + k) ∧ l[k]? = some o := by
  by_cases hr : s.Live r
  · left
    rwa [object?_extend_old hh l hr] at ho
  · right
    cases r with
    | loose n => exact absurd (.of_object? (s := s) ho) hr
    | allocated i id =>
      rw [live_allocated_iff, Nat.not_lt] at hr
      by_cases hi : i = h
      · subst hi
        obtain ⟨k, rfl⟩ := Nat.exists_eq_add_of_le hr
        rw [object?_extend_new hh] at ho
        exact ⟨k, rfl, ho⟩
      · have hold : s.Live (.allocated i id) := by
          simp only [object?, heap_extend hh, if_neg hi] at ho
          exact .of_object? ho
        exact absurd (live_allocated_iff.1 hold) (Nat.not_lt.2 hr)

/-- The objects of the second store are those of the first, with a list of objects put at the end of
the heap `h`. -/
structure Appends (h : HeapId) (l : List Object) (s s' : Store) : Prop where
  heaps : s'.heaps = (s.extend h l).heaps
  loose : s'.loose = s.loose

namespace Appends

variable {s' : Store} {l : List Object}

theorem hasHeap (ha : Appends h l s s') (hh : s.HasHeap h) : s'.HasHeap h := by
  rw [HasHeap, ha.heaps]
  exact hasHeap_extend.2 hh

theorem heap_eq (ha : Appends h l s s') (hh : s.HasHeap h) (i : HeapId) :
    s'.heap i = if i = h then s.heap h ++ l.toArray else s.heap i := by
  rw [← heap_extend hh, heap, ha.heaps]
  rfl

theorem heapSize (ha : Appends h l s s') (hh : s.HasHeap h) :
    s'.heapSize h = s.heapSize h + l.length := by
  simp [Store.heapSize, ha.heap_eq hh]

theorem object?_eq (ha : Appends h l s s') (r : ObjectRef) :
    s'.object? r = (s.extend h l).object? r := by
  cases r with
  | allocated i id =>
    rw [object?, heap, ha.heaps]
    rfl
  | loose n =>
    rw [object?, ha.loose]
    rfl

theorem object?_of_live (ha : Appends h l s s') (hh : s.HasHeap h) {r : ObjectRef}
    (hr : s.Live r) : s'.object? r = s.object? r :=
  (ha.object?_eq r).trans (object?_extend_old hh l hr)

/-- There are the old objects and those of the list. -/
theorem live_iff (ha : Appends h l s s') (hh : s.HasHeap h) {r : ObjectRef} :
    s'.Live r ↔ s.Live r ∨ ∃ k < l.length, r = .allocated h (s.heapSize h + k) := by
  constructor
  · intro hr
    obtain ⟨o, ho⟩ := Option.isSome_iff_exists.1 hr
    rw [ha.object?_eq] at ho
    rcases object?_extend_cases hh ho with hold | ⟨k, rfl, hk⟩
    · exact .inl (.of_object? hold)
    · exact .inr ⟨k, (List.getElem?_eq_some_iff.1 hk).1, rfl⟩
  · rintro (hr | ⟨k, hk, rfl⟩)
    · rwa [Live, ha.object?_of_live hh hr]
    · rw [live_allocated_iff, ha.heapSize hh]
      exact Nat.add_lt_add_left hk _

end Appends

/-- Writing one of the new objects is writing to the list. -/
theorem setObject_extend (hh : s.HasHeap h) (l : List Object) (k : Nat) (o : Object) :
    (s.extend h l).setObject (.allocated h (s.heapSize h + k)) o = s.extend h (l.set k o) := by
  have hh : h < s.heaps.size := hh
  simp only [extend, setObject, Store.mk.injEq, and_true]
  apply Array.ext
  · simp
  · intro i hi hi'
    simp only [Array.getElem_modify]
    by_cases hih : h = i
    · subst hih
      simp [heapSize, heap, hh, Array.setIfInBounds_append_right]
    · simp [hih]

theorem modifyFunction_extend (s : Store) (l : List Object) (id : FunctionId)
    (f : FunctionSlots → FunctionSlots) :
    (s.extend h l).modifyFunction id f = (s.modifyFunction id f).extend h l := rfl

theorem object?_pushFunction (s : Store) (slots : FunctionSlots) (r : ObjectRef) :
    (s.pushFunction slots).object? r = s.object? r := by
  cases r <;> rfl

theorem object?_modifyFunction (s : Store) (id : FunctionId)
    (f : FunctionSlots → FunctionSlots) (r : ObjectRef) :
    (s.modifyFunction id f).object? r = s.object? r := by
  cases r <;> rfl

theorem object?_pushScope (s : Store) (scope : Scope) (r : ObjectRef) :
    (s.pushScope scope).object? r = s.object? r := by
  cases r <;> rfl

/-- The scopes that there were are as they were. -/
theorem scope_pushScope_of_hasScope {e : ScopeId} (he : s.HasScope e) (scope : Scope) :
    (s.pushScope scope).HasScope e ∧ (s.pushScope scope).scope e = s.scope e := by
  refine ⟨?_, ?_⟩
  · rw [HasScope, pushScope, Array.size_push]
    exact Nat.lt_succ_of_lt he
  · -- the new scope has the first place that no scope had
    rw [scope_pushScope, if_neg]
    rintro rfl
    exact absurd he (Nat.lt_irrefl _)

theorem setScope_pushScope (s : Store) (scope scope' : Scope) :
    (s.pushScope scope).setScope s.nextScope scope' = s.pushScope scope' := by
  simp only [setScope, pushScope, nextScope, Store.mk.injEq, true_and, and_true]
  rw [Array.setIfInBounds_def, dif_pos (by simp), Array.set_push]
  simp

theorem Linked.pushFunction (hs : s.Linked) (slots : FunctionSlots) :
    (s.pushFunction slots).Linked := by
  refine hs.of_prototype? (hs.toConsistent.of_heaps rfl rfl) (fun r => ?_) fun r hr => ?_
  · rw [prototype?, object?_pushFunction]
    rfl
  · rwa [Live, object?_pushFunction]

theorem Linked.modifyFunction (hs : s.Linked) (id : FunctionId)
    (f : FunctionSlots → FunctionSlots) : (s.modifyFunction id f).Linked := by
  refine hs.of_prototype? (hs.toConsistent.of_heaps rfl rfl) (fun r => ?_) fun r hr => ?_
  · rw [prototype?, object?_modifyFunction]
    rfl
  · rwa [Live, object?_modifyFunction]

theorem Linked.pushScope (hs : s.Linked) (scope : Scope) : (s.pushScope scope).Linked := by
  refine hs.of_prototype? (hs.toConsistent.of_heaps rfl rfl) (fun r => ?_) fun r hr => ?_
  · rw [prototype?, object?_pushScope]
    rfl
  · rwa [Live, object?_pushScope]

/-- A new object that has been told the next handle may inherit from what exists: no chain of
prototypes leads to it yet. -/
theorem Linked.extend (hs : s.Linked) (hh : s.HasHeap h) {o : Object}
    (hid : o.id = some (s.heapSize h)) (ho : ∀ q, o.prototype = some q → s.Live q) :
    (s.extend h [o]).Linked := by
  have hconsistent : (s.extend h [o]).Consistent := by
    have htold : { o with id := some (s.handleCount h) } = o := by rw [hs.handleCount_eq, ← hid]
    rw [← pushObject_eq_extend, ← htold]
    exact hs.toConsistent.pushObject hh o
  have hread : ∀ r, (s.extend h [o]).prototype? r =
      if r = s.nextObject h then o.prototype else s.prototype? r := by
    intro r
    rw [← pushObject_eq_extend, prototype?, object?_pushObject s h o r hh]
    split <;> rfl
  have hlive : ∀ r, s.Live r → (s.extend h [o]).Live r := fun r hr => by
    rw [Live, object?_extend_old hh _ hr]
    exact hr
  refine ⟨hconsistent, fun r q hq => ?_, fun r => ?_⟩
  · rw [hread] at hq
    split at hq
    · exact hlive q (ho q hq)
    · exact hlive q (hs.live r q hq)
  · -- the chain from the prototype is all in `s`, where the new object was not
    have havoid : ∀ q, o.prototype = some q →
        ∃ l, Chain s.prototype? q l ∧ s.nextObject h ∉ l := by
      intro q hq
      obtain ⟨l, hl⟩ := hs.ends q
      refine ⟨l, hl, fun hmem => ?_⟩
      exact not_live_nextObject s h (hs.live_of_mem hl (ho q hq) _ hmem)
    obtain ⟨l, hl⟩ := hs.ends r
    obtain ⟨l', hl'⟩ := hl.redirect havoid
    exact ⟨l', hl'.congr fun b _ => hread b⟩

end Store

/-! ### Effects on the new objects -/

namespace Effect

open Store

variable {s : Store} {h : HeapId} {l : List Object} {id : ObjectId} {k : Nat} {o o' : Object}

theorem allocate_eq (hs : s.Linked) (h : HeapId) (o : Object) :
    allocate h o s = .ok (s.heapSize h, .allocated h (s.heapSize h))
      (s.extend h [{ o with id := some (s.heapSize h) }]) := by
  rw [allocate, hs.handleCount_eq, pushObject_eq_extend]
  rfl

/-- A change to one of the new objects that is allowed. -/
theorem updateObject_extend (hh : s.HasHeap h) {f : Object → Except ObjectError Object}
    (hid : id = s.heapSize h + k) (hk : l[k]? = some o) (hf : f o = .ok o') :
    updateObject (.allocated h id) f (s.extend h l) = .ok () (s.extend h (l.set k o')) := by
  subst hid
  simp only [updateObject, replaceObject, object?_extend_new hh, hk, hf, setObject_extend hh]

/-- A property that one of the new objects does not have yet. -/
theorem defineProperty_extend (hh : s.HasHeap h) (hid : id = s.heapSize h + k)
    (hk : l[k]? = some o) (hx : o.extensible = true) (key : String) (hkey : key ∉ o.ownKeys)
    (d : Descriptor) :
    defineProperty (.allocated h id) key d (s.extend h l) = .ok () (s.extend h
      (l.set k { o with properties := ⟨o.properties.entries ++ [(key, d.completed)]⟩ })) :=
  updateObject_extend hh hid hk (Object.define_of_not_mem d hx hkey)

/-- A new object can be put under any object that exists: nothing inherits from it yet. -/
theorem setPrototype_extend (hs : s.Linked) (hh : s.HasHeap h) (hid : o.id = some (s.heapSize h))
    (ho : o.prototype = none) (hx : o.extensible = true) {q : ObjectRef} (hq : s.Live q) :
    setPrototype (.allocated h (s.heapSize h)) (some q) (s.extend h [o]) =
      .ok () (s.extend h [{ o with prototype := some q }]) := by
  have hs' : (s.extend h [o]).Linked := hs.extend hh hid (by simp [ho])
  have hold : ∀ r, s.Live r → (s.extend h [o]).object? r = s.object? r := fun r hr =>
    object?_extend_old hh _ hr
  have hq' : (s.extend h [o]).Live q := by
    rw [Live, hold q hq]
    exact hq
  -- the chain from `q` is the one in `s`, where the new object was not yet
  have hreach : (s.extend h [o]).reaches (.allocated h (s.heapSize h)) q = false := by
    obtain ⟨l, hl⟩ := hs.ends q
    have hlive := hs.live_of_mem hl hq
    have hl' : Chain (s.extend h [o]).prototype? q l := hl.congr fun b hb => by
      rw [prototype?, hold b (hlive b hb)]
      rfl
    rw [hs'.reaches_eq hl' hq']
    simp only [decide_eq_false_iff_not]
    intro hmem
    exact not_live_nextObject s h (hlive _ hmem)
  have hnew : (s.extend h [o]).object? (.allocated h (s.heapSize h)) = some o :=
    object?_extend_new hh [o] 0
  have hw : (s.extend h [o]).withPrototype (.allocated h (s.heapSize h)) (some q) =
      .ok { o with prototype := some q } := by
    simp [withPrototype, hnew, ho, hx, hreach]
  have hset : (s.extend h [o]).setObject (.allocated h (s.heapSize h))
      { o with prototype := some q } = s.extend h [{ o with prototype := some q }] :=
    setObject_extend hh [o] 0 _
  simp only [setPrototype, replaceObject, hw, hset]

/-- A change to a new scope that is allowed. -/
theorem updateScope_pushScope {f : Scope → Except Error Scope} {scope scope' : Scope}
    (hf : f scope = .ok scope') :
    updateScope s.nextScope f (s.pushScope scope) = .ok () (s.pushScope scope') := by
  have hscope : (s.pushScope scope).scope s.nextScope = scope := by
    simp [scope_pushScope]
  simp only [updateScope, hscope, hf, setScope_pushScope]

/-- A new plain object under one that exists. -/
theorem createObject_of_lt (hs : s.Linked) (hh : s.HasHeap h) {p : ObjectId}
    (hp : p < s.heapSize h) :
    createObject h (some p) s =
      .ok (s.heapSize h, .allocated h (s.heapSize h))
        (s.extend h [.plain h (s.heapSize h) p]) := by
  have hresolve : Option.mapM (resolve h) (some p) s = .ok (some (.allocated h p)) s :=
    bind_of_ok (resolve_of_lt hs.toConsistent hp)
  have hlink := setPrototype_extend (o := { id := some (s.heapSize h) }) hs hh rfl rfl rfl
    (live_allocated_iff.2 hp)
  rw [createObject, bind_of_ok hresolve, bind_of_ok (allocate_eq hs h {})]
  exact bind_of_ok hlink

theorem createObject_extend (hl : (s.extend h l).Linked) (hh : s.HasHeap h) {p : ObjectId}
    (hp : p < s.heapSize h + l.length) :
    createObject h (some p) (s.extend h l) =
      .ok (s.heapSize h + l.length, .allocated h (s.heapSize h + l.length))
        (s.extend h (l ++ [.plain h (s.heapSize h + l.length) p])) := by
  rw [createObject_of_lt hl (hasHeap_extend.2 hh) (by rwa [heapSize_extend hh]),
    heapSize_extend hh, extend_extend]

end Effect

end FunctionObjects
