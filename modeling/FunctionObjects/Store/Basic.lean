import FunctionObjects.Function.Slots
import FunctionObjects.Object
import FunctionObjects.Scope.Basic
import FunctionObjects.Scope.Private

/-!
# The store

All that code can change, as one value: the objects of every heap with their handles, the objects
in no heap, the slots of the functions, the scopes, the private scopes, and how many private names
and realms there have been. Objects, functions and scopes are only ever added at the end, so a
reference once given out keeps its meaning.

The reading and writing of single entries is here. Each write has a lemma that says what is read
afterwards.
-/

namespace FunctionObjects

/-- A heap: the objects that were made for it, and the objects that its handles name. -/
structure Heap : Type where
  objects : Array Object := #[]
  handles : Array ObjectRef := #[]
deriving Inhabited

/-- The state shared by all code. -/
structure Store : Type where
  heaps : Array Heap := #[]
  loose : Array Object := #[]
  functions : Array FunctionSlots := #[]
  scopes : Array Scope := #[]
  privateScopes : Array PrivateScope := #[]
  privateNamesIssued : Nat := 0
  realmsIssued : Nat := 0
deriving Inhabited

namespace Store

/-! ### Objects -/

/-- The objects of a heap, in the order of allocation. -/
def heap (s : Store) (h : HeapId) : Array Object := (s.heaps[h]?.getD {}).objects

def heapSize (s : Store) (h : HeapId) : Nat := (s.heap h).size

/-- The table of a heap: at each handle, the place of the object that it names. -/
def handles (s : Store) (h : HeapId) : Array ObjectRef := (s.heaps[h]?.getD {}).handles

def handleCount (s : Store) (h : HeapId) : Nat := (s.handles h).size

def object? (s : Store) : ObjectRef → Option Object
  | .allocated h id => (s.heap h)[id]?
  | .loose index => s.loose[index]?

/-- The store with another object at a place. Nothing happens if the place is empty. -/
def setObject (s : Store) (r : ObjectRef) (o : Object) : Store :=
  match r with
  | .allocated h id =>
    { s with
      heaps := s.heaps.modify h fun heap =>
        { heap with objects := heap.objects.setIfInBounds id o } }
  | .loose index => { s with loose := s.loose.setIfInBounds index o }

/-- The place of the next object that is made for a heap. -/
def nextObject (s : Store) (h : HeapId) : ObjectRef := .allocated h (s.heapSize h)

/-- The store with one more object in a heap, and with one more handle, which names it. -/
def pushObject (s : Store) (h : HeapId) (o : Object) : Store :=
  { s with
    heaps := s.heaps.modify h fun heap =>
      { objects := heap.objects.push o
        handles := heap.handles.push (.allocated h heap.objects.size) } }

def pushLoose (s : Store) (o : Object) : Store := { s with loose := s.loose.push o }

def pushHeap (s : Store) : Store := { s with heaps := s.heaps.push {} }

def objectCount (s : Store) : Nat :=
  s.heaps.foldl (fun n heap => n + heap.objects.size) s.loose.size

/-- The place of the object that a handle names in a heap, if it names one. -/
def get? (s : Store) (h : HeapId) (id : ObjectId) : Option ObjectRef := (s.handles h)[id]?

/-- The place of the object that a handle names in a heap. -/
def resolve (s : Store) (h : HeapId) (id : ObjectId) : Except ObjectError ObjectRef :=
  match s.get? h id with
  | some r => .ok r
  | none => .error (.danglingObject id)

/-! ### Functions -/

def function? (s : Store) (id : FunctionId) : Option FunctionSlots := s.functions[id.index]?

/-- The place of the slots of an object, if it is a function. -/
def slotsId? (s : Store) (r : ObjectRef) : Option FunctionId := (s.object? r).bind Object.slots

/-- The slots of an object, if it is a function. -/
def slots? (s : Store) (r : ObjectRef) : Option FunctionSlots := (s.slotsId? r).bind s.function?

/-- The store with the slots at a place changed. Nothing happens if the place is empty. -/
def modifyFunction (s : Store) (id : FunctionId) (f : FunctionSlots → FunctionSlots) : Store :=
  { s with functions := s.functions.modify id.index f }

def pushFunction (s : Store) (slots : FunctionSlots) : Store :=
  { s with functions := s.functions.push slots }

def nextFunction (s : Store) : FunctionId := ⟨s.functions.size⟩

/-! ### Scopes -/

/-- The scope at a place. Where there is none, it is as if there were an empty one. -/
def scope (s : Store) (e : ScopeId) : Scope := s.scopes[e.index]?.getD {}

/-- The store with another scope at a place. Nothing happens if the place is empty. -/
def setScope (s : Store) (e : ScopeId) (scope : Scope) : Store :=
  { s with scopes := s.scopes.setIfInBounds e.index scope }

def pushScope (s : Store) (scope : Scope) : Store := { s with scopes := s.scopes.push scope }

def nextScope (s : Store) : ScopeId := ⟨s.scopes.size⟩

/-! ### Private scopes -/

/-- The private scope at a place. Where there is none, it is as if there were an empty one. -/
def privateScope (s : Store) (p : PrivateScopeId) : PrivateScope :=
  s.privateScopes[p.index]?.getD {}

def pushPrivateScope (s : Store) (scope : PrivateScope) : Store :=
  { s with privateScopes := s.privateScopes.push scope }

def nextPrivateScope (s : Store) : PrivateScopeId := ⟨s.privateScopes.size⟩

/-- Declare a private name in a private scope: the name, and the store in which it is declared. A
description that this very scope knows keeps its name; any other gets a name with a new number. -/
def declarePrivate (s : Store) (p : PrivateScopeId) (description : String) :
    PrivateName × Store :=
  match (s.privateScope p).find? description with
  | some name => (name, s)
  | none =>
    let name : PrivateName := ⟨s.privateNamesIssued + 1, description⟩
    (name,
      { s with
        privateScopes := s.privateScopes.modify p.index fun scope => scope.add name
        privateNamesIssued := s.privateNamesIssued + 1 })

/-! ### What is read after a write -/

theorem heap_setObject (s : Store) (h h' : HeapId) (id : ObjectId) (o : Object) :
    (s.setObject (.allocated h id) o).heap h' =
      if h' = h then (s.heap h).setIfInBounds id o else s.heap h' := by
  simp only [heap, setObject, Array.getElem?_modify]
  by_cases hh : h' = h
  · cases hs : s.heaps[h]? <;> simp [hh, hs]
  · simp [hh, Ne.symm hh]

/-- Writing an object changes no handle. -/
theorem handles_setObject (s : Store) (r : ObjectRef) (o : Object) (h : HeapId) :
    (s.setObject r o).handles h = s.handles h := by
  cases r with
  | allocated i id =>
    simp only [handles, setObject, Array.getElem?_modify]
    by_cases hi : i = h
    · subst hi
      cases s.heaps[i]? <;> simp
    · simp [hi]
  | loose n => rfl

theorem heap_pushObject (s : Store) (h h' : HeapId) (o : Object) (hh : h < s.heaps.size) :
    (s.pushObject h o).heap h' = if h' = h then (s.heap h).push o else s.heap h' := by
  simp only [heap, pushObject, Array.getElem?_modify]
  by_cases hh' : h' = h
  · simp [hh', hh]
  · simp [hh', Ne.symm hh']

/-- A new object is named by a new handle, the next one of its heap. -/
theorem handles_pushObject (s : Store) (h h' : HeapId) (o : Object) (hh : h < s.heaps.size) :
    (s.pushObject h o).handles h' =
      if h' = h then (s.handles h).push (s.nextObject h) else s.handles h' := by
  simp only [handles, pushObject, Array.getElem?_modify]
  by_cases hh' : h' = h
  · simp [hh', hh, nextObject, heapSize, heap]
  · simp [hh', Ne.symm hh']

/-- Writing an object changes what its place holds, and nothing else. -/
theorem object?_setObject (s : Store) (r r' : ObjectRef) (o : Object) :
    (s.setObject r o).object? r' =
      if r' = r then (s.object? r).map fun _ => o else s.object? r' := by
  match r, r' with
  | .allocated h id, .allocated h' id' =>
    simp only [object?, heap_setObject, ObjectRef.allocated.injEq]
    by_cases hh : h' = h
    · subst hh
      by_cases hid : id' = id
      · subst hid
        simp [Array.getElem?_setIfInBounds]
        cases hs : (s.heap h')[id']? with
        | none => simpa using hs
        | some x => simpa using (Array.getElem?_eq_some_iff.1 hs).1
      · simp [hid, Ne.symm hid]
    · simp [hh]
  | .loose n, .loose n' =>
    simp only [object?, setObject, ObjectRef.loose.injEq]
    by_cases hn : n' = n
    · subst hn
      simp [Array.getElem?_setIfInBounds]
      cases hs : s.loose[n']? with
      | none => simpa using hs
      | some x => simpa using (Array.getElem?_eq_some_iff.1 hs).1
    · simp [hn, Ne.symm hn]
  | .allocated h id, .loose n => simp [object?, setObject]
  | .loose n, .allocated h id => simp [object?, setObject, heap]

/-- Writing the object that is there already changes nothing. -/
theorem setObject_of_object? {s : Store} {r : ObjectRef} {o : Object} (h : s.object? r = some o) :
    s.setObject r o = s := by
  have hset : ∀ (objects : Array Object) (n : Nat), objects[n]? = some o →
      objects.setIfInBounds n o = objects := by
    intro objects n hn
    obtain ⟨hlt, rfl⟩ := Array.getElem?_eq_some_iff.1 hn
    simp [Array.setIfInBounds, hlt]
  cases r with
  | allocated i id =>
    have hheaps : s.heaps.modify i (fun heap =>
        { heap with objects := heap.objects.setIfInBounds id o }) = s.heaps := by
      apply Array.ext_getElem?
      intro j
      rw [Array.getElem?_modify]
      split
      · next hij =>
        subst hij
        cases hi : s.heaps[i]? with
        | none => rfl
        | some heap =>
          have hid : heap.objects[id]? = some o := by simpa [object?, Store.heap, hi] using h
          rw [Option.map_some, hset heap.objects id hid]
      · rfl
    rw [setObject, hheaps]
  | loose n => rw [setObject, hset s.loose n h]

/-- A new object is the last of its heap; every other place holds what it held. -/
theorem object?_pushObject (s : Store) (h : HeapId) (o : Object) (r : ObjectRef)
    (hh : h < s.heaps.size) :
    (s.pushObject h o).object? r =
      if r = s.nextObject h then some o else s.object? r := by
  match r with
  | .allocated h' id =>
    simp only [object?, heap_pushObject s h h' o hh, nextObject, heapSize,
      ObjectRef.allocated.injEq]
    by_cases hh' : h' = h
    · subst hh'
      simp [Array.getElem?_push]
    · simp [hh']
  | .loose n => simp [object?, pushObject, nextObject]

/-- A new heap is empty, as is what is read where there is none. -/
theorem heap_pushHeap (s : Store) (h : HeapId) : s.pushHeap.heap h = s.heap h := by
  simp only [heap, pushHeap, Array.getElem?_push]
  split
  · next hh => simp [hh]
  · rfl

theorem handles_pushHeap (s : Store) (h : HeapId) : s.pushHeap.handles h = s.handles h := by
  simp only [handles, pushHeap, Array.getElem?_push]
  split
  · next hh => simp [hh]
  · rfl

theorem object?_pushHeap (s : Store) (r : ObjectRef) : s.pushHeap.object? r = s.object? r := by
  cases r with
  | allocated h id => simp only [object?, heap_pushHeap]
  | loose n => rfl

/-- A new object that is in no heap is the last of those. -/
theorem object?_pushLoose (s : Store) (o : Object) (r : ObjectRef) :
    (s.pushLoose o).object? r = if r = .loose s.loose.size then some o else s.object? r := by
  cases r with
  | allocated h id => simp [object?, pushLoose, heap]
  | loose n => simp [object?, pushLoose, Array.getElem?_push]

/-- A new object is counted in its own heap. -/
theorem heapSize_pushObject (s : Store) (h h' : HeapId) (o : Object) (hh : h < s.heaps.size) :
    (s.pushObject h o).heapSize h' = if h' = h then s.heapSize h + 1 else s.heapSize h' := by
  simp only [heapSize, heap_pushObject s h h' o hh]
  split <;> simp

/-- Writing an object changes no heap's size. -/
theorem heapSize_setObject (s : Store) (r : ObjectRef) (o : Object) (h : HeapId) :
    (s.setObject r o).heapSize h = s.heapSize h := by
  match r with
  | .allocated h' id =>
    simp only [heapSize, heap_setObject]
    split
    · next hh => simp [hh]
    · rfl
  | .loose n => rfl

/-- Writing a scope changes what its place holds, and nothing else. -/
theorem scope_setScope (s : Store) (e e' : ScopeId) (scope : Scope)
    (he : e.index < s.scopes.size) :
    (s.setScope e scope).scope e' = if e' = e then scope else s.scope e' := by
  obtain ⟨n⟩ := e
  obtain ⟨n'⟩ := e'
  simp only [Store.scope, setScope, Array.getElem?_setIfInBounds, ScopeId.mk.injEq]
  by_cases hn : n' = n
  · simp [hn, he]
  · simp [hn, Ne.symm hn]

theorem setScope_scope (s : Store) (e : ScopeId) (he : e.index < s.scopes.size) :
    s.setScope e (s.scope e) = s := by
  have hscopes : s.scopes.setIfInBounds e.index (s.scope e) = s.scopes := by
    simp [Store.scope, he, Array.setIfInBounds]
  rw [setScope, hscopes]

theorem setScope_setScope (s : Store) (e : ScopeId) (scope scope' : Scope) :
    (s.setScope e scope).setScope e scope' = s.setScope e scope' := by
  simp only [setScope, Array.setIfInBounds_setIfInBounds]

/-- A new scope is the last; every other place holds what it held. -/
theorem scope_pushScope (s : Store) (e : ScopeId) (scope : Scope) :
    (s.pushScope scope).scope e = if e = s.nextScope then scope else s.scope e := by
  obtain ⟨n⟩ := e
  simp only [Store.scope, pushScope, nextScope, Array.getElem?_push, ScopeId.mk.injEq]
  split <;> rfl

/-- Changing the slots of a function changes what their place holds, and nothing else. -/
theorem function?_modifyFunction (s : Store) (id id' : FunctionId)
    (f : FunctionSlots → FunctionSlots) :
    (s.modifyFunction id f).function? id' =
      if id' = id then (s.function? id).map f else s.function? id' := by
  obtain ⟨n⟩ := id
  obtain ⟨n'⟩ := id'
  simp only [function?, modifyFunction, Array.getElem?_modify, FunctionId.mk.injEq]
  by_cases hn : n' = n
  · simp [hn]
  · simp [hn, Ne.symm hn]

/-- A new function is the last; every other place holds what it held. -/
theorem function?_pushFunction (s : Store) (id : FunctionId) (slots : FunctionSlots) :
    (s.pushFunction slots).function? id =
      if id = s.nextFunction then some slots else s.function? id := by
  obtain ⟨n⟩ := id
  simp only [function?, pushFunction, nextFunction, Array.getElem?_push, FunctionId.mk.injEq]

theorem modifyFunction_pushFunction (s : Store) (slots : FunctionSlots)
    (f : FunctionSlots → FunctionSlots) :
    (s.pushFunction slots).modifyFunction s.nextFunction f = s.pushFunction (f slots) := by
  simp only [modifyFunction, pushFunction, nextFunction, Store.mk.injEq, true_and, and_true]
  apply Array.ext_getElem?
  intro n
  rw [Array.getElem?_modify, Array.getElem?_push, Array.getElem?_push]
  by_cases hn : n = s.functions.size
  · simp [hn]
  · simp [hn, Ne.symm hn]

/-- Declaring a private name touches neither objects nor scopes. -/
theorem declarePrivate_frame (s : Store) (p : PrivateScopeId) (description : String) :
    (s.declarePrivate p description).2.heaps = s.heaps ∧
      (s.declarePrivate p description).2.loose = s.loose ∧
      (s.declarePrivate p description).2.scopes = s.scopes ∧
      (s.declarePrivate p description).2.privateScopes.size = s.privateScopes.size ∧
      (s.declarePrivate p description).2.functions = s.functions := by
  unfold declarePrivate
  split <;> simp

end Store

end FunctionObjects
