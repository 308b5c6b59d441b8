import FunctionObjects.Store.Prototype
import Mathlib.Logic.Relation
import Mathlib.Order.Nat

/-!
# Elementary changes of a store

Whatever code does to a store is a series of a few elementary changes: something new is put at the
end of a list, or one object or one scope is replaced by what a single check has allowed. `Change`
lists them, each with what has been checked before it is made. So an invariant of all stores, or a
relation between a store and any later one, is a case analysis over one change and an induction over
a series of them (`Changes`), and does not look at the operations again.

Two parameters are for runs in which more is known. `made` is a condition on the slots of every
function that is made on the way, and `flags` says whether the flag `extensible` of an object may be
written. Nothing but an operation of its own writes it.
-/

namespace FunctionObjects

/-- An object as it comes into being. -/
structure Object.IsFresh (o : Object) : Prop where
  prototype : o.prototype = none
  distinct : o.properties.Distinct

/-- What can be done to a single scope. -/
inductive Scope.Operation : Type where
  | declareMutable (name : String) (deletable : Bool)
  | declareImmutable (name : String) (strict : Bool)
  | initializeBinding (name : String) (v : Value)
  | assign (name : String) (v : Value) (strict : Bool)
  | delete (name : String)

/-- The scope after an operation, or why it failed. -/
def Scope.Operation.apply (s : Scope) : Scope.Operation → Except Error Scope
  | .declareMutable name deletable => s.declareMutable name deletable
  | .declareImmutable name strict => s.declareImmutable name strict
  | .initializeBinding name v => s.initializeBinding name v
  | .assign name v strict => s.assign name v strict
  | .delete name => .ok (s.delete name).2

namespace Store

/-! ### What there is in a store -/

def HasHeap (s : Store) (h : HeapId) : Prop := h < s.heaps.size

/-- There is an object at the place. -/
def Live (s : Store) (r : ObjectRef) : Prop := (s.object? r).isSome = true

/-- There is an object at the place, or a handle names the place. -/
def Named (s : Store) (r : ObjectRef) : Prop := s.Live r ∨ ∃ h id, s.get? h id = some r

def HasScope (s : Store) (e : ScopeId) : Prop := e.index < s.scopes.size

def HasPrivateScope (s : Store) (p : PrivateScopeId) : Prop := p.index < s.privateScopes.size

def HasFunction (s : Store) (id : FunctionId) : Prop := id.index < s.functions.size

instance (s : Store) (h : HeapId) : Decidable (s.HasHeap h) := inferInstanceAs (Decidable (_ < _))

instance (s : Store) (r : ObjectRef) : Decidable (s.Live r) := inferInstanceAs (Decidable (_ = _))

instance (s : Store) (e : ScopeId) : Decidable (s.HasScope e) := inferInstanceAs (Decidable (_ < _))

instance (s : Store) (p : PrivateScopeId) : Decidable (s.HasPrivateScope p) :=
  inferInstanceAs (Decidable (_ < _))

instance (s : Store) (id : FunctionId) : Decidable (s.HasFunction id) :=
  inferInstanceAs (Decidable (_ < _))

theorem live_allocated_iff {s : Store} {h : HeapId} {id : ObjectId} :
    s.Live (.allocated h id) ↔ id < s.heapSize h := by
  simp [Live, object?, heapSize]

/-- Where there are objects there is a heap. -/
theorem hasHeap_of_lt_heapSize {s : Store} {h : HeapId} {id : ObjectId} (hid : id < s.heapSize h) :
    s.HasHeap h := by
  by_contra hh
  simp [heapSize, heap, Array.getElem?_eq_none (Nat.le_of_not_lt hh)] at hid

/-- There is nothing yet where the next object of a heap will be. -/
theorem not_live_nextObject (s : Store) (h : HeapId) : ¬ s.Live (s.nextObject h) := by
  simp [nextObject, live_allocated_iff]

theorem not_hasFunction_nextFunction (s : Store) : ¬ s.HasFunction s.nextFunction :=
  Nat.lt_irrefl _

/-- The next handle of a heap names the object that comes with it. -/
theorem get?_pushObject_handleCount {s : Store} {h : HeapId} (hh : s.HasHeap h) (o : Object) :
    (s.pushObject h o).get? h (s.handleCount h) = some (s.nextObject h) := by
  rw [get?, handles_pushObject s h h o hh, if_pos rfl, handleCount, Array.getElem?_push_size]

theorem hasHeap_setObject (s : Store) (r : ObjectRef) (o : Object) (h : HeapId) :
    (s.setObject r o).HasHeap h ↔ s.HasHeap h := by
  cases r <;> simp [HasHeap, setObject]

theorem live_loose_iff {s : Store} {n : Nat} : s.Live (.loose n) ↔ n < s.loose.size := by
  simp [Live, object?]

theorem Live.of_object? {s : Store} {r : ObjectRef} {o : Object} (h : s.object? r = some o) :
    s.Live r := by
  simp [Live, h]

/-- An object is given another prototype only if it is extensible and the prototype does not inherit
from it. -/
theorem withPrototype_cases {s : Store} {r : ObjectRef} {p : Option ObjectRef} {o o' : Object}
    (ho : s.object? r = some o) (hw : s.withPrototype r p = .ok o') :
    o' = o ∨ o.extensible = true ∧ (∀ q, p = some q → s.reaches r q = false) ∧
      o' = { o with prototype := p } := by
  simp only [withPrototype, ho] at hw
  split at hw
  · cases hw
    exact .inl rfl
  · split at hw
    · cases hw
    · next hx =>
      split at hw
      · cases hw
      · next hreach =>
        cases hw
        refine .inr ⟨by simpa using hx, fun q hq => ?_, rfl⟩
        simpa [hq] using hreach

/-! ### The changes -/

/-- What may take the place of an object: the same object after one change to it that was allowed.
-/
inductive Replacement (flags : Prop) (s : Store) (r : ObjectRef) (o : Object) : Object → Prop
  | define {key : String} {d : Descriptor} {o' : Object} : o.define key d = .ok o' →
      Replacement flags s r o o'
  | relink {p : Option ObjectRef} {o' : Object} : (∀ q, p = some q → s.Named q) →
      s.withPrototype r p = .ok o' → Replacement flags s r o o'
  | setExtensible (extensible : Bool) : flags → Replacement flags s r o { o with extensible }
  | setClass (className : String) : Replacement flags s r o { o with className }

/-- One elementary change of a store. -/
inductive Change (made : FunctionSlots → Prop) (flags : Prop) (s : Store) : Store → Prop
  | newHeap : Change made flags s s.pushHeap
  | newLoose {o : Object} : o.IsFresh → o.id = none → o.slots = none →
      Change made flags s (s.pushLoose o)
  | newObject {h : HeapId} {o : Object} : s.HasHeap h → o.IsFresh → o.slots = none →
      Change made flags s (s.pushObject h { o with id := some (s.handleCount h) })
  /-- The object of a function comes with slots of its own. -/
  | newFunction {h : HeapId} {o : Object} {f : FunctionSlots} : s.HasHeap h → o.IsFresh →
      o.slots = some s.nextFunction → made f → s.HasScope f.scope →
      Change made flags s
        ((s.pushFunction f).pushObject h { o with id := some (s.handleCount h) })
  | markConstructor (id : FunctionId) :
      Change made flags s (s.modifyFunction id fun f => { f with isConstructor := true })
  | setHome (id : FunctionId) (home : ObjectId) :
      Change made flags s (s.modifyFunction id fun f => { f with homeObject := some home })
  | replace {r : ObjectRef} {o o' : Object} : s.object? r = some o → Replacement flags s r o o' →
      Change made flags s (s.setObject r o')
  | newScope {outer : Option ScopeId} : (∀ e, outer = some e → s.HasScope e) →
      Change made flags s (s.pushScope { outer })
  | inScope {e : ScopeId} {op : Scope.Operation} {scope : Scope} : s.HasScope e →
      op.apply (s.scope e) = .ok scope → Change made flags s (s.setScope e scope)
  | newPrivateScope {outer : Option PrivateScopeId} :
      (∀ p, outer = some p → s.HasPrivateScope p) →
      Change made flags s (s.pushPrivateScope { outer })
  | declarePrivate {p : PrivateScopeId} {description : String} : s.HasPrivateScope p →
      Change made flags s (s.declarePrivate p description).2
  | issueRealm : Change made flags s { s with realmsIssued := s.realmsIssued + 1 }

/-- A series of changes. -/
abbrev Changes (made : FunctionSlots → Prop) (flags : Prop) : Store → Store → Prop :=
  Relation.ReflTransGen (Change made flags)

theorem Replacement.weaken {flags flags' : Prop} (hflags : flags → flags') {s : Store}
    {r : ObjectRef} {o o' : Object} (h : Replacement flags s r o o') :
    Replacement flags' s r o o' := by
  cases h with
  | define hd => exact .define hd
  | relink hp hw => exact .relink hp hw
  | setExtensible extensible hf => exact .setExtensible extensible (hflags hf)
  | setClass className => exact .setClass className

/-- Less may be known of the new functions and of the flags. -/
theorem Changes.weaken {made made' : FunctionSlots → Prop} {flags flags' : Prop}
    (hm : ∀ f, made f → made' f) (hflags : flags → flags') {s s' : Store}
    (h : Changes made flags s s') : Changes made' flags' s s' := by
  refine Relation.ReflTransGen.mono (fun s s' hc => ?_) _ _ h
  cases hc with
  | newHeap => exact .newHeap
  | newLoose ho hid hs => exact .newLoose ho hid hs
  | newObject hh ho hs => exact .newObject hh ho hs
  | newFunction hh ho hs hmade hscope => exact .newFunction hh ho hs (hm _ hmade) hscope
  | markConstructor id => exact .markConstructor id
  | setHome id home => exact .setHome id home
  | replace ho hr => exact .replace ho (hr.weaken hflags)
  | newScope ho => exact .newScope ho
  | inScope he hop => exact .inScope he hop
  | newPrivateScope ho => exact .newPrivateScope ho
  | declarePrivate hp => exact .declarePrivate hp
  | issueRealm => exact .issueRealm

/-! ### What a change does to the objects -/

/-- A change leaves all objects as they are, puts one object into an empty place, or replaces one.
-/
inductive ObjectChange (made : FunctionSlots → Prop) (flags : Prop) (s s' : Store) : Prop
  | none : (∀ r, s'.object? r = s.object? r) → ObjectChange made flags s s'
  | new {r : ObjectRef} {o : Object} : ¬ s.Live r → o.IsFresh →
      (∀ id, o.slots = some id → id = s.nextFunction ∧ s'.HasFunction id) →
      (∀ r', s'.object? r' = if r' = r then some o else s.object? r') → ObjectChange made flags s s'
  | replaced {r : ObjectRef} {o o' : Object} : s.object? r = some o → Replacement flags s r o o' →
      (∀ r', s'.object? r' = if r' = r then some o' else s.object? r') →
      ObjectChange made flags s s'

variable {made : FunctionSlots → Prop} {flags : Prop} {s s' : Store}

theorem Change.objects (hc : Change made flags s s') : ObjectChange made flags s s' := by
  cases hc with
  | newHeap => exact .none (object?_pushHeap s)
  | @newLoose o ho _ hs =>
    refine .new (r := .loose s.loose.size) ?_ ho (by simp [hs]) (object?_pushLoose s o)
    simp [live_loose_iff]
  | @newObject h o hh ho hs =>
    -- the place of the new object is the first one after those of the heap
    exact .new (r := s.nextObject h) (o := { o with id := some (s.handleCount h) })
      (not_live_nextObject s h) ⟨ho.prototype, ho.distinct⟩ (by simp [hs]) fun r =>
      object?_pushObject s h _ r hh
  | @newFunction h o f hh ho hs =>
    refine .new (r := s.nextObject h) (o := { o with id := some (s.handleCount h) })
      (not_live_nextObject s h) ⟨ho.prototype, ho.distinct⟩ (fun id hid => ?_) fun r => ?_
    · cases hs.symm.trans hid
      exact ⟨rfl, by simp [HasFunction, nextFunction, pushObject, pushFunction]⟩
    · exact object?_pushObject (s.pushFunction f) h _ r hh
  | markConstructor => exact .none fun r => by cases r <;> rfl
  | setHome => exact .none fun r => by cases r <;> rfl
  | @replace r o o' ho hr =>
    refine .replaced ho hr fun r' => ?_
    rw [object?_setObject, ho]
    rfl
  | newScope => exact .none fun r => by cases r <;> rfl
  | inScope => exact .none fun r => by cases r <;> rfl
  | newPrivateScope => exact .none fun r => by cases r <;> rfl
  | @declarePrivate p description =>
    obtain ⟨hh, hl, -⟩ := declarePrivate_frame s p description
    exact .none fun r => by cases r <;> simp only [object?, heap, hh, hl]
  | issueRealm => exact .none fun r => by cases r <;> rfl

/-- Whatever holds between an object and what may replace it holds between it and what a change
makes of it. -/
theorem Change.exists_object? {r : ObjectRef} {o : Object} {R : Object → Object → Prop}
    (refl : R o o) (replaced : ∀ o', Replacement flags s r o o' → R o o')
    (hc : Change made flags s s') (ho : s.object? r = some o) :
    ∃ o', s'.object? r = some o' ∧ R o o' := by
  cases hc.objects with
  | none h => exact ⟨o, (h r).trans ho, refl⟩
  | @new r' x hr' _ _ h =>
    have hne : r ≠ r' := by
      rintro rfl
      exact hr' (.of_object? ho)
    exact ⟨o, (h r).trans ((if_neg hne).trans ho), refl⟩
  | @replaced r' x x' hx hrx h =>
    by_cases hrr' : r = r'
    · subst hrr'
      cases ho.symm.trans hx
      exact ⟨x', (h r).trans (if_pos rfl), replaced x' hrx⟩
    · exact ⟨o, (h r).trans ((if_neg hrr').trans ho), refl⟩

/-! ### What is there remains -/

/-- Nothing that is in the first store is missing from the second. -/
structure Grows (s s' : Store) : Prop where
  heaps : s.heaps.size ≤ s'.heaps.size
  heapSize : ∀ h, s.heapSize h ≤ s'.heapSize h
  handles : ∀ h id r, s.get? h id = some r → s'.get? h id = some r
  loose : s.loose.size ≤ s'.loose.size
  scopes : s.scopes.size ≤ s'.scopes.size
  privateScopes : s.privateScopes.size ≤ s'.privateScopes.size
  functions : s.functions.size ≤ s'.functions.size

namespace Grows

theorem refl (s : Store) : Grows s s :=
  ⟨le_rfl, fun _ => le_rfl, fun _ _ _ => id, le_rfl, le_rfl, le_rfl, le_rfl⟩

theorem trans {s₁ s₂ s₃ : Store} (h : Grows s₁ s₂) (h' : Grows s₂ s₃) : Grows s₁ s₃ :=
  ⟨h.heaps.trans h'.heaps, fun i => (h.heapSize i).trans (h'.heapSize i),
    fun i id r hr => h'.handles i id r (h.handles i id r hr), h.loose.trans h'.loose,
    h.scopes.trans h'.scopes, h.privateScopes.trans h'.privateScopes,
    h.functions.trans h'.functions⟩

theorem hasHeap (h : Grows s s') {i : HeapId} (hi : s.HasHeap i) : s'.HasHeap i :=
  lt_of_lt_of_le hi h.heaps

theorem hasScope (h : Grows s s') {e : ScopeId} (he : s.HasScope e) : s'.HasScope e :=
  lt_of_lt_of_le he h.scopes

theorem hasFunction (h : Grows s s') {id : FunctionId} (hid : s.HasFunction id) :
    s'.HasFunction id :=
  lt_of_lt_of_le hid h.functions

theorem live (h : Grows s s') {r : ObjectRef} (hr : s.Live r) : s'.Live r := by
  cases r with
  | allocated i id =>
    rw [live_allocated_iff] at hr ⊢
    exact lt_of_lt_of_le hr (h.heapSize i)
  | loose n =>
    rw [live_loose_iff] at hr ⊢
    exact lt_of_lt_of_le hr h.loose

theorem named (h : Grows s s') {r : ObjectRef} (hr : s.Named r) : s'.Named r := by
  rcases hr with hr | ⟨i, id, hid⟩
  · exact .inl (h.live hr)
  · exact .inr ⟨i, id, h.handles i id r hid⟩

end Grows

theorem grows_pushObject {h : HeapId} (hh : s.HasHeap h) (o : Object) :
    Grows s (s.pushObject h o) := by
  refine ⟨by simp [pushObject], fun h' => ?_, fun h' id r hr => ?_, le_rfl, le_rfl, le_rfl, le_rfl⟩
  · rw [heapSize_pushObject s h h' _ hh]
    split
    · next h'' => simp [h'']
    · exact le_rfl
  · rw [get?, handles_pushObject s h h' _ hh]
    split
    · next h'' =>
      subst h''
      have hid : id ≠ (s.handles h').size := Nat.ne_of_lt (Array.getElem?_eq_some_iff.1 hr).1
      rwa [Array.getElem?_push, if_neg hid]
    · exact hr

theorem grows_pushFunction (s : Store) (slots : FunctionSlots) : Grows s (s.pushFunction slots) :=
  ⟨le_rfl, fun _ => le_rfl, fun _ _ _ => id, le_rfl, le_rfl, le_rfl, by simp [pushFunction]⟩

theorem grows_modifyFunction (s : Store) (id : FunctionId) (f : FunctionSlots → FunctionSlots) :
    Grows s (s.modifyFunction id f) :=
  ⟨le_rfl, fun _ => le_rfl, fun _ _ _ hr => hr, le_rfl, le_rfl, le_rfl, by simp [modifyFunction]⟩

theorem Change.grows (hc : Change made flags s s') : Grows s s' := by
  cases hc with
  | newHeap =>
    refine ⟨by simp [pushHeap], fun h => ?_, fun h id r hr => ?_, le_rfl, le_rfl, le_rfl, le_rfl⟩
    · rw [heapSize, heapSize, heap_pushHeap]
    · rwa [get?, handles_pushHeap]
  | newLoose =>
    exact ⟨le_rfl, fun _ => le_rfl, fun _ _ _ => id, by simp [pushLoose], le_rfl, le_rfl, le_rfl⟩
  | newObject hh => exact grows_pushObject hh _
  | @newFunction h o f hh =>
    exact (grows_pushFunction s f).trans (grows_pushObject (s := s.pushFunction f) hh _)
  | markConstructor => exact grows_modifyFunction s _ _
  | setHome => exact grows_modifyFunction s _ _
  | @replace r o o' =>
    have hsize : ∀ h, s.heapSize h ≤ (s.setObject r o').heapSize h := fun h =>
      (heapSize_setObject s r o' h).ge
    have hhandles : ∀ h id x, s.get? h id = some x → (s.setObject r o').get? h id = some x :=
      fun h id x hx => by rwa [get?, handles_setObject]
    cases r with
    | allocated => exact ⟨by simp [setObject], hsize, hhandles, le_rfl, le_rfl, le_rfl, le_rfl⟩
    | loose => exact ⟨le_rfl, hsize, hhandles, by simp [setObject], le_rfl, le_rfl, le_rfl⟩
  | newScope =>
    exact ⟨le_rfl, fun _ => le_rfl, fun _ _ _ => id, le_rfl, by simp [pushScope], le_rfl, le_rfl⟩
  | inScope =>
    exact ⟨le_rfl, fun _ => le_rfl, fun _ _ _ => id, le_rfl, by simp [setScope], le_rfl, le_rfl⟩
  | newPrivateScope =>
    exact ⟨le_rfl, fun _ => le_rfl, fun _ _ _ => id, le_rfl, le_rfl, by simp [pushPrivateScope],
      le_rfl⟩
  | @declarePrivate p description =>
    obtain ⟨hh, hl, hs, hp, hf⟩ := declarePrivate_frame s p description
    refine ⟨by rw [hh], fun h => ?_, fun h id r hr => ?_, by rw [hl], by rw [hs], by rw [hp],
      by rw [hf]⟩
    · simp only [heapSize, heap, hh]
      exact le_rfl
    · rwa [get?, handles, hh]
  | issueRealm =>
    exact ⟨le_rfl, fun _ => le_rfl, fun _ _ _ => id, le_rfl, le_rfl, le_rfl, le_rfl⟩

theorem Changes.grows (h : Changes made flags s s') : Grows s s' := by
  induction h with
  | refl => exact .refl s
  | tail _ hc ih => exact ih.trans hc.grows

end Store

end FunctionObjects
