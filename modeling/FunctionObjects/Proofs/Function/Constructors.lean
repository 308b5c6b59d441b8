import FunctionObjects.Proofs.Function.Instantiation
import FunctionObjects.Proofs.Object.Definition

/-!
# Making a function a constructor

Three things are done one after the other: the function is marked as a constructor, an object for
its instances to inherit from is made, and the property `prototype` of the function is made to lead
to it. The second step needs a prototype that exists, and the third one a function that lets its
property lead elsewhere (see `Object.KeepsPrototype`). Each of them may fail when what went before
is done already. So the mark stays where nothing comes of the rest, and in one of the two cases a
new object stays too, to which nothing leads.
-/

namespace FunctionObjects

/-- The slots marked as those of a constructor. -/
def FunctionSlots.marked (f : FunctionSlots) : FunctionSlots := { f with isConstructor := true }

/-- The function has a property `prototype` that cannot be made to lead to another object, or it has
none and can be given none. -/
def Object.KeepsPrototype (o : Object) : Prop :=
  match o.own? "prototype" with
  | some p => p.configurable = false ∧ (p.enumerable = true ∨ p.writable = false)
  | none => o.extensible = false

namespace Object

instance (o : Object) : Decidable o.KeepsPrototype :=
  match h : o.own? "prototype" with
  | some p =>
    decidable_of_iff (p.configurable = false ∧ (p.enumerable = true ∨ p.writable = false)) <| by
      rw [KeepsPrototype, h]
  | none => decidable_of_iff (o.extensible = false) <| by rw [KeepsPrototype, h]

variable {o : Object}

/-- Whether the property can lead to another object is no matter of the object. -/
theorem define_prototype_error_iff (id : ObjectId) :
    (∃ e, o.define "prototype" (.data (.object id) true false false) = .error e) ↔
      o.KeepsPrototype := by
  unfold KeepsPrototype define
  cases o.own? "prototype" with
  | none => cases o.extensible <;> simp
  | some p =>
    have hpermits : p.permits (.data (.object id) true false false) = true ↔
        ¬ (p.configurable = false ∧ (p.enumerable = true ∨ p.writable = false)) := by
      rw [Property.permits_iff_not_refuses, Property.Refuses]
      cases p.enumerable <;> simp [Descriptor.data]
    by_cases hp : p.permits (.data (.object id) true false false) = true
    · simp [hp, hpermits.1 hp]
    · simp [hp, not_not.1 (mt hpermits.2 hp)]

end Object

/-! ### The course -/

namespace Closure

open Effect Store

/-- What the instances of a function inherit from, with its number: an object that leads back to the
function. -/
def instances (c : Closure) (h : HeapId) (n p : ObjectId) : Object :=
  { Object.plain h n p with properties := ⟨[constructorLink c.id]⟩ }

variable {s : Store} {c : Closure} {h : HeapId} {p : ObjectId} {o o' : Object} {f : FunctionSlots}

theorem mark_eq (s : Store) (c : Closure) :
    updateFunction c.slots (fun f => { f with isConstructor := true }) s =
      .ok () (s.modifyFunction c.slots .marked) := rfl

/-- A prototype that does not exist is noticed when the function is marked already. -/
theorem makeConstructor_of_le (hs : s.Linked) (hp : s.heapSize h ≤ p) :
    makeConstructor c h p s =
      .error (.refused (.danglingObject p)) (s.modifyFunction c.slots .marked) := by
  let s₁ := s.modifyFunction c.slots .marked
  have hs₁ : s₁.Linked := hs.modifyFunction _ _
  have hdangling : createObject h (some p) s₁ = .error (.refused (.danglingObject p)) s₁ := by
    have hresolve : Option.mapM (resolve h) (some p) s₁ = .error _ _ :=
      bind_of_error (resolve_of_le hs₁.toConsistent hp)
    rw [createObject, bind_of_error hresolve]
  rw [makeConstructor, bind_of_ok (mark_eq s c), bind_of_error hdangling]

/-- If the prototype exists, the property of the function decides. -/
theorem makeConstructor_of_lt (hs : s.Linked) (ho : s.object? c.ref = some o)
    (hp : p < s.heapSize h) :
    makeConstructor c h p s =
      match o.define "prototype" (.data (.object (s.heapSize h)) true false false) with
      | .ok o' => .ok ()
          (((s.modifyFunction c.slots .marked).extend h
            [c.instances h (s.heapSize h) p]).setObject c.ref o')
      | .error e => .error (.refused e)
          ((s.modifyFunction c.slots .marked).extend h [c.instances h (s.heapSize h) p]) := by
  let s₁ := s.modifyFunction c.slots .marked
  have hs₁ : s₁.Linked := hs.modifyFunction _ _
  have hh₁ : s₁.HasHeap h := hasHeap_of_lt_heapSize hp
  have hcreate := createObject_of_lt hs₁ hh₁ hp
  have hback := defineProperty_extend hh₁ (k := 0) rfl
    (l := [.plain h (s.heapSize h) p]) rfl rfl "constructor" List.not_mem_nil
    (.data (.object c.id) true false true)
  have hread : (s₁.extend h [c.instances h (s.heapSize h) p]).object? c.ref = some o := by
    have hlive : s₁.object? c.ref = some o := (object?_modifyFunction s c.slots _ _).trans ho
    rw [object?_extend_old hh₁ _ (.of_object? hlive), hlive]
  rw [makeConstructor, bind_of_ok (mark_eq s c)]
  refine (bind_of_ok hcreate).trans ((bind_of_ok hback).trans ?_)
  rw [setInstancePrototype]
  cases hd : o.define "prototype" (.data (.object (s.heapSize h)) true false false) with
  | ok o' => exact defineProperty_of_ok hread hd
  | error e => exact defineProperty_of_error hread hd

/-! ### What is done and what is left -/

/-- The function is marked as a constructor in the second store. All other objects and all other
slots are the same, and there may be one object more. -/
structure Marks (s s' : Store) (c : Closure) (h : HeapId) (f : FunctionSlots) : Prop where
  slots : s'.function? c.slots = some f.marked
  otherSlots : ∀ id, id ≠ c.slots → s'.function? id = s.function? id
  others : ∀ r, r ≠ c.ref → r ≠ .allocated h (s.heapSize h) → s'.object? r = s.object? r

/-- The second store has a constructor where the first one had the function. There is one more
object, from which its instances inherit. -/
structure MadeConstructor (s s' : Store) (c : Closure) (h : HeapId) (p : ObjectId) (o : Object)
    (f : FunctionSlots) : Prop extends Marks s s' c h f where
  size : s'.heapSize h = s.heapSize h + 1
  function : ∃ o', s'.object? c.ref = some o' ∧ o'.id = o.id ∧ o'.slots = o.slots ∧
    o'.ownValue? "prototype" = some (.object (s.heapSize h)) ∧
    ∀ key, key ≠ "prototype" → o'.own? key = o.own? key
  handle : s'.get? h (s.heapSize h) = some (.allocated h (s.heapSize h))
  instances : ∃ i, s'.object? (.allocated h (s.heapSize h)) = some i ∧
    i.prototype = some (.allocated h p) ∧ i.ownValue? "constructor" = some c.value

/-- The second store has the function marked as a constructor and nothing else that is of use.
There is one more object if the prototype existed. -/
structure LeftMarked (s s' : Store) (c : Closure) (h : HeapId) (p : ObjectId) (o : Object)
    (f : FunctionSlots) : Prop extends Marks s s' c h f where
  size : s'.heapSize h = if p < s.heapSize h then s.heapSize h + 1 else s.heapSize h
  function : s'.object? c.ref = some o

/-- The objects and the slots of both stores are the same. -/
def Untouched (s s' : Store) : Prop :=
  (∀ r, s'.object? r = s.object? r) ∧ ∀ id, s'.function? id = s.function? id

/-- All is as it was if nothing was made and the mark was there before. -/
theorem LeftMarked.untouched_iff {s' : Store} (hl : LeftMarked s s' c h p o f)
    (ho : s.object? c.ref = some o) (hf : s.function? c.slots = some f) :
    Untouched s s' ↔ ¬ p < s.heapSize h ∧ f.isConstructor = true := by
  have hnew : ¬ s.Live (.allocated h (s.heapSize h)) := not_live_nextObject s h
  constructor
  · rintro ⟨hobjects, hfunctions⟩
    constructor
    · intro hp
      refine hnew ?_
      rw [Live, ← hobjects, ← Live, live_allocated_iff, hl.size, if_pos hp]
      exact Nat.lt_succ_self _
    · have hmarked : f.marked = f :=
        Option.some.inj (hl.slots.symm.trans ((hfunctions c.slots).trans hf))
      rw [← hmarked]
      rfl
  · rintro ⟨hp, hmark⟩
    refine ⟨fun r => ?_, fun id => ?_⟩
    · by_cases hr : r = c.ref
      · rw [hr, hl.function, ho]
      · by_cases hr' : r = .allocated h (s.heapSize h)
        · have hnew' : ¬ s'.Live r := by
            rw [hr', live_allocated_iff, hl.size, if_neg hp]
            exact Nat.lt_irrefl _
          rw [hr'] at hnew' ⊢
          rw [Option.not_isSome_iff_eq_none.1 hnew, Option.not_isSome_iff_eq_none.1 hnew']
        · exact hl.others r hr hr'
    · by_cases hid : id = c.slots
      · have hmarked : f.marked = f := by
          cases f
          cases hmark
          rfl
        rw [hid, hl.slots, hmarked, hf]
      · exact hl.otherSlots id hid

theorem ref_ne_new (ho : s.object? c.ref = some o) (h : HeapId) :
    c.ref ≠ .allocated h (s.heapSize h) := by
  intro hc
  have hlive : s.Live c.ref := .of_object? ho
  rw [hc] at hlive
  exact not_live_nextObject s h hlive

/-- What is read of the slots when the function is marked. -/
theorem function?_marked (hf : s.function? c.slots = some f) (id : FunctionId) :
    (s.modifyFunction c.slots .marked).function? id =
      if id = c.slots then some f.marked else s.function? id := by
  rw [function?_modifyFunction, hf]
  rfl

theorem leftMarked_of_le (ho : s.object? c.ref = some o) (hf : s.function? c.slots = some f)
    (hp : ¬ p < s.heapSize h) :
    LeftMarked s (s.modifyFunction c.slots .marked) c h p o f where
  slots := (function?_marked hf _).trans (if_pos rfl)
  otherSlots _ hid := (function?_marked hf _).trans (if_neg hid)
  others r _ _ := object?_modifyFunction s c.slots _ r
  size := (if_neg hp).symm
  function := (object?_modifyFunction s c.slots _ _).trans ho

/-- What is read when the object for the instances is there. -/
theorem object?_marked_extend (hh : s.HasHeap h) (i : Object) (r : ObjectRef) :
    ((s.modifyFunction c.slots .marked).extend h [i]).object? r =
      if r = .allocated h (s.heapSize h) then some i else s.object? r := by
  rw [← pushObject_eq_extend, object?_pushObject (s.modifyFunction c.slots .marked) h i r hh,
    object?_modifyFunction]
  rfl

theorem leftMarked_of_lt (ho : s.object? c.ref = some o) (hf : s.function? c.slots = some f)
    (hp : p < s.heapSize h) :
    LeftMarked s
      ((s.modifyFunction c.slots .marked).extend h [c.instances h (s.heapSize h) p]) c h p o f := by
  have hh := hasHeap_of_lt_heapSize hp
  have hread := object?_marked_extend (c := c) hh (c.instances h (s.heapSize h) p)
  refine
    { slots := (function?_marked hf _).trans (if_pos rfl)
      otherSlots := fun _ hid => (function?_marked hf _).trans (if_neg hid)
      others := fun r _ hr => ?_
      size := ?_
      function := ?_ }
  · rw [hread, if_neg hr]
  · rw [if_pos hp]
    exact heapSize_extend (s := s.modifyFunction c.slots .marked) hh _
  · rw [hread, if_neg (ref_ne_new ho h), ho]

theorem madeConstructor_of_lt (hs : s.Linked) (ho : s.object? c.ref = some o)
    (hf : s.function? c.slots = some f) (hp : p < s.heapSize h)
    (hd : o.define "prototype" (.data (.object (s.heapSize h)) true false false) = .ok o') :
    MadeConstructor s
      (((s.modifyFunction c.slots .marked).extend h
        [c.instances h (s.heapSize h) p]).setObject c.ref o') c h p o f := by
  let s₁ := s.modifyFunction c.slots .marked
  let t := s₁.extend h [c.instances h (s.heapSize h) p]
  have hh := hasHeap_of_lt_heapSize hp
  have hs₁ : s₁.Linked := hs.modifyFunction _ _
  have hread : ∀ r, t.object? r = _ :=
    object?_marked_extend (c := c) hh (c.instances h (s.heapSize h) p)
  have hread' : ∀ r, (t.setObject c.ref o').object? r =
      if r = c.ref then some o'
      else if r = .allocated h (s.heapSize h) then some (c.instances h (s.heapSize h) p)
      else s.object? r := by
    intro r
    rw [object?_setObject, hread, hread, if_neg (ref_ne_new ho h), ho]
    rfl
  have hslots : ∀ id, (t.setObject c.ref o').function? id = s₁.function? id := fun id => by
    cases c.ref <;> rfl
  refine
    { slots := (hslots _).trans ((function?_marked hf _).trans (if_pos rfl))
      otherSlots := fun _ hid => (hslots _).trans ((function?_marked hf _).trans (if_neg hid))
      others := fun r hr hr' => ?_
      size := ?_
      function := ?_
      handle := ?_
      instances := ?_ }
  · rw [hread', if_neg hr, if_neg hr']
  · rw [heapSize_setObject]
    exact heapSize_extend (s := s₁) hh _
  · refine ⟨o', (hread' _).trans (if_pos rfl), ?_, ?_, ?_, fun key hkey => ?_⟩
    · obtain ⟨q, rfl⟩ := Object.define_eq_store hd
      rfl
    · obtain ⟨q, rfl⟩ := Object.define_eq_store hd
      rfl
    · show (o'.own? "prototype").map Property.value = _
      rcases Object.define_cases hd with ⟨-, -, rfl⟩ | ⟨q, -, -, rfl⟩ <;>
        rw [Object.own?_store, if_pos rfl] <;> rfl
    · obtain ⟨q, rfl⟩ := Object.define_eq_store hd
      rw [Object.own?_store, if_neg hkey]
  · rw [get?, handles_setObject]
    exact get?_extend_new hs₁.toConsistent hh (k := 0) Nat.one_pos
  · refine ⟨c.instances h (s.heapSize h) p, ?_, rfl, rfl⟩
    rw [hread', if_neg (ref_ne_new ho h).symm, if_pos rfl]

/-- **What becomes of a function that is made a constructor.** It fails if and only if the prototype
does not exist or the function keeps its property `prototype`. Then the function is marked
nevertheless, and its properties and all other objects and slots are as they were; so nothing at all
has changed only if the prototype did not exist and the function was a constructor already.
Otherwise the function is a constructor with one new object for its instances. -/
theorem made_constructor_or_left_marked (hs : s.Reachable) (ho : s.object? c.ref = some o)
    (hf : s.function? c.slots = some f) (h : HeapId) (p : ObjectId) :
    ((∃ e s', makeConstructor c h p s = .error e s') ↔ ¬ p < s.heapSize h ∨ o.KeepsPrototype) ∧
      (∀ e s', makeConstructor c h p s = .error e s' → LeftMarked s s' c h p o f ∧
        (Untouched s s' ↔ ¬ p < s.heapSize h ∧ f.isConstructor = true)) ∧
      ∀ s', makeConstructor c h p s = .ok () s' → MadeConstructor s s' c h p o f := by
  by_cases hp : p < s.heapSize h
  · have hrun := makeConstructor_of_lt hs.linked ho hp
    have hkeeps := o.define_prototype_error_iff (s.heapSize h)
    cases hd : o.define "prototype" (.data (.object (s.heapSize h)) true false false) with
    | error e =>
      rw [hd] at hrun hkeeps
      refine ⟨?_, fun e s' herror => ?_, fun s' hok => ?_⟩
      · exact ⟨fun _ => .inr (hkeeps.1 ⟨e, rfl⟩), fun _ => ⟨_, _, hrun⟩⟩
      · cases hrun.symm.trans herror
        have hleft := leftMarked_of_lt ho hf hp
        exact ⟨hleft, hleft.untouched_iff ho hf⟩
      · cases hrun.symm.trans hok
    | ok o' =>
      rw [hd] at hrun hkeeps
      refine ⟨?_, fun e s' herror => ?_, fun s' hok => ?_⟩
      · constructor
        · rintro ⟨e, s', herror⟩
          cases hrun.symm.trans herror
        · rintro (hp' | hk)
          · exact absurd hp hp'
          · obtain ⟨e, he⟩ := hkeeps.2 hk
            cases he
      · cases hrun.symm.trans herror
      · cases hrun.symm.trans hok
        exact madeConstructor_of_lt hs.linked ho hf hp hd
  · have hrun := makeConstructor_of_le (c := c) hs.linked (Nat.le_of_not_lt hp)
    refine ⟨⟨fun _ => .inl hp, fun _ => ⟨_, _, hrun⟩⟩, fun e s' herror => ?_, fun s' hok => ?_⟩
    · cases hrun.symm.trans herror
      have hleft := leftMarked_of_le ho hf hp
      exact ⟨hleft, hleft.untouched_iff ho hf⟩
    · cases hrun.symm.trans hok

/-- A heap with a realm and an asynchronous function, which is no constructor. -/
def asyncFunction : List Operation :=
  [.newHeap, .createRealm 0,
    .instantiate 0 (.forScript (Realm.next (pushHeap {}) 0) false)
      (.ofParts 0 (some "f") [] [] .async)]

/-- The function, which has the number 7. -/
def seventh : Closure := ⟨7, .allocated 0 7, ⟨0⟩⟩

theorem exists_asyncFunction :
    let s := Operation.performAll {} asyncFunction
    s.Reachable ∧ s.heapSize 0 = 8 ∧ s.HasClosure seventh ∧
      ∃ o f, s.object? seventh.ref = some o ∧ s.function? seventh.slots = some f ∧
        f.isConstructor = false ∧ ¬ o.KeepsPrototype := by
  intro s
  have hobject : (s.object? seventh.ref).map (fun o => decide o.KeepsPrototype) = some false := by
    decide +kernel
  have hslots : (s.function? seventh.slots).map FunctionSlots.isConstructor = some false := by
    decide +kernel
  obtain ⟨o, ho, hkeeps⟩ := Option.map_eq_some_iff.1 hobject
  obtain ⟨f, hf, hmark⟩ := Option.map_eq_some_iff.1 hslots
  exact ⟨Reachable.performAll (by decide +kernel), by decide +kernel, by decide +kernel, o, f, ho,
    hf, hmark, decide_eq_false_iff_not.1 hkeeps⟩

/-- The function becomes a constructor where the prototype exists. Where it does not, it is left
marked. -/
theorem made_constructor_or_left_marked_async :
    let s := Operation.performAll {} asyncFunction
    let c := seventh
    s.HasClosure c ∧ ∃ o f, s.object? c.ref = some o ∧ s.function? c.slots = some f ∧
      f.isConstructor = false ∧
      (∃ s', makeConstructor c 0 0 s = .ok () s' ∧ MadeConstructor s s' c 0 0 o f) ∧
      ∃ e s', makeConstructor c 0 99 s = .error e s' ∧ LeftMarked s s' c 0 99 o f ∧
        ¬ Untouched s s' := by
  intro s c
  obtain ⟨hs, hsize, hc, o, f, ho, hf, hmark, hkeeps⟩ := exists_asyncFunction
  obtain ⟨hfails, -, hmade⟩ := made_constructor_or_left_marked hs ho hf 0 0
  obtain ⟨hfails', hleft, -⟩ := made_constructor_or_left_marked hs ho hf 0 99
  refine ⟨hc, o, f, ho, hf, hmark, ?_, ?_⟩
  · cases hrun : makeConstructor c 0 0 s with
    | ok _ s' => exact ⟨s', rfl, hmade s' hrun⟩
    | error e s' =>
      rcases hfails.1 ⟨e, s', hrun⟩ with hp | hk
      · exact absurd (hsize ▸ by decide) hp
      · exact absurd hk hkeeps
  · obtain ⟨e, s', hrun⟩ := hfails'.2 (.inl (hsize ▸ by decide))
    obtain ⟨hl, hiff⟩ := hleft e s' hrun
    refine ⟨e, s', hrun, hl, fun hall => ?_⟩
    rw [(hiff.1 hall).2] at hmark
    cases hmark

/-- A failure is no failure without a trace: where the prototype does not exist, the function is
marked before this is noticed. -/
theorem makeConstructor_not_all_or_nothing :
    ¬ ∀ (s : Store) (c : Closure) (h : HeapId) (p : ObjectId) (o : Object) (f : FunctionSlots),
      s.Reachable → s.HasClosure c → c.ref = .allocated h c.id → s.object? c.ref = some o →
      s.function? c.slots = some f →
      (∀ e s', makeConstructor c h p s = .error e s' → Untouched s s') ∧
        ∀ s', makeConstructor c h p s = .ok () s' → MadeConstructor s s' c h p o f := by
  intro hall
  obtain ⟨hs, hsize, hc, o, f, ho, hf, hmark, -⟩ := exists_asyncFunction
  have hp : ¬ 99 < (Operation.performAll {} asyncFunction).heapSize 0 := by
    rw [hsize]
    decide
  have huntouched := (hall _ seventh 0 99 o f hs hc rfl ho hf).1 _ _
    (makeConstructor_of_le hs.linked (Nat.le_of_not_lt hp))
  rw [(((leftMarked_of_le ho hf hp).untouched_iff ho hf).1 huntouched).2] at hmark
  cases hmark

end Closure

end FunctionObjects
