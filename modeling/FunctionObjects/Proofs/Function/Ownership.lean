import FunctionObjects.Proofs.Function.Population
import FunctionObjects.Proofs.Store.Closed
import Mathlib.Data.List.Pairwise

/-!
# Every function has its own prototype object

The object from which the instances of a function inherit is found in the own property `prototype`
of the function. In a heap with any number of realms and functions, all functions that have
instances have such an object, and no two have the same one. No such object is a function or
belongs to a realm.

That nothing is shared is a matter of where things stand: the object stands right behind the
function, so it is the object of no other function. It is not an object of a realm because those
either inherit from nothing or have a class of their own. And what an object of a realm inherits
from is of the same realm, so functions and their instances stay within the realm in which the
functions were made.
-/

namespace FunctionObjects

open Store

namespace Intrinsics

variable {i : Intrinsics}

theorem functionPrototypeFor_mem_ids (i : Intrinsics) (species : Species) :
    i.functionPrototypeFor species ∈ i.ids := by
  cases species <;> simp [functionPrototypeFor, ids]

theorem instanceParent?_mem_ids {species : Species} {q : ObjectId}
    (hq : i.instanceParent? species = some q) : q ∈ i.ids := by
  cases species <;> cases hq <;> simp [ids]

end Intrinsics

namespace Realm

variable {s : Store} {h : HeapId} {n : ObjectId}

/-- The objects of a realm that was created are older than all later ones. -/
theorem CreatedIn.lt_heapSize_of_mem_ids {r : Realm} (hr : r.CreatedIn h s) {id : ObjectId}
    (hid : id ∈ r.intrinsics.ids) : id < s.heapSize h := by
  obtain ⟨n, hn, hsize⟩ := hr.intrinsics
  rw [hn, Intrinsics.mem_ids_startingAt] at hid
  obtain ⟨k, hk, rfl⟩ := hid
  exact lt_of_lt_of_le (Nat.add_lt_add_left hk n) hsize

/-- Starting from an object of a realm one does not get out of it. -/
theorem exists_chain_of_hasFrom (hl : s.HasFrom h n (prototypes h n)) {k : Nat} (hk : k < 7) :
    ∃ l, Chain s.prototype? (.allocated h (n + k)) l ∧
      ∀ x ∈ l, ∃ k' < 7, x = .allocated h (n + k') := by
  have hroot : Chain s.prototype? (.allocated h n) [.allocated h n] := by
    refine .last ?_
    rw [prototype?, show s.object? (.allocated h n) = _ from hl 0 _ rfl]
    rfl
  have hfunction : Chain s.prototype? (.allocated h (n + 1))
      [.allocated h (n + 1), .allocated h n] := by
    refine .link ?_ hroot
    rw [prototype?, hl 1 _ rfl]
    rfl
  have hk : k < (prototypes h n).length := hk
  have ho := hl k _ (List.getElem?_eq_getElem hk)
  have hself : ∃ k' < 7, ObjectRef.allocated h (n + k) = .allocated h (n + k') := ⟨k, hk, rfl⟩
  have hprototype : s.prototype? (.allocated h (n + k)) = (prototypes h n)[k].prototype := by
    rw [prototype?, ho]
    rfl
  cases hr : (prototypes h n)[k].prototype with
  | none =>
    refine ⟨_, .last (hprototype.trans hr), fun x hx => ?_⟩
    rw [List.mem_singleton.1 hx]
    exact hself
  | some r =>
    rcases prototype_of_mem_prototypes (List.getElem_mem hk) hr with rfl | rfl
    · refine ⟨_, .link (hprototype.trans hr) hroot, fun x hx => ?_⟩
      rcases List.mem_cons.1 hx with rfl | hx
      · exact hself
      · exact ⟨0, by decide, List.mem_singleton.1 hx⟩
    · refine ⟨_, .link (hprototype.trans hr) hfunction, fun x hx => ?_⟩
      simp only [List.mem_cons, List.not_mem_nil, or_false] at hx
      rcases hx with rfl | rfl | rfl
      · exact hself
      · exact ⟨1, by decide, rfl⟩
      · exact ⟨0, by decide, rfl⟩

/-- The objects of a realm can be told from plain objects that inherit from something. -/
theorem not_plain_of_mem_prototypes {o : Object} (ho : o ∈ prototypes h n)
    (hclass : o.className = "Object") : o.prototype = none := by
  simp only [prototypes, List.mem_cons, List.not_mem_nil, or_false] at ho
  rcases ho with rfl | rfl | rfl | rfl | rfl | rfl | rfl
  · rfl
  all_goals simp [prototypeObject] at hclass

end Realm

/-- The own property `prototype` of a function leads to an object. -/
def Store.Owns (s : Store) (c : Closure) (p : ObjectId) : Prop :=
  (s.object? c.ref).bind Object.instancePrototype? = some p

namespace Population

/-- All realms of a heap: those of the population, and those that were created in the store in which
it began. -/
def HasRealm (w : Population) (h : HeapId) (s₀ : Store) (r : Realm) : Prop :=
  r ∈ w.realms ∨ r.CreatedIn h s₀

/-- An object inherits from objects of a realm, and from nothing that another realm has. -/
def InheritsFrom (w : Population) (h : HeapId) (s₀ : Store) (r : Realm) (x : ObjectRef) : Prop :=
  ∃ l, l ≠ [] ∧ Chain w.store.prototype? x (x :: l) ∧
    ∀ y ∈ l, ∃ id ∈ r.intrinsics.ids, y = .allocated h id ∧
      ∀ r', w.HasRealm h s₀ r' → id ∈ r'.intrinsics.ids → r' = r

/-- What holds of the object `p` from which the instances of a function inherit. -/
structure InstancePrototype (w : Population) (h : HeapId) (s₀ : Store) (c : Closure)
    (m : Creation) (p : ObjectId) : Prop where
  new : s₀.heapSize h ≤ p
  not_intrinsic : ∀ r, w.HasRealm h s₀ r → p ∉ r.intrinsics.ids
  /-- It is no function. If the function can be used as a constructor, it leads back to it. -/
  object : ∃ o, w.store.object? (.allocated h p) = some o ∧ o.slots = none ∧
    o.ownValue? "constructor" = if m.definition.species = .ordinary then some c.value else none
  prototype : w.store.prototype? (.allocated h p) =
    (m.context.realm.intrinsics.instanceParent? m.definition.species).map (.allocated h)
  inherits : w.InheritsFrom h s₀ m.context.realm (.allocated h p)

/-- What holds of a function `c` by itself. -/
structure WellMade (w : Population) (h : HeapId) (s₀ : Store) (c : Closure) (m : Creation) :
    Prop where
  slotsId : w.store.slotsId? c.ref = some c.slots
  slots : ∃ f, w.store.function? c.slots = some f ∧ f.definition = m.definition ∧
    f.realm = m.context.realm ∧ (f.isConstructor = true ↔ m.definition.species = .ordinary)
  owns : m.definition.species ≠ .async → ∃ p, w.store.Owns c p
  owns_none : m.definition.species = .async →
    (w.store.object? c.ref).bind (fun o => o.own? "prototype") = none
  prototype : w.store.prototype? c.ref =
    some (.allocated h (m.context.realm.intrinsics.functionPrototypeFor m.definition.species))
  inherits : w.InheritsFrom h s₀ m.context.realm c.ref

/-- The functions of a population have what belongs to them for themselves. The population began in
the store `s₀`. -/
structure Ownership (w : Population) (h : HeapId) (s₀ : Store) : Prop where
  distinct : (w.functions.map Prod.fst).Nodup
  functions : ∀ c m, (c, m) ∈ w.functions → w.WellMade h s₀ c m
  exclusive : ∀ c m c' m' p, (c, m) ∈ w.functions → (c', m') ∈ w.functions →
    w.store.Owns c p → w.store.Owns c' p → c = c'
  instances : ∀ c m p, (c, m) ∈ w.functions → w.store.Owns c p →
    w.InstancePrototype h s₀ c m p

namespace Settled

open Closure

variable {w : Population} {h : HeapId} {s₀ : Store} {r r' : Realm} {id p : ObjectId}
  {c : Closure} {m : Creation}

/-! ### Realms -/

/-- No object belongs to two realms. -/
theorem eq_of_mem_ids (hw : w.Settled h (s₀.heapSize h)) (hr : r ∈ w.realms)
    (hr' : w.HasRealm h s₀ r') (hid : id ∈ r.intrinsics.ids) (hid' : id ∈ r'.intrinsics.ids) :
    r' = r := by
  rcases hr' with hr' | hr'
  · have : Std.Symm fun r r' : Realm => r.intrinsics.ids.Disjoint r'.intrinsics.ids :=
      ⟨fun _ _ hdisjoint _ hid hid' => hdisjoint hid' hid⟩
    by_contra hne
    exact hw.apart.forall hr' hr hne hid' hid
  · -- a realm from before has lower numbers only
    obtain ⟨n, hn, hnew, -⟩ := hw.realms r hr
    rw [hn, Intrinsics.mem_ids_startingAt] at hid
    obtain ⟨k, -, rfl⟩ := hid
    exact absurd (hr'.lt_heapSize_of_mem_ids hid') (Nat.not_lt.2 (Nat.le_add_right_of_le hnew))

theorem inheritsFrom (hw : w.Settled h (s₀.heapSize h)) (hr : r ∈ w.realms)
    (hid : id ∈ r.intrinsics.ids) {x : ObjectRef}
    (hx : w.store.prototype? x = some (.allocated h id)) : w.InheritsFrom h s₀ r x := by
  obtain ⟨n, hn, -, hobjects⟩ := hw.realms r hr
  have hids : ∀ id, id ∈ r.intrinsics.ids ↔ ∃ k < 7, id = n + k := fun id => by
    rw [hn, Intrinsics.mem_ids_startingAt]
  obtain ⟨k, hk, rfl⟩ := (hids id).1 hid
  obtain ⟨l, hl, hmem⟩ := Realm.exists_chain_of_hasFrom hobjects hk
  refine ⟨l, List.ne_nil_of_mem hl.head_mem, .link hx hl, fun y hy => ?_⟩
  obtain ⟨k', hk', rfl⟩ := hmem y hy
  have hid' := (hids (n + k')).2 ⟨k', hk', rfl⟩
  exact ⟨n + k', hid', rfl, fun r' hr' => hw.eq_of_mem_ids hr hr' hid'⟩

/-! ### Functions -/

theorem object?_of_mem (hw : w.Settled h (s₀.heapSize h)) (hc : (c, m) ∈ w.functions) :
    w.store.object? c.ref = some (functionObject h m.context m.definition c.id m.slots
      (if m.definition.species = .async then [] else [instanceLink (c.id + 1)])) := by
  obtain ⟨-, -, hobjects⟩ := hw.functions c m hc
  rw [hw.ref_eq hc]
  exact hobjects 0 _ (group_zero _ _)

/-- The object that a function has for its instances stands right behind it. -/
theorem owns_iff (hw : w.Settled h (s₀.heapSize h)) (hc : (c, m) ∈ w.functions) :
    w.store.Owns c p ↔ m.definition.species ≠ .async ∧ p = c.id + 1 := by
  rw [Owns, hw.object?_of_mem hc]
  by_cases hd : m.definition.species = .async <;>
    simp [hd, Object.instancePrototype?, Object.ownValue?, Object.own?, functionObject,
      OrderedMap.get?_cons, lengthProperty, nameProperty, instanceLink, WellKnownKey.text,
      Value.object?, eq_comm]

theorem object?_of_owns (hw : w.Settled h (s₀.heapSize h)) (hc : (c, m) ∈ w.functions)
    (hp : w.store.Owns c p) :
    ∃ parent, m.context.realm.intrinsics.instanceParent? m.definition.species = some parent ∧
      w.store.object? (.allocated h p) = some
        { Object.plain h (c.id + 1) parent with
          properties :=
            ⟨if m.definition.species = .ordinary then [constructorLink c.id] else []⟩ } := by
  obtain ⟨-, -, hobjects⟩ := hw.functions c m hc
  obtain ⟨hd, rfl⟩ := (hw.owns_iff hc).1 hp
  obtain ⟨parent, hparent, hgroup⟩ := group_of_ne_async h m.context hd c.id m.slots
  refine ⟨parent, hparent, hobjects 1 _ ?_⟩
  rw [Creation.objects, hgroup]
  rfl

theorem wellMade (hw : w.Settled h (s₀.heapSize h)) (hc : (c, m) ∈ w.functions) :
    w.WellMade h s₀ c m := by
  have hobject := hw.object?_of_mem hc
  have hprototype : w.store.prototype? c.ref = some (.allocated h
      (m.context.realm.intrinsics.functionPrototypeFor m.definition.species)) := by
    rw [prototype?, hobject]
    rfl
  obtain ⟨-, hr, -⟩ := hw.functions c m hc
  have hslots : c.slots = m.slots := hw.slots_eq hc
  refine ⟨?_, ⟨m.function, ?_, rfl, rfl, ?_⟩, fun hd => ?_, fun hd => ?_, hprototype,
    hw.inheritsFrom hr (Intrinsics.functionPrototypeFor_mem_ids _ _) hprototype⟩
  · rw [slotsId?_of_object? hobject, hslots]
    rfl
  · rw [hslots, hw.slots c m hc]
  · simp [Creation.function, functionSlots]
  · exact ⟨c.id + 1, (hw.owns_iff hc).2 ⟨hd, rfl⟩⟩
  · rw [hobject]
    simp [hd, Object.own?, functionObject, OrderedMap.get?_cons, lengthProperty, nameProperty]

/-- The object for the instances of a function came into the heap after the beginning. -/
theorem heapSize_le_of_owns (hw : w.Settled h (s₀.heapSize h)) (hc : (c, m) ∈ w.functions)
    (hp : w.store.Owns c p) : s₀.heapSize h ≤ p := by
  obtain ⟨hnew, -⟩ := hw.functions c m hc
  obtain ⟨-, rfl⟩ := (hw.owns_iff hc).1 hp
  exact Nat.le_succ_of_le hnew

theorem not_mem_ids_of_owns (hw : w.Settled h (s₀.heapSize h)) (hc : (c, m) ∈ w.functions)
    (hp : w.store.Owns c p) (hr : w.HasRealm h s₀ r) : p ∉ r.intrinsics.ids := by
  intro hid
  rcases hr with hr | hr
  · obtain ⟨parent, -, hobject⟩ := hw.object?_of_owns hc hp
    obtain ⟨n, hn, -, hobjects⟩ := hw.realms r hr
    rw [hn, Intrinsics.mem_ids_startingAt] at hid
    obtain ⟨k, hk, rfl⟩ := hid
    have hk : k < (Realm.prototypes h n).length := hk
    -- an object of the realm would not be a plain one
    have hread := hobjects k _ (List.getElem?_eq_getElem hk)
    rw [hobject, Option.some_inj] at hread
    have hnone := Realm.not_plain_of_mem_prototypes (List.getElem_mem hk)
      (congrArg Object.className hread).symm
    rw [← hread] at hnone
    cases hnone
  · exact absurd (hr.lt_heapSize_of_mem_ids hid) (Nat.not_lt.2 (hw.heapSize_le_of_owns hc hp))

theorem instancePrototype (hw : w.Settled h (s₀.heapSize h)) (hc : (c, m) ∈ w.functions)
    (hp : w.store.Owns c p) : w.InstancePrototype h s₀ c m p := by
  obtain ⟨-, hr, -⟩ := hw.functions c m hc
  obtain ⟨parent, hparent, hobject⟩ := hw.object?_of_owns hc hp
  have hprototype : w.store.prototype? (.allocated h p) = some (.allocated h parent) := by
    rw [prototype?, hobject]
    rfl
  refine ⟨hw.heapSize_le_of_owns hc hp, fun _ => hw.not_mem_ids_of_owns hc hp,
    ⟨_, hobject, rfl, ?_⟩, ?_,
    hw.inheritsFrom hr (Intrinsics.instanceParent?_mem_ids hparent) hprototype⟩
  · split <;> rfl
  · rw [hprototype, hparent]
    rfl

end Settled

theorem ownership_of_settled {w : Population} {h : HeapId} {s₀ : Store}
    (hw : w.Settled h (s₀.heapSize h)) : w.Ownership h s₀ := by
  refine ⟨hw.distinct, fun c m => hw.wellMade, fun c m c' m' p hc hc' hp hp' => ?_,
    fun c m p => hw.instancePrototype⟩
  obtain ⟨-, hpc⟩ := (hw.owns_iff hc).1 hp
  obtain ⟨-, hpc'⟩ := (hw.owns_iff hc').1 hp'
  have hid : c.id = c'.id := Nat.succ.inj (hpc.symm.trans hpc')
  have hplace : c.ref = c'.ref := by
    rw [hw.ref_eq hc, hw.ref_eq hc', hid]
  -- one object refers to one function
  have hslots : some c.slots = some c'.slots := by
    rw [← (hw.wellMade hc).slotsId, ← (hw.wellMade hc').slotsId, hplace]
  calc
    c = ⟨c.id, c.ref, c.slots⟩ := rfl
    _ = ⟨c'.id, c'.ref, c'.slots⟩ := by rw [hid, hplace, Option.some.inj hslots]
    _ = c' := rfl

/-- **Prototype objects are owned exclusively.** In a heap of any store in which prototype chains
end, as they do in all that are reachable, whatever realms are created and whatever functions are
made in them, in whatever order, every function has what belongs to it for itself and within its
realm. All that was ordered is there. -/
theorem prototypes_owned_exclusively {s : Store} {h : HeapId} (hs : s.Linked) (hh : s.HasHeap h)
    {orders : List Order} (hfit : FitAll h { store := s } orders) :
    let w := performAll h { store := s } orders
    w.Ownership h s ∧ w.realms.length + w.functions.length = orders.length := by
  intro w
  obtain ⟨hw, hlength⟩ := (settled_empty hs hh).performAll hfit
  exact ⟨ownership_of_settled hw, by simpa using hlength⟩

/-- Two realms, and the same definition in the first, in the second and in the first again, with
functions of other species among them. -/
def mixedOrders : List Order :=
  let first := Context.forScript (Realm.next (pushHeap {}) 0) false
  let second := Context.forScript (Realm.next (Realm.afterNext (pushHeap {}) 0) 0) true
  let d := FunctionDefinition.ofParts 0 (some "f") [] [] .ordinary
  [.realm, .realm, .function first d, .function second d,
    .function second (.ofParts 1 none [] [] .async), .function first d,
    .function first (.ofParts 2 (some "g") [] [] .generator)]

/-- The functions with the numbers 14 and 19 come from the same definition in the same realm, and
the objects for their instances are two. -/
theorem prototypes_owned_exclusively_mixedOrders :
    let s := pushHeap {}
    let w := performAll 0 { store := s } mixedOrders
    s.Linked ∧ s.HasHeap 0 ∧ FitAll 0 { store := s } mixedOrders ∧ w.Ownership 0 s ∧
      w.functions.map (fun p => p.1.id) = [14, 16, 18, 19, 21] := by
  intro s w
  have hheap : Change (fun _ => True) True {} s := .newHeap
  have hs : s.Linked := linked_empty.change hheap
  have hh : s.HasHeap 0 := by decide
  have hfit : FitAll 0 { store := s } mixedOrders := by decide +kernel
  exact ⟨hs, hh, hfit, (prototypes_owned_exclusively hs hh hfit).1, by decide +kernel⟩

end Population

end FunctionObjects
