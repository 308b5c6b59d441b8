import FunctionObjects.Proofs.Store.Consistent
import FunctionObjects.Proofs.Store.Reachable
import Mathlib.Data.List.Perm.Subperm

/-!
# Prototype chains end

The walks along prototypes are given the number of all objects as a bound. That the bound is never
felt, and that there is no circle, are two sides of one invariant (`Linked`): links lead to objects
that exist, and every chain of links ends. Then a chain meets no object twice, so it is no longer
than the bound; then the walk that `withPrototype` makes to find a circle sees the whole chain; and
then the link that it allows closes none.

The main statement is `prototype_chain_ends`: in every reachable store, whatever was linked to what
in whatever order, each object has a finite chain, and each of the three walks is the walk along it.
-/

namespace FunctionObjects

namespace Store

variable {made : FunctionSlots → Prop} {flags : Prop} {s s' : Store}

/-! ### The number of objects -/

/-- The places of all objects. -/
def places (s : Store) : List ObjectRef :=
  (List.range s.loose.size).map .loose ++
    (List.range s.heaps.size).flatMap fun h => (List.range (s.heapSize h)).map (.allocated h)

theorem Live.mem_places {r : ObjectRef} (hr : s.Live r) : r ∈ s.places := by
  unfold places
  cases r with
  | loose n =>
    rw [live_loose_iff] at hr
    simp [hr]
  | allocated h id =>
    rw [live_allocated_iff] at hr
    have hh : h < s.heaps.size := hasHeap_of_lt_heapSize hr
    simp [hh, hr]

theorem length_places (s : Store) : s.places.length = s.objectCount := by
  have hfold : ∀ (l : List Heap) (n : Nat),
      l.foldl (fun n heap => n + heap.objects.size) n =
        n + (l.map fun heap => heap.objects.size).sum := by
    intro l
    induction l with
    | nil => simp
    | cons heap l ih =>
      intro n
      simp [ih, Nat.add_assoc]
  have hsizes : (List.range s.heaps.size).map s.heapSize =
      s.heaps.toList.map fun heap => heap.objects.size := by
    apply List.ext_getElem
    · simp
    · intro i hi hi'
      have hi : i < s.heaps.size := by simpa using hi
      simp [heapSize, heap, hi]
  rw [objectCount, ← Array.foldl_toList, hfold, ← hsizes]
  simp [places, List.length_flatMap]

/-! ### The invariant -/

/-- Handles and objects agree, every prototype exists, and every chain of prototypes ends. -/
structure Linked (s : Store) : Prop extends s.Consistent where
  live : ∀ r q, s.prototype? r = some q → s.Live q
  ends : ∀ r, ∃ l, Chain s.prototype? r l

namespace Linked

theorem live_of_mem (hs : s.Linked) {r : ObjectRef} {l : List ObjectRef}
    (hl : Chain s.prototype? r l) (hr : s.Live r) : ∀ q ∈ l, s.Live q :=
  hl.forall_mem (fun _ q _ hq => hs.live _ q hq) hr

/-- A chain is no longer than there are objects. -/
theorem length_le (hs : s.Linked) {r : ObjectRef} {l : List ObjectRef}
    (hl : Chain s.prototype? r l) (hr : s.Live r) : l.length ≤ s.objectCount := by
  rw [← length_places]
  have hsub : l ⊆ s.places := fun q hq => (hs.live_of_mem hl hr q hq).mem_places
  exact (hl.nodup.subperm hsub).length_le

/-- The bounded walk is the walk along the whole chain. -/
theorem firstInherited_eq (hs : s.Linked) {r : ObjectRef} {l : List ObjectRef}
    (hl : Chain s.prototype? r l) (hr : s.Live r) {β : Type} (f : ObjectRef → Option β) :
    s.firstInherited f r = l.findSome? f :=
  firstAlong_eq_findSome? hl (hs.length_le hl hr)

theorem reaches_eq (hs : s.Linked) {r : ObjectRef} {l : List ObjectRef}
    (hl : Chain s.prototype? r l) (hr : s.Live r) (o : ObjectRef) :
    s.reaches o r = decide (o ∈ l) := by
  rw [reaches, hs.firstInherited_eq hl hr]
  rw [Bool.eq_iff_iff]
  simp [List.findSome?_isSome_iff]

end Linked

/-! ### Changes keep it -/

theorem linked_empty : Linked {} := by
  have hnone : ∀ r, prototype? {} r = none := fun r => by cases r <;> rfl
  refine ⟨consistent_empty, fun r q hq => ?_, fun r => ⟨[r], .last (hnone r)⟩⟩
  rw [hnone] at hq
  cases hq

/-- Beside the handles only the prototypes and what exists matter. -/
theorem Linked.of_prototype? (hs : s.Linked) (hs' : s'.Consistent)
    (hp : ∀ r, s'.prototype? r = s.prototype? r) (hlive : ∀ r, s.Live r → s'.Live r) :
    s'.Linked := by
  refine ⟨hs', fun r q hq => hlive q (hs.live r q ((hp r).symm.trans hq)), fun r => ?_⟩
  obtain ⟨l, hl⟩ := hs.ends r
  exact ⟨l, hl.congr fun b _ => hp b⟩

/-- What a change does to the prototypes: nothing, or it gives one object another prototype, which
does not inherit from it. -/
theorem Change.prototype? (hc : Change made flags s s') :
    (∀ r, s'.prototype? r = s.prototype? r) ∨
      ∃ o p, (∀ q, p = some q → s.Named q ∧ s.reaches o q = false) ∧
        ∀ r, s'.prototype? r = if r = o then p else s.prototype? r := by
  cases hc.objects with
  | none h => exact .inl fun r => by simp only [Store.prototype?, h]
  | @new r o hr ho _ h =>
    left
    intro r'
    simp only [Store.prototype?, h]
    split
    · next hr' =>
      have hnone : s.object? r = none := by simpa [Live] using hr
      simp [hr', hnone, ho.prototype]
    · rfl
  | @replaced r o o' ho hro h =>
    have hread : ∀ r', s'.prototype? r' = if r' = r then o'.prototype else s.prototype? r' := by
      intro r'
      simp only [Store.prototype?, h]
      split <;> rfl
    have hsame : o'.prototype = o.prototype → ∀ r', s'.prototype? r' = s.prototype? r' := by
      intro hp r'
      rw [hread, hp]
      split
      · next hr' => simp [Store.prototype?, hr', ho]
      · rfl
    cases hro with
    | define hd =>
      obtain ⟨p, rfl⟩ := Object.define_eq_store hd
      exact .inl (hsame rfl)
    | @relink p o' hp hw =>
      rcases withPrototype_cases ho hw with rfl | ⟨-, hreach, rfl⟩
      · exact .inl (hsame rfl)
      · exact .inr ⟨r, p, fun q hq => ⟨hp q hq, hreach q hq⟩, hread⟩
    | setExtensible => exact .inl (hsame rfl)
    | setClass => exact .inl (hsame rfl)

theorem Linked.change (hs : s.Linked) (hc : Change made flags s s') : s'.Linked := by
  have hlive : ∀ r, s.Live r → s'.Live r := fun r hr => hc.grows.live hr
  have hs' : s'.Consistent := hs.toConsistent.change hc
  rcases hc.prototype? with hsame | ⟨o, p, hp, hread⟩
  · exact hs.of_prototype? hs' hsame hlive
  · refine ⟨hs', fun r q hq => ?_, fun r => ?_⟩
    · rw [hread] at hq
      split at hq
      · exact hlive q (hs.live_of_named (hp q hq).1)
      · exact hlive q (hs.live r q hq)
    · -- the walk from the new prototype saw all of its chain and did not meet `o`
      have havoid : ∀ q, p = some q → ∃ l, Chain s.prototype? q l ∧ o ∉ l := by
        intro q hq
        obtain ⟨hq, hreach⟩ := hp q hq
        obtain ⟨l, hl⟩ := hs.ends q
        rw [hs.reaches_eq hl (hs.live_of_named hq)] at hreach
        exact ⟨l, hl, by simpa using hreach⟩
      obtain ⟨l, hl⟩ := hs.ends r
      obtain ⟨l', hl'⟩ := hl.redirect havoid
      exact ⟨l', hl'.congr fun b _ => hread b⟩

theorem Linked.changes (hs : s.Linked) (h : Changes made flags s s') : s'.Linked := by
  induction h with
  | refl => exact hs
  | tail _ hc ih => exact ih.change hc

theorem Reachable.linked (hs : s.Reachable) : s.Linked :=
  hs.induction linked_empty fun _ _ hs hc => hs.change hc

/-! ### The walks -/

theorem Linked.hasProperty_eq (hs : s.Linked) {r : ObjectRef} {l : List ObjectRef}
    (hl : Chain s.prototype? r l) (hr : s.Live r) (key : String) :
    s.hasProperty r key = l.any fun q => (s.own? key q).isSome := by
  rw [hasProperty, property?, hs.firstInherited_eq hl hr, List.isSome_findSome?]

theorem Linked.getProperty_eq (hs : s.Linked) {r : ObjectRef} {l : List ObjectRef}
    (hl : Chain s.prototype? r l) (hr : s.Live r) (key : String) :
    s.getProperty r key = (l.findSome? (s.own? key)).elim .undefined Property.value := by
  rw [getProperty, property?, hs.firstInherited_eq hl hr]

/-- The value of a property is the object's own if it has the key, and else that of its prototype,
if there is one. -/
theorem Linked.getProperty_rec (hs : s.Linked) {r : ObjectRef} (hr : s.Live r) (key : String) :
    s.getProperty r key =
      match s.own? key r with
      | some p => p.value
      | none => (s.prototype? r).elim .undefined fun q => s.getProperty q key := by
  obtain ⟨l, hl⟩ := hs.ends r
  rw [hs.getProperty_eq hl hr]
  cases hown : s.own? key r with
  | some p => cases hl <;> simp [hown]
  | none =>
    cases hl with
    | last hq => simp [hown, hq]
    | @link _ q l hq hl =>
      rw [hq, Option.elim_some, hs.getProperty_eq hl (hs.live r q hq)]
      simp [hown]

/-- An object has a property if it has the key itself or its prototype, if there is one, has the
property. -/
theorem Linked.hasProperty_rec (hs : s.Linked) {r : ObjectRef} (hr : s.Live r) (key : String) :
    s.hasProperty r key =
      ((s.own? key r).isSome ||
        (s.prototype? r).elim false fun q => s.hasProperty q key) := by
  obtain ⟨l, hl⟩ := hs.ends r
  rw [hs.hasProperty_eq hl hr]
  cases hl with
  | last hq => simp [hq]
  | @link _ q l hq hl =>
    rw [hq, Option.elim_some, hs.hasProperty_eq hl (hs.live r q hq), List.any_cons]

/-- **Prototype chains never become circles.** In a reachable store one can recurse along the
prototypes of any object, the chain from it is finite and no longer than there are objects, and what
is found by the three walks is what is found on the whole chain. -/
theorem prototype_chain_ends (hs : s.Reachable) {r : ObjectRef} (hr : s.Live r) :
    Acc (fun q r => s.prototype? r = some q) r ∧
      ∃ l, Chain s.prototype? r l ∧ (∀ q ∈ l, s.Live q) ∧ l.length ≤ s.objectCount ∧
        (∀ key, s.getProperty r key =
          (l.findSome? (s.own? key)).elim .undefined Property.value) ∧
        (∀ key, s.hasProperty r key = l.any fun q => (s.own? key q).isSome) ∧
        ∀ o, s.reaches o r = decide (o ∈ l) := by
  have hs := hs.linked
  obtain ⟨l, hl⟩ := hs.ends r
  refine ⟨hl.acc, l, hl, hs.live_of_mem hl hr, hs.length_le hl hr, ?_, ?_, ?_⟩
  · exact hs.getProperty_eq hl hr
  · exact hs.hasProperty_eq hl hr
  · exact hs.reaches_eq hl hr

/-- Links from one heap to an object in none and on to another heap, and at last the attempt to
close the circle. -/
def linksAcrossHeaps : List Operation :=
  [.newHeap, .createRealm 0, .newHeap, .createObject 1 none, .newLoose {},
    .setPrototype (.allocated 0 0) (some (.loose 0)),
    .setPrototype (.loose 0) (some (.allocated 1 0)),
    .setPrototype (.allocated 1 0) (some (.allocated 0 1))]

theorem prototype_chain_ends_across_heaps :
    let s := Operation.performAll {} linksAcrossHeaps
    s.Reachable ∧ s.Live (.allocated 0 1) ∧
      Acc (fun q r => s.prototype? r = some q) (.allocated 0 1) ∧
      ∃ l, Chain s.prototype? (.allocated 0 1) l ∧ (∀ q ∈ l, s.Live q) ∧
        l.length ≤ s.objectCount ∧
        (∀ key, s.getProperty (.allocated 0 1) key =
          (l.findSome? (s.own? key)).elim .undefined Property.value) ∧
        (∀ key, s.hasProperty (.allocated 0 1) key = l.any fun q => (s.own? key q).isSome) ∧
        ∀ o, s.reaches o (.allocated 0 1) = decide (o ∈ l) := by
  have hs : (Operation.performAll {} linksAcrossHeaps).Reachable :=
    Reachable.performAll (by decide +kernel)
  have hr : (Operation.performAll {} linksAcrossHeaps).Live (.allocated 0 1) := by
    decide +kernel
  exact ⟨hs, hr, prototype_chain_ends hs hr⟩

end Store

end FunctionObjects
