import FunctionObjects.Proofs.Store.Effects

/-!
# Handles and objects agree

A heap keeps the table of its handles apart from its objects, and an object is told its handle when
it gets one. Nothing but the way in which objects come into being makes the three agree: the table
leads from each handle to the object of that number, and this object has been told the number. An
object that was made for no heap has been told none.

Everything that resolves a handle rests on this, so it is the first invariant of all stores.
-/

namespace FunctionObjects

namespace Store

theorem resolve_eq_ok_iff {s : Store} {h : HeapId} {id : ObjectId} {r : ObjectRef} :
    s.resolve h id = .ok r ↔ s.get? h id = some r := by
  unfold resolve
  cases s.get? h id <;> simp

/-- What handles and objects have to do with one another. -/
structure Consistent (s : Store) : Prop where
  handles : ∀ h id, s.get? h id = if id < s.heapSize h then some (.allocated h id) else none
  told : ∀ r o, s.object? r = some o → o.id = r.numberInHeap?

namespace Consistent

variable {s : Store} {h : HeapId} {id : ObjectId} {r : ObjectRef}

theorem get?_of_lt (hs : s.Consistent) (hid : id < s.heapSize h) :
    s.get? h id = some (.allocated h id) :=
  (hs.handles h id).trans (if_pos hid)

theorem get?_of_le (hs : s.Consistent) (hid : s.heapSize h ≤ id) : s.get? h id = none :=
  (hs.handles h id).trans (if_neg (Nat.not_lt.2 hid))

theorem get?_eq_some_iff (hs : s.Consistent) :
    s.get? h id = some r ↔ id < s.heapSize h ∧ r = .allocated h id := by
  rw [hs.handles]
  split
  · next hid => simp [hid, eq_comm]
  · next hid => simp [hid]

theorem resolve_eq_ok_iff (hs : s.Consistent) :
    s.resolve h id = .ok r ↔ id < s.heapSize h ∧ r = .allocated h id :=
  Store.resolve_eq_ok_iff.trans hs.get?_eq_some_iff

/-- There are as many handles as objects. -/
theorem handleCount_eq (hs : s.Consistent) (h : HeapId) : s.handleCount h = s.heapSize h := by
  apply Nat.le_antisymm
  · by_contra hlt
    have hnone := hs.get?_of_le (h := h) (Nat.le_refl _)
    rw [get?, Array.getElem?_eq_none_iff] at hnone
    exact hlt hnone
  · by_contra hlt
    have hsome := hs.get?_of_lt (Nat.lt_of_not_le hlt)
    rw [get?, Array.getElem?_eq_none (show (s.handles h).size ≤ s.handleCount h from le_rfl)]
      at hsome
    cases hsome

/-- What a handle names exists. -/
theorem live_of_named (hs : s.Consistent) (hr : s.Named r) : s.Live r := by
  rcases hr with hr | ⟨h, id, hid⟩
  · exact hr
  · obtain ⟨hlt, rfl⟩ := hs.get?_eq_some_iff.1 hid
    exact live_allocated_iff.2 hlt

end Consistent

/-! ### Changes keep it -/

variable {made : FunctionSlots → Prop} {flags : Prop} {s s' : Store} {r : ObjectRef}

theorem consistent_empty : Consistent {} where
  handles h id := rfl
  told r o ho := by cases r <;> cases ho

/-- Only the objects and their handles matter. -/
theorem Consistent.of_heaps (hs : s.Consistent) (hheaps : s'.heaps = s.heaps)
    (hloose : s'.loose = s.loose) : s'.Consistent where
  handles h id := by
    have hread := hs.handles h id
    rwa [get?, Store.handles, heapSize, heap, ← hheaps] at hread
  told r o ho := by
    refine hs.told r o (Eq.trans ?_ ho)
    cases r <;> simp only [object?, heap, hheaps, hloose]

/-- The next object of a heap is named by the next handle, and this is what it is told. -/
theorem Consistent.pushObject {h : HeapId} (hs : s.Consistent) (hh : s.HasHeap h) (o : Object) :
    (s.pushObject h { o with id := some (s.handleCount h) }).Consistent where
  handles i id := by
    rw [get?, handles_pushObject s h i _ hh, heapSize_pushObject s h i _ hh]
    split
    · next hi =>
      subst hi
      have hcount : (s.handles i).size = s.heapSize i := hs.handleCount_eq i
      have hread : (s.handles i)[id]? = _ := hs.handles i id
      rw [Array.getElem?_push, hread, hcount, nextObject]
      by_cases hid : id = s.heapSize i
      · simp [hid]
      · simp only [if_neg hid, Nat.lt_succ_iff_lt_or_eq, or_iff_left hid]
    · exact hs.handles i id
  told r x hx := by
    rw [object?_pushObject s h _ r hh] at hx
    split at hx
    · next hr =>
      cases hx
      rw [hr, hs.handleCount_eq]
      rfl
    · exact hs.told r x hx

theorem Consistent.change (hs : s.Consistent) (hc : Change made flags s s') : s'.Consistent := by
  cases hc with
  | newHeap =>
    refine ⟨fun h id => ?_, fun r o ho => hs.told r o ((object?_pushHeap s r).symm.trans ho)⟩
    rw [get?, handles_pushHeap, heapSize, heap_pushHeap]
    exact hs.handles h id
  | @newLoose o _ hid =>
    refine ⟨hs.handles, fun r x hx => ?_⟩
    rw [object?_pushLoose] at hx
    split at hx
    · next hr =>
      cases hx
      rw [hr, hid]
      rfl
    · exact hs.told r x hx
  | newObject hh => exact hs.pushObject hh _
  | @newFunction h o f hh =>
    have hs : (s.pushFunction f).Consistent := hs.of_heaps rfl rfl
    exact hs.pushObject hh _
  | markConstructor => exact hs.of_heaps rfl rfl
  | setHome => exact hs.of_heaps rfl rfl
  | @replace r o o' ho hr =>
    refine ⟨fun h id => ?_, fun r' x hx => ?_⟩
    · rw [get?, handles_setObject, heapSize_setObject]
      exact hs.handles h id
    · rw [object?_setObject, ho] at hx
      split at hx
      · next hrr' =>
        cases hx
        rw [hrr', hr.id_eq ho, hs.told r o ho]
      · exact hs.told r' x hx
  | newScope => exact hs.of_heaps rfl rfl
  | inScope => exact hs.of_heaps rfl rfl
  | newPrivateScope => exact hs.of_heaps rfl rfl
  | @declarePrivate p description =>
    obtain ⟨hheaps, hloose, -, -⟩ := declarePrivate_frame s p description
    exact hs.of_heaps hheaps hloose
  | issueRealm => exact hs.of_heaps rfl rfl

theorem Consistent.changes (hs : s.Consistent) (h : Changes made flags s s') : s'.Consistent := by
  induction h with
  | refl => exact hs
  | tail _ hc ih => exact ih.change hc

end Store

/-! ### What is resolved -/

namespace Effect

open Store

variable {s : Store} {h : HeapId} {id : ObjectId}

theorem resolve_of_lt (hs : s.Consistent) (hid : id < s.heapSize h) :
    resolve h id s = .ok (.allocated h id) s :=
  resolve_of_some (hs.get?_of_lt hid)

theorem resolve_of_le (hs : s.Consistent) (hid : s.heapSize h ≤ id) :
    resolve h id s = .error (.refused (.danglingObject id)) s :=
  resolve_of_none (hs.get?_of_le hid)

end Effect

end FunctionObjects
