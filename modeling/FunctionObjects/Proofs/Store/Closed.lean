import FunctionObjects.Proofs.Store.Building

/-!
# Stores in which no handle dangles

A handle is only a number, so nothing keeps it from meaning an object that does not exist. `Closed`
says of a heap, its objects and all scopes that no handle does: what a property holds and what an
object inherits from is in the heap, and a name that is bound to an object is bound to a function,
whose scope is the one that has the binding.

New objects may refer to each other and to the old ones, so a store is closed again when they are
all there (`Closed.extend`); in between it need not be. A new scope has no values, or it is the one
for the name of a function that exists already (`Closed.pushScope`).
-/

namespace FunctionObjects

open Store

/-! ### The handles in new objects -/

theorem Object.mem_entries_of_own? {o : Object} {key : String} {p : Property}
    (h : o.own? key = some p) : (key, p) ∈ o.properties.entries := by
  obtain ⟨⟨key', p'⟩, hfind, rfl⟩ := Option.map_eq_some_iff.1 h
  have hkey : key' = key := by simpa using List.find?_some hfind
  rw [← hkey]
  exact List.mem_of_find?_eq_some hfind

/-- The objects of a new realm refer to each other only. -/
theorem Realm.handle_of_mem_prototypes {h : HeapId} {n q : ObjectId} {o : Object} {key : String}
    {p : Property} (ho : o ∈ prototypes h n) (hp : o.own? key = some p)
    (hq : p.value = .object q) : q < n + 7 := by
  have hp := Object.mem_entries_of_own? hp
  simp only [prototypes, List.mem_cons, List.not_mem_nil, or_false] at ho
  rcases ho with rfl | rfl | rfl | rfl | rfl | rfl | rfl <;>
    simp only [prototypeObject, link, List.mem_cons, List.not_mem_nil, or_false,
      Prod.mk.injEq] at hp <;>
    obtain ⟨-, rfl⟩ := hp <;> cases hq <;> exact Nat.add_lt_add_left (by decide) n

theorem Realm.prototype_of_mem_prototypes {h : HeapId} {n : ObjectId} {o : Object} {r : ObjectRef}
    (ho : o ∈ prototypes h n) (hr : o.prototype = some r) :
    r = .allocated h n ∨ r = .allocated h (n + 1) := by
  simp only [prototypes, List.mem_cons, List.not_mem_nil, or_false] at ho
  rcases ho with rfl | rfl | rfl | rfl | rfl | rfl | rfl <;> cases hr <;> simp

namespace Closure

variable {h : HeapId} {context : Context} {d : FunctionDefinition} {n q : ObjectId}
  {slots : FunctionId} {o : Object}

/-- The length and the name of a function are no objects. -/
theorem mem_of_mem_functionObject {properties : List (String × Property)}
    {entry : String × Property}
    (he : entry ∈ (functionObject h context d n slots properties).properties.entries)
    (hq : entry.2.value = .object q) : entry ∈ properties := by
  rcases List.mem_cons.1 he with rfl | he
  · cases hq
  · rcases List.mem_cons.1 he with rfl | he
    · cases hq
    · exact he

/-- A function and what belongs to it refer to each other only. -/
theorem handle_of_mem_group {key : String} {p : Property} (ho : o ∈ group h context d n slots)
    (hp : o.own? key = some p) (hq : p.value = .object q) :
    q < n + (group h context d n slots).length := by
  have hp := Object.mem_entries_of_own? hp
  by_cases hd : d.species = .async
  · rw [group_of_async hd, List.mem_singleton] at ho
    rw [ho] at hp
    cases mem_of_mem_functionObject hp hq
  · obtain ⟨parent, -, hgroup⟩ := group_of_ne_async h context hd n slots
    rw [hgroup, List.mem_cons, List.mem_singleton] at ho
    rw [hgroup]
    rcases ho with rfl | rfl
    · cases List.mem_singleton.1 (mem_of_mem_functionObject hp hq)
      cases hq
      exact Nat.lt_succ_self _
    · -- only an ordinary function is led back to
      split at hp
      · cases List.mem_singleton.1 hp
        cases hq
        exact Nat.lt_add_of_pos_right (show 0 < 2 by decide)
      · cases hp

/-- They inherit from what the realm provides. -/
theorem prototype_of_mem_group {r : ObjectRef} (ho : o ∈ group h context d n slots)
    (hr : o.prototype = some r) :
    r = .allocated h (context.realm.intrinsics.functionPrototypeFor d.species) ∨
      ∃ p, context.realm.intrinsics.instanceParent? d.species = some p ∧ r = .allocated h p := by
  by_cases hd : d.species = .async
  · rw [group_of_async hd, List.mem_singleton] at ho
    subst ho
    cases hr
    exact .inl rfl
  · obtain ⟨p, hp, hgroup⟩ := group_of_ne_async h context hd n slots
    rw [hgroup, List.mem_cons, List.mem_singleton] at ho
    rcases ho with rfl | rfl
    · cases hr
      exact .inl rfl
    · cases hr
      exact .inr ⟨p, hp, rfl⟩

end Closure

namespace Store

open Closure

/-- No handle dangles. The heap is `h`; scopes are in no heap. -/
structure Closed (s : Store) (h : HeapId) : Prop where
  /-- The objects that properties hold exist. -/
  properties : ∀ id o key p q, s.object? (.allocated h id) = some o → o.own? key = some p →
    p.value = .object q → s.Live (.allocated h q)
  /-- What an object inherits from exists, and it is in the same heap. -/
  prototypes : ∀ id o r, s.object? (.allocated h id) = some o → o.prototype = some r →
    ∃ q, r = .allocated h q ∧ s.Live r
  /-- An object to which a name is bound is a function, and the name is bound in its scope. -/
  bindings : ∀ e name b q, (s.scope e).binding? name = some b → b.value = .object q →
    ∃ f, s.slots? (.allocated h q) = some f ∧ f.scope = e

variable {s s' : Store} {h : HeapId} {made : List Creation} {context : Context}
  {d : FunctionDefinition}

theorem Closed.extend (hs : s.Closed h) (hh : s.HasHeap h) {l : List Object}
    (hproperties : ∀ o ∈ l, ∀ key p q, o.own? key = some p → p.value = .object q →
      q < s.heapSize h + l.length)
    (hprototypes : ∀ o ∈ l, ∀ r, o.prototype = some r →
      ∃ q, r = .allocated h q ∧ q < s.heapSize h + l.length) :
    (s.extend h l).Closed h := by
  have hlive : ∀ {q}, q < s.heapSize h + l.length → (s.extend h l).Live (.allocated h q) :=
    fun hq => live_allocated_iff.2 (by rwa [heapSize_extend hh])
  have hold : ∀ {q}, s.Live (.allocated h q) → (s.extend h l).Live (.allocated h q) := fun hq =>
    hlive (Nat.lt_add_right _ (live_allocated_iff.1 hq))
  refine ⟨fun id o key p q ho hp hq => ?_, fun id o r ho hr => ?_, fun e name b q hb hq => ?_⟩
  · rcases object?_extend_cases hh ho with ho | ⟨k, -, ho⟩
    · exact hold (hs.properties id o key p q ho hp hq)
    · exact hlive (hproperties o (List.mem_of_getElem? ho) key p q hp hq)
  · rcases object?_extend_cases hh ho with ho | ⟨k, -, ho⟩
    · obtain ⟨q, rfl, hq⟩ := hs.prototypes id o r ho hr
      exact ⟨q, rfl, hold hq⟩
    · obtain ⟨q, rfl, hq⟩ := hprototypes o (List.mem_of_getElem? ho) r hr
      exact ⟨q, rfl, hlive hq⟩
  · obtain ⟨f, hf, hscope⟩ := hs.bindings e name b q hb hq
    refine ⟨f, ?_, hscope⟩
    rw [← hf, Store.slots?, slotsId?, object?_extend_old hh l (.of_slots? hf)]
    rfl

theorem Closed.pushScope (hs : s.Closed h) {scope : Scope}
    (hscope : ∀ name b q, scope.binding? name = some b → b.value = .object q →
      ∃ f, s.slots? (.allocated h q) = some f ∧ f.scope = s.nextScope) :
    (s.pushScope scope).Closed h := by
  refine ⟨hs.properties, hs.prototypes, fun e name b q hb hq => ?_⟩
  rw [scope_pushScope] at hb
  split at hb
  · next he =>
    rw [he]
    exact hscope name b q hb hq
  · exact hs.bindings e name b q hb hq

theorem Closed.pushScope_of_blank (hs : s.Closed h) {scope : Scope} (hscope : scope.Blank) :
    (s.pushScope scope).Closed h := by
  refine hs.pushScope fun name b q hb hq => ?_
  rw [hscope name b hb] at hq
  cases hq

/-- The slots of a new function are in nobody's way. -/
theorem Closed.pushFunction (hs : s.Closed h) (f : FunctionSlots) :
    (s.pushFunction f).Closed h := by
  refine ⟨hs.properties, hs.prototypes, fun e name b q hb hq => ?_⟩
  obtain ⟨g, hg, hscope⟩ := hs.bindings e name b q hb hq
  obtain ⟨id, hid, hg⟩ := Option.bind_eq_some_iff.1 hg
  have hne : id ≠ s.nextFunction := by
    rintro rfl
    exact not_hasFunction_nextFunction s (.of_function? hg)
  have hid' : (s.pushFunction f).slotsId? (.allocated h q) = some id := hid
  exact ⟨g, by rw [slots?_of_slotsId? hid', function?_pushFunction, if_neg hne, hg], hscope⟩

/-- A new realm has objects of its own, and a scope in which no name has a value. -/
theorem Closed.afterNext (hs : s.Closed h) (hh : s.HasHeap h) :
    (Realm.afterNext s h).Closed h := by
  have hobjects : (s.extend h (Realm.prototypes h (s.heapSize h))).Closed h := by
    refine hs.extend hh (fun o ho key p q hp hq => ?_) fun o ho r hr => ?_
    · exact Realm.handle_of_mem_prototypes ho hp hq
    · rcases Realm.prototype_of_mem_prototypes ho hr with rfl | rfl
      · exact ⟨_, rfl, Nat.lt_add_of_pos_right (show 0 < 7 by decide)⟩
      · exact ⟨_, rfl, Nat.add_lt_add_left (show 1 < 7 by decide) _⟩
  have hscope := hobjects.pushScope_of_blank
    (Scope.blank_single none rfl : Realm.freshGlobalScope.Blank)
  exact ⟨hscope.properties, hscope.prototypes, hscope.bindings⟩

theorem Closed.afterFunction (hs : s.Closed h) (hr : context.realm.Created)
    (hp : context.realm.intrinsics.functionPrototypeFor d.species < s.heapSize h) :
    (s.afterFunction h context d).Closed h := by
  have hh := hasHeap_of_lt_heapSize hp
  let l := group h context d (s.heapSize h) s.nextFunction
  let f := functionSlots context d (s.scopeFor context d.bindingName)
  have hobjects : ((s.pushFunction f).extend h l).Closed h := by
    refine (hs.pushFunction f).extend hh (fun o ho key p q hown hq => ?_) fun o ho r hr' => ?_
    · exact handle_of_mem_group ho hown hq
    · rcases prototype_of_mem_group ho hr' with rfl | ⟨q, hq, rfl⟩
      · exact ⟨_, rfl, Nat.lt_add_right _ hp⟩
      · exact ⟨q, rfl, Nat.lt_add_right _ ((HasPrototypes.of_created hr hp).instances q hq)⟩
  -- objects and scopes are kept apart, so it does not matter which came first
  have horder : s.afterFunction h context d =
      ((s.pushFunction f).extend h l).withScopeFor context d.bindingName
        (selfBinding (s.heapSize h)) := by
    unfold Store.afterFunction withFunction withScopeFor
    split <;> rfl
  rw [horder]
  unfold withScopeFor
  split
  · exact hobjects
  · next hn =>
    refine hobjects.pushScope fun name b q hb hq => ?_
    have hname : name = d.bindingName := by
      by_contra hne
      rw [Scope.binding?_single_of_ne _ hne] at hb
      cases hb
    rw [hname, Scope.binding?_single] at hb
    cases hb
    cases hq
    have hfunction : ((s.pushFunction f).extend h l).object? (.allocated h (s.heapSize h)) = _ :=
      (object?_extend_new (s := s.pushFunction f) hh l 0).trans (group_zero _ _)
    have hslots : ((s.pushFunction f).extend h l).function? s.nextFunction = some f :=
      (function?_pushFunction s _ f).trans (if_pos rfl)
    refine ⟨f, (slots?_of_object? hfunction rfl).trans hslots, ?_⟩
    show s.scopeFor context d.bindingName = s.nextScope
    rw [scopeFor, if_neg hn]

theorem Builds.closed (hb : Builds h s made s') (hs : s.Closed h) : s'.Closed h := by
  induction hb with
  | refl => exact hs
  | scope _ hblank ih => exact ih.pushScope_of_blank hblank
  | function _ hr hp ih => exact ih.afterFunction hr hp

end Store

end FunctionObjects
