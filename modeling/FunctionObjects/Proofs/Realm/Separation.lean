import FunctionObjects.Proofs.Evaluation.Runs
import FunctionObjects.Proofs.Function.Population

/-!
# Realms do not mix

A store may have many heaps and many realms, and much else may happen between the creation of one
realm and that of another. `Event` is whatever can happen: an operation on the store, or a command
to an agent that works on it.

However a store has come about, a realm can be created in each of its heaps. What comes in is all
new, and nothing else changes (`Realm.NewIn`). What is new for a realm was not there when the
earlier realms were made, and what they have remains theirs (`Realm.Settled`). So no two realms
share anything (`Realm.Apart`).
-/

namespace FunctionObjects

open Store

variable {s s' : Store} {h : HeapId} {r : Realm}

namespace Realm

/-! ### What a new realm is -/

/-- A realm is new in a heap: besides all that the first store has, which is the same in both, the
second has the seven prototype objects of the realm with their handles, and its global scope. -/
structure NewIn (r : Realm) (h : HeapId) (s s' : Store) : Prop where
  ids : r.intrinsics.ids = List.range' (s.heapSize h) 7
  live : ∀ x, s'.Live x ↔ s.Live x ∨ ∃ id ∈ r.intrinsics.ids, x = .allocated h id
  kept : ∀ x, s.Live x → s'.object? x = s.object? x
  handles : ∀ id ∈ r.intrinsics.ids, s'.get? h id = some (.allocated h id)
  keptHandles : ∀ i id x, s.get? i id = some x → s'.get? i id = some x
  functions : s'.functions = s.functions
  objectPrototype : s'.object? (.allocated h r.intrinsics.objectPrototype) =
    some { id := some r.intrinsics.objectPrototype }
  functionPrototype : s'.object? (.allocated h r.intrinsics.functionPrototype) =
    some (prototypeObject h r.intrinsics.functionPrototype r.intrinsics.objectPrototype
      "Function" [])
  asyncFunctionPrototype : s'.object? (.allocated h r.intrinsics.asyncFunctionPrototype) =
    some (prototypeObject h r.intrinsics.asyncFunctionPrototype r.intrinsics.functionPrototype
      "AsyncFunction" [])
  generatorPrototype : s'.object? (.allocated h r.intrinsics.generatorPrototype) =
    some (prototypeObject h r.intrinsics.generatorPrototype r.intrinsics.objectPrototype "Generator"
      [("constructor", link r.intrinsics.generatorFunctionPrototype)])
  generatorFunctionPrototype : s'.object? (.allocated h r.intrinsics.generatorFunctionPrototype) =
    some (prototypeObject h r.intrinsics.generatorFunctionPrototype r.intrinsics.functionPrototype
      "GeneratorFunction" [("prototype", link r.intrinsics.generatorPrototype)])
  asyncGeneratorPrototype : s'.object? (.allocated h r.intrinsics.asyncGeneratorPrototype) =
    some (prototypeObject h r.intrinsics.asyncGeneratorPrototype r.intrinsics.objectPrototype
      "AsyncGenerator" [("constructor", link r.intrinsics.asyncGeneratorFunctionPrototype)])
  asyncGeneratorFunctionPrototype :
    s'.object? (.allocated h r.intrinsics.asyncGeneratorFunctionPrototype) =
      some (prototypeObject h r.intrinsics.asyncGeneratorFunctionPrototype
        r.intrinsics.functionPrototype "AsyncGeneratorFunction"
        [("prototype", link r.intrinsics.asyncGeneratorPrototype)])
  scopes : ∀ e, s'.HasScope e ↔ s.HasScope e ∨ e = r.globalScope
  keptScopes : ∀ e, s.HasScope e → s'.scope e = s.scope e
  isNew : ¬ s.HasScope r.globalScope
  globalScope : s'.scope r.globalScope =
    .single "undefined" { value := .undefined, isMutable := false, initialized := true } none
  id : r.id = s.realmsIssued + 1 ∧ s'.realmsIssued = r.id

theorem next_newIn (hs : s.Linked) (hh : s.HasHeap h) : (next s h).NewIn h s (afterNext s h) := by
  have happends := appends_afterNext s h
  have hnew := happends.hasFrom_new hh
  have hchanges : Changes (fun _ => True) True s (afterNext s h) :=
    ((changes_create hh).of_ok (create_eq hs hh)).1
  refine
    { ids := rfl
      live := fun x => ?_
      kept := fun x hx => happends.object?_of_live hh hx
      handles := fun id hid => ?_
      keptHandles := hchanges.grows.handles
      functions := rfl
      objectPrototype := hnew 0 _ rfl
      functionPrototype := hnew 1 _ rfl
      asyncFunctionPrototype := hnew 2 _ rfl
      generatorPrototype := hnew 3 _ rfl
      generatorFunctionPrototype := hnew 4 _ rfl
      asyncGeneratorPrototype := hnew 5 _ rfl
      asyncGeneratorFunctionPrototype := hnew 6 _ rfl
      scopes := fun e => ?_
      keptScopes := fun e he => (scope_pushScope_of_hasScope he freshGlobalScope).2
      isNew := Nat.lt_irrefl _
      globalScope := (scope_pushScope _ _ _).trans (if_pos rfl)
      id := ⟨rfl, rfl⟩ }
  · have hids : (∃ id ∈ (next s h).intrinsics.ids, x = .allocated h id) ↔
        ∃ k < 7, x = .allocated h (s.heapSize h + k) := by
      constructor
      · rintro ⟨id, hid, rfl⟩
        obtain ⟨k, hk, rfl⟩ := Intrinsics.mem_ids_startingAt.1 hid
        exact ⟨k, hk, rfl⟩
      · rintro ⟨k, hk, rfl⟩
        exact ⟨_, Intrinsics.mem_ids_startingAt.2 ⟨k, hk, rfl⟩, rfl⟩
    rw [hids]
    exact happends.live_iff hh
  · obtain ⟨k, hk, rfl⟩ := Intrinsics.mem_ids_startingAt.1 hid
    exact get?_extend_new hs.toConsistent hh hk
  · obtain ⟨n⟩ := e
    show n < (s.scopes.push _).size ↔ n < s.scopes.size ∨ (⟨n⟩ : ScopeId) = ⟨s.scopes.size⟩
    rw [Array.size_push, Nat.lt_succ_iff_lt_or_eq, ScopeId.mk.injEq]

/-! ### What realms do not share -/

/-- Two realms, each with its heap, share neither prototype objects nor the global scope nor the
number. -/
structure Apart (x y : HeapId × Realm) : Prop where
  ids : x.1 = y.1 → x.2.intrinsics.ids.Disjoint y.2.intrinsics.ids
  globalScope : x.2.globalScope ≠ y.2.globalScope
  id : x.2.id ≠ y.2.id

/-- What a realm consists of is there. -/
structure Settled (x : HeapId × Realm) (s : Store) : Prop where
  ids : ∀ id ∈ x.2.intrinsics.ids, id < s.heapSize x.1
  globalScope : s.HasScope x.2.globalScope
  id : x.2.id ≤ s.realmsIssued

theorem NewIn.settled (hr : r.NewIn h s s') : Settled (h, r) s' where
  ids id hid := live_allocated_iff.1 ((hr.live _).2 (.inr ⟨id, hid, rfl⟩))
  globalScope := (hr.scopes _).2 (.inr rfl)
  id := hr.id.2.ge

/-- A new realm has nothing of what was there before. -/
theorem NewIn.apart (hr : r.NewIn h s s') {x : HeapId × Realm} (hx : Settled x s) :
    Apart x (h, r) where
  ids hheap id hid hid' := by
    rw [hr.ids, List.mem_range'_1] at hid'
    have hlt := hx.ids id hid
    rw [hheap] at hlt
    exact Nat.not_lt.2 hid'.1 hlt
  globalScope heq := hr.isNew (heq ▸ hx.globalScope)
  id heq := by
    have hle := hx.id
    rw [heq, hr.id.1] at hle
    exact Nat.not_succ_le_self _ hle

end Realm

/-! ### What can happen to a store -/

namespace Store

variable {made : FunctionSlots → Prop} {flags : Prop}

theorem Change.realmsIssued_le (hc : Change made flags s s') :
    s.realmsIssued ≤ s'.realmsIssued := by
  cases hc with
  | issueRealm => exact Nat.le_succ _
  | @replace r => cases r <;> exact Nat.le_refl _
  | @declarePrivate p description =>
    rw [Store.declarePrivate]
    split <;> exact Nat.le_refl _
  | _ => exact Nat.le_refl _

theorem Changes.realmsIssued_le (hc : Changes made flags s s') :
    s.realmsIssued ≤ s'.realmsIssued := by
  induction hc with
  | refl => exact Nat.le_refl _
  | tail _ hc ih => exact Nat.le_trans ih hc.realmsIssued_le

/-- What a realm has remains. -/
theorem Changes.settled (hc : Changes made flags s s') {x : HeapId × Realm}
    (hx : Realm.Settled x s) : Realm.Settled x s' where
  ids id hid := Nat.lt_of_lt_of_le (hx.ids id hid) (hc.grows.heapSize x.1)
  globalScope := hc.grows.hasScope hx.globalScope
  id := Nat.le_trans hx.id hc.realmsIssued_le

/-- The realm that an operation creates, with its heap. -/
def Operation.realm? (s : Store) : Operation → Option (HeapId × Realm)
  | createRealm h =>
    match Realm.create h s with
    | .ok r _ => some (h, r)
    | .error _ _ => none
  | _ => none

theorem Operation.realm?_createRealm (hs : s.Linked) (hh : s.HasHeap h) :
    (createRealm h).realm? s = some (h, Realm.next s h) := by
  show (match Realm.create h s with | .ok r _ => some (h, r) | .error _ _ => none) = _
  rw [Realm.create_eq hs hh]

/-- Something happens to a store: an operation, or a command to an agent that has the store, a heap
of it, a realm and contexts. -/
inductive Event : Type where
  | operation (op : Operation)
  | command (heap : HeapId) (realm : Realm) (contexts : List Context) (cmd : Agent.Command)

namespace Event

/-- The store after an event. -/
def perform (s : Store) : Event → Store
  | operation op => op.perform s
  | command heap realm contexts cmd =>
    (cmd.perform { store := s, heap, realm, contexts }).store

/-- What is referred to exists. -/
def Fits (s : Store) : Event → Prop
  | operation op => op.Fits s
  | command heap _ contexts _ => s.HasHeap heap ∧ ∀ c ∈ contexts, s.HasScope c.scope

instance (s : Store) : (e : Event) → Decidable (e.Fits s)
  | operation op => inferInstanceAs (Decidable (op.Fits s))
  | command heap _ contexts _ =>
    inferInstanceAs (Decidable (s.HasHeap heap ∧ ∀ c ∈ contexts, s.HasScope c.scope))

/-- The realm that an event creates, with its heap. -/
def realm? (s : Store) : Event → Option (HeapId × Realm)
  | operation op => op.realm? s
  | command _ _ _ _ => none

/-- The store after a series of events. -/
def performAll (s : Store) (events : List Event) : Store := events.foldl perform s

/-- Each of a series of events fits the store that those before it have led to. -/
def FitAll (s : Store) : List Event → Prop
  | [] => True
  | e :: events => e.Fits s ∧ FitAll (e.perform s) events

instance decidableFitAll (s : Store) : (events : List Event) → Decidable (FitAll s events)
  | [] => inferInstanceAs (Decidable True)
  | e :: events =>
    have := decidableFitAll (e.perform s) events
    inferInstanceAs (Decidable (e.Fits s ∧ FitAll (e.perform s) events))

/-- The realms that a series of events creates, each with its heap. -/
def realms (s : Store) : List Event → List (HeapId × Realm)
  | [] => []
  | e :: events => (e.realm? s).toList ++ realms (e.perform s) events

variable {e : Event} {events : List Event} {x : HeapId × Realm}

theorem changes (hs : s.Scoped) (h : e.Fits s) :
    Changes (fun _ => True) True s (e.perform s) := by
  cases e with
  | operation op => exact (Operation.changes h).weaken (fun _ hf => hf) fun _ => trivial
  | command heap realm contexts cmd =>
    have hsound : Agent.Sound { store := s, heap, realm, contexts } := ⟨h.1, h.2, hs⟩
    exact (cmd.advances hsound).1.store.weaken (fun _ _ => trivial) False.elim

theorem changes_performAll (hs : s.Scoped) (h : FitAll s events) :
    Changes (fun _ => True) True s (performAll s events) := by
  induction events generalizing s with
  | nil => exact .refl
  | cons e events ih =>
    have hfirst := changes hs h.1
    exact hfirst.trans (ih (hs.changes hfirst) h.2)

/-- A realm that an event creates is new. -/
theorem newIn_of_realm? (hs : s.Linked) (h : e.Fits s) (hr : e.realm? s = some x) :
    x.2.NewIn x.1 s (e.perform s) := by
  cases e with
  | command => cases hr
  | operation op =>
    cases op with
    | createRealm i =>
      cases (Operation.realm?_createRealm hs h).symm.trans hr
      rw [perform, Operation.perform, finalState_of_ok (Realm.create_eq hs h)]
      exact Realm.next_newIn hs h
    | _ => cases hr

/-- Realms that are created later share nothing with one that there is. -/
theorem apart_of_settled (hs : s.Linked) (hscoped : s.Scoped) (h : FitAll s events)
    (hx : Realm.Settled x s) : ∀ y ∈ realms s events, Realm.Apart x y := by
  induction events generalizing s with
  | nil => exact fun y hy => absurd hy List.not_mem_nil
  | cons e events ih =>
    have hfirst := changes hscoped h.1
    intro y hy
    rcases List.mem_append.1 hy with hy | hy
    · exact (newIn_of_realm? hs h.1 (Option.mem_toList.1 hy)).apart hx
    · exact ih (hs.changes hfirst) (hscoped.changes hfirst) h.2 (hfirst.settled hx) y hy

theorem pairwise_apart (hs : s.Linked) (hscoped : s.Scoped) (h : FitAll s events) :
    (realms s events).Pairwise Realm.Apart := by
  induction events generalizing s with
  | nil => exact .nil
  | cons e events ih =>
    have hfirst := changes hscoped h.1
    have hs' := hs.changes hfirst
    have hscoped' := hscoped.changes hfirst
    refine List.pairwise_append.2 ⟨?_, ih hs' hscoped' h.2, fun x hx y hy => ?_⟩
    · cases e.realm? s with
      | none => exact .nil
      | some x => exact List.pairwise_singleton _ _
    · have hnew := newIn_of_realm? hs h.1 (Option.mem_toList.1 hx)
      exact apart_of_settled hs' hscoped' h.2 hnew.settled y hy

/-- **Realms are complete, and no two share anything.** Whatever has happened to a store, a realm
can be created in each of its heaps. What there was is left as it was; seven objects and a scope are
new, wired to each other and to nothing else. And whatever happens between their creations, no two
realms have a prototype object, the global scope or the number in common. -/
theorem realms_complete_and_apart (hfit : FitAll {} events) :
    (∀ h, (performAll {} events).HasHeap h →
        ∃ r s', Realm.create h (performAll {} events) = .ok r s' ∧
          r.NewIn h (performAll {} events) s') ∧
      (realms {} events).Pairwise Realm.Apart := by
  have hchanges := changes_performAll scoped_empty hfit
  have hlinked := linked_empty.changes hchanges
  refine ⟨fun h hh => ⟨_, _, Realm.create_eq hlinked hh, ?_⟩, ?_⟩
  · exact Realm.next_newIn hlinked hh
  · exact pairwise_apart linked_empty scoped_empty hfit

/-- Three realms in two heaps. Between the creation of the first and that of the third, which are in
one heap, there is a realm in the other heap, code of the first realm that makes a generator
function, and a change to the first realm's prototype of functions. -/
def threeRealms : List Event :=
  let first := Realm.next (pushHeap (pushHeap {})) 0
  let d := FunctionDefinition.ofParts 0 (some "f") [] [] .generator
  [.operation .newHeap, .operation .newHeap, .operation (.createRealm 0),
    .command 0 first [.forScript first false] (.instantiate d),
    .operation (.createRealm 1), .operation (.setExtensible (.allocated 0 1) false),
    .operation (.createRealm 0)]

/-- The first realm has the objects 0 to 6 and the third the objects 9 to 15. A fourth realm can be
created in either heap. -/
theorem realms_complete_and_apart_threeRealms :
    FitAll {} threeRealms ∧
      (realms {} threeRealms).map (fun x => (x.1, x.2.intrinsics.objectPrototype, x.2.id)) =
        [(0, 0, 1), (1, 0, 2), (0, 9, 3)] ∧
      (realms {} threeRealms).Pairwise Realm.Apart ∧
      (performAll {} threeRealms).HasHeap 1 ∧
      ∃ r s', Realm.create 1 (performAll {} threeRealms) = .ok r s' ∧
        r.NewIn 1 (performAll {} threeRealms) s' := by
  have hfit : FitAll {} threeRealms := by decide +kernel
  have hheap : (performAll {} threeRealms).HasHeap 1 := by decide +kernel
  obtain ⟨hcomplete, happart⟩ := realms_complete_and_apart hfit
  exact ⟨hfit, by decide +kernel, happart, hheap, hcomplete 1 hheap⟩

end Event

end Store

end FunctionObjects
