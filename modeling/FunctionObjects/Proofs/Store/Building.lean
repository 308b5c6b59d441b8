import FunctionObjects.Proofs.Function.Instantiation
import FunctionObjects.Proofs.Scope.Operations
import FunctionObjects.Proofs.Store.Functions

/-!
# How evaluation builds on a store

Evaluation changes nothing that is there. It does two things with a store: it adds a scope in which
no name has a value of its own yet, and it adds a function to a heap, together with the object that
instances inherit from and with the scope of its name. `Store.Builds` is a series of such steps. It
keeps a list of the functions, and from this list the objects that have come into the heap can be
told, one after the other (`Builds.adds`).
-/

namespace FunctionObjects

/-- No name of the scope has a value other than `undefined`. It may be without value. -/
def Scope.Blank (s : Scope) : Prop := ∀ name b, s.binding? name = some b → b.value = .undefined

namespace Scope

variable {s : Scope} {name : String} {b : Binding}

theorem blank_empty (outer : Option ScopeId) : Blank { outer } := by
  intro name b hb
  cases hb

theorem Blank.bind (hs : s.Blank) (hb : b.value = .undefined) : (s.bind name b).Blank := by
  intro name' b' hb'
  rw [binding?_bind] at hb'
  split at hb'
  · cases hb'
    exact hb
  · exact hs name' b' hb'

theorem blank_single (outer : Option ScopeId) (hb : b.value = .undefined) :
    (single name b outer).Blank :=
  (blank_empty outer).bind hb

end Scope

/-- A realm that was created, at some time in some heap. There are no others. -/
def Realm.Created (realm : Realm) : Prop := ∃ h s, realm.CreatedIn h s

/-- A function that was made from a definition in a context. Its code sees the scope, and its slots
are at the place. -/
structure Creation : Type where
  context : Context
  definition : FunctionDefinition
  scope : ScopeId
  slots : FunctionId

namespace Creation

/-- The function of a definition that would be made next in a context. -/
def next (s : Store) (context : Context) (d : FunctionDefinition) : Creation :=
  ⟨context, d, s.scopeFor context d.bindingName, s.nextFunction⟩

/-- The function, the number of which is `n`, and what belongs to it. -/
def objects (m : Creation) (h : HeapId) (n : ObjectId) : List Object :=
  Closure.group h m.context m.definition n m.slots

/-- The slots of the function. -/
def function (m : Creation) : FunctionSlots :=
  Closure.functionSlots m.context m.definition m.scope

/-- What functions that were made one after the other have put into a heap, from the number `n`
on. -/
def layout (h : HeapId) : (n : ObjectId) → List Creation → List Object
  | _, [] => []
  | n, m :: made => m.objects h n ++ layout h (n + (m.objects h n).length) made

theorem layout_append (h : HeapId) (n : ObjectId) (made made' : List Creation) :
    layout h n (made ++ made') =
      layout h n made ++ layout h (n + (layout h n made).length) made' := by
  induction made generalizing n with
  | nil => rfl
  | cons m made ih =>
    simp only [List.cons_append, layout, ih, List.append_assoc, List.length_append, Nat.add_assoc]

end Creation

/-- How many objects come with a function of a species: the function itself and, unless it is
asynchronous, the object that its instances inherit from. -/
def Species.groupSize : Species → Nat
  | .async => 1
  | .ordinary | .generator | .asyncGenerator => 2

namespace Closure

open Store

variable {s : Store} {h : HeapId} {context : Context} {d : FunctionDefinition}

theorem HasPrototypes.of_created (hr : context.realm.Created)
    (hp : context.realm.intrinsics.functionPrototypeFor d.species < s.heapSize h) :
    HasPrototypes s h context d := by
  obtain ⟨i, s₀, hr⟩ := hr
  exact ⟨hp, fun q hq => (hr.instanceParent_lt hq).trans hp⟩

/-- An asynchronous function has no instances, so there is nothing beside it. -/
theorem group_of_async (hd : d.species = .async) (n : ObjectId) (slots : FunctionId) :
    group h context d n slots = [functionObject h context d n slots []] := by
  unfold group
  rw [hd]

/-- The instances of the other functions inherit from a plain object, which leads back to the
function if this is an ordinary one. -/
theorem group_of_ne_async (h : HeapId) (context : Context) (hd : d.species ≠ .async)
    (n : ObjectId) (slots : FunctionId) :
    ∃ parent, context.realm.intrinsics.instanceParent? d.species = some parent ∧
      group h context d n slots =
        [functionObject h context d n slots [instanceLink (n + 1)],
          { Object.plain h (n + 1) parent with
            properties := ⟨if d.species = .ordinary then [constructorLink n] else []⟩ }] := by
  unfold group
  cases hs : d.species with
  | async => exact absurd hs hd
  | ordinary | generator | asyncGenerator => exact ⟨_, rfl, rfl⟩

/-- How many objects there are in a group is a matter of the species. -/
theorem length_group (n : ObjectId) (slots : FunctionId) :
    (group h context d n slots).length = d.species.groupSize := by
  unfold group
  cases d.species <;> rfl

/-- A group of new objects may inherit from what exists. -/
theorem linked_extend_group (hs : s.Linked) (hp : HasPrototypes s h context d)
    (slots : FunctionId) : (s.extend h (group h context d (s.heapSize h) slots)).Linked := by
  have hh := hasHeap_of_lt_heapSize hp.function
  have hfunction : ∀ properties,
      (s.extend h [functionObject h context d (s.heapSize h) slots properties]).Linked :=
    fun _ => hs.extend hh rfl fun q hq => by
      cases hq
      exact live_allocated_iff.2 hp.function
  by_cases hd : d.species = .async
  · rw [group_of_async hd]
    exact hfunction _
  · obtain ⟨q, hq, hgroup⟩ := group_of_ne_async h context hd (s.heapSize h) slots
    -- the prototype of the second object is older than both
    rw [hgroup, ← List.singleton_append, ← extend_extend]
    refine (hfunction _).extend (hasHeap_extend.2 hh) ?_ fun r hr => ?_
    · rw [heapSize_extend hh]
      rfl
    · cases hr
      rw [live_allocated_iff, heapSize_extend hh]
      exact Nat.lt_add_right _ (hp.instances q hq)

theorem linked_withFunction (hs : s.Linked) (hp : HasPrototypes s h context d) {b : Binding} :
    (withFunction s h context d b).Linked := by
  let s₁ := (s.withScopeFor context d.bindingName b).pushFunction
    (functionSlots context d (s.scopeFor context d.bindingName))
  have hs₁ : s₁.Linked := hs.withScopeFor.pushFunction _
  have hp₀ : HasPrototypes (s.withScopeFor context d.bindingName b) h context d := hp.withScopeFor
  have hp₁ : HasPrototypes s₁ h context d := ⟨hp₀.function, hp₀.instances⟩
  have hlinked := linked_extend_group hs₁ hp₁ s.nextFunction
  rwa [show s₁.heapSize h = s.heapSize h from heapSize_withScopeFor h] at hlinked

/-- Whatever function there is in a group, it is the one of the group. -/
theorem slots_of_mem_group {n : ObjectId} {slots id : FunctionId} {o : Object}
    (ho : o ∈ group h context d n slots) (hid : o.slots = some id) : id = slots := by
  by_cases hd : d.species = .async
  · rw [group_of_async hd, List.mem_singleton] at ho
    subst ho
    exact (Option.some.inj hid).symm
  · obtain ⟨q, -, hgroup⟩ := group_of_ne_async h context hd n slots
    rw [hgroup, List.mem_cons, List.mem_singleton] at ho
    rcases ho with rfl | rfl
    · exact (Option.some.inj hid).symm
    · cases hid

end Closure

/-- What comes into a heap with a function. -/
theorem Creation.length_objects (m : Creation) (h : HeapId) (n : ObjectId) :
    (m.objects h n).length = m.definition.species.groupSize := Closure.length_group n m.slots

namespace Store

open Closure

/-- The binding of the name of a function to the function. -/
def selfBinding (id : ObjectId) : Binding :=
  { value := .object id, isMutable := false, initialized := true }

/-- The store after the evaluation of a function expression. -/
def afterFunction (s : Store) (h : HeapId) (context : Context) (d : FunctionDefinition) : Store :=
  withFunction s h context d (selfBinding (s.heapSize h))

/-- The second store comes from the first by adding scopes without values, and by adding functions
to the heap `h`, of which a list is kept. -/
inductive Builds (h : HeapId) (s : Store) : List Creation → Store → Prop
  | refl : Builds h s [] s
  | scope {made : List Creation} {s' : Store} {scope : Scope} : Builds h s made s' →
      scope.Blank → Builds h s made (s'.pushScope scope)
  | function {made : List Creation} {s' : Store} {context : Context} {d : FunctionDefinition} :
      Builds h s made s' → context.realm.Created →
      context.realm.intrinsics.functionPrototypeFor d.species < s'.heapSize h →
      Builds h s (made ++ [.next s' context d]) (s'.afterFunction h context d)

variable {s s' s'' : Store} {h : HeapId} {made made' : List Creation} {context : Context}
  {d : FunctionDefinition}

theorem Builds.trans (h₁ : Builds h s made s') (h₂ : Builds h s' made' s'') :
    Builds h s (made ++ made') s'' := by
  induction h₂ with
  | refl => rwa [List.append_nil]
  | scope _ hblank ih => exact .scope ih hblank
  | function _ hr hp ih =>
    rw [← List.append_assoc]
    exact .function ih hr hp

/-! ### The evaluation of a function expression -/

theorem instantiate_of_created (hs : s.Linked) (hr : context.realm.Created)
    (hp : context.realm.intrinsics.functionPrototypeFor d.species < s.heapSize h) :
    instantiate h context d s = .ok (s.nextClosure h) (s.afterFunction h context d) :=
  instantiate_of_hasPrototypes hs (hasHeap_of_lt_heapSize hp) (.of_created hr hp)

theorem linked_afterFunction (hs : s.Linked) (hr : context.realm.Created)
    (hp : context.realm.intrinsics.functionPrototypeFor d.species < s.heapSize h) :
    (s.afterFunction h context d).Linked :=
  linked_withFunction hs (.of_created hr hp)

theorem appends_afterFunction (s : Store) (h : HeapId) (context : Context)
    (d : FunctionDefinition) :
    Appends h ((Creation.next s context d).objects h (s.heapSize h)) s
      (s.afterFunction h context d) := by
  obtain ⟨hheaps, hloose, -⟩ :=
    withScopeFor_frame s context d.bindingName (selfBinding (s.heapSize h))
  refine ⟨?_, hloose⟩
  unfold afterFunction withFunction extend pushFunction
  simp only [hheaps]
  rfl

theorem heap_afterFunction (hh : s.HasHeap h) :
    ((s.afterFunction h context d).heap h).toList =
      (s.heap h).toList ++ (Creation.next s context d).objects h (s.heapSize h) := by
  rw [(appends_afterFunction s h context d).heap_eq hh, if_pos rfl, Array.toList_append]

theorem heapSize_afterFunction (hh : s.HasHeap h) :
    (s.afterFunction h context d).heapSize h = s.heapSize h + d.species.groupSize := by
  rw [(appends_afterFunction s h context d).heapSize hh, Creation.length_objects]
  rfl

/-- A new function has the first number that there was not. -/
theorem heapSize_lt_afterFunction
    (hp : context.realm.intrinsics.functionPrototypeFor d.species < s.heapSize h) :
    s.heapSize h < (s.afterFunction h context d).heapSize h := by
  have hgroup : 0 < ((Creation.next s context d).objects h (s.heapSize h)).length :=
    (List.getElem?_eq_some_iff.1 (group_zero _ _)).1
  rw [(appends_afterFunction s h context d).heapSize (hasHeap_of_lt_heapSize hp)]
  exact Nat.lt_add_of_pos_right hgroup

theorem nextFunction_afterFunction (s : Store) (h : HeapId) (context : Context)
    (d : FunctionDefinition) :
    (s.afterFunction h context d).nextFunction = ⟨s.functions.size + 1⟩ := by
  rw [nextFunction, afterFunction, functions_withFunction, Array.size_push]

theorem function?_afterFunction (s : Store) (h : HeapId) (context : Context)
    (d : FunctionDefinition) (id : FunctionId) :
    (s.afterFunction h context d).function? id =
      if id = s.nextFunction then some (Creation.next s context d).function
      else s.function? id :=
  function?_withFunction s h context d _ id

/-- The slots that there were are as they were. -/
theorem function?_afterFunction_of_hasFunction (h : HeapId) (context : Context)
    (d : FunctionDefinition) {id : FunctionId} (hid : s.HasFunction id) :
    (s.afterFunction h context d).function? id = s.function? id := by
  rw [function?_afterFunction, if_neg]
  rintro rfl
  exact not_hasFunction_nextFunction s hid

/-- An object is none of the new ones, or what it refers to are the new slots. -/
theorem slotsId?_afterFunction_cases (hh : s.HasHeap h) {r : ObjectRef} {id : FunctionId}
    (hid : (s.afterFunction h context d).slotsId? r = some id) :
    s.slotsId? r = some id ∨ id = s.nextFunction := by
  obtain ⟨o, ho, hslots⟩ := Option.bind_eq_some_iff.1 hid
  rw [(appends_afterFunction s h context d).object?_eq] at ho
  rcases object?_extend_cases hh ho with ho | ⟨k, -, hk⟩
  · exact .inl ((slotsId?_of_object? ho).trans hslots)
  · exact .inr (slots_of_mem_group (List.mem_of_getElem? hk) hslots)

theorem scoped_afterFunction (hs : s.Linked) (hscoped : s.Scoped)
    (he : s.HasScope context.scope) (hr : context.realm.Created)
    (hp : context.realm.intrinsics.functionPrototypeFor d.species < s.heapSize h) :
    (s.afterFunction h context d).Scoped := by
  have hmoves : Moves (Changes (fun _ => True) True) (instantiate h context d) s _ :=
    changes_instantiate_of_made (hasHeap_of_lt_heapSize hp) he trivial
  have hchanges := hmoves.finalState
  rw [finalState_of_ok (instantiate_of_created hs hr hp)] at hchanges
  exact hscoped.changes hchanges

/-- Where a function expression fails there is at most a scope without values for its name. -/
theorem builds_withScopeFor (s : Store) (h : HeapId) (context : Context) (name : String)
    {b : Binding} (hb : b.value = .undefined) :
    Builds h s [] (s.withScopeFor context name b) := by
  unfold withScopeFor
  split
  · exact .refl
  · exact .scope .refl (Scope.blank_single _ hb)

/-! ### What is there remains as it is -/

/-- The second store has all that the first one has, as it is there. Besides, it has more scopes,
and at the end of the heap `h` the functions of a list with what belongs to them. The slots of these
functions are all that have been added to the slots that there were. -/
structure Adds (h : HeapId) (s : Store) (made : List Creation) (s' : Store) : Prop where
  objects : s'.heap h = s.heap h ++ (Creation.layout h (s.heapSize h) made).toArray
  otherHeaps : ∀ i, i ≠ h → s'.heap i = s.heap i
  loose : s'.loose = s.loose
  scopes : ∀ e, s.HasScope e → s'.HasScope e ∧ s'.scope e = s.scope e
  privateScopes : s'.privateScopes = s.privateScopes
  functions : s'.functions = s.functions ++ (made.map Creation.function).toArray

theorem Adds.heapSize (hs : Adds h s made s') :
    s'.heapSize h = s.heapSize h + (Creation.layout h (s.heapSize h) made).length := by
  rw [Store.heapSize, hs.objects, Array.size_append]
  rfl

theorem Builds.adds (hb : Builds h s made s') : Adds h s made s' := by
  induction hb with
  | refl =>
    refine ⟨?_, fun _ _ => rfl, rfl, fun e he => ⟨he, rfl⟩, rfl, ?_⟩
    · simp [Creation.layout]
    · simp
  | @scope made s' scope _ _ ih =>
    refine ⟨ih.objects, ih.otherHeaps, ih.loose, fun e he => ?_, ih.privateScopes, ih.functions⟩
    obtain ⟨he', hscope⟩ := ih.scopes e he
    obtain ⟨he'', hscope'⟩ := scope_pushScope_of_hasScope he' scope
    exact ⟨he'', hscope'.trans hscope⟩
  | @function made s' context d _ _ hp ih =>
    have hh := hasHeap_of_lt_heapSize hp
    have happends := appends_afterFunction s' h context d
    obtain ⟨-, -, hprivate, -⟩ :=
      withScopeFor_frame s' context d.bindingName (selfBinding (s'.heapSize h))
    refine ⟨?_, fun i hi => ?_, happends.loose.trans ih.loose, fun e he => ?_,
      hprivate.trans ih.privateScopes, ?_⟩
    · rw [happends.heap_eq hh, if_pos rfl, ih.objects, ih.heapSize, Creation.layout_append,
        Array.append_assoc]
      simp [Creation.layout]
    · rw [happends.heap_eq hh, if_neg hi, ih.otherHeaps i hi]
    · obtain ⟨he', hscope⟩ := ih.scopes e he
      have hkept : (s'.afterFunction h context d).HasScope e ∧
          (s'.afterFunction h context d).scope e = s'.scope e :=
        scope_withFunction_of_hasScope d _ he'
      exact ⟨hkept.1, hkept.2.trans hscope⟩
    · have hfunctions : (s'.afterFunction h context d).functions =
          s'.functions.push (Creation.next s' context d).function :=
        functions_withFunction s' h context d _
      rw [hfunctions, ih.functions]
      simp

theorem Builds.linked (hb : Builds h s made s') (hs : s.Linked) : s'.Linked := by
  induction hb with
  | refl => exact hs
  | scope _ _ ih => exact ih.pushScope _
  | function _ hr hp ih => exact linked_afterFunction ih hr hp

/-- A function that was not there before was made in a realm that was created. -/
theorem Builds.function? (hb : Builds h s made s') {id : FunctionId} {f : FunctionSlots}
    (hf : s'.function? id = some f) : s.function? id = some f ∨ f.realm.Created := by
  induction hb with
  | refl => exact .inl hf
  | scope _ _ ih => exact ih hf
  | function _ hr hp ih =>
    rw [afterFunction, function?_withFunction] at hf
    split at hf
    · cases hf
      exact .inr hr
    · exact ih hf

end Store

end FunctionObjects
