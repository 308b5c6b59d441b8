import FunctionObjects.Proofs.Scope.Chains
import FunctionObjects.Proofs.Store.Renaming

/-!
# The order in which functions are made

Two function expressions that are evaluated one after the other have nothing to do with each other:
neither can see what the other one makes. So it does not matter which of them comes first, but for
the numbers. Each function, with the object that its instances inherit from and the scope of its
name, comes to stand where it is its turn, and the two change places if the expressions do.

A store that has made two functions is the old store with two groups of objects at the end of the
heap, the slots of two functions after the old ones, and the scopes of two names after the old ones.
For the other order all three pairs are exchanged, and the renaming that goes with the exchange
(`Renaming.exchanging`) turns the one store into the other.
-/

namespace FunctionObjects

open Store Closure

/-! ### What a function adds -/

/-- How many scopes come with a function: one if it has a name. -/
def FunctionDefinition.scopeCount (d : FunctionDefinition) : Nat :=
  if d.bindingName.isEmpty then 0 else 1

/-- The scope for the name of a function whose number is `n`, if it has a name. -/
def Creation.scopes (m : Creation) (n : ObjectId) : List Scope :=
  if m.definition.bindingName.isEmpty then []
  else [.single m.definition.bindingName (selfBinding n) (some m.context.scope)]

theorem Creation.length_scopes (m : Creation) (n : ObjectId) :
    (m.scopes n).length = m.definition.scopeCount := by
  unfold Creation.scopes FunctionDefinition.scopeCount
  split <;> rfl

namespace Store

variable {s : Store} {h : HeapId} {context : Context} {d : FunctionDefinition}

theorem scopes_afterFunction (s : Store) (h : HeapId) (context : Context)
    (d : FunctionDefinition) :
    (s.afterFunction h context d).scopes.toList =
      s.scopes.toList ++ (Creation.next s context d).scopes (s.heapSize h) := by
  show (s.withScopeFor context d.bindingName (selfBinding (s.heapSize h))).scopes.toList = _
  unfold withScopeFor Creation.scopes Creation.next
  split
  · exact (List.append_nil _).symm
  · exact Array.toList_push

theorem size_scopes_afterFunction (s : Store) (h : HeapId) (context : Context)
    (d : FunctionDefinition) :
    (s.afterFunction h context d).scopes.size = s.scopes.size + d.scopeCount := by
  rw [← Array.length_toList, scopes_afterFunction, List.length_append, Array.length_toList,
    Creation.length_scopes]
  rfl

theorem sameElsewhere_afterFunction (hs : s.Scoped) (hh : s.HasHeap h) (context : Context)
    (d : FunctionDefinition) : SameElsewhere h s (s.afterFunction h context d) := by
  have happends := appends_afterFunction s h context d
  obtain ⟨-, -, hprivate, hnames, hrealms, -⟩ :=
    withScopeFor_frame s context d.bindingName (selfBinding (s.heapSize h))
  refine ⟨fun i hi => ?_, fun i hi => ?_, happends.loose, fun r hr => ?_, hprivate, hnames, hrealms⟩
  · rw [happends.heap_eq hh, if_neg hi]
  · have hhandles := handles_extend hh ((Creation.next s context d).objects h (s.heapSize h)) i
    rw [if_neg hi] at hhandles
    rw [← hhandles, handles, happends.heaps, handles]
  · -- the other objects are the old ones, and their slots are old too
    have hread : (s.afterFunction h context d).slotsId? r = s.slotsId? r := by
      rw [slotsId?, slotsId?, happends.object?_eq]
      cases r with
      | loose n => rfl
      | allocated i id =>
        have hi : i ≠ h := by
          rintro rfl
          exact hr id rfl
        simp only [object?, heap_extend hh, if_neg hi]
    rw [Store.slots?, hread, Store.slots?]
    cases hid : s.slotsId? r with
    | none => rfl
    | some id => exact function?_afterFunction_of_hasFunction h context d (hs.slots r id hid)

end Store

/-! ### What the renaming of a function is -/

section

variable {ρ : Renaming} {h : HeapId} {context : Context} {d : FunctionDefinition}
  {n n' : ObjectId} {slots slots' : FunctionId}

/-- A function whose prototype keeps its number is the same function with another number, other
slots and other handles in its further properties. -/
theorem functionObject_rename {properties : List (String × Property)}
    (hp : ρ.object (context.realm.intrinsics.functionPrototypeFor d.species) =
      context.realm.intrinsics.functionPrototypeFor d.species) :
    (functionObject h context d n slots properties).rename ρ h =
      functionObject h context d (ρ.object n) (ρ.function slots)
        (properties.map fun entry => (entry.1, entry.2.rename ρ)) := by
  simp [Object.rename, functionObject, OrderedMap.map, ObjectRef.rename, lengthProperty,
    nameProperty, Property.rename, Value.rename, hp]

/-- A function with what belongs to it becomes the same at another place. What it inherits from must
keep its number. -/
theorem group_rename (hn : ∀ k < d.species.groupSize, ρ.object (n + k) = n' + k)
    (hslots : ρ.function slots = slots')
    (hp : ρ.object (context.realm.intrinsics.functionPrototypeFor d.species) =
      context.realm.intrinsics.functionPrototypeFor d.species)
    (hi : ∀ q, context.realm.intrinsics.instanceParent? d.species = some q → ρ.object q = q) :
    (group h context d n slots).map (Object.rename ρ h) = group h context d n' slots' := by
  by_cases hd : d.species = .async
  · have h₀ : ρ.object n = n' := hn 0 (by rw [hd]; decide)
    rw [group_of_async hd, group_of_async hd, List.map_singleton, functionObject_rename hp, hslots,
      h₀]
    rfl
  · obtain ⟨q, hq, hgroup⟩ := group_of_ne_async h context hd n slots
    obtain ⟨q', hq', hgroup'⟩ := group_of_ne_async h context hd n' slots'
    cases hq.symm.trans hq'
    have hsize : d.species.groupSize = 2 := by
      cases hs : d.species <;> first | rfl | exact absurd hs hd
    have h₀ : ρ.object n = n' := hn 0 (by omega)
    have h₁ : ρ.object (n + 1) = n' + 1 := hn 1 (by omega)
    rw [hgroup, hgroup', List.map_cons, List.map_singleton, functionObject_rename hp, hslots]
    by_cases ho : d.species = .ordinary <;>
      simp [Object.plain, Object.rename, OrderedMap.map, ObjectRef.rename, Property.rename,
        Value.rename, instanceLink, constructorLink, hi q hq, ho, h₀, h₁]

end

/-- The renaming takes a function expression that is evaluated in one store to the same expression
in another one: what it adds to the one goes where it adds it to the other, and what it finds there
keeps its numbers. -/
structure Renaming.Takes (ρ : Renaming) (context : Context) (d : FunctionDefinition) (h : HeapId)
    (s s' : Store) : Prop where
  objects : ∀ k < d.species.groupSize, ρ.object (s.heapSize h + k) = s'.heapSize h + k
  scopes : ∀ k < d.scopeCount, ρ.scopeIndex (s.scopes.size + k) = s'.scopes.size + k
  slots : ρ.function s.nextFunction = s'.nextFunction
  scope : ρ.scope context.scope = context.scope
  function : ρ.object (context.realm.intrinsics.functionPrototypeFor d.species) =
    context.realm.intrinsics.functionPrototypeFor d.species
  instances : ∀ q, context.realm.intrinsics.instanceParent? d.species = some q → ρ.object q = q

namespace Renaming.Takes

variable {ρ : Renaming} {h : HeapId} {context : Context} {d : FunctionDefinition} {s s' : Store}

theorem scopeFor_eq (hρ : ρ.Takes context d h s s') :
    ρ.scope (s.scopeFor context d.bindingName) = s'.scopeFor context d.bindingName := by
  have hscopes := hρ.scopes
  unfold FunctionDefinition.scopeCount at hscopes
  unfold Store.scopeFor
  split
  · exact hρ.scope
  · next hn =>
    rw [if_neg hn] at hscopes
    exact congrArg ScopeId.mk (hscopes 0 Nat.one_pos)

theorem function_eq (hρ : ρ.Takes context d h s s') :
    ρ.object (s.heapSize h) = s'.heapSize h := by
  refine hρ.objects 0 ?_
  cases d.species <;> decide

theorem objects_map (hρ : ρ.Takes context d h s s') :
    ((Creation.next s context d).objects h (s.heapSize h)).map (Object.rename ρ h) =
      (Creation.next s' context d).objects h (s'.heapSize h) :=
  group_rename hρ.objects hρ.slots hρ.function hρ.instances

theorem slots_map (hρ : ρ.Takes context d h s s') :
    (Creation.next s context d).function.rename ρ = (Creation.next s' context d).function := by
  simp only [FunctionSlots.rename, Creation.function, Creation.next, functionSlots,
    FunctionSlots.ofContext, Option.map_none, hρ.scopeFor_eq]
  rfl

theorem closure_map (hρ : ρ.Takes context d h s s') :
    (s.nextClosure h).rename ρ h = s'.nextClosure h := by
  simp [Closure.rename, ObjectRef.rename, nextClosure, hρ.function_eq, hρ.slots]

theorem scopes_map (hρ : ρ.Takes context d h s s') :
    ((Creation.next s context d).scopes (s.heapSize h)).map (Scope.rename ρ) =
      (Creation.next s' context d).scopes (s'.heapSize h) := by
  unfold Creation.scopes Creation.next
  split
  · rfl
  · simp [Scope.rename, Scope.single, OrderedMap.map, Binding.rename, selfBinding, Value.rename,
      hρ.function_eq, hρ.scope]

end Renaming.Takes

/-- Contexts that exist, whose realms were created in the heap, refer to numbers in use. -/
theorem Renaming.Fixes.takes {ρ : Renaming} {h : HeapId} {context : Context}
    {d : FunctionDefinition} {s₀ s s' : Store} (hρ : ρ.Fixes s₀ h)
    (hr : context.realm.CreatedIn h s₀) (he : s₀.HasScope context.scope)
    (hobjects : ∀ k < d.species.groupSize, ρ.object (s.heapSize h + k) = s'.heapSize h + k)
    (hscopes : ∀ k < d.scopeCount, ρ.scopeIndex (s.scopes.size + k) = s'.scopes.size + k)
    (hslots : ρ.function s.nextFunction = s'.nextFunction) : ρ.Takes context d h s s' where
  objects := hobjects
  scopes := hscopes
  slots := hslots
  scope := hρ.scopes _ he
  function := hρ.objects _ (hr.functionPrototypeFor_lt _)
  instances q hq := hρ.objects q ((hr.instanceParent_lt hq).trans (hr.functionPrototypeFor_lt _))

/-! ### The exchange of two functions -/

/-- The renaming that exchanges two functions that are made one after the other: the objects of the
two groups, the slots of the two functions and the scopes of the two names. -/
def Renaming.exchanging (s : Store) (h : HeapId) (d₁ d₂ : FunctionDefinition) : Renaming where
  object := exchange (s.heapSize h) d₁.species.groupSize d₂.species.groupSize
  scopeIndex := exchange s.scopes.size d₁.scopeCount d₂.scopeCount
  functionIndex := exchange s.functions.size 1 1

section

variable {s : Store} {h : HeapId} {c₁ c₂ : Context}

theorem Renaming.fixes_exchanging (s : Store) (h : HeapId) (d₁ d₂ : FunctionDefinition) :
    (exchanging s h d₁ d₂).Fixes s h :=
  ⟨fun _ hid => exchange_of_lt hid, fun _ he => congrArg ScopeId.mk (exchange_of_lt he),
    fun _ hid => congrArg FunctionId.mk (exchange_of_lt hid)⟩

/-- The one function goes from where it is made first to where it is made second. -/
theorem Renaming.takes_first (hh : s.HasHeap h) (hr₁ : c₁.realm.CreatedIn h s)
    (he₁ : s.HasScope c₁.scope) (c₂ : Context) (d₁ d₂ : FunctionDefinition) :
    (exchanging s h d₁ d₂).Takes c₁ d₁ h s (s.afterFunction h c₂ d₂) := by
  refine (fixes_exchanging s h d₁ d₂).takes hr₁ he₁ (fun k hk => ?_) (fun k hk => ?_) ?_
  · rw [heapSize_afterFunction hh]
    exact exchange_first hk
  · rw [size_scopes_afterFunction]
    exact exchange_first hk
  · rw [nextFunction_afterFunction]
    exact congrArg FunctionId.mk (exchange_first Nat.one_pos)

/-- The other function goes from where it is made second to where it is made first. -/
theorem Renaming.takes_second (hh : s.HasHeap h) (hr₂ : c₂.realm.CreatedIn h s)
    (he₂ : s.HasScope c₂.scope) (c₁ : Context) (d₁ d₂ : FunctionDefinition) :
    (exchanging s h d₁ d₂).Takes c₂ d₂ h (s.afterFunction h c₁ d₁) s := by
  refine (fixes_exchanging s h d₁ d₂).takes hr₂ he₂ (fun k hk => ?_) (fun k hk => ?_) ?_
  · rw [heapSize_afterFunction hh]
    exact exchange_second hk
  · rw [size_scopes_afterFunction]
    exact exchange_second hk
  · rw [nextFunction_afterFunction]
    exact congrArg FunctionId.mk (exchange_second Nat.one_pos)

/-- What an object refers to as its slots is the same for the two orders but for the numbers. -/
theorem Store.function?_exchanging (hs : s.Reachable) (hres : s.HandlesResolve h)
    (hr₁ : c₁.realm.CreatedIn h s) (hr₂ : c₂.realm.CreatedIn h s) (he₁ : s.HasScope c₁.scope)
    (he₂ : s.HasScope c₂.scope) (d₁ d₂ : FunctionDefinition) {q : ObjectId} {id : FunctionId}
    (hid : ((s.afterFunction h c₁ d₁).afterFunction h c₂ d₂).slotsId? (.allocated h q) = some id) :
    ((s.afterFunction h c₂ d₂).afterFunction h c₁ d₁).function?
        ((Renaming.exchanging s h d₁ d₂).function id) =
      (((s.afterFunction h c₁ d₁).afterFunction h c₂ d₂).function? id).map
        (FunctionSlots.rename (.exchanging s h d₁ d₂)) := by
  have hh := hr₁.hasHeap
  have hh₁ : (s.afterFunction h c₁ d₁).HasHeap h := (appends_afterFunction s h c₁ d₁).hasHeap hh
  have hfirst := Renaming.takes_first hh hr₁ he₁ c₂ d₁ d₂
  have hsecond := Renaming.takes_second hh hr₂ he₂ c₁ d₁ d₂
  have hlater : ∀ c d, (s.afterFunction h c d).HasFunction s.nextFunction := fun c d => by
    rw [HasFunction, afterFunction, functions_withFunction, Array.size_push]
    exact Nat.lt_succ_self _
  rcases slotsId?_afterFunction_cases hh₁ hid with hid | rfl
  · rcases slotsId?_afterFunction_cases hh hid with hid | rfl
    · -- the slots were there before either function
      have hlive : s.HasFunction id := hs.scoped.slots _ id hid
      have hfixes := Renaming.fixes_exchanging s h d₁ d₂
      have hkept : ∀ c d, (s.afterFunction h c d).HasFunction id ∧
          (s.afterFunction h c d).function? id = s.function? id := fun c d =>
        ⟨(hlater c d).trans' hlive, function?_afterFunction_of_hasFunction h c d hlive⟩
      rw [hfixes.functions id hlive,
        function?_afterFunction_of_hasFunction h c₁ d₁ (hkept c₂ d₂).1,
        function?_afterFunction_of_hasFunction h c₂ d₂ (hkept c₁ d₁).1, (hkept c₁ d₁).2,
        (hkept c₂ d₂).2]
      obtain ⟨f, hf⟩ := hasFunction_iff.1 hlive
      rw [hf, Option.map_some, hfixes.function_rename hs hres hid hf]
    · -- they are those of the first function, which is the second one now
      rw [hfirst.slots, function?_afterFunction, if_pos rfl,
        function?_afterFunction_of_hasFunction h c₂ d₂ (hlater c₁ d₁), function?_afterFunction,
        if_pos rfl, Option.map_some, hfirst.slots_map]
  · rw [hsecond.slots, function?_afterFunction_of_hasFunction h c₁ d₁ (hlater c₂ d₂),
      function?_afterFunction, if_pos rfl, function?_afterFunction, if_pos rfl, Option.map_some,
      hsecond.slots_map]

/-- The stores for the two orders are the same but for the numbers. -/
theorem Store.corresponds_afterFunction (hs : s.Reachable) (hres : s.HandlesResolve h)
    (hr₁ : c₁.realm.CreatedIn h s) (hr₂ : c₂.realm.CreatedIn h s) (he₁ : s.HasScope c₁.scope)
    (he₂ : s.HasScope c₂.scope) (d₁ d₂ : FunctionDefinition) :
    Corresponds (.exchanging s h d₁ d₂) h ((s.afterFunction h c₁ d₁).afterFunction h c₂ d₂)
      ((s.afterFunction h c₂ d₂).afterFunction h c₁ d₁) := by
  have hh := hr₁.hasHeap
  have hh₁ : (s.afterFunction h c₁ d₁).HasHeap h := (appends_afterFunction s h c₁ d₁).hasHeap hh
  have hh₂ : (s.afterFunction h c₂ d₂).HasHeap h := (appends_afterFunction s h c₂ d₂).hasHeap hh
  have hfixes := Renaming.fixes_exchanging s h d₁ d₂
  have hfirst := Renaming.takes_first hh hr₁ he₁ c₂ d₁ d₂
  have hsecond := Renaming.takes_second hh hr₂ he₂ c₁ d₁ d₂
  have hc₁ : c₁.realm.Created := ⟨h, s, hr₁⟩
  have hc₂ : c₂.realm.Created := ⟨h, s, hr₂⟩
  have hp₁ := hr₁.functionPrototypeFor_lt d₁.species
  have hp₂ := hr₂.functionPrototypeFor_lt d₂.species
  have hs₁ : (s.afterFunction h c₁ d₁).Linked := linked_afterFunction hs.linked hc₁ hp₁
  have hs₂ : (s.afterFunction h c₂ d₂).Linked := linked_afterFunction hs.linked hc₂ hp₂
  have hs₁₂ : ((s.afterFunction h c₁ d₁).afterFunction h c₂ d₂).Linked :=
    linked_afterFunction hs₁ hc₂ (hp₂.trans (heapSize_lt_afterFunction hp₁))
  have hs₂₁ : ((s.afterFunction h c₂ d₂).afterFunction h c₁ d₁).Linked :=
    linked_afterFunction hs₂ hc₁ (hp₁.trans (heapSize_lt_afterFunction hp₂))
  refine .of_entries hs₁₂.toConsistent hs₂₁.toConsistent (fun id => ?_) (fun q id hid => ?_)
    (fun id => ?_) (fun i => ?_) ?_
  · have hobjects := getElem?_exchange_map (hfixes.heap_map hs hres) hfirst.objects_map
      hsecond.objects_map id
    rwa [Array.length_toList, Creation.length_objects, Creation.length_objects,
      ← heap_afterFunction hh, ← heap_afterFunction hh, ← heap_afterFunction hh₁,
      ← heap_afterFunction hh₂, Array.getElem?_toList, Array.getElem?_toList] at hobjects
  · exact function?_exchanging hs hres hr₁ hr₂ he₁ he₂ d₁ d₂ hid
  · have hsize : ∀ c c' d d', ((s.afterFunction h c d).afterFunction h c' d').functions.size =
        s.functions.size + 1 + 1 := fun c c' d d' => by
      simp only [afterFunction, functions_withFunction, Array.size_push]
    rw [HasFunction, HasFunction, hsize, hsize]
    exact exchange_lt_iff
  · have hscopes := getElem?_exchange_map (hfixes.scopes_map hs hres) hfirst.scopes_map
      hsecond.scopes_map i
    rwa [Array.length_toList, Creation.length_scopes, Creation.length_scopes,
      ← scopes_afterFunction, ← scopes_afterFunction, ← scopes_afterFunction,
      ← scopes_afterFunction, Array.getElem?_toList, Array.getElem?_toList] at hscopes
  · have hscoped₁ := scoped_afterFunction hs.linked hs.scoped he₁ hc₁ hp₁
    have hscoped₂ := scoped_afterFunction hs.linked hs.scoped he₂ hc₂ hp₂
    have h₁₂ := (sameElsewhere_afterFunction hs.scoped hh c₁ d₁).trans
      (sameElsewhere_afterFunction hscoped₁ hh₁ c₂ d₂)
    have h₂₁ := (sameElsewhere_afterFunction hs.scoped hh c₂ d₂).trans
      (sameElsewhere_afterFunction hscoped₂ hh₂ c₁ d₁)
    exact h₁₂.symm.trans h₂₁

end

namespace Closure

variable {s : Store} {h : HeapId} {c₁ c₂ : Context}

/-- **Function expressions may be evaluated in either order.** Two that are evaluated in contexts
that exist, one after the other, succeed in both orders. Up to the numbers the result is the same:
the renaming leaves alone the objects, slots and scopes there were, exchanges the two groups of new
objects, the two slots and the scopes of the two names, and takes both functions and all that there
is from the one result to the other. -/
theorem instantiations_commute (hs : s.Reachable) (hres : s.HandlesResolve h)
    (hr₁ : c₁.realm.CreatedIn h s) (hr₂ : c₂.realm.CreatedIn h s) (he₁ : s.HasScope c₁.scope)
    (he₂ : s.HasScope c₂.scope) (d₁ d₂ : FunctionDefinition) :
    let ρ := Renaming.exchanging s h d₁ d₂
    (∀ id, id < s.heapSize h → ρ.object id = id) ∧ (∀ e, s.HasScope e → ρ.scope e = e) ∧
      (∀ id, s.HasFunction id → ρ.function id = id) ∧
      (∀ k < d₁.species.groupSize, ρ.object (s.heapSize h + k) =
        s.heapSize h + d₂.species.groupSize + k) ∧
      (∀ k < d₂.species.groupSize, ρ.object (s.heapSize h + d₁.species.groupSize + k) =
        s.heapSize h + k) ∧
      ∃ f₁ f₂ s₁ s₁₂ g₁ g₂ s₂ s₂₁,
        (instantiate h c₁ d₁ s = .ok f₁ s₁ ∧ instantiate h c₂ d₂ s₁ = .ok f₂ s₁₂) ∧
        (instantiate h c₂ d₂ s = .ok g₂ s₂ ∧ instantiate h c₁ d₁ s₂ = .ok g₁ s₂₁) ∧
        s₁₂.heapSize h = s.heapSize h + d₁.species.groupSize + d₂.species.groupSize ∧
        g₁ = f₁.rename ρ h ∧ g₂ = f₂.rename ρ h ∧ Corresponds ρ h s₁₂ s₂₁ := by
  intro ρ
  have hh := hr₁.hasHeap
  have hh₁ : (s.afterFunction h c₁ d₁).HasHeap h := (appends_afterFunction s h c₁ d₁).hasHeap hh
  have hfixes : ρ.Fixes s h := Renaming.fixes_exchanging s h d₁ d₂
  have hp₁ := hr₁.functionPrototypeFor_lt d₁.species
  have hp₂ := hr₂.functionPrototypeFor_lt d₂.species
  have hc₁ : c₁.realm.Created := ⟨h, s, hr₁⟩
  have hc₂ : c₂.realm.Created := ⟨h, s, hr₂⟩
  have hfirst : instantiate h c₁ d₁ s = _ := instantiate_of_created hs.linked hc₁ hp₁
  have hthen : instantiate h c₂ d₂ (s.afterFunction h c₁ d₁) = _ :=
    instantiate_of_created (linked_afterFunction hs.linked hc₁ hp₁) hc₂
      (hp₂.trans (heapSize_lt_afterFunction hp₁))
  have hfirst' : instantiate h c₂ d₂ s = _ := instantiate_of_created hs.linked hc₂ hp₂
  have hthen' : instantiate h c₁ d₁ (s.afterFunction h c₂ d₂) = _ :=
    instantiate_of_created (linked_afterFunction hs.linked hc₂ hp₂) hc₁
      (hp₁.trans (heapSize_lt_afterFunction hp₂))
  refine ⟨hfixes.objects, hfixes.scopes, hfixes.functions, fun k hk => exchange_first hk,
    fun k hk => exchange_second hk, _, _, _, _, _, _, _, _, ⟨hfirst, hthen⟩, ⟨hfirst', hthen'⟩,
    ?_, ?_, ?_, corresponds_afterFunction hs hres hr₁ hr₂ he₁ he₂ d₁ d₂⟩
  · rw [heapSize_afterFunction hh₁, heapSize_afterFunction hh]
  · exact (Renaming.takes_first hh hr₁ he₁ c₂ d₁ d₂).closure_map.symm
  · exact (Renaming.takes_second hh hr₂ he₂ c₁ d₁ d₂).closure_map.symm

/-- An ordinary function at the top level and an asynchronous one inside the scope of the name of an
older function. The two groups are of different sizes, and both functions have names. -/
theorem instantiations_commute_nested :
    let s₀ := Store.pushHeap {}
    let outer := Context.forScript (Realm.next s₀ 0) false
    let s := (Operation.instantiate 0 outer (.ofParts 0 (some "f") [] [] .generator)).perform
      (Realm.afterNext s₀ 0)
    let inner := outer.inScope ⟨1⟩
    let d₁ := FunctionDefinition.ofParts 1 (some "g") [] [] .ordinary
    let d₂ := FunctionDefinition.ofParts 2 (some "g") [] [] .async
    let ρ := Renaming.exchanging s 0 d₁ d₂
    s.HandlesResolve 0 ∧ s.heapSize 0 = 9 ∧
      ρ.object 9 = 10 ∧ ρ.object 10 = 11 ∧ ρ.object 11 = 9 ∧
      ρ.scope ⟨2⟩ = ⟨3⟩ ∧ ρ.scope ⟨3⟩ = ⟨2⟩ ∧
      ∃ f₁ f₂ s₁ s₁₂ g₁ g₂ s₂ s₂₁,
        (instantiate 0 outer d₁ s = .ok f₁ s₁ ∧ instantiate 0 inner d₂ s₁ = .ok f₂ s₁₂) ∧
        (instantiate 0 inner d₂ s = .ok g₂ s₂ ∧ instantiate 0 outer d₁ s₂ = .ok g₁ s₂₁) ∧
        s₁₂.heapSize 0 = 12 ∧ g₁ = f₁.rename ρ 0 ∧ g₂ = f₂.rename ρ 0 ∧
        Corresponds ρ 0 s₁₂ s₂₁ := by
  intro s₀ outer s inner d₁ d₂ ρ
  have hs₀ : s₀.Reachable := Reachable.perform .refl .newHeap trivial
  have hs₁ : (Realm.afterNext s₀ 0).Reachable := Realm.reachable_afterNext hs₀ (by decide)
  have hfits : (Operation.instantiate 0 outer (.ofParts 0 (some "f") [] [] .generator)).Fits
      (Realm.afterNext s₀ 0) := by decide +kernel
  have hs : s.Reachable := hs₁.perform _ hfits
  have hr₁ : outer.realm.CreatedIn 0 s :=
    (Realm.CreatedIn.next hs₀ (by decide)).steps (.single ⟨_, hfits, rfl⟩)
  have hr₂ : inner.realm.CreatedIn 0 s := hr₁
  have he₁ : s.HasScope outer.scope := by decide +kernel
  have he₂ : s.HasScope inner.scope := by decide +kernel
  have hres : s.HandlesResolve 0 := by decide +kernel
  have hsize : s.heapSize 0 = 9 := by decide +kernel
  obtain ⟨-, -, -, -, -, f₁, f₂, s₁, s₁₂, g₁, g₂, s₂, s₂₁, hfirst, hsecond, h₁₂, hall⟩ :=
    instantiations_commute hs hres hr₁ hr₂ he₁ he₂ d₁ d₂
  rw [hsize] at h₁₂
  exact ⟨hres, hsize, by decide +kernel, by decide +kernel, by decide +kernel,
    by decide +kernel, by decide +kernel, f₁, f₂, s₁, s₁₂, g₁, g₂, s₂, s₂₁, hfirst, hsecond, h₁₂,
    hall⟩

end Closure

end FunctionObjects
