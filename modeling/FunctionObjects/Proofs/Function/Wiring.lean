import FunctionObjects.Proofs.Function.Instantiation

/-!
# What a new function consists of

`Wired` lists, field by field, what the function is that the evaluation of a function expression
makes: its object, its slots and the scope that its code sees. It is a relation between the store
before and the store after, and does not look at the course of the evaluation.
-/

namespace FunctionObjects

namespace Closure

open Effect Store

/-- The function `c` in the store `s'` is what the evaluation of the definition `d` is to make in
the heap `h` of the store `s`. Its object is `o` and its slots are `f`. -/
structure Wired (s s' : Store) (h : HeapId) (context : Context) (d : FunctionDefinition)
    (c : Closure) (o : Object) (f : FunctionSlots) : Prop where
  place : c = s.nextClosure h
  handle : s'.get? h c.id = some c.ref
  object : s'.object? c.ref = some o
  told : o.id = some c.id
  className : o.className = d.species.className
  extensible : o.extensible = true
  prototype : o.prototype =
    some (.allocated h (context.realm.intrinsics.functionPrototypeFor d.species))
  /-- The own properties, in their order. The attributes are `writable`, `enumerable` and
  `configurable`. -/
  properties : o.properties.entries =
    ("length", ⟨.number (Double.ofNat (d.params.findIdx Pattern.endsCount)), false, false, true⟩) ::
    ("name", ⟨.string (.ofString (d.name.getD "")), false, false, true⟩) ::
    if d.species = .async then []
    else [("prototype", ⟨.object (s.heapSize h + 1), true, false, false⟩)]
  /-- What instances inherit from comes next in the heap. -/
  instances : s'.prototype? (.allocated h (s.heapSize h + 1)) =
    (context.realm.intrinsics.instanceParent? d.species).map (.allocated h)
  slots : o.slots = some c.slots
  function : s'.function? c.slots = some f
  definition : f.definition = d
  species : f.species = d.species
  strict : f.strict = d.strict
  realm : f.realm = context.realm
  privateScope : f.privateScope = context.privateScope
  homeObject : f.homeObject = none
  isConstructor : f.isConstructor = true ↔ d.species = .ordinary
  thisMode : f.thisMode = .strict ↔
    d.strict = true ∨ d.species = .generator ∧ context.strict = true
  scopeOfUnnamed : d.name = none ∨ d.name = some "" → f.scope = context.scope
  /-- The scope of a named function is a new one, in which nothing is bound but the name. -/
  scopeOfNamed : ∀ name, d.name = some name → name ≠ "" →
    ¬ s.HasScope f.scope ∧ s'.HasScope f.scope ∧
      (s'.scope f.scope).outer = some context.scope ∧
      (s'.scope f.scope).bindings.entries = [(name,
        { value := c.value, isMutable := false, initialized := true, strict := false,
          deletable := false })]

variable {s : Store} {h : HeapId} {context : Context}

/-- **A new function is completely wired.** Where a realm was created in the heap, the evaluation of
any function expression in that realm succeeds, and what it makes is what the definition and the
context say. -/
theorem instantiate_wired (hs : s.Reachable) (hr : context.realm.CreatedIn h s)
    (d : FunctionDefinition) :
    ∃ c s' o f, instantiate h context d s = .ok c s' ∧ Wired s s' h context d c o f := by
  have hh := hr.hasHeap
  have hp := HasPrototypes.of_createdIn hr (hr.functionPrototypeFor_lt d.species)
  have hinstantiate := instantiate_of_hasPrototypes hs.linked hh hp
  let b : Binding :=
    { value := .object (s.heapSize h), isMutable := false, initialized := true }
  -- the new objects are the group, numbered on from the old ones
  have hread := object?_withFunction hh context d b
  have hslots := (function?_withFunction s h context d b s.nextFunction).trans (if_pos rfl)
  refine ⟨_, _, _, _, hinstantiate, ⟨rfl, ?_, (hread 0).trans (group_zero _ _), rfl, rfl, rfl, rfl,
    ?_, ?_, rfl, hslots, rfl, rfl, rfl, rfl, rfl, rfl, ?_, ?_, ?_, ?_⟩⟩
  · exact get?_withFunction hs.linked hh context d b
  · rw [← d.expectedArgumentCount_eq_findIdx]
    rfl
  · rw [prototype?, hread 1]
    exact group_one _ _
  · simp [functionSlots]
  · exact thisModeFor_eq_strict_iff d context
  · intro hn
    have hn : d.bindingName = "" := by
      rcases hn with hn | hn <;> simp [FunctionDefinition.bindingName, hn]
    simp [functionSlots, FunctionSlots.ofContext, Store.scopeFor, hn]
  · intro name hname hne
    have hbinding : d.bindingName = name := by simp [FunctionDefinition.bindingName, hname]
    obtain ⟨hnew, hthere, hscope⟩ := scope_withFunction s h context b (hbinding ▸ hne)
    refine ⟨hnew, hthere, (congrArg Scope.outer hscope).trans rfl, ?_⟩
    rw [← hbinding]
    exact congrArg (fun scope => scope.bindings.entries) hscope

/-- A generator function in a strict script, with two parameters of which one counts. -/
theorem instantiate_wired_generator :
    let d := FunctionDefinition.ofParts 0 (some "g") [.identifier "x", .rest (.identifier "xs")] []
      .generator
    let s₀ := Store.pushHeap {}
    let context := Context.forScript (Realm.next s₀ 0) true
    let s := Realm.afterNext s₀ 0
    s.Reachable ∧ context.realm.CreatedIn 0 s ∧ ∃ c s' o f,
      instantiate 0 context d s = .ok c s' ∧ Wired s s' 0 context d c o f ∧
        c = ⟨7, .allocated 0 7, ⟨0⟩⟩ ∧ f.thisMode = .strict := by
  intro d s₀ context s
  have hs₀ : s₀.Reachable := Reachable.perform .refl .newHeap trivial
  have hs : s.Reachable := Realm.reachable_afterNext hs₀ (by decide)
  have hr : context.realm.CreatedIn 0 s := Realm.CreatedIn.next hs₀ (by decide)
  obtain ⟨c, s', o, f, hinstantiate, hwired⟩ := instantiate_wired hs hr d
  exact ⟨hs, hr, c, s', o, f, hinstantiate, hwired, hwired.place,
    hwired.thisMode.2 (.inr ⟨rfl, rfl⟩)⟩

end Closure

end FunctionObjects
