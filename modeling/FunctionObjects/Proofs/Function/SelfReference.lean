import FunctionObjects.Proofs.Function.Instantiation
import FunctionObjects.Proofs.Scope.Chains
import FunctionObjects.Proofs.Store.Functions

/-!
# The name of a function in its own code

A named function sees its own name, and sees it mean the function, whatever the scopes around
bind. The scope in which the name stands is new and binds nothing else, so all other names mean
inside what they mean outside, and in the scopes that there were before nothing has changed.

It stays like this. The binding is immutable, has its value and cannot be deleted, and such a
binding no change of the store takes away (`Store.Changes.binding?_of_immutable`).
-/

namespace FunctionObjects.Closure

open Store

variable {s s' : Store} {h i : HeapId} {context : Context} {d : FunctionDefinition} {c : Closure}

/-- The value that a name has in the code of a function. -/
def lookupInside (s : Store) (c : Closure) (name : String) : Option (Except Error Value) :=
  (s.function? c.slots).map fun f => s.lookupName f.scope name

/-- What the evaluation of a function expression has made if it has succeeded. -/
theorem eq_withFunction_of_ok (hs : s.Reachable) (hr : context.realm.CreatedIn i s)
    (hok : instantiate h context d s = .ok c s') :
    s.HasHeap h ∧ c = s.nextClosure h ∧
      s' = withFunction s h context d
        { value := c.value, isMutable := false, initialized := true } := by
  by_cases hp : context.realm.intrinsics.functionPrototypeFor d.species < s.heapSize h
  · have hh := hasHeap_of_lt_heapSize hp
    rw [instantiate_of_hasPrototypes hs.linked hh (.of_createdIn hr hp)] at hok
    cases hok
    exact ⟨hh, rfl, rfl⟩
  · rw [instantiate_of_le hs.linked (Nat.le_of_not_lt hp)] at hok
    cases hok

/-- A function sees the same scope ever after. -/
theorem lookupInside_of_changes {made : FunctionSlots → Prop} {flags : Prop} {f : FunctionSlots}
    (hf : s.function? c.slots = some f) (h : Changes made flags s s') (name : String) :
    lookupInside s' c name = some (s'.lookupName f.scope name) := by
  obtain ⟨g, hg, hfg⟩ := h.becomes hf
  rw [lookupInside, hg, Option.map_some, hfg.scope_eq]

/-- **The name of a function means the function in its code, and nowhere else, for good.** After the
evaluation of a named function expression its name means the function inside, every other name
means there what it means in the context, no name means anything else in any scope that there was
before; and whatever operations follow, the name still means the function inside. -/
theorem self_reference_permanent (hs : s.Reachable) (hr : context.realm.CreatedIn i s)
    (he : s.HasScope context.scope) (hn : d.bindingName ≠ "")
    (hok : instantiate h context d s = .ok c s') :
    lookupInside s' c d.bindingName = some (.ok c.value) ∧
      (∀ name, name ≠ d.bindingName →
        lookupInside s' c name = some (s'.lookupName context.scope name)) ∧
      (∀ e, s.HasScope e → ∀ name, s'.lookupName e name = s.lookupName e name) ∧
      ∀ s'', Steps s' s'' → lookupInside s'' c d.bindingName = some (.ok c.value) := by
  obtain ⟨hh, hc, hs'⟩ := eq_withFunction_of_ok hs hr hok
  let b : Binding := { value := c.value, isMutable := false, initialized := true }
  let own := s.scopeFor context d.bindingName
  have hold : ∀ e, s.HasScope e → s'.HasScope e ∧ s'.scope e = s.scope e := by
    intro e he
    rw [hs']
    exact scope_withFunction_of_hasScope d b he
  have hown : s'.HasScope own ∧ s'.scope own = .single d.bindingName b (some context.scope) := by
    rw [hs']
    exact (scope_withFunction s h context b hn).2
  obtain ⟨f, hf, hscope⟩ : ∃ f, s'.function? c.slots = some f ∧ f.scope = own := by
    rw [hs', hc]
    exact ⟨_, (function?_withFunction s h context d _ _).trans (if_pos rfl), rfl⟩
  have hchanges : Changes (FunctionSlots.MadeIn context) False s s' :=
    ((changes_instantiate d hh he).of_ok hok).1
  have hnested : s'.Nested := hs.nested.changes hchanges
  have hb : (s'.scope own).binding? d.bindingName = some b := by
    rw [hown.2]
    exact Scope.binding?_single _
  have hinside : ∀ s'', Changes (fun _ => True) True s' s'' →
      lookupInside s'' c d.bindingName = some (.ok c.value) := by
    intro s'' hlater
    have hb' := hlater.binding?_of_immutable hb rfl rfl rfl
    rw [lookupInside_of_changes hf hlater, hscope,
      (hnested.changes hlater).lookupName_of_binding? hb',
      Scope.read_of_initialized hb' rfl]
  refine ⟨hinside s' .refl, ?_, ?_, ?_⟩
  · -- the scope of the name does not bind any other name
    intro name hname
    have hname' : (s'.scope own).binding? name = none := by
      rw [hown.2]
      exact Scope.binding?_single_of_ne _ hname
    have houter : (s'.scope own).outer = some context.scope := by
      rw [hown.2]
      rfl
    rw [lookupInside, hf, Option.map_some, hscope,
      hnested.lookupName_of_outer hown.1 (hold _ he).1 houter hname']
  · intro e he name
    exact hs.nested.lookupName_congr hnested hold he name
  · intro s'' hsteps
    exact hinside s'' hsteps.changes

/-- A function whose name the global scope binds already, without a value. -/
theorem self_reference_permanent_over_global :
    let d := FunctionDefinition.ofParts 0 (some "f") [] [] .ordinary
    let s₀ := Store.pushHeap {}
    let context := Context.forScript (Realm.next s₀ 0) true
    let s := (Operation.inScope context.scope (.declareMutable "f" true)).perform
      (Realm.afterNext s₀ 0)
    ∃ c s', instantiate 0 context d s = .ok c s' ∧
      s'.lookupName context.scope "f" = .error (.uninitializedBinding "f") ∧
      lookupInside s' c "f" = some (.ok c.value) ∧
      lookupInside s' c "g" = some (s'.lookupName context.scope "g") ∧
      ∀ s'', Steps s' s'' → lookupInside s'' c "f" = some (.ok c.value) := by
  intro d s₀ context s
  have hs₀ : s₀.Reachable := Reachable.perform .refl .newHeap trivial
  have hs₁ : (Realm.afterNext s₀ 0).Reachable := Realm.reachable_afterNext hs₀ (by decide)
  have hfits : (Operation.inScope context.scope (.declareMutable "f" true)).Fits
      (Realm.afterNext s₀ 0) := by decide +kernel
  have hs : s.Reachable := hs₁.perform _ hfits
  have hr : context.realm.CreatedIn 0 s :=
    (Realm.CreatedIn.next hs₀ (by decide)).steps (.single ⟨_, hfits, rfl⟩)
  have he : s.HasScope context.scope := by decide +kernel
  have hok := instantiate_of_hasPrototypes hs.linked hr.hasHeap
    (.of_createdIn hr (hr.functionPrototypeFor_lt d.species))
  obtain ⟨hself, hothers, hold, hlater⟩ := self_reference_permanent hs hr he (by decide) hok
  refine ⟨_, _, hok, ?_, hself, hothers "g" (by decide), hlater⟩
  rw [hold context.scope he]
  decide +kernel

end FunctionObjects.Closure
