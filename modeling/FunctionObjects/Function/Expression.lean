import FunctionObjects.Context
import FunctionObjects.Function.Creation

/-!
# Function expressions

Evaluating a function expression makes a function object in the running context. The four species
share one course: a scope of its own for a named function, in which the name will mean the
function; the function object, under the prototype of its species; the name; what the species
needs for its instances; and last the function as the value of its own name.
-/

namespace FunctionObjects

/-- How a function of the definition treats `this` when its expression is evaluated in a context.
A generator is strict also where the code around it is; the other species go by themselves. -/
def thisModeFor (d : FunctionDefinition) (context : Context) : ThisMode :=
  let strict :=
    match d.species with
    | .generator => d.strict || context.strict
    | .ordinary | .async | .asyncGenerator => d.strict
  if strict then .strict else .global

/-- A function treats `this` as in strict code if its own code is strict or, for a generator only,
if the code around it is. -/
theorem thisModeFor_eq_strict_iff (d : FunctionDefinition) (context : Context) :
    thisModeFor d context = .strict ↔
      d.strict = true ∨ d.species = .generator ∧ context.strict = true := by
  unfold thisModeFor
  cases d.species <;> cases d.strict <;> cases context.strict <;> simp

namespace Closure

open Effect

/-- What the instances of a new function need. An ordinary function becomes a constructor, either
kind of generator function gets an object for its generators to inherit from, and an asynchronous
function makes no instances. -/
def finish (c : Closure) (h : HeapId) (species : Species) (intrinsics : Intrinsics) :
    Effect Unit :=
  match species with
  | .ordinary => c.makeConstructor h intrinsics.objectPrototype
  | .async => pure ()
  | .generator => do
    let (prototype, _) ← createObject h (some intrinsics.generatorPrototype)
    c.setInstancePrototype prototype
  | .asyncGenerator => do
    let (prototype, _) ← createObject h (some intrinsics.asyncGeneratorPrototype)
    c.setInstancePrototype prototype

/-- The scope that the code of a new function will see: that of the context or, for a named
function, a new one inside it in which the name is bound and has no value yet. -/
def scopeFor (context : Context) (name : String) : Effect ScopeId :=
  if name.isEmpty then pure context.scope
  else do
    let own ← newScope { outer := some context.scope }
    updateScope own fun scope => scope.declareImmutable name false
    return own

/-- Make the function of a definition, with everything but the value of its own name, and the
scope in which that name stands. -/
def assemble (h : HeapId) (context : Context) (d : FunctionDefinition) :
    Effect (ScopeId × Closure) := do
  let scope ← scopeFor context d.bindingName
  let intrinsics := context.realm.intrinsics
  let c ← create h (intrinsics.functionPrototypeFor d.species) d (thisModeFor d context) scope
    context.privateScope context.realm
  c.setName (.string (.ofString d.bindingName)) none
  c.finish h d.species intrinsics
  return (scope, c)

/-- Evaluate the expression of a definition in a context: a new function in the heap. -/
def instantiate (h : HeapId) (context : Context) (d : FunctionDefinition) : Effect Closure := do
  let (scope, c) ← assemble h context d
  if !d.bindingName.isEmpty then
    updateScope scope fun scope => scope.initializeBinding d.bindingName c.value
  return c

end Closure

end FunctionObjects
