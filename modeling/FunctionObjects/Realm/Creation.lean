import FunctionObjects.Store.Prototype

/-!
# Creation of a realm

A new realm puts seven prototype objects into a heap. All inherit from the prototype of plain
objects; the prototypes of asynchronous functions, generator functions and asynchronous generator
functions inherit from the prototype of functions. The prototype of either kind of generator
function and the prototype of the generators it makes know each other, as a class and its
instances do. The global scope of the realm is new too and binds `undefined`.
-/

namespace FunctionObjects.Realm

open Effect

/-- Make a prototype object of the given class that inherits from `parent`. -/
def createPrototype (h : HeapId) (parent : ObjectId) (className : String) : Effect ObjectId := do
  let (id, r) ← createObject h (some parent)
  updateObject r fun o => .ok { o with className }
  return id

/-- Let the prototype of a kind of generator function and the prototype of its generators refer to
each other, by properties that can be reconfigured but not assigned. -/
def linkGenerators (h : HeapId) (functions instances : ObjectId) : Effect Unit := do
  let f ← resolve h functions
  let i ← resolve h instances
  defineProperty f WellKnownKey.prototype.text (.data (.object instances) false false true)
  defineProperty i WellKnownKey.constructor.text (.data (.object functions) false false true)

/-- Make a global scope, which binds `undefined` to the value of that name. -/
def createGlobalScope : Effect ScopeId := do
  let e ← newScope {}
  updateScope e fun scope => scope.declareImmutable WellKnownKey.undefined.text false
  updateScope e fun scope => scope.initializeBinding WellKnownKey.undefined.text .undefined
  return e

/-- The number for the next realm, which is used up by this. -/
def nextId : Effect Nat := fun s =>
  .ok (s.realmsIssued + 1) { s with realmsIssued := s.realmsIssued + 1 }

/-- Make a realm whose prototype objects live in the given heap. -/
def create (h : HeapId) : Effect Realm := do
  let (objectPrototype, _) ← allocate h {}
  let functionPrototype ← createPrototype h objectPrototype "Function"
  let asyncFunctionPrototype ← createPrototype h functionPrototype "AsyncFunction"
  let generatorPrototype ← createPrototype h objectPrototype "Generator"
  let generatorFunctionPrototype ← createPrototype h functionPrototype "GeneratorFunction"
  linkGenerators h generatorFunctionPrototype generatorPrototype
  let asyncGeneratorPrototype ← createPrototype h objectPrototype "AsyncGenerator"
  let asyncGeneratorFunctionPrototype ←
    createPrototype h functionPrototype "AsyncGeneratorFunction"
  linkGenerators h asyncGeneratorFunctionPrototype asyncGeneratorPrototype
  let globalScope ← createGlobalScope
  let id ← nextId
  let intrinsics : Intrinsics :=
    { objectPrototype, functionPrototype, asyncFunctionPrototype, generatorFunctionPrototype,
      generatorPrototype, asyncGeneratorFunctionPrototype, asyncGeneratorPrototype }
  return { id, intrinsics, globalScope }

end FunctionObjects.Realm
