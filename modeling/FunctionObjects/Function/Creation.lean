import FunctionObjects.Store.Prototype
import FunctionObjects.Syntax.Definition

/-!
# Creation and equipment of functions

The steps from which every kind of function expression is put together: making the function
object, giving it a name, a length, a home, and making it a constructor.

Each step is an effect of its own and fails on its own account. `makeConstructor` marks the
function, then makes the prototype object, then defines the property that leads to it.
-/

namespace FunctionObjects

/-- A function object, as one who works with it has it: the handle, the place of the object, and the
place of the slots. -/
structure Closure : Type where
  id : ObjectId
  ref : ObjectRef
  slots : FunctionId
deriving DecidableEq, Inhabited

/-- What a function can be named after. -/
inductive FunctionName : Type where
  | string (s : CodeUnits)
  | symbol (s : Symbol)
  | privateName (name : PrivateName)
deriving DecidableEq, Inhabited

/-- The units of a name: a symbol is shown by its description in brackets, if it has one, and a
private name by a number sign and its description. -/
def FunctionName.units : FunctionName → CodeUnits
  | .string s => s
  | .symbol s =>
    match s.description with
    | some description => .ofString "[" ++ description ++ .ofString "]"
    | none => {}
  | .privateName name => .ofString ("#" ++ name.description)

namespace Closure

open Effect

def value (c : Closure) : Value := .object c.id

/-- The function that a value names in a heap, if it is one. -/
def ofValue? (s : Store) (h : HeapId) (v : Value) : Option Closure := do
  let id ← v.object?
  let ref ← s.get? h id
  let o ← s.object? ref
  let slots ← o.slots
  return { id, ref, slots }

def setLength (c : Closure) (length : Nat) : Effect Unit :=
  defineProperty c.ref WellKnownKey.length.text
    (.data (.number (Double.ofNat length)) false false true)

/-- Give the function its name, after a word and a space if a word is given. -/
def setName (c : Closure) (name : FunctionName) (lead : Option String) : Effect Unit :=
  let units :=
    match lead with
    | some word => .ofString (word ++ " ") ++ name.units
    | none => name.units
  defineProperty c.ref WellKnownKey.name.text (.data (.string units) false false true)

/-- Put a function without properties into a heap. -/
def allocate (h : HeapId) (f : FunctionSlots) : Effect Closure := do
  let slots ← newFunction f
  let (id, ref) ← Effect.allocate h { className := f.species.className, slots := some slots }
  return { id, ref, slots }

/-- Make a function object of a definition. The prototype is looked for before anything is
allocated. The function gets its length at once and is left without a name. -/
def create (h : HeapId) (prototype : ObjectId) (definition : FunctionDefinition)
    (thisMode : ThisMode) (scope : ScopeId) (privateScope : Option PrivateScopeId)
    (realm : Realm) : Effect Closure := do
  let p ← resolve h prototype
  let c ← allocate h { definition, scope, privateScope, thisMode, realm }
  setPrototype c.ref (some p)
  c.setLength definition.expectedArgumentCount
  return c

/-- Let the property `prototype` of the function lead to an object. It can be assigned but not
reconfigured. -/
def setInstancePrototype (c : Closure) (prototype : ObjectId) : Effect Unit :=
  defineProperty c.ref WellKnownKey.prototype.text (.data (.object prototype) true false false)

/-- Make the function a constructor: its instances will inherit from a new object, made in the
given heap, whose `constructor` is the function. -/
def makeConstructor (c : Closure) (h : HeapId) (objectPrototype : ObjectId) : Effect Unit := do
  updateFunction c.slots fun f => { f with isConstructor := true }
  let (prototype, r) ← createObject h (some objectPrototype)
  defineProperty r WellKnownKey.constructor.text
    (.data c.value true false true)
  c.setInstancePrototype prototype

/-- Make the function a method of an object. The handle is only remembered. -/
def makeMethod (c : Closure) (home : ObjectId) : Effect Unit :=
  updateFunction c.slots fun f => { f with homeObject := some home }

end Closure

end FunctionObjects
