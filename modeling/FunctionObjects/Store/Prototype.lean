import FunctionObjects.Data.Chain
import FunctionObjects.Store.Effect

/-!
# Prototypes

An object inherits what its prototype has, and so on along the chain of prototypes. A property is
looked up by walking that chain to the first object that has the key.

The chain always ends, because `Store.withPrototype` refuses a link that would close a circle. The
links may lead from one heap to another and to objects in no heap.
-/

namespace FunctionObjects

namespace Store

def prototype? (s : Store) (r : ObjectRef) : Option ObjectRef := (s.object? r).bind Object.prototype

/-- The handle that the prototype of an object has been told; there is none if it is in no heap. -/
def prototypeId? (s : Store) (o : Object) : Option ObjectId :=
  (o.prototype.bind s.object?).bind Object.id

/-- The first answer among an object and those it inherits from. -/
def firstInherited {β : Type} (s : Store) (f : ObjectRef → Option β) (r : ObjectRef) :
    Option β :=
  firstAlong s.prototype? f s.objectCount r

def own? (s : Store) (key : String) (r : ObjectRef) : Option Property :=
  (s.object? r).bind fun o => o.own? key

/-- The property of an object under a key, its own or an inherited one. -/
def property? (s : Store) (r : ObjectRef) (key : String) : Option Property :=
  s.firstInherited (s.own? key) r

/-- The value of a property, its own or an inherited one; `undefined` if there is none. -/
def getProperty (s : Store) (r : ObjectRef) (key : String) : Value :=
  (s.property? r key).elim .undefined Property.value

/-- Whether an object has a property, its own or an inherited one. -/
def hasProperty (s : Store) (r : ObjectRef) (key : String) : Bool := (s.property? r key).isSome

/-- Whether `p` is `o` or inherits from it. -/
def reaches (s : Store) (o p : ObjectRef) : Bool :=
  (s.firstInherited (fun r => if r = o then some () else none) p).isSome

/-- An object with another prototype, or none. It is the same object if the prototype is the same;
otherwise it must be extensible, and the new prototype must not inherit from it. -/
def withPrototype (s : Store) (o : ObjectRef) (p : Option ObjectRef) : Except ObjectError Object :=
  match s.object? o with
  | none => .error (.danglingObject o.number)
  | some object =>
    if object.prototype = p then .ok object
    else if !object.extensible then .error (.notExtensible "[[Prototype]]")
    else if p.any (s.reaches o) then .error .cyclicPrototype
    else .ok { object with prototype := p }

end Store

namespace Effect

def setPrototype (o : ObjectRef) (p : Option ObjectRef) : Effect Unit :=
  replaceObject o fun s => s.withPrototype o p

/-- Make a plain object in a heap, with a prototype from the same heap or none. The prototype is
looked for before anything is allocated. -/
def createObject (h : HeapId) (prototype : Option ObjectId) : Effect (ObjectId × ObjectRef) := do
  let p ← prototype.mapM (resolve h)
  let (id, r) ← allocate h {}
  setPrototype r p
  return (id, r)

/-- Give an object of a heap another prototype from the same heap, or none. -/
def reparent (h : HeapId) (id : ObjectId) (parent : Option ObjectId) : Effect Unit := do
  let o ← resolve h id
  let p ← parent.mapM (resolve h)
  setPrototype o p

end Effect

end FunctionObjects
