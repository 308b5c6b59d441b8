import FunctionObjects.Store.Basic

/-!
# Effects on the store

An effect reads and changes the store and either gives a result or fails. What it has changed
before it fails stays changed; so an effect that must leave no trace of a failure has to make its
checks before its changes.

The effects here are the single steps of which all others are made.
-/

namespace FunctionObjects

/-- A computation that may change the store and may fail. -/
abbrev Effect (α : Type) : Type := EStateM Error Store α

namespace Effect

variable {α : Type}

/-- A look at the store, which changes nothing. -/
def inspect (f : Store → Except Error α) : Effect α := fun s =>
  match f s with
  | .ok a => .ok a s
  | .error e => .error e s

/-- The place of the object that a handle names in a heap. -/
def resolve (h : HeapId) (id : ObjectId) : Effect ObjectRef :=
  inspect fun s => (s.resolve h id).mapError .refused

/-- Put an object into a heap. It gets the next handle, which is the number of those that there are,
and is told it. -/
def allocate (h : HeapId) (o : Object) : Effect (ObjectId × ObjectRef) := fun s =>
  let id := s.handleCount h
  .ok (id, s.nextObject h) (s.pushObject h { o with id := some id })

/-- Put another object in the place of one, or do nothing if that is refused. -/
def replaceObject (r : ObjectRef) (f : Store → Except ObjectError Object) : Effect Unit := fun s =>
  match f s with
  | .ok o => .ok () (s.setObject r o)
  | .error e => .error (.refused e) s

/-- Change one object, if it allows the change. -/
def updateObject (r : ObjectRef) (f : Object → Except ObjectError Object) : Effect Unit :=
  replaceObject r fun s =>
    match s.object? r with
    | some o => f o
    | none => .error (.danglingObject r.number)

def defineProperty (r : ObjectRef) (key : String) (d : Descriptor) : Effect Unit :=
  updateObject r fun o => o.define key d

def newFunction (slots : FunctionSlots) : Effect FunctionId := fun s =>
  .ok s.nextFunction (s.pushFunction slots)

def updateFunction (id : FunctionId) (f : FunctionSlots → FunctionSlots) : Effect Unit := fun s =>
  .ok () (s.modifyFunction id f)

def newScope (scope : Scope) : Effect ScopeId := fun s => .ok s.nextScope (s.pushScope scope)

/-- Change one scope, if it allows the change. -/
def updateScope (e : ScopeId) (f : Scope → Except Error Scope) : Effect Unit := fun s =>
  match f (s.scope e) with
  | .ok scope => .ok () (s.setScope e scope)
  | .error cause => .error cause s

end Effect

end FunctionObjects
