import FunctionObjects.Realm.Basic

/-!
# What makes an object a function

Beside its properties a function object carries the definition it was made from and what was in
force when it was made: the scope its code can see, the realm, and how its code treats `this`.
These never change. Two things are added later, if at all: that it can be used as a constructor,
and the object that it is a method of.

The slots are shared by the object and by all who work with the function, so they have a place of
their own in a store.
-/

namespace FunctionObjects

/-- How the code of a function treats `this`: as it is passed, or with the global object in the
place of nothing. -/
inductive ThisMode : Type where
  | strict
  | global
deriving DecidableEq, Inhabited

def ThisMode.label : ThisMode → String
  | .strict => "Strict"
  | .global => "Global"

/-- The function part of a function object. -/
structure FunctionSlots : Type where
  definition : FunctionDefinition
  scope : ScopeId
  privateScope : Option PrivateScopeId
  thisMode : ThisMode
  realm : Realm
  isConstructor : Bool := false
  homeObject : Option ObjectId := none
deriving Inhabited

namespace FunctionSlots

/-- The species of the function is that of its definition. -/
def species (slots : FunctionSlots) : Species := slots.definition.species

/-- The code of the function is strict if its definition is. -/
def strict (slots : FunctionSlots) : Bool := slots.definition.strict

end FunctionSlots

end FunctionObjects
