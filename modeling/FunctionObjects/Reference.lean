import FunctionObjects.Value

/-!
# References into a store

Everything that is shared and changes lives in one store and is referred to by its place there.
An object is kept with the others that were made for its heap, or with those that were made for
none. Scopes, private scopes and functions are numbered in the order of creation.

Two references are equal exactly if they name the same place, so equality of references is
identity of what they refer to. A handle, by which a value refers to an object, is something else: a
number in a table that each heap keeps.
-/

namespace FunctionObjects

abbrev HeapId := Nat

inductive ObjectRef : Type where
  /-- The object before which `number` others were made for a heap. -/
  | allocated (heap : HeapId) (number : Nat)
  /-- An object that was made for no heap. -/
  | loose (index : Nat)
deriving DecidableEq, Inhabited

namespace ObjectRef

/-- The number of an object among those of its heap. -/
def numberInHeap? : ObjectRef → Option Nat
  | .allocated _ number => some number
  | .loose _ => none

/-- The number of the object among those of its heap, or among the loose ones. -/
def number : ObjectRef → Nat
  | .allocated _ number => number
  | .loose index => index

end ObjectRef

structure ScopeId : Type where
  index : Nat
deriving DecidableEq, Inhabited

structure PrivateScopeId : Type where
  index : Nat
deriving DecidableEq, Inhabited

structure FunctionId : Type where
  index : Nat
deriving DecidableEq, Inhabited

end FunctionObjects
