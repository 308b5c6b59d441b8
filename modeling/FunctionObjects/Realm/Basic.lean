import FunctionObjects.Reference
import FunctionObjects.Syntax.Tree

/-!
# Realms

A realm is a world of its own for code: a set of prototype objects from which the functions made
in it inherit, and a global scope. Its prototype objects are given by their handles; the heap they
belong to is the one that the realm was created in.
-/

namespace FunctionObjects

/-- The prototype objects of a realm: of plain objects, of the functions of each species, and of
the objects that the two kinds of generator functions make. -/
structure Intrinsics : Type where
  objectPrototype : ObjectId
  functionPrototype : ObjectId
  asyncFunctionPrototype : ObjectId
  generatorFunctionPrototype : ObjectId
  generatorPrototype : ObjectId
  asyncGeneratorFunctionPrototype : ObjectId
  asyncGeneratorPrototype : ObjectId
deriving DecidableEq, Inhabited

def Intrinsics.functionPrototypeFor (i : Intrinsics) : Species → ObjectId
  | .ordinary => i.functionPrototype
  | .async => i.asyncFunctionPrototype
  | .generator => i.generatorFunctionPrototype
  | .asyncGenerator => i.asyncGeneratorFunctionPrototype

/-- A realm. Realms are numbered from 1 in the order of creation. -/
structure Realm : Type where
  id : Nat
  intrinsics : Intrinsics
  globalScope : ScopeId
deriving DecidableEq, Inhabited

end FunctionObjects
