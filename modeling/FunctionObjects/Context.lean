import FunctionObjects.Realm.Basic

/-!
# Execution contexts

What code needs to know about where it runs: the realm, the scope in which its names are resolved,
the private scope if it stands in a class body, and whether it is strict.
-/

namespace FunctionObjects

/-- The circumstances under which code runs. -/
structure Context : Type where
  realm : Realm
  scope : ScopeId
  privateScope : Option PrivateScopeId := none
  strict : Bool
deriving DecidableEq, Inhabited

namespace Context

/-- The context of a script, which runs in the global scope of its realm. -/
def forScript (realm : Realm) (strict : Bool) : Context :=
  { realm, scope := realm.globalScope, strict }

/-- The context of code in another scope that is otherwise the same, as in a block. -/
def inScope (c : Context) (scope : ScopeId) : Context := { c with scope }

/-- The context of code in another private scope, or none, that is otherwise the same. -/
def inPrivateScope (c : Context) (privateScope : Option PrivateScopeId) : Context :=
  { c with privateScope }

end Context

end FunctionObjects
