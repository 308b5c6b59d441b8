import FunctionObjects.Data.Chain
import FunctionObjects.Store.Basic

/-!
# Resolution of names

A name in code means the binding in the innermost scope that binds it, counting from the scope of
the code outwards. The first scope that binds the name decides, even if its binding cannot be read
yet. Private names are resolved in the same way along the private scopes.
-/

namespace FunctionObjects.Store

def outer? (s : Store) (e : ScopeId) : Option ScopeId := (s.scope e).outer

/-- The innermost scope, from `e` outwards, that binds a name. -/
def findScope (s : Store) (e : ScopeId) (name : String) : Option ScopeId :=
  firstAlong s.outer? (fun e => if (s.scope e).binds name then some e else none) s.scopes.size e

/-- The value of a name in code whose scope is `e`. -/
def lookupName (s : Store) (e : ScopeId) (name : String) : Except Error Value :=
  match s.findScope e name with
  | some found => (s.scope found).read name
  | none => .error (.unresolvableReference name)

def outerPrivate? (s : Store) (p : PrivateScopeId) : Option PrivateScopeId :=
  (s.privateScope p).outer

/-- The private name that a description means in code whose private scope is `p`. -/
def lookupPrivate (s : Store) (p : PrivateScopeId) (description : String) : Option PrivateName :=
  firstAlong s.outerPrivate? (fun p => (s.privateScope p).find? description) s.privateScopes.size p

end FunctionObjects.Store
