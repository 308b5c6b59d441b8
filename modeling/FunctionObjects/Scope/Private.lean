import FunctionObjects.Reference

/-!
# Private scopes

A class body declares private names in a private scope. Two bodies may use the same description,
and then they mean different names; what tells names apart is their number, which is given out
once. A private scope lies inside another one or none.
-/

namespace FunctionObjects

/-- A private name: the number that identifies it and the description it was declared with. -/
structure PrivateName : Type where
  id : Nat
  description : String
deriving DecidableEq, Inhabited

/-- The names declared by one class body, in the order of declaration. -/
structure PrivateScope : Type where
  names : List PrivateName := []
  outer : Option PrivateScopeId := none
deriving DecidableEq, Inhabited

namespace PrivateScope

/-- The name declared in this very scope with the description. -/
def find? (s : PrivateScope) (description : String) : Option PrivateName :=
  s.names.find? fun name => name.description == description

def add (s : PrivateScope) (name : PrivateName) : PrivateScope :=
  { s with names := s.names ++ [name] }

end PrivateScope

end FunctionObjects
