import FunctionObjects.Syntax.Tree

/-!
# The names that a pattern binds

A pattern binds the identifiers at its leaves, from left to right, as often as they occur. Keys of
an object pattern are not leaves, a hole binds nothing, and what stands in a default value belongs
to another scope. The names are added at the end of those that are known already, so a parameter
list is gone through once.
-/

namespace FunctionObjects

mutual

/-- `names`, followed by the names that the pattern binds. -/
def Pattern.addBoundNames (names : Array String) : Pattern → Array String
  | .identifier name => names.push name
  | .array elements => addElementNames names elements
  | .object properties => addPropertyNames names properties
  | .withDefault target _ => target.addBoundNames names
  | .rest target => target.addBoundNames names

/-- `names`, followed by the names that the elements of an array pattern bind. -/
def addElementNames (names : Array String) : List (Option Pattern) → Array String
  | [] => names
  | none :: elements => addElementNames names elements
  | some element :: elements => addElementNames (element.addBoundNames names) elements

/-- `names`, followed by the names that the entries of an object pattern bind. -/
def addPropertyNames (names : Array String) : List PropertyPattern → Array String
  | [] => names
  | .keyed _ target :: properties => addPropertyNames (target.addBoundNames names) properties
  | .shorthand name :: properties => addPropertyNames (names.push name) properties
  | .rest target :: properties => addPropertyNames (target.addBoundNames names) properties

end

end FunctionObjects
