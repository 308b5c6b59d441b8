/-!
# Well-known property keys

The names that the machinery of functions and iterators uses by itself. They are listed in
alphabetical order, and a key is known by its text alone.
-/

namespace FunctionObjects

/-- A property name with a meaning of its own. -/
inductive WellKnownKey : Type where
  | arguments
  | caller
  | constructor
  | default
  | done
  | eval
  | length
  | name
  | next
  | prototype
  | undefined
  | value
deriving DecidableEq, Inhabited

namespace WellKnownKey

/-- All of them, in alphabetical order. -/
def all : List WellKnownKey :=
  [.arguments, .caller, .constructor, .default, .done, .eval, .length, .name, .next, .prototype,
    .undefined, .value]

def text : WellKnownKey → String
  | .arguments => "arguments"
  | .caller => "caller"
  | .constructor => "constructor"
  | .default => "default"
  | .done => "done"
  | .eval => "eval"
  | .length => "length"
  | .name => "name"
  | .next => "next"
  | .prototype => "prototype"
  | .undefined => "undefined"
  | .value => "value"

def lookup (text : String) : Option WellKnownKey :=
  all.find? fun key => key.text == text

end WellKnownKey

end FunctionObjects
