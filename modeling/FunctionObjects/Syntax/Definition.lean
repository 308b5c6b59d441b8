import FunctionObjects.Syntax.BoundNames

/-!
# Reading a function definition

What follows from the parts of a function expression alone: whether its code is strict, the name
under which it can refer to itself, how many arguments it expects, and which names its parameters
bind.
-/

namespace FunctionObjects

/-- Whether a body begins with a directive that makes it strict. The directives of a body are its
leading statements that are mere string literals, and any one of them may be "use strict". -/
def isStrictBody : List Statement → Bool
  | .expression (.literal (.string s)) :: rest => s == "use strict" || isStrictBody rest
  | _ => false

/-- Whether a pattern is a default or a rest: the first such parameter ends the count of expected
arguments. -/
def Pattern.endsCount : Pattern → Bool
  | .withDefault _ _ | .rest _ => true
  | .identifier _ | .array _ | .object _ => false

namespace FunctionDefinition

/-- A definition from the parts of a function expression. Whether it is strict is read off its
body. -/
def ofParts (site : Nat) (name : Option String) (params : List Pattern) (body : List Statement)
    (species : Species) : FunctionDefinition :=
  { site, name, params, body, species, strict := isStrictBody body, sourceText := none }

/-- The definition as it is when the code around it is strict, or not; that code can only make it
strict. -/
def inCode (d : FunctionDefinition) (strict : Bool) : FunctionDefinition :=
  { d with strict := d.strict || strict }

def withSourceText (d : FunctionDefinition) (text : String) : FunctionDefinition :=
  { d with sourceText := some text }

/-- The name under which the function refers to itself; empty if there is none. -/
def bindingName (d : FunctionDefinition) : String := d.name.getD ""

/-- The number of parameters before the first one with a default or a rest. -/
def expectedArgumentCount (d : FunctionDefinition) : Nat :=
  (d.params.takeWhile fun p => !p.endsCount).length

/-- The expected arguments are counted up to the first parameter with a default or a rest. -/
theorem expectedArgumentCount_eq_findIdx (d : FunctionDefinition) :
    d.expectedArgumentCount = d.params.findIdx Pattern.endsCount := by
  unfold expectedArgumentCount
  induction d.params with
  | nil => rfl
  | cons p params ih =>
    rw [List.takeWhile_cons, List.findIdx_cons]
    cases p.endsCount with
    | true => rfl
    | false => exact congrArg Nat.succ ih

/-- The names that the parameters bind, in order, as often as they occur. -/
def parameterNames (d : FunctionDefinition) : List String :=
  (d.params.foldl (fun names p => p.addBoundNames names) #[]).toList

end FunctionDefinition

end FunctionObjects
