import FunctionObjects.Number.Double

/-!
# Syntax of function expressions

The part of the syntax that matters for creating functions: what a function expression is made
of, the patterns that its parameters are, and the few statements whose execution can create
further functions. The five types refer to one another, because a body may hold function
expressions and a default value may be one.

A definition belongs to one place in the source text, its `site`. Every evaluation of that place
makes a new function of the same definition, so the site tells definitions apart where their
contents do not.
-/

namespace FunctionObjects

/-- The four species of function expressions, by the markers `async` and `*`. -/
inductive Species : Type where
  | ordinary
  | async
  | generator
  | asyncGenerator
deriving DecidableEq, Inhabited

/-- Literal values. Text in source code is always well-formed. -/
inductive Literal : Type where
  | null
  | boolean (b : Bool)
  | number (x : Double)
  | string (s : String)
deriving DecidableEq, Inhabited

mutual

inductive Pattern : Type where
  | identifier (name : String)
  /-- An array pattern; a hole skips an element. -/
  | array (elements : List (Option Pattern))
  | object (properties : List PropertyPattern)
  | withDefault (target : Pattern) (initializer : Expression)
  | rest (target : Pattern)

/-- One entry of an object pattern. -/
inductive PropertyPattern : Type where
  | keyed (key : String) (target : Pattern)
  | shorthand (name : String)
  | rest (target : Pattern)

inductive Expression : Type where
  | literal (value : Literal)
  | identifier (name : String)
  | function (definition : FunctionDefinition)

inductive Statement : Type where
  | empty
  | expression (value : Expression)
  | «return» (value : Option Expression)
  | block (body : List Statement)

/-- A function expression: everything about a function that does not depend on when and where the
expression is evaluated. -/
structure FunctionDefinition : Type where
  site : Nat
  name : Option String
  params : List Pattern
  body : List Statement
  species : Species
  strict : Bool
  sourceText : Option String

end

instance : Inhabited FunctionDefinition := ⟨⟨0, none, [], [], .ordinary, false, none⟩⟩

namespace Species

def ofMarkers : (isAsync isGenerator : Bool) → Species
  | false, false => .ordinary
  | true, false => .async
  | false, true => .generator
  | true, true => .asyncGenerator

def isAsync : Species → Bool
  | .async | .asyncGenerator => true
  | .ordinary | .generator => false

def isGenerator : Species → Bool
  | .generator | .asyncGenerator => true
  | .ordinary | .async => false

/-- The class of the function objects of this species. -/
def className : Species → String
  | .ordinary => "Function"
  | .async => "AsyncFunction"
  | .generator => "GeneratorFunction"
  | .asyncGenerator => "AsyncGeneratorFunction"

/-- The name of the species in listings and summaries. -/
def label : Species → String
  | .ordinary => "Ordinary"
  | .async => "Async"
  | .generator => "Generator"
  | .asyncGenerator => "AsyncGenerator"

end Species

end FunctionObjects
