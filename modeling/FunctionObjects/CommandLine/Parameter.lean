import FunctionObjects.Syntax.Tree
import FunctionObjects.Text.Identifier

/-!
# Parameters on the command line

A parameter is written as its name, alone, with `=` behind it for one with a default value, or
with three dots before it for a rest parameter. `Parameter.parseIn` reads this form and
`Parameter.text` writes it.
-/

namespace FunctionObjects.CommandLine

/-- The three forms of a parameter. -/
inductive ParameterForm : Type where
  | plain
  | withDefault
  | rest
deriving DecidableEq, Inhabited

/-- A parameter: its name and its form. -/
structure Parameter : Type where
  name : String
  form : ParameterForm
deriving DecidableEq, Inhabited

/-- Why a request cannot be met. -/
inductive RequestError : Type where
  | invalidFunctionName (name : String)
  | invalidParameterName (name : String)
  | restWithDefault (name : String)
  | restNotLast
deriving DecidableEq

def RequestError.message : RequestError → String
  | .invalidFunctionName name => "invalid function name '" ++ name ++ "'"
  | .invalidParameterName name => "invalid parameter name '" ++ name ++ "'"
  | .restWithDefault name => "rest parameter '" ++ name ++ "' cannot have a default"
  | .restNotLast => "rest parameter must be last"

/-- Whether a text begins with three dots, and what follows them, or all of it. -/
def splitDots : List Char → Bool × List Char
  | '.' :: '.' :: '.' :: rest => (true, rest)
  | cs => (false, cs)

/-- Whether a text ends in `=`, and what precedes it, or all of it. -/
def splitEquals (cs : List Char) : Bool × List Char :=
  if cs.getLast? = some '=' then (true, cs.dropLast) else (false, cs)

namespace Parameter

/-- Read a parameter that is named by the alphabet. What is left without the marks must be a name,
and there is at most one mark. -/
def parseIn (a : Alphabet) (text : String) : Except RequestError Parameter :=
  let (isRest, cs) := splitDots text.toList
  let (hasDefault, cs) := splitEquals cs
  let name := String.ofList cs
  if !a.isName name then .error (.invalidParameterName name)
  else
    match isRest, hasDefault with
    | true, true => .error (.restWithDefault name)
    | true, false => .ok ⟨name, .rest⟩
    | false, true => .ok ⟨name, .withDefault⟩
    | false, false => .ok ⟨name, .plain⟩

def text (p : Parameter) : String :=
  match p.form with
  | .plain => p.name
  | .withDefault => p.name ++ "="
  | .rest => "..." ++ p.name

/-- The pattern of a parameter. A default value is `null`. -/
def toPattern (p : Parameter) : Pattern :=
  match p.form with
  | .plain => .identifier p.name
  | .withDefault => .withDefault (.identifier p.name) (.literal .null)
  | .rest => .rest (.identifier p.name)

end Parameter

end FunctionObjects.CommandLine
