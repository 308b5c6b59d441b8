import FunctionObjects.CommandLine.Arguments
import FunctionObjects.CommandLine.Parameter
import FunctionObjects.Settings
import FunctionObjects.Syntax.Definition

/-!
# From arguments to a definition

The arguments describe one function expression. It is checked from left to right as it would be
written: the name of the function first, then every parameter by itself, then the order of the
parameters. Which names may stand is for an alphabet to say; the command takes that of Unicode.
-/

namespace FunctionObjects.CommandLine.Arguments

/-- The parameters, if each can be read and only the last is a rest parameter. -/
def parametersIn (alphabet : Alphabet) (a : Arguments) :
    Except RequestError (List Parameter) := do
  let params ← a.params.mapM (Parameter.parseIn alphabet)
  if params.dropLast.any fun p => p.form == .rest then .error .restNotLast
  else .ok params

/-- The body: empty, or the directive that makes it strict. -/
def body (a : Arguments) : List Statement :=
  if a.strict then [.expression (.literal (.string "use strict"))] else []

/-- The function expression that is asked for. -/
def definitionIn (alphabet : Alphabet) (a : Arguments) :
    Except RequestError FunctionDefinition := do
  match a.name with
  | some name => if !alphabet.isName name then throw (.invalidFunctionName name)
  | none => pure ()
  let params ← a.parametersIn alphabet
  return .ofParts 0 a.name (params.map Parameter.toPattern) a.body (a.species.getD .ordinary)

def parameters (a : Arguments) : Except RequestError (List Parameter) := a.parametersIn .unicode

def definition (a : Arguments) : Except RequestError FunctionDefinition := a.definitionIn .unicode

def repetitions (a : Arguments) : Nat := a.count.getD 1

def settings (a : Arguments) : Settings :=
  let s := Settings.withScriptStrict {} a.scriptStrict
  a.logFilter.elim s s.withLogFilter

end FunctionObjects.CommandLine.Arguments
