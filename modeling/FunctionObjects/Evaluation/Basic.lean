import FunctionObjects.Evaluation.Agent

/-!
# Evaluation

Expressions are evaluated and statements executed in the running context of an agent. A block runs
in a scope of its own; a `return` ends the whole list of statements that it stands in, through any
number of blocks. The body of a function runs in a new scope inside the one that the function was
made in, under the realm, the private scope and the strictness of the function, so it does not
matter what was running before.

Executing a body binds the parameters to `undefined`, and no statement calls a function, so the
recursion is on the syntax.
-/

namespace FunctionObjects

/-- How a list of statements ends: after the last one, with its value, or by a `return`. -/
inductive Completion : Type where
  | normal (v : Value)
  | returned (v : Value)
deriving DecidableEq, Inhabited

def Literal.toValue : Literal → Value
  | .null => .null
  | .boolean b => .boolean b
  | .number x => .number x
  | .string s => .string (.ofString s)

/-- The scope in which the parameters of a function are bound to `undefined`, each name once. -/
def Scope.declareParameters (s : Scope) : (names : List String) → Except Error Scope
  | [] => .ok s
  | name :: names =>
    if s.binds name then s.declareParameters names
    else do
      let s ← s.declareMutable name false
      let s ← s.initializeBinding name .undefined
      s.declareParameters names

namespace Evaluation

def expression : Expression → Evaluation Value
  | .literal l => return l.toValue
  | .identifier name => do
    let c ← running
    onStore (Effect.inspect fun s => s.lookupName c.scope name)
  | .function d => do
    let c ← instantiate d
    return c.value

mutual

def statement : Statement → Evaluation Completion
  | .empty => return .normal .undefined
  | .expression e => return .normal (← expression e)
  | .return none => return .returned .undefined
  | .return (some e) => return .returned (← expression e)
  | .block body => do
    let _ ← enterBlock
    leaving (statementsAfter .undefined body)

/-- Execute the rest of a list of statements, `last` being the value of the one before. -/
def statementsAfter (last : Value) : List Statement → Evaluation Completion
  | [] => return .normal last
  | s :: rest => do
    match ← statement s with
    | .normal v => statementsAfter v rest
    | .returned v => return .returned v

end

def statements (body : List Statement) : Evaluation Completion :=
  statementsAfter .undefined body

/-- Execute the body of a function: the value of the first `return` reached, or `undefined`. -/
def body (c : Closure) : Evaluation Value := do
  let f ← slots c
  let scope ← onStore (Effect.newScope { outer := some f.scope })
  onStore (Effect.updateScope scope fun s => s.declareParameters f.definition.parameterNames)
  enter { realm := f.realm, scope, privateScope := f.privateScope, strict := f.strict }
  match ← leaving (statements f.definition.body) with
  | .normal _ => return .undefined
  | .returned v => return v

end Evaluation

end FunctionObjects
