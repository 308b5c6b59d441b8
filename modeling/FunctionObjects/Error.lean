import FunctionObjects.Value

/-!
# What can go wrong

Two layers fail. Objects refuse property definitions and prototype links (`ObjectError`); scopes
and evaluation fail on their own account or pass on a refusal (`Error`). A failure names its
cause; the wording is in `message`, and the kind of error that a script would see is part of it.
-/

namespace FunctionObjects

/-- Why an object operation was refused. -/
inductive ObjectError : Type where
  /-- A redefinition that the existing, non-configurable property does not allow. -/
  | nonConfigurable (key : String)
  /-- A new property, or another prototype, for an object that is not extensible. -/
  | notExtensible (key : String)
  /-- A prototype link that would close a circle. -/
  | cyclicPrototype
  /-- A handle that names no object of the heap. -/
  | danglingObject (id : ObjectId)
deriving DecidableEq

/-- Why an operation on scopes, functions or code failed. -/
inductive Error : Type where
  /-- The scope already binds the name. -/
  | duplicateBinding (name : String)
  /-- The binding has no value yet, or cannot be given its first one. -/
  | uninitializedBinding (name : String)
  /-- No scope on the way out binds the name. -/
  | unresolvableReference (name : String)
  | immutableBinding (name : String)
  | noRunningContext
  | refused (cause : ObjectError)
deriving DecidableEq

def ObjectError.message : ObjectError → String
  | .nonConfigurable key => "Cannot redefine property: " ++ key
  | .notExtensible key => "Cannot define property " ++ key ++ ", object is not extensible"
  | .cyclicPrototype => "Cyclic __proto__ value"
  | .danglingObject id => "object #" ++ toString id ++ " is not allocated in this heap"

/-- The text of a failure, headed by the kind of error that a script would see. -/
def Error.message : Error → String
  | .duplicateBinding name =>
    "SyntaxError: Identifier '" ++ name ++ "' has already been declared"
  | .uninitializedBinding name =>
    "ReferenceError: Cannot access '" ++ name ++ "' before initialization"
  | .unresolvableReference name => "ReferenceError: " ++ name ++ " is not defined"
  | .immutableBinding name => "TypeError: Assignment to constant variable '" ++ name ++ "'"
  | .noRunningContext => "InternalError: no running execution context"
  | .refused cause => "TypeError: " ++ cause.message

end FunctionObjects
