import FunctionObjects.Number.Text
import FunctionObjects.Text.CodeUnits

/-!
# Values of the language

Seven kinds of value. An object value is only a handle, the number of the object in its heap: it
neither holds the object nor says which heap is meant. A symbol is told apart by its number; its
description is for display.

`Value.same` is the comparison that property definition uses. It differs from numerical equality
in two places, so that it is an equivalence: a NaN is the same as any NaN, and the two zeros are
not the same.
-/

namespace FunctionObjects

/-- The number of an object in its heap. -/
abbrev ObjectId := Nat

/-- A symbol: its identity, and a description that takes no part in comparisons. -/
structure Symbol : Type where
  id : Nat
  description : Option CodeUnits
deriving DecidableEq, Inhabited

inductive Value : Type where
  | undefined
  | null
  | boolean (b : Bool)
  | number (x : Double)
  | string (s : CodeUnits)
  | symbol (s : Symbol)
  | object (id : ObjectId)
deriving DecidableEq, Inhabited

namespace Double

/-- The comparison of numbers behind `Value.same`: two NaNs, or numerical equality with equal
signs. -/
def same (x y : Double) : Bool :=
  (x.isNaN && y.isNaN) || (x.equal y && x.isNegative == y.isNegative)

end Double

namespace Value

/-- Whether two values are the same. Values of different kinds never are; strings are compared by
their units, symbols and objects by their number. -/
def same : Value → Value → Bool
  | .undefined, .undefined => true
  | .null, .null => true
  | .boolean a, .boolean b => a == b
  | .number x, .number y => x.same y
  | .string s, .string t => s == t
  | .symbol s, .symbol t => s.id == t.id
  | .object a, .object b => a == b
  | _, _ => false

def isUndefined : Value → Bool
  | .undefined => true
  | _ => false

def object? : Value → Option ObjectId
  | .object id => some id
  | _ => none

def isObject (v : Value) : Bool := v.object?.isSome

def number? : Value → Option Double
  | .number x => some x
  | _ => none

def string? : Value → Option CodeUnits
  | .string s => some s
  | _ => none

def display : Value → String
  | .undefined => "undefined"
  | .null => "null"
  | .boolean b => if b then "true" else "false"
  | .number x => x.toText
  | .string s => s.toText
  | .symbol s => "Symbol(" ++ (s.description.elim "" CodeUnits.toText) ++ ")"
  | .object id => "[object #" ++ toString id ++ "]"

end Value

end FunctionObjects
