import FunctionObjects.Data.OrderedMap
import FunctionObjects.Error
import FunctionObjects.Reference

/-!
# Scopes

A scope binds names to values, in order of creation, inside another scope or none. A binding is
first created, without a value, and initialized later; between the two it can be neither read nor
assigned. An immutable binding keeps its first value, and whether an assignment to it fails or
does nothing depends on the strictness of the assignment and of the binding.

Each operation gives the scope after it or the reason why it failed.
-/

namespace FunctionObjects

/-- A binding. Until it is initialized its value is not used. -/
structure Binding : Type where
  value : Value := .undefined
  isMutable : Bool
  initialized : Bool := false
  /-- An assignment to the immutable binding fails even where the assigning code is sloppy. -/
  strict : Bool := false
  deletable : Bool := false
deriving DecidableEq, Inhabited

/-- A scope. Its outer scope is fixed when it is made. -/
structure Scope : Type where
  bindings : OrderedMap String Binding := {}
  outer : Option ScopeId := none
deriving Inhabited

namespace Scope

/-- The binding of a name in this very scope. -/
def binding? (s : Scope) (name : String) : Option Binding := s.bindings.get? name

/-- Whether this very scope binds a name. -/
def binds (s : Scope) (name : String) : Bool := s.bindings.contains name

/-- Whether this very scope binds a name to a value that can be read. -/
def isInitialized (s : Scope) (name : String) : Bool :=
  (s.binding? name).any Binding.initialized

/-- The scope with a name bound anew, or bound otherwise in the same place. -/
def bind (s : Scope) (name : String) (b : Binding) : Scope :=
  { s with bindings := s.bindings.insert name b }

/-- Binding a name changes what is read under it, and nothing else. -/
theorem binding?_bind (s : Scope) (name name' : String) (b : Binding) :
    (s.bind name b).binding? name' = if name' = name then some b else s.binding? name' :=
  OrderedMap.get?_insert s.bindings name name' b

/-- Of two bindings of a name, one after the other, the second stays. -/
theorem bind_bind (s : Scope) (name : String) (b b' : Binding) :
    (s.bind name b).bind name b' = s.bind name b' := by
  rw [bind, bind, bind, OrderedMap.insert_insert]

theorem binds_eq_isSome (s : Scope) (name : String) : s.binds name = (s.binding? name).isSome := rfl

theorem binds_eq_false_iff {s : Scope} {name : String} :
    s.binds name = false ↔ s.binding? name = none := by
  rw [binds_eq_isSome, Option.isSome_eq_false_iff, Option.isNone_iff_eq_none]

def declare (s : Scope) (name : String) (b : Binding) : Except Error Scope :=
  if s.binds name then .error (.duplicateBinding name) else .ok (s.bind name b)

/-- Create a binding that can be assigned, and deleted if so wished. -/
def declareMutable (s : Scope) (name : String) (deletable : Bool) : Except Error Scope :=
  s.declare name { isMutable := true, deletable }

/-- Create a binding that keeps its first value. -/
def declareImmutable (s : Scope) (name : String) (strict : Bool) : Except Error Scope :=
  s.declare name { isMutable := false, strict }

/-- Give a binding its first value. -/
def initializeBinding (s : Scope) (name : String) (v : Value) : Except Error Scope :=
  match s.binding? name with
  | some b =>
    if b.initialized then .error (.uninitializedBinding name)
    else .ok (s.bind name { b with value := v, initialized := true })
  | none => .error (.uninitializedBinding name)

/-- Assign to a name in this very scope. Sloppy code that assigns to a name without binding
creates one, and its assignment to an immutable binding has no effect. -/
def assign (s : Scope) (name : String) (v : Value) (strict : Bool) : Except Error Scope :=
  match s.binding? name with
  | none =>
    if strict then .error (.unresolvableReference name)
    else do
      let s ← s.declareMutable name true
      s.initializeBinding name v
  | some b =>
    if !b.initialized then .error (.uninitializedBinding name)
    else if b.isMutable then .ok (s.bind name { b with value := v })
    else if strict || b.strict then .error (.immutableBinding name)
    else .ok s

/-- The value of a name in this very scope. Strictness makes no difference to reading. -/
def read (s : Scope) (name : String) : Except Error Value :=
  match s.binding? name with
  | some b => if b.initialized then .ok b.value else .error (.uninitializedBinding name)
  | none => .error (.unresolvableReference name)

/-- Delete a name from this very scope: whether it is unbound afterwards, and the scope. -/
def delete (s : Scope) (name : String) : Bool × Scope :=
  match s.binding? name with
  | some b =>
    if b.deletable then (true, { s with bindings := s.bindings.erase name }) else (false, s)
  | none => (true, s)

end Scope

end FunctionObjects
