import FunctionObjects.Value

/-!
# Properties and property descriptors

A property of an object is a value with three attributes. A descriptor is a request to define one,
and any part of it may be left out. What is left out is taken from the existing property, or is
`undefined` and `false` where there is none, so a stored property is always complete.

`Property.permits` says which requests an existing property allows. While a property is
configurable it allows everything. After that it may lose the attribute `writable`, and its value
may change as long as it has it.
-/

namespace FunctionObjects

structure Property : Type where
  value : Value
  writable : Bool
  enumerable : Bool
  configurable : Bool
deriving DecidableEq, Inhabited

/-- A request to define a property. -/
structure Descriptor : Type where
  value : Option Value := none
  writable : Option Bool := none
  enumerable : Option Bool := none
  configurable : Option Bool := none
deriving DecidableEq, Inhabited

/-- The request for exactly this property. -/
def Property.toDescriptor (p : Property) : Descriptor :=
  ⟨some p.value, some p.writable, some p.enumerable, some p.configurable⟩

namespace Descriptor

/-- The request for a value with the given attributes. -/
def data (value : Value) (writable enumerable configurable : Bool) : Descriptor :=
  ⟨some value, some writable, some enumerable, some configurable⟩

/-- The request for a value with all attributes, as assignment makes it. -/
def plain (value : Value) : Descriptor := data value true true true

/-- Whether the request is about a value: it gives the value, or whether it may change. -/
def isData (d : Descriptor) : Bool := d.value.isSome || d.writable.isSome

/-- The property that the request makes where there was none. -/
def completed (d : Descriptor) : Property where
  value := d.value.getD .undefined
  writable := d.writable.getD false
  enumerable := d.enumerable.getD false
  configurable := d.configurable.getD false

/-- The property that the request makes of an existing one. -/
def appliedTo (d : Descriptor) (current : Property) : Property where
  value := d.value.getD current.value
  writable := d.writable.getD current.writable
  enumerable := d.enumerable.getD current.enumerable
  configurable := d.configurable.getD current.configurable

end Descriptor

namespace Property

/-- Whether a property that is neither configurable nor writable stays as it is under a request
for a value and for `writable`. -/
def keepsValue (current : Property) (d : Descriptor) : Bool :=
  d.writable != some true && d.value.all fun v => v.same current.value

def permits (current : Property) (d : Descriptor) : Bool :=
  current.configurable ||
    (d.configurable != some true &&
      (d.enumerable.all fun e => e == current.enumerable) &&
      (current.writable || current.keepsValue d))

end Property

end FunctionObjects
