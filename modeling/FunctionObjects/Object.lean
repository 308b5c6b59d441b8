import FunctionObjects.Data.OrderedMap
import FunctionObjects.Error
import FunctionObjects.Property
import FunctionObjects.Reference
import FunctionObjects.WellKnownKey

/-!
# Objects

An object has own properties in order of creation, perhaps a prototype, and a flag that says
whether it may still be given new properties or another prototype. A function object has slots in
addition, which it refers to. Where an object lives is not part of it, but it is told its handle
when it gets one.

Defining a property either is refused, with a reason and without any effect, or gives the object
with the property in place.
-/

namespace FunctionObjects

structure Object : Type where
  id : Option ObjectId := none
  properties : OrderedMap String Property := {}
  prototype : Option ObjectRef := none
  slots : Option FunctionId := none
  className : String := "Object"
  extensible : Bool := true
deriving Inhabited

namespace Object

def own? (o : Object) (key : String) : Option Property := o.properties.get? key

def ownValue? (o : Object) (key : String) : Option Value := (o.own? key).map Property.value

/-- The keys of the own properties, oldest first. -/
def ownKeys (o : Object) : List String := o.properties.keys

def store (o : Object) (key : String) (p : Property) : Object :=
  { o with properties := o.properties.insert key p }

/-- The object after the definition of a property. A new property needs an extensible object, and
an existing one must permit the request. -/
def define (o : Object) (key : String) (d : Descriptor) : Except ObjectError Object :=
  match o.own? key with
  | none => if o.extensible then .ok (o.store key d.completed) else .error (.notExtensible key)
  | some current =>
    if current.permits d then .ok (o.store key (d.appliedTo current))
    else .error (.nonConfigurable key)

/-- Whether a property could be defined, and the object after the attempt. -/
def tryDefine (o : Object) (key : String) (d : Descriptor) : Bool × Object :=
  match o.define key d with
  | .ok o' => (true, o')
  | .error _ => (false, o)

/-! ### What is read after a definition -/

/-- Storing a property changes what is read under its key, and nothing else. -/
theorem own?_store (o : Object) (key key' : String) (p : Property) :
    (o.store key p).own? key' = if key' = key then some p else o.own? key' :=
  OrderedMap.get?_insert o.properties key key' p

/-- A key that exists keeps its place, a new one goes to the end. -/
theorem ownKeys_store (o : Object) (key : String) (p : Property) :
    (o.store key p).ownKeys =
      if o.properties.contains key = true then o.ownKeys else o.ownKeys ++ [key] :=
  OrderedMap.keys_insert o.properties key p

/-- A definition that succeeds has made a new property of an extensible object, or has been
permitted by the property that was there. -/
theorem define_cases {o o' : Object} {key : String} {d : Descriptor}
    (h : o.define key d = .ok o') :
    (o.own? key = none ∧ o.extensible = true ∧ o' = o.store key d.completed) ∨
      ∃ p, o.own? key = some p ∧ p.permits d = true ∧ o' = o.store key (d.appliedTo p) := by
  unfold define at h
  split at h
  · next hnone =>
    split at h
    · next hx =>
      cases h
      exact .inl ⟨hnone, hx, rfl⟩
    · cases h
  · next p hp =>
    split at h
    · next hpermits =>
      cases h
      exact .inr ⟨p, hp, hpermits, rfl⟩
    · cases h

/-- A definition touches nothing but the properties. -/
theorem define_eq_store {o o' : Object} {key : String} {d : Descriptor}
    (h : o.define key d = .ok o') : ∃ p, o' = o.store key p := by
  rcases define_cases h with ⟨-, -, rfl⟩ | ⟨p, -, -, rfl⟩ <;> exact ⟨_, rfl⟩

/-- An extensible object accepts every property under a key that it does not have. -/
theorem define_of_not_mem {o : Object} {key : String} (d : Descriptor)
    (hx : o.extensible = true) (hk : key ∉ o.ownKeys) :
    o.define key d =
      .ok { o with properties := ⟨o.properties.entries ++ [(key, d.completed)]⟩ } := by
  have hown : o.own? key = none := by
    rw [← Option.not_isSome_iff_eq_none]
    exact fun h => hk (OrderedMap.mem_keys_iff.2 h)
  simp only [define, hown, hx, if_true, store]
  rw [OrderedMap.insert_of_not_mem _ _ hk]

/-! ### What a function object says about itself -/

/-- The name of a function: the own property `name`, if it is a string. -/
def functionName (o : Object) : CodeUnits :=
  ((o.ownValue? WellKnownKey.name.text).bind Value.string?).getD {}

/-- The length of a function: the own property `length`, if it is a number. -/
def functionLength (o : Object) : Double :=
  ((o.ownValue? WellKnownKey.length.text).bind Value.number?).getD Double.zero

/-- The object in the own property `prototype`, from which the objects made with a function
inherit. -/
def instancePrototype? (o : Object) : Option ObjectId :=
  (o.ownValue? WellKnownKey.prototype.text).bind Value.object?

end Object

end FunctionObjects
